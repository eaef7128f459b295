import Skimasque.Cli.RequestHead
import Skimasque.Cli.PlainUrl
import Skimasque.Cli.OtherParser

/-! A rewritten plain request, as another parser reads it: one exchange with the host that the gateway authorised. -/

set_option autoImplicit false

namespace Skimasque.Cli
open Library Library.Lines Skimasque.Core

def isNamed (name : Line) (field : Field) : Bool := field.name == name

/-- What the `Connection` headers of a request name. -/
def connectionOptions (fields : List Field) : List Line :=
  fields.flatMap fun field =>
    if isNamed "connection".toList field then (field.value.splitOn ',').map fun token => toAsciiLowercase (trimBlank token)
    else []

/-- Headers that are for the origin server. -/
def isEndToEnd (fields : List Field) (field : Field) : Bool :=
  !hopByHop.contains field.name && !(connectionOptions fields).contains field.name

def isOwn (field : Field) : Bool := isNamed "host".toList field || isNamed "connection".toList field

/-- A request asks that target for what the client asked the proxy for, and for no more. -/
structure Carries (client request : Request) (target : Target) : Prop where
  origin_form : request.target = pathAndQuery client.target
  host : ∃ authority, plainHttpAuthority client.target = some authority ∧ Names authority target ∧
    request.fields.filter (isNamed "host".toList) = [(hostLine authority, [])]
  connection : request.fields.filter (isNamed "connection".toList) = [(closeLine, [])]
  others : request.fields.filter (!isOwn ·) = client.fields.filter (isEndToEnd client.fields)

/-- What is sent down the tunnel is one request head, nothing is behind it, and it carries the client's request. -/
def OneExchange (head rewritten : List UInt8) (target : Target) : Prop :=
  ∃ client behind request, receiveHead head = some (client, behind) ∧ receiveHead rewritten = some (request, [[]]) ∧
    Carries client request target

/-! ## The heads for which it is one -/

/-- The lines that line feeds make of the version. -/
def behindRequestLine (text : Line) : List Line := (splitLf ((splitCrlf text).headD [])).tail

/-- Leaving out whole lines that end in CRLF, by their names, leaves out of the client's headers those that it should. -/
def KeptAlike (text : Line) (fields : List Field) : Prop :=
  ∃ front back, receiveFields (behindRequestLine text) = some front ∧
    receiveFields ((keptHeaders text).flatMap splitLf) = some back ∧ front ++ back = fields.filter (isEndToEnd fields)

/-- The client's head is one for the other parser too, its URL has no fragment and a host and port of the usual form, and
what the rewriting keeps of the headers is what it should. -/
def SeenAlike (head : List UInt8) : Prop :=
  ∃ text client behind, Encoding.fromUtf8 head = some (String.ofList text) ∧ receive (splitLf text) = some (client, behind) ∧
    '#' ∉ client.target ∧
    (∃ authority, plainHttpAuthority client.target = some authority ∧ (readAuthority authority).isSome) ∧
    KeptAlike text client.fields

section
variable {text method url version authority : Line}

/-! ## The headers -/

theorem isNamed_iff {name : Line} {field : Field} : isNamed name field = true ↔ field.name = name := beq_iff_eq

theorem filter_isNamed_eq_nil_iff {fields : List Field} {name : Line} :
    fields.filter (isNamed name) = [] ↔ ∀ field ∈ fields, field.name ≠ name := by
  rw [List.filter_eq_nil_iff]
  simp only [isNamed_iff, ne_eq]

/-- The headers around a header of some name, which is the only one and as it should be. -/
theorem filter_isNamed_eq_singleton_iff {front back : List Field} {field own : Field} {name : Line}
    (named : field.name = name) :
    (front ++ field :: back).filter (isNamed name) = [own] ↔
      front.filter (isNamed name) = [] ∧ field = own ∧ back.filter (isNamed name) = [] := by
  rw [List.filter_append, List.filter_cons_of_pos (isNamed_iff.mpr named), List.append_eq_singleton_iff]
  simp

theorem isOwn_eq_false_iff {field : Field} :
    isOwn field = false ↔ field.name ≠ "host".toList ∧ field.name ≠ "connection".toList := by
  rw [isOwn, Bool.or_eq_false_iff, isNamed, isNamed, beq_eq_false_iff_ne, beq_eq_false_iff_ne]

theorem isOwn_of_isEndToEnd {fields : List Field} {field : Field} (passes : isEndToEnd fields field = true) :
    isOwn field = false := by
  rw [isEndToEnd, Bool.and_eq_true, Bool.not_eq_true', Bool.not_eq_true'] at passes
  rw [isOwn_eq_false_iff]
  constructor
  · intro same
    rw [same] at passes
    exact absurd passes.1 (by decide)
  · intro same
    rw [same] at passes
    exact absurd passes.1 (by decide)

theorem name_hostLine (more : List Line) : Field.name (hostLine authority, more) = "host".toList := rfl

theorem name_closeLine : Field.name (closeLine, []) = "connection".toList := by decide

/-- The headers of a rewritten request: a line that continues no header of `middle` continues the added `Host`. -/
theorem gather_rewritten (front middle : List Line) :
    gather continuesField (front ++ hostLine authority :: (middle ++ [closeLine])) =
      ((gather continuesField front).1, (gather continuesField front).2 ++
        (hostLine authority, (gather continuesField middle).1) :: ((gather continuesField middle).2 ++ [(closeLine, [])])) := by
  have close : gather continuesField [closeLine] = ([], [(closeLine, [])]) := by decide
  have tail : gather continuesField (middle ++ [closeLine]) =
      ((gather continuesField middle).1, (gather continuesField middle).2 ++ [(closeLine, [])]) := by
    rw [gather_append (by rw [close]), close]
  have added := @gather_cons_of_start Line continuesField (hostLine authority) (middle ++ [closeLine]) rfl
  rw [gather_append (by rw [added]), added, tail]

/-- The added headers are the only ones of their names exactly when the others are neither and continue neither. -/
theorem receiveFields_rewritten_iff {front middle : List Line} {wanted : List Field}
    (others : ∀ field ∈ wanted, isOwn field = false) :
    (∃ fields, receiveFields (front ++ hostLine authority :: (middle ++ [closeLine])) = some fields ∧
        fields.filter (isNamed "host".toList) = [(hostLine authority, [])] ∧
        fields.filter (isNamed "connection".toList) = [(closeLine, [])] ∧ fields.filter (!isOwn ·) = wanted) ↔
      ∃ first second, receiveFields front = some first ∧ receiveFields middle = some second ∧ first ++ second = wanted := by
  have whole := @gather_rewritten authority front middle
  simp only [receiveFields_eq_some_iff, whole]
  generalize gather continuesField front = gatheredFront
  generalize gather continuesField middle = gatheredMiddle
  obtain ⟨frontOrphans, first⟩ := gatheredFront
  obtain ⟨middleOrphans, second⟩ := gatheredMiddle
  have hostOwn (more : List Line) : isOwn (hostLine authority, more) = true := by
    rw [isOwn, isNamed_iff.mpr (name_hostLine more), Bool.true_or]
  have closeOwn : isOwn (closeLine, []) = true := by
    rw [isOwn, isNamed_iff.mpr name_closeLine, Bool.or_true]
  have rest : (first ++ (hostLine authority, middleOrphans) :: (second ++ [(closeLine, [])])).filter (!isOwn ·) =
      (first ++ second).filter (!isOwn ·) := by
    rw [List.filter_append, List.filter_cons_of_neg (by rw [hostOwn]; decide), List.filter_append, List.filter_append,
      List.filter_cons_of_neg (by rw [closeOwn]; decide), List.filter_nil, List.append_nil]
  have regroup : first ++ (hostLine authority, middleOrphans) :: (second ++ [(closeLine, [])]) =
      (first ++ (hostLine authority, middleOrphans) :: second) ++ (closeLine, []) :: [] := by
    rw [List.append_assoc, List.cons_append]
  constructor
  -- One header of either name is left, the added one, so that none is among the others and no line continues it.
  · rintro ⟨fields, ⟨gathered, named⟩, host, close, kept⟩
    obtain ⟨rfl, rfl⟩ := Prod.mk.inj gathered
    rw [rest] at kept
    obtain ⟨hostFirst, same, hostSecond⟩ := (filter_isNamed_eq_singleton_iff (name_hostLine _)).mp host
    obtain rfl := (Prod.mk.inj same).2
    rw [regroup] at close
    have closeRest := ((filter_isNamed_eq_singleton_iff name_closeLine).mp close).1
    rw [filter_isNamed_eq_nil_iff] at hostFirst hostSecond closeRest
    have plain : ∀ field ∈ first ++ second, isOwn field = false := by
      intro field member
      rw [isOwn_eq_false_iff]
      rcases List.mem_append.mp member with inFirst | inSecond
      · exact ⟨hostFirst _ inFirst, closeRest _ (List.mem_append_left _ inFirst)⟩
      · exact ⟨hostSecond _ (List.mem_append_left _ inSecond),
          closeRest _ (List.mem_append_right _ (List.mem_cons_of_mem _ inSecond))⟩
    have all : (first ++ second).filter (!isOwn ·) = first ++ second :=
      List.filter_eq_self.mpr fun field member => by rw [plain field member]; rfl
    refine ⟨first, second, ⟨rfl, fun field member => ?_⟩, ⟨rfl, fun field member => ?_⟩, all.symm.trans kept⟩
    · exact named field (List.mem_append_left _ member)
    · exact named field (List.mem_append_right _ (List.mem_cons_of_mem _ (List.mem_append_left _ member)))
  · rintro ⟨first', second', ⟨gatheredFront, namedFirst⟩, ⟨gatheredMiddle, namedSecond⟩, rfl⟩
    cases gatheredFront
    cases gatheredMiddle
    have plain (field : Field) (member : field ∈ first ++ second) := isOwn_eq_false_iff.mp (others field member)
    have hostFirst : first.filter (isNamed "host".toList) = [] :=
      filter_isNamed_eq_nil_iff.mpr fun field member => (plain field (List.mem_append_left _ member)).1
    have closeFirst : first.filter (isNamed "connection".toList) = [] :=
      filter_isNamed_eq_nil_iff.mpr fun field member => (plain field (List.mem_append_left _ member)).2
    have hostSecond : second.filter (isNamed "host".toList) = [] :=
      filter_isNamed_eq_nil_iff.mpr fun field member => (plain field (List.mem_append_right _ member)).1
    have closeSecond : second.filter (isNamed "connection".toList) = [] :=
      filter_isNamed_eq_nil_iff.mpr fun field member => (plain field (List.mem_append_right _ member)).2
    refine ⟨_, ⟨rfl, fun field member => ?_⟩, ?_, ?_, ?_⟩
    · rcases List.mem_append.mp member with inFirst | later
      · exact namedFirst field inFirst
      rcases List.mem_cons.mp later with rfl | later
      · exact List.mem_append_left _ (by decide)
      rcases List.mem_append.mp later with inSecond | last
      · exact namedSecond field inSecond
      · rw [List.mem_singleton.mp last]
        decide
    · rw [filter_isNamed_eq_singleton_iff (name_hostLine _)]
      refine ⟨hostFirst, rfl, ?_⟩
      rw [List.filter_append, hostSecond]
      decide
    · rw [regroup, filter_isNamed_eq_singleton_iff name_closeLine]
      refine ⟨?_, rfl, rfl⟩
      rw [List.filter_append, closeFirst, List.filter_cons_of_neg, closeSecond, List.nil_append]
      rw [isNamed_iff, name_hostLine]
      decide
    · rw [rest]
      exact List.filter_eq_self.mpr fun field member => by rw [others field member]; rfl

/-! ## The request line -/

/-- A line feed in the method or the target ends the first line too early. -/
theorem clear_of_three_parts {target version first : Line} {more : List Line} {parts : Line × Line × Line}
    (methodClear : ' ' ∉ method) (targetClear : ' ' ∉ target)
    (split : splitLf (method ++ ' ' :: (target ++ ' ' :: version)) = first :: more)
    (three : first.splitOn ' ' = [parts.1, parts.2.1, parts.2.2]) : '\n' ∉ method ∧ '\n' ∉ target := by
  obtain ⟨start, clear⟩ := splitLf_first split
  obtain ⟨whole, -⟩ := Text.splitOn_eq_three_iff.mp three
  have regroup : method ++ ' ' :: (target ++ ' ' :: version) = (method ++ ' ' :: target) ++ ' ' :: version := by
    rw [List.append_assoc, List.cons_append]
  rw [regroup] at start
  -- A line that ends before the second space has one space at most.
  have longer : method ++ ' ' :: target <+: first := by
    rcases List.prefix_or_prefix_of_prefix start (List.prefix_append _ _) with shorter | longer
    · have few := shorter.sublist.count_le ' '
      rw [whole] at few
      simp only [List.count_append, List.count_cons_self, List.count_eq_zero_of_not_mem methodClear,
        List.count_eq_zero_of_not_mem targetClear] at few
      omega
    · exact longer
  have absent : '\n' ∉ method ++ ' ' :: target := fun member => clear (longer.subset member)
  rw [List.mem_append, not_or, List.mem_cons, not_or] at absent
  exact ⟨absent.1, absent.2.2⟩

theorem splitLf_requestLine {target version last : Line} {more : List Line} (methodClear : '\n' ∉ method)
    (targetClear : '\n' ∉ target) (split : splitLf version = last :: more) :
    splitLf (method ++ ' ' :: (target ++ ' ' :: version)) = (method ++ ' ' :: (target ++ ' ' :: last)) :: more :=
  splitLf_clear methodClear (by decide) (splitLf_clear targetClear (by decide) split)

theorem splitOn_requestLine {target version last : Line} {more : List Line} (methodClear : ' ' ∉ method)
    (targetClear : ' ' ∉ target) (versionClear : ' ' ∉ version) (split : splitLf version = last :: more) :
    (method ++ ' ' :: (target ++ ' ' :: last)).splitOn ' ' = [method, target, last] :=
  Text.splitOn_eq_three_iff.mpr ⟨rfl, methodClear, targetClear, fun member =>
    versionClear ((splitLf_first split).1.subset member)⟩

/-- A head that the other parser reads has a request line that ends where the method, target and version do. -/
theorem client_of_receive {last : Line} {more behind : List Line} {client : Request}
    (parts : requestParts text = some (method, url, version)) (split : splitLf version = last :: more)
    (received : receive (splitLf text) = some (client, behind)) :
    '\n' ∉ method ∧ '\n' ∉ url ∧ client.target = url ∧ behindRequestLine text = more := by
  obtain ⟨line, methodClear, urlClear, versionClear⟩ := requestParts_eq_some_iff.mp parts
  obtain ⟨first, front, whole, three, -⟩ := receive_eq_some_iff.mp received
  -- The line that the other parser reads first is the first of those in the request line.
  have startsLine : ∃ rest, splitLf (method ++ ' ' :: (url ++ ' ' :: version)) = first :: rest := by
    cases pieces : splitCrlf text with
    | nil => exact absurd pieces splitCrlf_ne_nil
    | cons piece others =>
      rw [pieces] at line
      rw [splitLf_eq_flatMap, pieces, List.flatMap_cons, show piece = _ from line] at whole
      cases lines : splitLf (method ++ ' ' :: (url ++ ' ' :: version)) with
      | nil => exact absurd lines splitLf_ne_nil
      | cons start rest =>
        rw [lines, List.cons_append] at whole
        rw [(List.cons.inj whole).1]
        exact ⟨rest, rfl⟩
  obtain ⟨rest, lines⟩ := startsLine
  obtain ⟨methodLine, urlLine⟩ := @clear_of_three_parts _ _ _ _ _ (client.method, client.target, client.version)
    methodClear urlClear lines three
  have divided := splitLf_requestLine methodLine urlLine split
  obtain ⟨rfl, rfl⟩ := List.cons.inj (lines.symm.trans divided)
  rw [splitOn_requestLine methodClear urlClear versionClear split] at three
  refine ⟨methodLine, urlLine, ?_, ?_⟩
  · exact (List.cons.inj (List.cons.inj three).2).1.symm
  · rw [behindRequestLine, line, lines]
    rfl

/-- What the other parser reads of a rewritten head. -/
theorem receive_rewrittenText_iff {path last : Line} {more headers : List Line} {request : Request}
    (lineSplit : splitLf (method ++ ' ' :: (path ++ ' ' :: version)) = (method ++ ' ' :: (path ++ ' ' :: last)) :: more)
    (three : (method ++ ' ' :: (path ++ ' ' :: last)).splitOn ' ' = [method, path, last]) (clear : '\n' ∉ authority) :
    receive (splitLf (rewrittenText (method ++ ' ' :: (path ++ ' ' :: version)) authority headers)) = some (request, [[]]) ↔
      [method, path, last] = [request.method, request.target, request.version] ∧
        receiveFields (more ++ hostLine authority :: (headers.flatMap splitLf ++ [closeLine])) = some request.fields := by
  rw [receive_eq_some_iff, splitLf_rewrittenText clear, lineSplit]
  constructor
  · rintro ⟨first, front, whole, parts, received⟩
    rw [List.cons_append, List.cons_append] at whole
    obtain ⟨rfl, rest⟩ := List.cons.inj whole
    rw [← List.append_cancel_right rest] at received
    exact ⟨three.symm.trans parts, received⟩
  · rintro ⟨parts, received⟩
    exact ⟨_, _, rfl, three.trans parts, received⟩

/-- What the other parser reads of a rewritten head, if it reads the client's. -/
theorem receive_rewritten_iff {head rewritten : List UInt8} {target : Target} {client request : Request} {last : Line}
    {more behind : List Line} (rewrites : Rewrites head rewritten target text method url version authority)
    (split : splitLf version = last :: more) (clientRead : receive (splitLf text) = some (client, behind)) :
    receiveHead rewritten = some (request, [[]]) ↔
      [method, originPath url, last] = [request.method, request.target, request.version] ∧
        receiveFields (more ++ hostLine authority :: ((keptHeaders text).flatMap splitLf ++ [closeLine])) =
          some request.fields := by
  have parts := rewrites.parts
  obtain ⟨-, methodClear, urlClear, versionClear⟩ := requestParts_eq_some_iff.mp parts
  obtain ⟨methodLine, urlLine, -, -⟩ := client_of_receive parts split clientRead
  have pathClear : ' ' ∉ originPath url := by
    intro member
    rcases mem_originPath member with slash | inUrl
    · exact absurd slash (by decide)
    · exact urlClear inUrl
  have pathLine : '\n' ∉ originPath url := by
    intro member
    rcases mem_originPath member with slash | inUrl
    · exact absurd slash (by decide)
    · exact urlLine inUrl
  -- What is written of the URL has no line feed, as the URL has none.
  have authorityLine : '\n' ∉ authority := fun member => urlLine ((plainHttpAuthority_within rewrites.host).subset member)
  rw [rewrites.written, receiveHead, Encoding.fromUtf8_eq_some_iff.mpr rfl, Option.bind_some, String.toList_ofList]
  exact receive_rewrittenText_iff (splitLf_requestLine methodLine pathLine split)
    (splitOn_requestLine methodClear pathClear versionClear split) authorityLine

theorem seenAlike_of_oneExchange {head rewritten : List UInt8} {target : Target}
    (rewrites : Rewrites head rewritten target text method url version authority)
    (exchange : OneExchange head rewritten target) : SeenAlike head := by
  obtain ⟨client, behind, request, clientRead, requestRead, origin, ⟨named, found, names, hosts⟩, connection, others⟩ := exchange
  obtain ⟨decoded, parts, host, -, parsed, -⟩ := id rewrites
  rw [receiveHead, decoded, Option.bind_some, String.toList_ofList] at clientRead
  cases split : splitLf version with
  | nil => exact absurd split splitLf_ne_nil
  | cons last more =>
    obtain ⟨-, -, sameUrl, sameMore⟩ := client_of_receive parts split clientRead
    obtain ⟨sameParts, fieldsRead⟩ := (receive_rewritten_iff rewrites split clientRead).mp requestRead
    have path : originPath url = request.target := (List.cons.inj (List.cons.inj sameParts).2).1
    rw [sameUrl, host] at found
    cases found
    rw [sameUrl, ← path, originPath_eq_iff host] at origin
    have kept := (receiveFields_rewritten_iff fun field member => isOwn_of_isEndToEnd (List.mem_filter.mp member).2).mp
      ⟨_, fieldsRead, hosts, connection, others⟩
    refine ⟨text, client, behind, decoded, clientRead, by rwa [sameUrl],
      ⟨authority, by rw [sameUrl, host], (names_iff parsed).mp names⟩, ?_⟩
    rw [KeptAlike, sameMore]
    exact kept

theorem oneExchange_of_seenAlike {head rewritten : List UInt8} {target : Target}
    (rewrites : Rewrites head rewritten target text method url version authority) (seen : SeenAlike head) :
    OneExchange head rewritten target := by
  obtain ⟨whole, client, behind, same, clientRead, noFragment, ⟨found, sameHost, readable⟩, kept⟩ := seen
  obtain ⟨decoded, parts, host, -, parsed, -⟩ := id rewrites
  obtain rfl := String.ofList_injective (Option.some.inj (decoded.symm.trans same))
  cases split : splitLf version with
  | nil => exact absurd split splitLf_ne_nil
  | cons last more =>
    obtain ⟨-, -, sameUrl, sameMore⟩ := client_of_receive parts split clientRead
    rw [sameUrl, host] at sameHost
    cases sameHost
    rw [sameUrl] at noFragment
    rw [KeptAlike, sameMore] at kept
    obtain ⟨fields, fieldsRead, hosts, connection, others⟩ :=
      (receiveFields_rewritten_iff fun field member => isOwn_of_isEndToEnd (List.mem_filter.mp member).2).mpr kept
    refine ⟨client, behind, ⟨method, originPath url, last, fields⟩, ?_,
      (receive_rewritten_iff rewrites split clientRead).mpr ⟨rfl, fieldsRead⟩, ?_⟩
    · rw [receiveHead, decoded, Option.bind_some, String.toList_ofList]
      exact clientRead
    · constructor
      · rw [sameUrl]
        exact (originPath_eq_iff host).mpr noFragment
      · exact ⟨authority, by rw [sameUrl, host], (names_iff parsed).mpr readable, hosts⟩
      · exact connection
      · exact others

/-! ## Ordinary heads -/

/-- A head that leaves nothing to read in two ways: no bare line feed, no line that continues another, and no white space
around names but spaces and tabs. -/
structure Ordinary (text : Line) : Prop where
  request_line : '\n' ∉ (splitCrlf text).headD []
  starts : ∀ header ∈ headerLines text, continuesField header = false
  blanks : ∀ header ∈ headerLines text, ∀ c ∈ header, Text.isWhitespace c = true → isBlank c = true
  ended : [] ∈ (splitCrlf text).tail

theorem isWhitespace_of_isBlank {c : Char} (blank : isBlank c = true) : Text.isWhitespace c = true := by
  rw [isBlank, Bool.or_eq_true, decide_eq_true_iff, decide_eq_true_iff] at blank
  rcases blank with rfl | rfl
  · decide
  · decide

theorem dropWhile_isWhitespace {chars : Line} (blanks : ∀ c ∈ chars, Text.isWhitespace c = true → isBlank c = true) :
    chars.dropWhile Text.isWhitespace = chars.dropWhile isBlank := by
  induction chars with
  | nil => rfl
  | cons c rest ih =>
    rw [List.forall_mem_cons] at blanks
    have same : Text.isWhitespace c = isBlank c := Bool.eq_iff_iff.mpr ⟨blanks.1, isWhitespace_of_isBlank⟩
    rw [List.dropWhile_cons, List.dropWhile_cons, same, ih blanks.2]

theorem trim_eq_trimBlank {chars : Line} (blanks : ∀ c ∈ chars, Text.isWhitespace c = true → isBlank c = true) :
    trim chars = trimBlank chars := by
  unfold trim trimBlank List.rdropWhile
  rw [dropWhile_isWhitespace blanks, dropWhile_isWhitespace]
  intro c member
  exact blanks c ((List.dropWhile_suffix _).subset (List.mem_reverse.mp member))

theorem named_eq_connectionOptions {headers : List Line} (colons : ∀ header ∈ headers, ':' ∈ header)
    (blanks : ∀ header ∈ headers, ∀ c ∈ header, Text.isWhitespace c = true → isBlank c = true) :
    named headers = connectionOptions (headers.map fun header => (header, [])) := by
  unfold named connectionOptions
  rw [List.flatMap_map]
  apply List.flatMap_congr
  intro header member
  cases split : Text.splitAtFirst ':' header with
  | none => exact absurd (colons header member) (Text.splitAtFirst_eq_none_iff.mp split)
  | some parts =>
    obtain ⟨name, value⟩ := parts
    have taken := Text.takeWhile_of_splitAtFirst split
    have whole := (Text.splitAtFirst_eq_some_iff.mp split).1
    have nameTrimmed : trim name = trimBlank name := trim_eq_trimBlank fun c inName =>
      blanks header member c (by rw [whole]; exact List.mem_append_left _ inName)
    have valueOf : Field.value (header, []) = value := by
      have rest := List.takeWhile_append_dropWhile (p := (· != ':')) (l := header)
      rw [taken] at rest
      have behind := List.append_cancel_left (rest.trans whole)
      rw [Field.value, behind]
      exact List.append_nil _
    have tokens : ∀ token ∈ value.splitOn ',', toAsciiLowercase (trim token) = toAsciiLowercase (trimBlank token) := by
      intro token inValue
      rw [trim_eq_trimBlank]
      intro c inToken
      apply blanks header member
      rw [whole]
      exact List.mem_append_right _ (List.mem_cons_of_mem _ ((Text.mem_splitOn inValue).1.subset inToken))
    -- Both parsers trim the name and the tokens alike, as there is no other white space.
    simp only [isNamed, Field.name, taken, valueOf, nameTrimmed, beq_iff_eq]
    rw [List.map_congr_left tokens]

theorem isEndToEnd_eq {headers : List Line} {header : Line} (colons : ∀ header ∈ headers, ':' ∈ header)
    (blanks : ∀ header ∈ headers, ∀ c ∈ header, Text.isWhitespace c = true → isBlank c = true) (member : header ∈ headers) :
    isEndToEnd (headers.map fun header => (header, [])) (header, []) =
      !isDropped (named headers) (header.takeWhile (· != ':')) := by
  have trimmed : trim (header.takeWhile (· != ':')) = trimBlank (header.takeWhile (· != ':')) :=
    trim_eq_trimBlank fun c inName => blanks header member c ((List.takeWhile_prefix _).subset inName)
  rw [isEndToEnd, isDropped, named_eq_connectionOptions colons blanks, trimmed, Bool.not_or]
  rfl

theorem receiveFields_of_starts {headers : List Line} (colons : ∀ header ∈ headers, ':' ∈ header)
    (starts : ∀ header ∈ headers, continuesField header = false) :
    receiveFields headers = some (headers.map fun header => (header, [])) := by
  rw [receiveFields_eq_some_iff, gather_of_starts starts]
  refine ⟨rfl, fun field member => ?_⟩
  obtain ⟨header, inHeaders, rfl⟩ := List.mem_map.mp member
  exact colons header inHeaders

/-- The other parser reads an ordinary head line by line, as the rewriting does. -/
theorem receive_ordinary (parts : requestParts text = some (method, url, version)) (ordinary : Ordinary text)
    (colons : ∀ header ∈ headerLines text, ':' ∈ header) :
    ∃ behind, receive (splitLf text) =
      some (⟨method, url, version, (headerLines text).map fun header => (header, [])⟩, behind) := by
  obtain ⟨line, methodClear, urlClear, versionClear⟩ := requestParts_eq_some_iff.mp parts
  obtain ⟨lineClear, starts, blanks, ended⟩ := ordinary
  have clear : ∀ header ∈ headerLines text, '\n' ∉ header := fun header member feed =>
    absurd (blanks header member _ feed (by decide)) (by decide)
  cases pieces : splitCrlf text with
  | nil => exact absurd pieces splitCrlf_ne_nil
  | cons piece others =>
    rw [pieces] at line lineClear ended
    have pieceClear : '\n' ∉ piece := lineClear
    have parts : piece = method ++ ' ' :: (url ++ ' ' :: version) := line
    have headers : headerLines text = others.takeWhile (!·.isEmpty) := by rw [headerLines, pieces]; rfl
    obtain ⟨rest, behindHeaders⟩ : ∃ rest, others.dropWhile (!·.isEmpty) = [] :: rest := by
      cases left : others.dropWhile (!·.isEmpty) with
      | nil => exact absurd (List.dropWhile_eq_nil_iff.mp left [] ended) (by decide)
      | cons first rest =>
        have empty := List.head?_dropWhile_not (fun line : Line => !line.isEmpty) others
        rw [left] at empty
        have same : first = [] := by simpa using empty
        exact ⟨rest, by rw [same]⟩
    -- The headers end at the first empty piece, where the other parser finds its empty line.
    have whole : others = headerLines text ++ [] :: rest := by
      rw [headers, ← behindHeaders, List.takeWhile_append_dropWhile]
    have lines : splitLf text = piece :: (headerLines text ++ [] :: rest.flatMap splitLf) := by
      rw [splitLf_eq_flatMap, pieces, List.flatMap_cons, splitLf_single pieceClear, whole, List.flatMap_append,
        flatMap_splitLf_of_clear clear]
      rfl
    refine ⟨rest.flatMap splitLf, receive_eq_some_iff.mpr ⟨piece, headerLines text, lines, ?_, ?_⟩⟩
    · rw [parts]
      exact Text.splitOn_eq_three_iff.mpr ⟨rfl, methodClear, urlClear, versionClear⟩
    · exact receiveFields_of_starts colons starts

theorem keptAlike_ordinary (ordinary : Ordinary text) (colons : ∀ header ∈ headerLines text, ':' ∈ header) :
    KeptAlike text ((headerLines text).map fun header => (header, [])) := by
  obtain ⟨lineClear, starts, blanks, -⟩ := ordinary
  have inHeaders : ∀ header ∈ keptHeaders text, header ∈ headerLines text := fun header member => (List.mem_filter.mp member).1
  have clear : ∀ header ∈ keptHeaders text, '\n' ∉ header := fun header member feed =>
    absurd (blanks header (inHeaders header member) _ feed (by decide)) (by decide)
  refine ⟨[], (keptHeaders text).map fun header => (header, []), ?_, ?_, ?_⟩
  · rw [behindRequestLine, splitLf_single lineClear]
    rfl
  · rw [flatMap_splitLf_of_clear clear]
    exact receiveFields_of_starts (fun header member => colons header (inHeaders header member))
      fun header member => starts header (inHeaders header member)
  · rw [List.nil_append, List.filter_map, keptHeaders]
    congr 1
    apply List.filter_congr
    intro header member
    exact (isEndToEnd_eq colons blanks member).symm

/-- For an ordinary head the URL alone decides. -/
theorem ordinary_head_is_one_exchange_iff {head rewritten : List UInt8} {target : Target}
    (rewrites : Rewrites head rewritten target text method url version authority) (ordinary : Ordinary text) :
    OneExchange head rewritten target ↔ '#' ∉ url ∧ (readAuthority authority).isSome = true := by
  obtain ⟨behind, clientRead⟩ := receive_ordinary rewrites.parts ordinary rewrites.named
  constructor
  · intro exchange
    obtain ⟨whole, client, behind', same, read, noFragment, ⟨found, sameHost, readable⟩, -⟩ :=
      seenAlike_of_oneExchange rewrites exchange
    obtain rfl := String.ofList_injective (Option.some.inj (rewrites.decoded.symm.trans same))
    rw [clientRead] at read
    cases read
    rw [rewrites.host] at sameHost
    cases sameHost
    exact ⟨noFragment, readable⟩
  · rintro ⟨noFragment, readable⟩
    apply oneExchange_of_seenAlike rewrites
    exact ⟨text, _, behind, rewrites.decoded, clientRead, noFragment, ⟨authority, rewrites.host, readable⟩,
      keptAlike_ordinary ordinary rewrites.named⟩

end

end Skimasque.Cli
