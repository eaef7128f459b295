import Skimasque.Core.TemplateReading
import Skimasque.Library.Result
import Mathlib.Data.Finset.Max

/-! Expanding a template and matching the path again. -/

set_option autoImplicit false

namespace Skimasque.Core
open Library Library.Pattern

/-! ## What parsing guarantees -/

/-- Only the last part is a query expression, and it has a name. -/
def WellPlaced : List Part → Prop
  | [] => True
  | part :: parts => (part.isQuery = true → parts = [] ∧ part.names ≠ []) ∧ WellPlaced parts

theorem mapM_parseName_ne_nil {names : List (List Char)} {read : List String} (some : names ≠ [])
    (parsed : names.mapM parseName = .ok read) : read ≠ [] := by
  rintro rfl
  cases names with
  | nil => exact some rfl
  | cons name names =>
    rw [List.mapM_cons] at parsed
    obtain ⟨_, _, rest⟩ := Result.bind_eq_ok_iff.mp parsed
    obtain ⟨_, _, same⟩ := Result.bind_eq_ok_iff.mp rest
    cases same

theorem parseExpression_names {expression : List Char} {part : Part} (parsed : parseExpression expression = .ok part) :
    part.names ≠ [] := by
  cases expression with
  | nil => cases parsed
  | cons first rest =>
    rw [parseExpression] at parsed
    split at parsed
    · cases parsed
    · obtain ⟨names, read, built⟩ := Result.bind_eq_ok_iff.mp parsed
      have some := mapM_parseName_ne_nil (List.splitOn_ne_nil _ _) read
      split at built <;> cases built
      · exact some
      · exact some
      · exact List.cons_ne_nil _ _

theorem mem_pushLiteral {parts : List Part} {literal : List Char} {part : Part} (member : part ∈ pushLiteral parts literal) :
    part ∈ parts ∨ part.isQuery = false := by
  unfold pushLiteral at member
  split at member
  · exact .inl member
  · rcases List.mem_append.mp member with known | new
    · exact .inl known
    · rw [List.mem_singleton.mp new]
      exact .inr rfl

theorem scanParts_named {parts : List Part} {rest : List Char} {found : List Part} (scanned : scanParts parts rest = .ok found)
    (known : ∀ part ∈ parts, part.isQuery = true → part.names ≠ []) : ∀ part ∈ found, part.isQuery = true → part.names ≠ [] := by
  have pushed {parts : List Part} (known : ∀ part ∈ parts, part.isQuery = true → part.names ≠ []) (literal : List Char) :
      ∀ part ∈ pushLiteral parts literal, part.isQuery = true → part.names ≠ [] := by
    intro part member query
    rcases mem_pushLiteral member with before | other
    · exact known part before query
    · rw [other] at query
      cases query
  induction parts, rest using scanParts.induct with
  | case1 parts rest absent =>
    rw [scanParts_end absent] at scanned
    cases scanned
    exact pushed known rest
  | case2 parts rest literal after opened unclosed =>
    rw [scanParts_unclosed opened unclosed] at scanned
    cases scanned
  | case3 parts rest literal after opened expression tail closed ih =>
    rw [scanParts_open opened closed] at scanned
    obtain ⟨part, read, scanned⟩ := Result.bind_eq_ok_iff.mp scanned
    refine ih part scanned fun other member query => ?_
    rcases List.mem_append.mp member with before | new
    · exact pushed known literal other before query
    · rw [List.mem_singleton.mp new]
      exact parseExpression_names read

theorem wellPlaced_of_findIdx {parts : List Part} (named : ∀ part ∈ parts, part.isQuery = true → part.names ≠ [])
    (last : ∀ index, parts.findIdx? Part.isQuery = some index → index + 1 = parts.length) : WellPlaced parts := by
  induction parts with
  | nil => trivial
  | cons part parts ih =>
    rw [List.forall_mem_cons] at named
    constructor
    · intro query
      have first := last 0 (by rw [List.findIdx?_cons, if_pos query])
      exact ⟨List.length_eq_zero_iff.mp (Nat.succ.inj first).symm, named.1 query⟩
    · by_cases query : part.isQuery = true
      · have first := last 0 (by rw [List.findIdx?_cons, if_pos query])
        rw [List.length_eq_zero_iff.mp (Nat.succ.inj first).symm]
        trivial
      · refine ih named.2 fun index found => ?_
        have later := last (index + 1) (by rw [List.findIdx?_cons, if_neg query, found]; rfl)
        exact Nat.succ.inj later

theorem foldlM_pushVariable {names known found : List String} (pushed : names.foldlM pushVariable known = .ok found)
    (distinct : known.Nodup) : found = known ++ names ∧ found.Nodup := by
  induction names generalizing known with
  | nil =>
    cases pushed
    exact ⟨(List.append_nil _).symm, distinct⟩
  | cons name names ih =>
    rw [List.foldlM_cons] at pushed
    obtain ⟨next, step, rest⟩ := Result.bind_eq_ok_iff.mp pushed
    unfold pushVariable at step
    split at step
    · cases step
    · rename_i absent
      cases step
      have fresh : name ∉ known := fun member => absent (List.contains_iff_mem.mpr member)
      obtain ⟨rfl, found⟩ := ih rest (List.nodup_append.mpr ⟨distinct, List.nodup_singleton _, by
        intro left inside right only same
        rw [List.mem_singleton.mp only] at same
        exact fresh (same ▸ inside)⟩)
      exact ⟨by rw [List.append_assoc, List.singleton_append], found⟩

/-- What a parsed template is known to be. -/
structure UriTemplate.Sound (template : UriTemplate) : Prop where
  names : template.variableNames = template.parts.flatMap Part.names
  distinct : (template.parts.flatMap Part.names).Nodup
  placed : WellPlaced template.parts

theorem UriTemplate.sound_of_parse {text : String} {template : UriTemplate} (parsed : UriTemplate.parse text = .ok template) :
    template.Sound := by
  unfold UriTemplate.parse at parsed
  obtain ⟨⟨scheme, authority, path⟩, _, parsed⟩ := Result.bind_eq_ok_iff.mp parsed
  obtain ⟨parts, read, parsed⟩ := Result.bind_eq_ok_iff.mp parsed
  obtain ⟨names, collected, same⟩ := Result.bind_eq_ok_iff.mp parsed
  cases same
  obtain ⟨rfl, distinct⟩ := foldlM_pushVariable collected List.nodup_nil
  obtain ⟨scanned, found, placed⟩ := Result.bind_eq_ok_iff.mp read
  have named := scanParts_named found (by simp)
  split at placed
  · rename_i index first
    split at placed
    · cases placed
    · rename_i last
      cases placed
      refine ⟨rfl, distinct, wellPlaced_of_findIdx named fun other same => ?_⟩
      rw [first] at same
      cases same
      exact not_ne_iff.mp last
  · rename_i none
    cases placed
    refine ⟨rfl, distinct, wellPlaced_of_findIdx named fun other same => ?_⟩
    rw [none] at same
    cases same

/-! ## What expansion writes -/

/-- The encoded value of a variable. -/
def encodedValue (values : Values) (name : String) : List Char := (pctEncode ((values.lookup name).getD "")).toList

def Part.simpleName : Part → Option String
  | .simple name => some name
  | _ => none

/-- The encoded values of the simple expressions. -/
def encodedPieces (values : Values) (parts : List Part) : List (List Char) :=
  (parts.filterMap Part.simpleName).map (encodedValue values)

def queryText (values : Values) : List String → Char → List Char
  | [], _ => []
  | name :: names, separator => separator :: name.toList ++ '=' :: encodedValue values name ++ queryText values names '&'

/-- What a query expression at the end writes. -/
def endText (values : Values) : List Part → List Char
  | [] => []
  | .literal _ :: parts | .simple _ :: parts => endText values parts
  | .query names :: _ => queryText values names '?'
  | .queryContinuation names :: _ => queryText values names '&'

/-- Every name has a value. -/
def Filled (values : Values) (names : List String) : Prop := ∀ name ∈ names, ∃ value, values.lookup name = some value ∧ value ≠ ""

section
variable {values : Values} {names : List String} {parts : List Part}

theorem encodedValue_of_lookup {name value : String} (known : values.lookup name = some value) :
    encodedValue values name = (pctEncode value).toList := by
  rw [encodedValue, known]
  rfl

theorem lookupValue_eq {name value : String} (known : values.lookup name = some value) (filled : value ≠ "") :
    lookupValue values name = .ok value := by
  rw [lookupValue, known]
  exact if_neg fun empty => filled (Text.isEmpty_iff.mp empty)

theorem expandQuery_eq (filled : Filled values names) (separator : Char) :
    expandQuery values names separator = .ok (queryText values names separator) := by
  induction names generalizing separator with
  | nil => rfl
  | cons name names ih =>
    obtain ⟨⟨value, known, some⟩, rest⟩ := List.forall_mem_cons.mp filled
    rw [expandQuery, lookupValue_eq known some, ih rest '&', queryText, encodedValue_of_lookup known]
    rfl

theorem expandPart_filled {part : Part} (filled : Filled values part.names) : ∃ text, part.expand values = .ok text := by
  cases part with
  | literal text => exact ⟨_, rfl⟩
  | simple name =>
    obtain ⟨value, known, some⟩ := filled name (List.mem_singleton.mpr rfl)
    rw [Part.expand, lookupValue_eq known some]
    exact ⟨_, rfl⟩
  | query names => exact ⟨_, expandQuery_eq filled '?'⟩
  | queryContinuation names => exact ⟨_, expandQuery_eq filled '&'⟩

theorem expandParts_eq (filled : Filled values (parts.flatMap Part.names)) (placed : WellPlaced parts) :
    expandParts values parts = .ok (spell (items parts) (encodedPieces values parts) ++ endText values parts) := by
  induction parts with
  | nil => rfl
  | cons part parts ih =>
    rw [List.flatMap_cons] at filled
    have front : Filled values part.names := fun name member => filled name (List.mem_append_left _ member)
    have back := ih (fun name member => filled name (List.mem_append_right _ member)) placed.2
    rw [expandParts, back]
    cases part with
    | literal text =>
      rw [Part.expand]
      simp only [bind, Except.bind, items, List.filterMap_cons, Part.item, encodedPieces, Part.simpleName, spell, endText,
        List.append_assoc]
    | simple name =>
      obtain ⟨value, known, some⟩ := front name (List.mem_singleton.mpr rfl)
      rw [Part.expand, lookupValue_eq known some]
      simp only [bind, Except.bind, items, List.filterMap_cons, Part.item, encodedPieces, Part.simpleName, spell, endText,
        List.append_assoc, List.map_cons, encodedValue_of_lookup known]
    | query names =>
      obtain ⟨rfl, _⟩ := placed.1 rfl
      have listed : Filled values names := front
      rw [Part.expand, expandQuery_eq listed]
      exact congrArg Except.ok (List.append_nil (queryText values names '?'))
    | queryContinuation names =>
      obtain ⟨rfl, _⟩ := placed.1 rfl
      have listed : Filled values names := front
      rw [Part.expand, expandQuery_eq listed]
      exact congrArg Except.ok (List.append_nil (queryText values names '&'))

theorem encodedPieces_fill (filled : Filled values (parts.flatMap Part.names)) :
    Fills IsPiece (items parts) (encodedPieces values parts) := by
  induction parts with
  | nil => exact .nil
  | cons part parts ih =>
    rw [List.flatMap_cons] at filled
    have back := ih fun name member => filled name (List.mem_append_right _ member)
    cases part with
    | literal text => exact .literal back
    | simple name =>
      obtain ⟨value, known, some⟩ := filled name (List.mem_append_left _ (List.mem_singleton.mpr rfl))
      refine .hole ?_ back
      rw [encodedValue_of_lookup known]
      refine ⟨pctEncode_ne_nil some, fun _ => isExpansionSafe_of_mem_pctEncode, value, ?_⟩
      rw [String.ofList_toList, pctDecode_pctEncode]
    | query names => exact back
    | queryContinuation names => exact back

end

/-! ## The names of a query -/

/-- The name stands for itself as a key of a query. -/
def PlainKey (name : String) : Prop := '%' ∉ name.toList ∧ '=' ∉ name.toList ∧ '&' ∉ name.toList

def pairText (values : Values) (name : String) : List Char := name.toList ++ '=' :: encodedValue values name

section
variable {values found : Values} {names : List String} {name : String} {piece front back : List Char}

theorem notMem_encodedValue {c : Char} (other : isExpansionSafe c = false) : c ∉ encodedValue values name := by
  intro member
  rw [isExpansionSafe_of_mem_pctEncode member] at other
  cases other

theorem splitOn_queryText (front : List Char) : (front ++ queryText values names '&').splitOn '&' =
    front.splitOn '&' ++ names.flatMap fun name => (pairText values name).splitOn '&' := by
  induction names generalizing front with
  | nil => rw [queryText, List.append_nil, List.flatMap_nil, List.append_nil]
  | cons name names ih =>
    have next := ih (pairText values name)
    rw [pairText, List.append_assoc, List.cons_append] at next
    rw [queryText, List.append_assoc, List.cons_append, List.cons_append, List.splitOn_append_cons_self, next,
      List.flatMap_cons]
    rfl

theorem splitOn_pairText (plain : PlainKey name) : (pairText values name).splitOn '&' = [pairText values name] := by
  apply List.splitOn_eq_singleton
  rw [pairText, List.mem_append, List.mem_cons]
  rintro (inside | same | inside)
  · exact plain.2.2 inside
  · cases same
  · exact notMem_encodedValue (by decide) inside

theorem splitAtFirst_pairText (plain : PlainKey name) :
    Text.splitAtFirst '=' (pairText values name) = some (name.toList, encodedValue values name) :=
  Text.splitAtFirst_eq_some_iff.mpr ⟨rfl, plain.2.1⟩

/-- Plain names are all found, each with its value. -/
theorem collectPairs_plain (plain : ∀ name ∈ names, PlainKey name) (filled : Filled values names) (found : Values) :
    ∃ after, collectPairs (names.map (pairText values)) found = some after ∧
      (∀ name ∈ names, after.lookup name = values.lookup name) ∧ Keeps names found after := by
  induction names generalizing found with
  | nil => exact ⟨found, rfl, nofun, Keeps.refl _ _⟩
  | cons name names ih =>
    obtain ⟨plainName, plainNames⟩ := List.forall_mem_cons.mp plain
    obtain ⟨⟨value, known, _⟩, rest⟩ := List.forall_mem_cons.mp filled
    obtain ⟨after, collected, held, kept⟩ := ih plainNames rest (found.insert name value)
    have key : pctDecode (String.ofList name.toList) = some name := by
      rw [String.ofList_toList, pctDecode_plain plainName.1]
    have decoded : pctDecode (String.ofList (encodedValue values name)) = some value := by
      rw [encodedValue_of_lookup known, String.ofList_toList, pctDecode_pctEncode]
    refine ⟨after, ?_, ?_, ?_⟩
    · rw [List.map_cons, collectPairs, splitAtFirst_pairText plainName]
      simp only [key, decoded, collected]
    · intro other member
      by_cases later : other ∈ names
      · exact held other later
      · cases List.mem_cons.mp member with
        | inl same =>
          subst same
          rw [kept other later, Finmap.lookup_insert, known]
        | inr inside => exact absurd inside later
    · exact (keeps_insert (List.mem_cons_self ..) _ _).trans (kept.mono (List.subset_cons_self ..))

/-- Every key found was read from a pair. -/
theorem collectPairs_key {pairs : List (List Char)} {after : Values} (collected : collectPairs pairs found = some after)
    {value : String} (held : after.lookup name = some value) : found.lookup name = some value ∨
      ∃ pair ∈ pairs, ∃ front back, Text.splitAtFirst '=' pair = some (front, back) ∧ pctDecode (String.ofList front) = some name := by
  induction pairs generalizing found with
  | nil =>
    cases collected
    exact .inl held
  | cons pair pairs ih =>
    rw [collectPairs] at collected
    split at collected
    · rcases ih collected with before | ⟨pair, member, read⟩
      · exact .inl before
      · exact .inr ⟨pair, List.mem_cons_of_mem _ member, read⟩
    · rename_i front back divided
      split at collected
      · rename_i key text keyRead textRead
        rcases ih collected with before | ⟨pair, member, read⟩
        · by_cases same : name = key
          · rw [same]
            exact .inr ⟨pair, List.mem_cons_self .., front, back, divided, keyRead⟩
          · rw [Finmap.lookup_insert_of_ne _ same] at before
            exact .inl before
        · exact .inr ⟨pair, List.mem_cons_of_mem _ member, read⟩
      · cases collected

theorem eq_of_plain_piece (plain : PlainKey name) (member : piece ∈ (pairText values name).splitOn '&')
    (divided : Text.splitAtFirst '=' piece = some (front, back)) {key : String}
    (read : pctDecode (String.ofList front) = some key) : key = name := by
  rw [splitOn_pairText plain, List.mem_singleton] at member
  rw [member, splitAtFirst_pairText plain] at divided
  cases divided
  rw [String.ofList_toList, pctDecode_plain plain.1] at read
  exact (Option.some.inj read).symm

theorem eq_nil_of_utf8_length {chars : List Char} (empty : (chars.flatMap String.utf8EncodeChar).length = 0) :
    chars = [] := by
  cases chars with
  | nil => rfl
  | cons c rest =>
    have filled := List.length_pos_of_ne_nil (String.utf8EncodeChar_ne_nil (c := c))
    rw [List.flatMap_cons, List.length_append] at empty
    omega

/-- What comes before the `=` of a piece of the pair of a name lies in the name. -/
theorem key_within_name (infixed : front ++ '=' :: back <:+: pairText values name) :
    ∃ before gap, name.toList = before ++ front ++ gap := by
  obtain ⟨before, after, whole⟩ := infixed
  rw [pairText, List.append_assoc, List.append_assoc, List.cons_append, ← List.append_assoc] at whole
  -- The `=` of the piece is at the latest the one after the name.
  rcases List.append_eq_append_iff.mp whole with ⟨gap, longer, _⟩ | ⟨gap, shorter, rest⟩
  · exact ⟨before, gap, longer⟩
  · cases gap with
    | nil => exact ⟨before, [], by rw [shorter, List.append_nil, List.append_nil]⟩
    | cons c gap =>
      rw [List.cons_append, List.cons.injEq] at rest
      have absent : '=' ∉ encodedValue values name := notMem_encodedValue (by decide)
      rw [rest.2] at absent
      exact absurd (List.mem_append_right _ (List.mem_cons_self ..)) absent

/-- A key read from the pair of a name is no longer than the name, and shorter unless the name is plain. -/
theorem length_key_of_piece (member : piece ∈ (pairText values name).splitOn '&')
    (divided : Text.splitAtFirst '=' piece = some (front, back)) {key : String}
    (read : pctDecode (String.ofList front) = some key) :
    (Encoding.utf8 key).length ≤ (Encoding.utf8 name).length ∧
      ((Encoding.utf8 key).length = (Encoding.utf8 name).length → PlainKey name) := by
  obtain ⟨inside, clear⟩ := Text.mem_splitOn member
  obtain ⟨rfl, frontClear⟩ := Text.splitAtFirst_eq_some_iff.mp divided
  obtain ⟨before, gap, same⟩ := key_within_name inside
  have shrinks := pctDecode_shrinks read
  have total : (Encoding.utf8 name).length = (before.flatMap String.utf8EncodeChar).length +
      (Encoding.utf8 (String.ofList front)).length + (gap.flatMap String.utf8EncodeChar).length := by
    rw [Encoding.utf8, Encoding.utf8, same, String.toList_ofList, List.flatMap_append, List.flatMap_append, List.length_append,
      List.length_append]
  refine ⟨by omega, fun exact => ?_⟩
  have noneBefore : before = [] := eq_nil_of_utf8_length (by omega)
  have noGap : gap = [] := eq_nil_of_utf8_length (by omega)
  have absent := (shrinks.2 (by omega)).1
  rw [String.toList_ofList] at absent
  rw [noneBefore, noGap, List.nil_append, List.append_nil] at same
  rw [PlainKey, same]
  exact ⟨absent, frontClear, fun member => clear (List.mem_append_left _ member)⟩

/-- When every name is found as a key, all of them are plain: the longest that is not would have to come from a longer one. -/
theorem plain_of_collected (collected : collectPairs (names.flatMap fun name => (pairText values name).splitOn '&') ∅ = some found)
    (held : ∀ name ∈ names, ∃ value, found.lookup name = some value) : ∀ name ∈ names, PlainKey name := by
  classical
  by_contra someBad
  have some : (names.toFinset.filter fun name => ¬PlainKey name).Nonempty := by
    push Not at someBad
    obtain ⟨name, member, bad⟩ := someBad
    exact ⟨name, Finset.mem_filter.mpr ⟨List.mem_toFinset.mpr member, bad⟩⟩
  obtain ⟨name, member, most⟩ := Finset.exists_max_image _ (fun name => (Encoding.utf8 name).length) some
  rw [Finset.mem_filter, List.mem_toFinset] at member
  obtain ⟨value, found⟩ := held name member.1
  rcases collectPairs_key collected found with before | ⟨piece, inside, front, back, divided, read⟩
  · rw [Finmap.lookup_empty] at before
    cases before
  · obtain ⟨other, otherMember, inside⟩ := List.mem_flatMap.mp inside
    have bound := length_key_of_piece inside divided read
    by_cases plain : PlainKey other
    · rw [eq_of_plain_piece plain inside divided read] at member
      exact member.2 plain
    · have least := most other (Finset.mem_filter.mpr ⟨List.mem_toFinset.mpr otherMember, plain⟩)
      exact plain (bound.2 (Nat.le_antisymm bound.1 least))

end

/-! ## Matching an expanded path -/

def queryNames (parts : List Part) : List String := (parts.filter Part.isQuery).flatMap Part.names

/-- No other pieces spell the same text with the literals and are longer where they first differ. -/
def LongestSplit (values : Values) (parts : List Part) : Prop :=
  ∀ other, Fills IsPiece (items parts) other →
    spell (items parts) other = spell (items parts) (encodedPieces values parts) → ¬Longer other (encodedPieces values parts)

section
variable {values found after : Values} {names : List String} {parts : List Part} {separator : Char}
  {input rest : List Char} {pieces : List (List Char)}

theorem queryText_body (some : names ≠ []) : ∃ body, queryText values names separator = separator :: body ∧
    body.splitOn '&' = names.flatMap fun name => (pairText values name).splitOn '&' := by
  cases names with
  | nil => exact absurd rfl some
  | cons name names =>
    refine ⟨pairText values name ++ queryText values names '&', rfl, ?_⟩
    rw [splitOn_queryText, List.flatMap_cons]

theorem queryReads_iff (some : names ≠ []) (filled : Filled values names) :
    (∃ found, QueryReads separator names (queryText values names separator) found) ↔ ∀ name ∈ names, PlainKey name := by
  obtain ⟨body, text, pairs⟩ := @queryText_body values names separator some
  rw [text]
  constructor
  · rintro ⟨found, query, same, collected, held⟩
    cases same
    rw [pairs] at collected
    exact plain_of_collected collected fun name member => (held name member).imp fun _ both => both.1
  · intro plain
    obtain ⟨found, collected, held, _⟩ := collectPairs_plain plain filled ∅
    refine ⟨found, body, rfl, ?_, fun name member => ?_⟩
    · rw [pairs, List.flatMap_congr fun name member => splitOn_pairText (plain name member), ← List.map_eq_flatMap]
      exact collected
    · rw [held name member]
      exact filled name member

theorem queryReads_lookup (some : names ≠ []) (filled : Filled values names) (plain : ∀ name ∈ names, PlainKey name)
    (reads : QueryReads separator names (queryText values names separator) found) :
    ∀ name ∈ names, found.lookup name = values.lookup name := by
  obtain ⟨body, text, pairs⟩ := @queryText_body values names separator some
  obtain ⟨query, same, collected, _⟩ := reads
  obtain ⟨other, direct, held, _⟩ := collectPairs_plain plain filled ∅
  rw [text] at same
  cases same
  rw [pairs, List.flatMap_congr fun name member => splitOn_pairText (plain name member), ← List.map_eq_flatMap, direct] at collected
  cases collected
  exact held

theorem ends_endText_iff (placed : WellPlaced parts) (filled : Filled values (parts.flatMap Part.names)) :
    Ends parts (endText values parts) ↔ ∀ name ∈ queryNames parts, PlainKey name := by
  induction parts with
  | nil => simp [Ends, endText, queryNames]
  | cons part parts ih =>
    rw [List.flatMap_cons] at filled
    have back := ih placed.2 fun name member => filled name (List.mem_append_right _ member)
    cases part with
    | literal text => exact back
    | simple name => exact back
    | query names =>
      obtain ⟨rfl, some⟩ := placed.1 rfl
      have reads := @queryReads_iff values names '?' some fun name member => filled name (List.mem_append_left _ member)
      simpa [Ends, endText, queryNames, Part.isQuery, Part.names] using reads
    | queryContinuation names =>
      obtain ⟨rfl, some⟩ := placed.1 rfl
      have reads := @queryReads_iff values names '&' some fun name member => filled name (List.mem_append_left _ member)
      simpa [Ends, endText, queryNames, Part.isQuery, Part.names] using reads

theorem stops_of_ends (ends : Ends parts rest) : Stops isExpansionSafe rest := by
  induction parts with
  | nil =>
    rw [show rest = [] from ends]
    nofun
  | cons part parts ih =>
    cases part with
    | literal text => exact ih ends
    | simple name => exact ih ends
    | query names =>
      obtain ⟨_, _, query, rfl, _⟩ := ends
      intro c first
      cases first
      decide
    | queryContinuation names =>
      obtain ⟨_, _, query, rfl, _⟩ := ends
      intro c first
      cases first
      decide

theorem stops_endText : Stops isExpansionSafe (endText values parts) := by
  have query (names : List String) {separator : Char} (other : isExpansionSafe separator = false) :
      Stops isExpansionSafe (queryText values names separator) := by
    cases names with
    | nil => nofun
    | cons name names =>
      intro c first
      cases first
      exact other
  induction parts with
  | nil => nofun
  | cons part parts ih =>
    cases part with
    | literal text => exact ih
    | simple name => exact ih
    | query names => exact query names (by decide)
    | queryContinuation names => exact query names (by decide)

/-- A query that is the last part gives its names back their values. -/
theorem assigned_query (some : names ≠ []) (filled : Filled values (names ++ [])) (plain : ∀ name ∈ names ++ [], PlainKey name)
    (assigned : ∃ found, QueryReads separator names (queryText values names separator) found ∧
      ∀ name ∈ names, after.lookup name = found.lookup name) :
    ∀ name ∈ names ++ [], after.lookup name = values.lookup name := by
  rw [List.append_nil] at filled plain ⊢
  obtain ⟨found, reads, held⟩ := assigned
  intro name member
  rw [held name member]
  exact queryReads_lookup some filled plain reads name member

theorem assigned_lookup (placed : WellPlaced parts) (filled : Filled values (parts.flatMap Part.names))
    (plain : ∀ name ∈ queryNames parts, PlainKey name)
    (assigned : Assigned parts (encodedPieces values parts) (endText values parts) after) :
    ∀ name ∈ parts.flatMap Part.names, after.lookup name = values.lookup name := by
  induction parts with
  | nil => nofun
  | cons part parts ih =>
    rw [List.flatMap_cons] at filled ⊢
    have tail := ih placed.2 fun name member => filled name (List.mem_append_right _ member)
    intro name member
    cases part with
    | literal text => exact tail plain assigned name member
    | simple known =>
      obtain ⟨front, back⟩ := assigned
      cases List.mem_cons.mp member with
      | inl same =>
        subst same
        obtain ⟨value, known, _⟩ := filled name (List.mem_append_left _ (List.mem_singleton.mpr rfl))
        rw [front, encodedValue_of_lookup known, String.ofList_toList, pctDecode_pctEncode, known]
      | inr inside => exact tail plain back name inside
    | query names =>
      obtain ⟨rfl, some⟩ := placed.1 rfl
      exact assigned_query some filled plain assigned name member
    | queryContinuation names =>
      obtain ⟨rfl, some⟩ := placed.1 rfl
      exact assigned_query some filled plain assigned name member

/-- What is read beyond an encoded value changes the value. -/
theorem pctDecode_beyond {value : String} {more : List Char}
    (read : pctDecode (String.ofList ((pctEncode value).toList ++ more)) = some value) : more = [] := by
  obtain ⟨_, bytes⟩ := pctDecode_eq_some_iff.mp read
  rw [String.toList_ofList, pctEncode, String.toList_ofList, unescape_encoded, List.self_eq_append_right] at bytes
  cases more with
  | nil => rfl
  | cons c more =>
    unfold unescape at bytes
    split at bytes
    · cases bytes
    · rename_i same
      cases same
      exact absurd (List.append_eq_nil_iff.mp bytes).1 String.utf8EncodeChar_ne_nil
    · rename_i same
      cases same

/-- A reading that gives back the values has no longer pieces than theirs. -/
theorem not_longer_of_assigned (filled : Filled values (parts.flatMap Part.names)) (placed : WellPlaced parts)
    (fills : Fills IsPiece (items parts) pieces) {remaining : List Char}
    (whole : spell (items parts) pieces ++ remaining = spell (items parts) (encodedPieces values parts) ++ rest)
    (assigned : Assigned parts pieces remaining values) : ¬Longer pieces (encodedPieces values parts) := by
  induction parts generalizing pieces with
  | nil =>
    cases fills
    rintro ⟨⟩
  | cons part parts ih =>
    rw [List.flatMap_cons] at filled
    have tail : Filled values (parts.flatMap Part.names) := fun name member => filled name (List.mem_append_right _ member)
    cases part with
    | literal text =>
      cases fills with
      | literal fills =>
        simp only [items, List.filterMap_cons, Part.item, encodedPieces, Part.simpleName, spell, List.append_assoc] at whole
        exact ih tail placed.2 fills (List.append_cancel_left whole) assigned
    | simple name =>
      obtain ⟨value, known, _⟩ := filled name (List.mem_append_left _ (List.mem_singleton.mpr rfl))
      cases fills with
      | @hole piece _ pieces fit fills =>
        simp only [items, List.filterMap_cons, Part.item, encodedPieces, Part.simpleName, spell, List.append_assoc,
          List.map_cons] at whole
        obtain ⟨front, back⟩ := assigned
        rw [known] at front
        change ¬Longer (piece :: pieces) (encodedValue values name :: encodedPieces values parts)
        rw [longer_cons]
        rintro (less | ⟨rfl, longer⟩)
        · rcases List.append_eq_append_iff.mp whole with ⟨gap, same, _⟩ | ⟨gap, same, _⟩
          · rw [same, List.length_append] at less
            omega
          · rw [same, encodedValue_of_lookup known] at front
            rw [same, pctDecode_beyond front.symm, List.append_nil] at less
            exact Nat.lt_irrefl _ less
        · exact ih tail placed.2 fills (List.append_cancel_left whole) back longer
    | query names =>
      obtain ⟨rfl, _⟩ := placed.1 rfl
      cases fills
      rintro ⟨⟩
    | queryContinuation names =>
      obtain ⟨rfl, _⟩ := placed.1 rfl
      cases fills
      rintro ⟨⟩

/-- The own pieces are the longest reading of the expanded path exactly when the names of the query are plain and
they are the longest split. -/
theorem longest_expanded_iff (placed : WellPlaced parts) (filled : Filled values (parts.flatMap Part.names))
    (chars : input = spell (items parts) (encodedPieces values parts) ++ endText values parts) :
    Longest IsPiece (Ends parts) (items parts) input (encodedPieces values parts) (endText values parts) ↔
      (∀ name ∈ queryNames parts, PlainKey name) ∧ LongestSplit values parts := by
  have own : Reads IsPiece (items parts) input (encodedPieces values parts) (endText values parts) :=
    reads_iff.mpr ⟨encodedPieces_fill filled, chars⟩
  constructor
  · intro longest
    constructor
    · exact (ends_endText_iff placed filled).mp longest.done
    · intro other fills spelled
      exact longest.none_longer other _ (reads_iff.mpr ⟨fills, by rw [chars, spelled]⟩) longest.done
  · rintro ⟨plain, most⟩
    refine ⟨own, (ends_endText_iff placed filled).mpr plain, fun other after reads done => ?_⟩
    obtain ⟨spelled, rfl⟩ := reads.aligned (fun _ fit => fit.2.1) own (stops_of_ends done) stops_endText
    exact most other (reads_iff.mp reads).1 spelled

/-- A longest reading that gives back the values reads the own pieces. -/
theorem longest_eq_own (placed : WellPlaced parts) (filled : Filled values (parts.flatMap Part.names))
    (chars : input = spell (items parts) (encodedPieces values parts) ++ endText values parts)
    (longest : Longest IsPiece (Ends parts) (items parts) input pieces rest) (assigned : Assigned parts pieces rest values) :
    pieces = encodedPieces values parts ∧ rest = endText values parts := by
  have own : Reads IsPiece (items parts) input (encodedPieces values parts) (endText values parts) :=
    reads_iff.mpr ⟨encodedPieces_fill filled, chars⟩
  obtain ⟨spelled, rfl⟩ := longest.reads.aligned (fun _ fit => fit.2.1) own (stops_of_ends longest.done) stops_endText
  have shorter := not_longer_of_assigned filled placed (reads_iff.mp longest.reads).1 (by rw [spelled]) assigned
  rcases longest.reads.compare own with same | longer | longer
  · exact ⟨same, rfl⟩
  · exact absurd longer shorter
  · exact absurd longer (longest.none_longer _ _ own longest.done)

/-- The path with these values is matched by them exactly when the names of the query are plain and the encoded
values are the longest way to read the path. -/
theorem matchPath_expanded_iff {template : UriTemplate} (sound : template.Sound) (filled : Filled values template.variableNames)
    (only : ∀ name ∈ values, name ∈ template.variableNames) {path : String} (expanded : template.expandPath values = .ok path) :
    template.matchPath path = some values ↔
      (∀ name ∈ queryNames template.parts, PlainKey name) ∧ LongestSplit values template.parts := by
  rw [sound.names] at filled only
  rw [UriTemplate.expandPath, expandParts_eq filled sound.placed] at expanded
  have chars : path.toList = spell (items template.parts) (encodedPieces values template.parts) ++
      endText values template.parts := by
    rw [← Except.ok.inj expanded, String.toList_ofList]
  have search := matchParts_searches sound.distinct
  rw [← longest_expanded_iff sound.placed filled chars]
  unfold UriTemplate.matchPath
  dsimp only
  constructor
  · intro matched
    split at matched
    · rename_i found
      obtain ⟨pieces, rest, longest, assigned⟩ := search.found _ _ found
      rw [Option.some.inj matched] at assigned
      obtain ⟨rfl, rfl⟩ := longest_eq_own sound.placed filled chars longest assigned
      exact longest
    · cases matched
  · intro own
    have plain := (ends_endText_iff sound.placed filled).mp own.done
    cases found : (matchParts template.parts path.toList ∅).1 with
    | false => exact absurd own.done (search.missed _ _ found _ _ own.reads)
    | true =>
      obtain ⟨pieces, rest, longest, assigned⟩ := search.found _ _ found
      obtain ⟨rfl, rfl⟩ := longest.unique own
      rw [if_pos rfl]
      congr 1
      apply Finmap.ext_lookup
      intro name
      by_cases member : name ∈ template.parts.flatMap Part.names
      · exact assigned_lookup sound.placed filled plain assigned name member
      · rw [matchParts_keeps template.parts path.toList ∅ name member, Finmap.lookup_empty,
          Finmap.lookup_eq_none.mpr fun inside => member (only name inside)]

end

/-- Matching gives back exactly the values a path was expanded with when the names of the query are plain and the
encoded values are the longest way to read the path. -/
theorem matching_inverts_expansion_iff {text : String} {template : UriTemplate} (parsed : UriTemplate.parse text = .ok template)
    {values : Values} (assigned : ∀ name, name ∈ values ↔ name ∈ template.variableNames)
    (filled : ∀ name value, values.lookup name = some value → value ≠ "") :
    (∃ path, template.expandPath values = .ok path ∧ template.matchPath path = some values) ↔
      (∀ name ∈ queryNames template.parts, PlainKey name) ∧ LongestSplit values template.parts := by
  have sound := UriTemplate.sound_of_parse parsed
  have complete : Filled values template.variableNames := by
    intro name member
    obtain ⟨value, known⟩ := Finmap.mem_iff.mp ((assigned name).mpr member)
    exact ⟨value, known, filled name value known⟩
  have expanded : ∃ path, template.expandPath values = .ok path := by
    rw [UriTemplate.expandPath, expandParts_eq (sound.names ▸ complete) sound.placed]
    exact ⟨_, rfl⟩
  obtain ⟨path, expanded⟩ := expanded
  rw [← matchPath_expanded_iff sound complete (fun name => (assigned name).mp) expanded]
  constructor
  · rintro ⟨other, same, matched⟩
    rw [expanded] at same
    cases same
    exact matched
  · intro matched
    exact ⟨path, expanded, matched⟩

/-- The template `https://e/{a}{b}`. -/
def adjacentTemplate : UriTemplate where
  scheme := "https"
  authority := "e"
  parts := [.literal "/", .simple "a", .simple "b"]
  variableNames := ["a", "b"]
  raw := "https://e/\x7ba\x7d\x7bb\x7d"

theorem adjacentTemplate_parses : UriTemplate.parse "https://e/\x7ba\x7d\x7bb\x7d" = .ok adjacentTemplate := by
  refine @UriTemplate.parse_eq _ ['h', 't', 't', 'p', 's'] ['e'] "/\x7ba\x7d\x7bb\x7d".toList _ _ (by decide +kernel) ?_ (by decide)
  have opens : Text.splitAtFirst '{' "/\x7ba\x7d\x7bb\x7d".toList = some (['/'], ['a', '}', '{', 'b', '}']) := by decide
  have first : parseExpression ['a'] = .ok (.simple "a") := by decide
  have second : parseExpression ['b'] = .ok (.simple "b") := by decide
  rw [parseParts, scanParts_open opens rfl, first, Except.bind, scanParts_open rfl rfl, second, Except.bind, scanParts_end rfl]
  rfl

def adjacentValues (a b : String) : Values := ((∅ : Values).insert "a" a).insert "b" b

theorem adjacentValues_assigned (a b name : String) : name ∈ adjacentValues a b ↔ name ∈ adjacentTemplate.variableNames := by
  simp [adjacentValues, adjacentTemplate, Finmap.notMem_empty, or_comm]

theorem adjacentValues_lookup {a b name value : String} (known : (adjacentValues a b).lookup name = some value) :
    value = a ∨ value = b := by
  unfold adjacentValues at known
  by_cases second : name = "b"
  · subst second
    rw [Finmap.lookup_insert] at known
    exact .inr (Option.some.inj known).symm
  · rw [Finmap.lookup_insert_of_ne _ second] at known
    by_cases first : name = "a"
    · subst first
      rw [Finmap.lookup_insert] at known
      exact .inl (Option.some.inj known).symm
    · rw [Finmap.lookup_insert_of_ne _ first, Finmap.lookup_empty] at known
      cases known

theorem first_of_adjacent_takes_most :
    (∀ name ∈ queryNames adjacentTemplate.parts, PlainKey name) ∧ LongestSplit (adjacentValues "xy" "z") adjacentTemplate.parts :=
  (matching_inverts_expansion_iff adjacentTemplate_parses (adjacentValues_assigned "xy" "z") (fun name value known => by
    rcases adjacentValues_lookup known with rfl | rfl <;> decide)).mp ⟨"/xyz", by decide +kernel, by decide +kernel⟩

/-- Two expressions side by side are split in another place. -/
theorem adjacent_values_are_lost : UriTemplate.parse "https://e/\x7ba\x7d\x7bb\x7d" = .ok adjacentTemplate ∧
    (∀ name, name ∈ adjacentValues "x" "yz" ↔ name ∈ adjacentTemplate.variableNames) ∧
    (∀ name value, (adjacentValues "x" "yz").lookup name = some value → value ≠ "") ∧
    ¬∃ path, adjacentTemplate.expandPath (adjacentValues "x" "yz") = .ok path ∧
      adjacentTemplate.matchPath path = some (adjacentValues "x" "yz") := by
  refine ⟨adjacentTemplate_parses, adjacentValues_assigned "x" "yz", fun name value known => ?_, ?_⟩
  · rcases adjacentValues_lookup known with rfl | rfl <;> decide
  · rintro ⟨path, expanded, matched⟩
    have text : adjacentTemplate.expandPath (adjacentValues "x" "yz") = .ok "/xyz" := by decide +kernel
    have other : adjacentTemplate.matchPath "/xyz" ≠ some (adjacentValues "x" "yz") := by decide +kernel
    rw [text] at expanded
    cases expanded
    exact other matched

end Skimasque.Core
