import Skimasque.Core.PercentCoding
import Mathlib.Data.Finmap

/-! URI templates for locating a proxy, expanded by the client and matched by the proxy. -/

set_option autoImplicit false

namespace Skimasque.Core
open Library

inductive TemplateError where
  | notAbsolute
  | emptyComponent (component : String)
  | pathMustStartWithSlash
  | illegalCharacter (c : Char)
  | unsupportedOperator (c : Char)
  | unsupportedModifier (c : Char)
  | unterminatedExpression
  | emptyExpression
  | variableOutsidePathOrQuery
  | duplicateVariable (name : String)
  | queryExpressionMustBeLast
  | missingVariable (name : String)
  | undefinedVariable (name : String)
  | emptyValue (name : String)
  deriving DecidableEq, Repr

inductive Part where
  | literal (text : String)
  /-- Simple string expansion. -/
  | simple (name : String)
  /-- Form-style query expansion, which begins with `?`. -/
  | query (names : List String)
  /-- Form-style query continuation, which begins with `&`. -/
  | queryContinuation (names : List String)
  deriving DecidableEq, Repr

/-- `parts` are the path and query. -/
structure UriTemplate where
  scheme : String
  authority : String
  parts : List Part
  variableNames : List String
  raw : String
  deriving DecidableEq, Repr

def Part.isQuery : Part → Bool
  | .query _ | .queryContinuation _ => true
  | _ => false

def Part.names : Part → List String
  | .literal _ => []
  | .simple name => [name]
  | .query names | .queryContinuation names => names

abbrev Values := Finmap fun _ : String => String

/-! ## Parsing -/

def parseName (name : List Char) : Except TemplateError String :=
  if name.isEmpty then .error .emptyExpression
  else
    match name.find? fun c => c == '*' || c == ':' with
    | some modifier => .error (.unsupportedModifier modifier)
    | none => .ok (String.ofList name)

def parseExpression : List Char → Except TemplateError Part
  | [] => .error .emptyExpression
  | first :: rest =>
    if ['+', '#', '.', '/', ';', '=', ',', '!', '@', '|'].contains first then .error (.unsupportedOperator first)
    else do
      let operator := if first = '?' ∨ first = '&' then some first else none
      let names ← ((if operator.isSome then rest else first :: rest).splitOn ',').mapM parseName
      match operator, names with
      | some '?', names => .ok (.query names)
      | some _, names => .ok (.queryContinuation names)
      | none, [name] => .ok (.simple name)
      -- A list of names would expand to values joined by commas.
      | none, _ => .error (.unsupportedOperator ',')

def pushLiteral (parts : List Part) (literal : List Char) : List Part :=
  if literal.isEmpty then parts else parts ++ [.literal (String.ofList literal)]

theorem length_of_splitAtFirst {separator : Char} {chars front back : List Char}
    (split : Text.splitAtFirst separator chars = some (front, back)) : back.length < chars.length := by
  obtain ⟨rfl, _⟩ := Text.splitAtFirst_eq_some_iff.mp split
  simp only [List.length_append, List.length_cons]
  omega

/-- The loop of `parseParts`, with the parts found so far. -/
def scanParts (parts : List Part) (rest : List Char) : Except TemplateError (List Part) :=
  match _opened : Text.splitAtFirst '{' rest with
  | none => .ok (pushLiteral parts rest)
  | some (literal, after) =>
    match _closed : Text.splitAtFirst '}' after with
    | none => .error .unterminatedExpression
    | some (expression, rest) => do
      let part ← parseExpression expression
      scanParts (pushLiteral parts literal ++ [part]) rest
termination_by rest.length
decreasing_by exact (length_of_splitAtFirst _closed).trans (length_of_splitAtFirst _opened)

section
variable {parts : List Part} {rest literal afterOpen expression tail : List Char}

theorem scanParts_end (absent : Text.splitAtFirst '{' rest = none) : scanParts parts rest = .ok (pushLiteral parts rest) := by
  rw [scanParts]
  split
  · rfl
  · rename_i opened
    rw [absent] at opened
    cases opened

theorem scanParts_unclosed (opens : Text.splitAtFirst '{' rest = some (literal, afterOpen))
    (unclosed : Text.splitAtFirst '}' afterOpen = none) : scanParts parts rest = .error .unterminatedExpression := by
  rw [scanParts]
  split
  · rename_i absent
    rw [opens] at absent
    cases absent
  · rename_i opened
    rw [opens] at opened
    cases opened
    split
    · rfl
    · rename_i closed
      rw [unclosed] at closed
      cases closed

theorem scanParts_open (opens : Text.splitAtFirst '{' rest = some (literal, afterOpen))
    (closes : Text.splitAtFirst '}' afterOpen = some (expression, tail)) :
    scanParts parts rest = (parseExpression expression).bind fun part => scanParts (pushLiteral parts literal ++ [part]) tail := by
  rw [scanParts]
  split
  · rename_i absent
    rw [opens] at absent
    cases absent
  · rename_i opened
    rw [opens] at opened
    cases opened
    split
    · rename_i unclosed
      rw [closes] at unclosed
      cases unclosed
    · rename_i closed
      rw [closes] at closed
      cases closed
      rfl

end

def parseParts (input : List Char) : Except TemplateError (List Part) := do
  let parts ← scanParts [] input
  -- Nothing may follow a query expression: it takes the remainder.
  match parts.findIdx? Part.isQuery with
  | some index => if index + 1 ≠ parts.length then .error .queryExpressionMustBeLast else .ok parts
  | none => .ok parts

def pushVariable (known : List String) (name : String) : Except TemplateError (List String) :=
  if known.contains name then .error (.duplicateVariable name) else .ok (known ++ [name])

/-- The first checks of `UriTemplate.parse`: scheme, authority, and path with query. -/
def splitTemplate (template : List Char) : Except TemplateError (List Char × List Char × List Char) :=
  match template.find? fun c => !(0x21 ≤ c.toNat && c.toNat ≤ 0x7e) with
  | some c => .error (.illegalCharacter c)
  | none =>
    match Text.splitAtText [':', '/', '/'] template with
    | none => .error .notAbsolute
    | some (scheme, rest) =>
      if scheme.isEmpty then .error (.emptyComponent "scheme")
      else
        match Text.splitAtFirst '/' rest with
        | none => .error (.emptyComponent "path")
        | some (authority, afterSlash) =>
          let pathAndQuery := '/' :: afterSlash
          if authority.isEmpty then .error (.emptyComponent "authority")
          else if scheme.contains '{' || authority.contains '{' then .error .variableOutsidePathOrQuery
          else if pathAndQuery.head? ≠ some '/' then .error .pathMustStartWithSlash
          else .ok (scheme, authority, pathAndQuery)

def UriTemplate.parse (template : String) : Except TemplateError UriTemplate := do
  let (scheme, authority, pathAndQuery) ← splitTemplate template.toList
  let parts ← parseParts pathAndQuery
  let variableNames ← (parts.flatMap Part.names).foldlM pushVariable []
  .ok ⟨String.ofList scheme, String.ofList authority, parts, variableNames, template⟩

theorem UriTemplate.parse_eq {text : String} {scheme authority path : List Char} {parts : List Part} {names : List String}
    (split : splitTemplate text.toList = .ok (scheme, authority, path)) (parsed : parseParts path = .ok parts)
    (distinct : (parts.flatMap Part.names).foldlM pushVariable [] = .ok names) :
    UriTemplate.parse text = .ok ⟨String.ofList scheme, String.ofList authority, parts, names, text⟩ := by
  rw [UriTemplate.parse, split]
  simp only [bind, Except.bind, parsed, distinct]

def UriTemplate.defaultConnectUdp (proxyAuthority : String) : Except TemplateError UriTemplate :=
  UriTemplate.parse ("https://" ++ proxyAuthority ++ "/.well-known/masque/udp/\x7btarget_host\x7d/\x7btarget_port\x7d/")

def UriTemplate.defaultConnectTcp (proxyAuthority : String) : Except TemplateError UriTemplate :=
  UriTemplate.parse ("https://" ++ proxyAuthority ++ "/.well-known/masque/tcp/\x7btarget_host\x7d/\x7btarget_port\x7d/")

/-! ## Expansion -/

def lookupValue (values : Values) (name : String) : Except TemplateError String :=
  match values.lookup name with
  | none => .error (.undefinedVariable name)
  | some value => if Text.isEmpty value then .error (.emptyValue name) else .ok value

def expandQuery (values : Values) : List String → Char → Except TemplateError (List Char)
  | [], _ => .ok []
  | name :: names, separator => do
    let value ← lookupValue values name
    let rest ← expandQuery values names '&'
    .ok (separator :: name.toList ++ '=' :: (pctEncode value).toList ++ rest)

def Part.expand (values : Values) : Part → Except TemplateError (List Char)
  | .literal text => .ok text.toList
  | .simple name => do
    let value ← lookupValue values name
    .ok (pctEncode value).toList
  | .query names => expandQuery values names '?'
  | .queryContinuation names => expandQuery values names '&'

def expandParts (values : Values) : List Part → Except TemplateError (List Char)
  | [] => .ok []
  | part :: parts => do
    let front ← part.expand values
    let rest ← expandParts values parts
    .ok (front ++ rest)

def UriTemplate.expandPath (template : UriTemplate) (values : Values) : Except TemplateError String :=
  (expandParts values template.parts).map String.ofList

/-! ## Matching -/

/-- The values of a query, under their names. What has no `=` is passed over. -/
def collectPairs : List (List Char) → Values → Option Values
  | [], found => some found
  | pair :: pairs, found =>
    match Text.splitAtFirst '=' pair with
    | none => collectPairs pairs found
    | some (key, value) =>
      match pctDecode (String.ofList key), pctDecode (String.ofList value) with
      | some key, some value => collectPairs pairs (found.insert key value)
      | _, _ => none

def takeNames (found : Values) : List String → Values → Bool × Values
  | [], values => (true, values)
  | name :: names, values =>
    match found.lookup name with
    | some value => if Text.isEmpty value then (false, values) else takeNames found names (values.insert name value)
    | none => (false, values)

def matchQuery (separator : Char) (names : List String) : List Char → Values → Bool × Values
  | [], values => (false, values)
  | c :: query, values =>
    if c = separator then
      match collectPairs (query.splitOn '&') ∅ with
      | none => (false, values)
      | some found => takeNames found names values
    else (false, values)

/-- The loop over the lengths of a simple expression's piece, from the longest down. The characters it
may span are ASCII, so every length is a character boundary. -/
def shrinkPiece (name : String) (matchTail : List Char → Values → Bool × Values) (input : List Char) :
    Nat → Values → Bool × Values
  | 0, values => (false, values)
  | len + 1, values =>
    match pctDecode (String.ofList (input.take (len + 1))) with
    | none => shrinkPiece name matchTail input len values
    | some decoded =>
      let (matched, values) := matchTail (input.drop (len + 1)) (values.insert name decoded)
      if matched then (true, values) else shrinkPiece name matchTail input len (values.erase name)

/-- Whether the parts match the input, and the values as the search leaves them. -/
def matchParts : List Part → List Char → Values → Bool × Values
  | [], input, values => (input.isEmpty, values)
  | .literal literal :: tail, input, values =>
    if literal.toList.isPrefixOf input then matchParts tail (input.drop literal.toList.length) values
    else (false, values)
  | .simple name :: tail, input, values =>
    shrinkPiece name (matchParts tail) input (input.takeWhile isExpansionSafe).length values
  | .query names :: tail, input, values =>
    let (matched, values) := matchQuery '?' names input values
    (matched && tail.isEmpty, values)
  | .queryContinuation names :: tail, input, values =>
    let (matched, values) := matchQuery '&' names input values
    (matched && tail.isEmpty, values)

def UriTemplate.matchPath (template : UriTemplate) (pathAndQuery : String) : Option Values :=
  let (matched, values) := matchParts template.parts pathAndQuery.toList ∅
  if matched then some values else none

end Skimasque.Core
