import Skimasque.Gateway.Request
import Skimasque.Library.Encoding
import Skimasque.Library.Quoted

/-! The `Proxy-Status` header of a refusal: a token for the proxy, the error, and the detail as a quoted string. -/

set_option autoImplicit false

namespace Skimasque.Gateway
open Library

/-- `HeaderValue::from_str`: any bytes but the control characters. -/
def HeaderValue.fromStr (text : String) : Option HeaderValue :=
  let bytes := Encoding.utf8 text
  if bytes.all fun byte => (32 ≤ byte && byte != 127) || byte == 9 then some bytes else none

/-- `HeaderMap::insert`: the only value of its name from then on. -/
def HeaderMap.insert (headers : HeaderMap) (name : String) (value : HeaderValue) : HeaderMap :=
  headers.filter (fun header => header.1 != name) ++ [(name, value)]

structure Response where
  status : Nat
  headers : HeaderMap
  deriving DecidableEq, Repr

/-- Reduce a name to something usable as a Structured Fields token. -/
def structuredToken (name : String) : String :=
  let cleaned := name.toList.filter fun c => Text.isAsciiAlphanumeric c || c == '-' || c == '_' || c == '.'
  match cleaned with
  | [] => "proxy"
  | first :: _ => if Text.isAsciiAlphabetic first then String.ofList cleaned else "proxy"

/-- Escape a Structured Fields string, and keep it short enough for a header. -/
def structuredString (detail : String) : String :=
  let shown := detail.toList.filter fun c => !Text.isControl c
  let escaped := shown.flatMap fun c => if c == '"' || c == '\\' then ['\\', c] else [c]
  String.ofList (escaped.take 256)

def proxyStatus (proxyName error detail : String) : String :=
  structuredToken proxyName ++ "; error=" ++ error ++ "; details=\"" ++ structuredString detail ++ "\""

def rejectionResponse (rejection : Rejection) (proxyName : String) : Response :=
  let extra : HeaderMap := rejection.headers.map fun header => (header.1, Encoding.utf8 header.2)
  let headers := match rejection.proxyError with
    | none => extra
    | some error =>
      match HeaderValue.fromStr (proxyStatus proxyName error rejection.detail) with
      | some value => extra.insert "proxy-status" value
      | none => extra
  ⟨rejection.status, headers⟩

/-- How the client reads the header of a refusal. -/
def Response.proxyStatus (response : Response) : Option String :=
  (HeaderMap.get response.headers "proxy-status").bind HeaderValue.toStr

example : structuredString "say \"hi\"\n" = "say \\\"hi\\\"" := by decide

/-! ## Header values -/

theorem utf8_ascii {text : String} (ascii : ∀ c ∈ text.toList, c.toNat < 128) : Encoding.utf8 text = headerText text := by
  have single : ∀ c ∈ text.toList, String.utf8EncodeChar c = [UInt8.ofNat c.toNat] :=
    fun c member => Encoding.encodeChar_ascii (ascii c member)
  rw [Encoding.utf8, headerText, List.flatMap_congr single, List.map_eq_flatMap]

/-- Text without control characters is a header value. -/
theorem fromStr_eq_some {text : String} (clear : ∀ c ∈ text.toList, 32 ≤ c.toNat ∧ c.toNat ≠ 127) :
    HeaderValue.fromStr text = some (Encoding.utf8 text) := by
  unfold HeaderValue.fromStr
  rw [if_pos]
  rw [List.all_eq_true]
  intro byte member
  obtain ⟨c, inside, encoded⟩ := List.mem_flatMap.mp member
  have bounds := clear c inside
  have valid : 32 ≤ byte.toNat ∧ byte.toNat ≠ 127 := by
    by_cases ascii : c.toNat < 128
    · rw [Encoding.encodeChar_ascii ascii, List.mem_singleton] at encoded
      rw [encoded, UInt8.toNat_ofNat', Nat.mod_eq_of_lt (by omega)]
      exact bounds
    · have large := Encoding.encodeChar_high (Nat.le_of_not_lt ascii) byte encoded
      omega
  have low : (32 : UInt8) ≤ byte := UInt8.le_iff_toNat_le.mpr valid.1
  have other : byte ≠ 127 := fun same => valid.2 (congrArg UInt8.toNat same)
  simp [low, other]

/-- Text is read from a header value only where all of it is ASCII. -/
theorem ascii_of_toStr {text shown : String} (read : HeaderValue.toStr (Encoding.utf8 text) = some shown) {c : Char}
    (member : c ∈ text.toList) : c.toNat < 128 := by
  by_contra high
  unfold HeaderValue.toStr at read
  split at read
  · rename_i visible
    obtain ⟨byte, rest, encoded⟩ := List.exists_cons_of_ne_nil (String.utf8EncodeChar_ne_nil : String.utf8EncodeChar c ≠ [])
    have first : byte ∈ String.utf8EncodeChar c := by simp [encoded]
    have large := Encoding.encodeChar_high (Nat.le_of_not_lt high) byte first
    have inside : byte ∈ Encoding.utf8 text := List.mem_flatMap.mpr ⟨c, member, first⟩
    have small := List.all_eq_true.mp visible byte inside
    simp only [Bool.or_eq_true, Bool.and_eq_true, decide_eq_true_eq, UInt8.lt_iff_toNat_lt, beq_iff_eq] at small
    rcases small with ⟨-, small⟩ | rfl
    · have bound : byte.toNat < 127 := small
      omega
    · exact absurd large (by decide)
  · cases read

theorem get_insert_self (headers : HeaderMap) (name : String) (value : HeaderValue) :
    HeaderMap.get (headers.insert name value) name = some value := by
  have cleared : (headers.filter fun header => header.1 != name).find? (fun header => header.1 == name) = none := by
    rw [List.find?_eq_none]
    intro header member
    simpa using (List.mem_filter.mp member).2
  simp [HeaderMap.get, HeaderMap.insert, List.find?_append, cleared]

/-! ## What a refusal carries -/

/-- A character of a Structured Fields token, after the first. -/
def isTokenChar (c : Char) : Bool :=
  Text.isAsciiAlphanumeric c ||
    ['!', '#', '$', '%', '&', '\x27', '*', '+', '-', '.', '^', '_', '\x60', '|', '~', ':', '/'].contains c

/-- A Structured Fields token. -/
def IsToken (text : String) : Prop :=
  ∃ first rest, text.toList = first :: rest ∧ (Text.isAsciiAlphabetic first = true ∨ first = '*') ∧
    ∀ c ∈ rest, isTokenChar c = true

/-- The backslash and the double quote. -/
def detailMarks : Quoted.Marks Char := ⟨'\\', '"', by decide⟩

/-- What of a detail is shown at all. -/
def shownDetail (detail : String) : List Char := detail.toList.filter fun c => !Text.isControl c

/-- One item with its two parameters: the quoted one is visible ASCII, and the last quote is the only
one that ends it. -/
def WellFormedItem (value error : String) : Prop :=
  IsToken error ∧ ∃ token body, value = token ++ "; error=" ++ error ++ "; details=\"" ++ body ++ "\"" ∧
    IsToken token ∧ (∀ c ∈ body.toList, 32 ≤ c.toNat ∧ c.toNat < 127) ∧ Quoted.Sealed detailMarks body.toList

theorem structuredString_toList (detail : String) :
    (structuredString detail).toList = (Quoted.escape detailMarks (shownDetail detail)).take 256 := by
  rw [structuredString, String.toList_ofList]
  congr 2
  funext c
  simp only [Quoted.escapeOne, Quoted.isMark, detailMarks, Bool.or_comm]
  rfl

theorem isTokenChar_bounds {c : Char} (inside : isTokenChar c = true) :
    32 ≤ c.toNat ∧ c.toNat < 127 ∧ c ≠ '"' := by
  simp [isTokenChar, Text.isAsciiAlphanumeric, Text.isAsciiDigit, Text.isAsciiAlphabetic, Char.le_def,
    UInt32.le_iff_toNat_le, ← Char.toNat_inj] at inside ⊢
  omega

theorem structuredToken_isToken (name : String) : IsToken (structuredToken name) := by
  have proxy : IsToken "proxy" := ⟨'p', "roxy".toList, rfl, .inl rfl, List.all_eq_true.mp (by decide)⟩
  unfold structuredToken
  dsimp only
  split
  · exact proxy
  · rename_i first rest cleaned
    split
    · rename_i letter
      refine ⟨first, rest, by rw [cleaned, String.toList_ofList], .inl letter, fun c member => ?_⟩
      have kept : c ∈ first :: rest := List.mem_cons_of_mem _ member
      rw [← cleaned, List.mem_filter] at kept
      have ok := kept.2
      simp only [Bool.or_eq_true, beq_iff_eq] at ok
      rcases ok with ((alnum | rfl) | rfl) | rfl
      · simp [isTokenChar, alnum]
      · decide
      · decide
      · decide
    · exact proxy

theorem IsToken.visible {text : String} (token : IsToken text) :
    ∀ c ∈ text.toList, 32 ≤ c.toNat ∧ c.toNat < 127 ∧ c ≠ '"' := by
  obtain ⟨first, rest, whole, start, later⟩ := token
  intro c member
  apply isTokenChar_bounds
  rw [whole, List.mem_cons] at member
  rcases member with rfl | member
  · rcases start with letter | rfl
    · simp [isTokenChar, Text.isAsciiAlphanumeric, letter]
    · decide
  · exact later c member

/-- The characters that start before the cut are ASCII, and none is cut from its backslash. -/
def KeptClean (detail : String) : Prop :=
  (∀ front c back, shownDetail detail = front ++ c :: back → (Quoted.escape detailMarks front).length < 256 →
    c.toNat < 128) ∧
  ¬ Quoted.Severed detailMarks 256 (shownDetail detail)

theorem mem_structuredString_iff {detail : String} {c : Char} (high : 128 ≤ c.toNat) :
    c ∈ (structuredString detail).toList ↔
      ∃ front back, shownDetail detail = front ++ c :: back ∧ (Quoted.escape detailMarks front).length < 256 := by
  have notSlash : c ≠ '\\' := by
    rintro rfl
    exact absurd high (by decide)
  have notQuote : c ≠ '"' := by
    rintro rfl
    exact absurd high (by decide)
  have plain : Quoted.isMark detailMarks c = false := by simp [Quoted.isMark, detailMarks, notSlash, notQuote]
  rw [structuredString_toList]
  exact Quoted.mem_take_escape_iff plain

theorem structuredString_clear (detail : String) :
    ∀ c ∈ (structuredString detail).toList, 32 ≤ c.toNat ∧ c.toNat ≠ 127 := by
  intro c member
  rw [structuredString_toList] at member
  obtain ⟨original, shown, made⟩ := List.mem_flatMap.mp (List.mem_of_mem_take member)
  have control : Text.isControl original = false := by simpa using (List.mem_filter.mp shown).2
  have clear : 32 ≤ original.toNat ∧ original.toNat ≠ 127 := by
    simp [Text.isControl] at control
    omega
  unfold Quoted.escapeOne at made
  split at made
  · rcases List.mem_cons.mp made with rfl | same
    · decide
    · rw [List.mem_singleton.mp same]
      exact clear
  · rw [List.mem_singleton.mp made]
    exact clear

/-- A header value is written around every detail. -/
theorem proxyStatus_clear {error : String} (proxyName detail : String) (token : IsToken error) :
    ∀ c ∈ (proxyStatus proxyName error detail).toList,
      (32 ≤ c.toNat ∧ c.toNat < 127) ∨ c ∈ (structuredString detail).toList := by
  intro c member
  have checked : ("; error=".toList ++ "; details=\"".toList ++ "\"".toList).all
      (fun c => 32 ≤ c.toNat && c.toNat < 127) = true := by decide
  have fixed (c : Char) (literal : (c ∈ "; error=".toList ∨ c ∈ "; details=\"".toList) ∨ c ∈ "\"".toList) :
      32 ≤ c.toNat ∧ c.toNat < 127 := by
    simpa using List.all_eq_true.mp checked c (by simpa only [List.mem_append] using literal)
  simp only [proxyStatus, String.toList_append, List.mem_append] at member
  rcases member with ((((name | literal) | inside) | literal) | detail) | literal
  · have bounds := (structuredToken_isToken proxyName).visible c name
    exact .inl ⟨bounds.1, bounds.2.1⟩
  · exact .inl (fixed c (.inl (.inl literal)))
  · have bounds := token.visible c inside
    exact .inl ⟨bounds.1, bounds.2.1⟩
  · exact .inl (fixed c (.inl (.inr literal)))
  · exact .inr detail
  · exact .inl (fixed c (.inr literal))

/-- The header is never left out. -/
theorem get_proxyStatus {rejection : Rejection} {error : String} (proxyName : String)
    (refused : rejection.proxyError = some error) (token : IsToken error) :
    HeaderMap.get (rejectionResponse rejection proxyName).headers "proxy-status" =
      some (Encoding.utf8 (proxyStatus proxyName error rejection.detail)) := by
  have clear : ∀ c ∈ (proxyStatus proxyName error rejection.detail).toList, 32 ≤ c.toNat ∧ c.toNat ≠ 127 := by
    intro c member
    rcases proxyStatus_clear proxyName rejection.detail token c member with visible | inside
    · omega
    · exact structuredString_clear rejection.detail c inside
  simp only [rejectionResponse, refused, fromStr_eq_some clear]
  exact get_insert_self _ _ _

theorem KeptClean.ascii {detail : String} (clean : KeptClean detail) :
    ∀ c ∈ (structuredString detail).toList, c.toNat < 128 := by
  intro c member
  by_contra high
  obtain ⟨front, back, whole, short⟩ := (mem_structuredString_iff (Nat.le_of_not_lt high)).mp member
  exact high (clean.1 front c back whole short)

/-- An ASCII detail that needs no cut is clean. -/
theorem keptClean_of_short {detail : String} (ascii : ∀ c ∈ detail.toList, c.toNat < 128)
    (short : (Quoted.escape detailMarks (shownDetail detail)).length ≤ 256) : KeptClean detail := by
  constructor
  · intro front c back whole _
    have shown : c ∈ shownDetail detail := by simp [whole]
    exact ascii c (List.mem_filter.mp shown).1
  · rintro ⟨front, c, back, whole, mark, cut⟩
    rw [whole, Quoted.escape_append, Quoted.escape_cons_mark mark, List.length_append, List.length_cons,
      List.length_cons] at short
    omega

/-- What is kept of a detail is visible where it is ASCII. -/
theorem structuredString_visible {detail : String} (ascii : ∀ c ∈ (structuredString detail).toList, c.toNat < 128) :
    ∀ c ∈ (structuredString detail).toList, 32 ≤ c.toNat ∧ c.toNat < 127 := by
  intro c member
  have clear := structuredString_clear detail c member
  have low := ascii c member
  omega

/-- The client reads the value of an ASCII detail as it was written. -/
theorem toStr_proxyStatus {error detail : String} (proxyName : String) (token : IsToken error)
    (ascii : ∀ c ∈ (structuredString detail).toList, c.toNat < 128) :
    HeaderValue.toStr (Encoding.utf8 (proxyStatus proxyName error detail)) = some (proxyStatus proxyName error detail) := by
  have visible : ∀ c ∈ (proxyStatus proxyName error detail).toList, 32 ≤ c.toNat ∧ c.toNat < 127 := by
    intro c member
    rcases proxyStatus_clear proxyName detail token c member with visible | inside
    · exact visible
    · exact structuredString_visible ascii c inside
  rw [utf8_ascii fun c member => Nat.lt_of_lt_of_le (visible c member).2 (by decide)]
  exact toStr_headerText visible

/-- What the client reads is ASCII to the end of the detail. -/
theorem ascii_of_read {error detail proxyName text : String}
    (read : HeaderValue.toStr (Encoding.utf8 (proxyStatus proxyName error detail)) = some text) :
    ∀ c ∈ (structuredString detail).toList, c.toNat < 128 := by
  intro c member
  apply ascii_of_toStr read
  simp only [proxyStatus, String.toList_append, List.mem_append]
  exact .inl (.inr member)

theorem proxyStatus_wellFormed {error detail : String} (proxyName : String) (token : IsToken error) (clean : KeptClean detail) :
    WellFormedItem (proxyStatus proxyName error detail) error := by
  refine ⟨token, structuredToken proxyName, structuredString detail, rfl, structuredToken_isToken proxyName,
    structuredString_visible clean.ascii, ?_⟩
  obtain ⟨kept, -, cut, -⟩ := Quoted.take_of_not_severed clean.2
  rw [structuredString_toList, cut]
  exact Quoted.sealed_escape kept

end Skimasque.Gateway
