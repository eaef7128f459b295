import Mathlib.Algebra.Group.Nat.Defs
import Mathlib.Data.List.DropRight
import Mathlib.Data.List.Basic

/-! Text operations in the vocabulary of the Rust standard library.

A `str` is a sequence of Unicode scalar values, which is what `String` holds. The
operations are defined on the character list, so that they evaluate in the kernel.
-/

set_option autoImplicit false

namespace Skimasque.Library.Text

def isAsciiDigit (c : Char) : Bool := '0' ≤ c && c ≤ '9'

def isAsciiAlphabetic (c : Char) : Bool := ('a' ≤ c && c ≤ 'z') || ('A' ≤ c && c ≤ 'Z')

def isAsciiAlphanumeric (c : Char) : Bool :=
  isAsciiDigit c || isAsciiAlphabetic c

/-- The Unicode `White_Space` property, which `char::is_whitespace` and `str::trim` use. -/
def isWhitespace (c : Char) : Bool :=
  let n := c.toNat
  (0x09 ≤ n && n ≤ 0x0d) || n == 0x20 || n == 0x85 || n == 0xa0 || n == 0x1680 ||
    (0x2000 ≤ n && n ≤ 0x200a) || n == 0x2028 || n == 0x2029 || n == 0x202f || n == 0x205f || n == 0x3000

/-- The Unicode category `Cc`, which `char::is_control` tests. -/
def isControl (c : Char) : Bool := c.toNat ≤ 0x1f || (0x7f ≤ c.toNat && c.toNat ≤ 0x9f)

def toAsciiLowercase (text : String) : String := String.ofList (text.toList.map Char.toLower)

def eqIgnoreAsciiCase (left right : String) : Bool :=
  left.toList.map Char.toLower == right.toList.map Char.toLower

/-- Drop the characters satisfying `test` from both ends. -/
def trimWhile (test : Char → Bool) (text : String) : String :=
  String.ofList ((text.toList.dropWhile test).rdropWhile test)

def trim (text : String) : String := trimWhile isWhitespace text

def trimEndMatches (c : Char) (text : String) : String :=
  String.ofList (text.toList.rdropWhile (· == c))

def startsWith (text head : String) : Bool := head.toList.isPrefixOf text.toList

def endsWith (text tail : String) : Bool := tail.toList.isSuffixOf text.toList

def stripPrefix (head text : String) : Option String :=
  if startsWith text head then some (String.ofList (text.toList.drop head.toList.length)) else none

def stripSuffix (tail text : String) : Option String :=
  if endsWith text tail then
    some (String.ofList (text.toList.take (text.toList.length - tail.toList.length)))
  else none

def splitAtFirst (separator : Char) : List Char → Option (List Char × List Char)
  | [] => none
  | c :: rest =>
    if c = separator then some ([], rest)
    else (splitAtFirst separator rest).map fun parts => (c :: parts.1, parts.2)

def splitOnce (separator : Char) (text : String) : Option (String × String) :=
  (splitAtFirst separator text.toList).map fun parts => (String.ofList parts.1, String.ofList parts.2)

/-- `str::split_once` for a text. -/
def splitAtText (separator : List Char) : List Char → Option (List Char × List Char)
  | [] => if separator.isEmpty then some ([], []) else none
  | c :: rest =>
    if separator.isPrefixOf (c :: rest) then some ([], (c :: rest).drop separator.length)
    else (splitAtText separator rest).map fun parts => (c :: parts.1, parts.2)

def rsplitOnce (separator : Char) (text : String) : Option (String × String) :=
  (splitAtFirst separator text.toList.reverse).map fun parts =>
    (String.ofList parts.2.reverse, String.ofList parts.1.reverse)

/-- `str::split`: the pieces between separators, empty pieces included. -/
def split (separator : Char) (text : String) : List String :=
  (text.toList.splitOn separator).map String.ofList

def contains (text : String) (c : Char) : Bool := text.toList.contains c

/-- `str::contains` for a text. -/
def containsText (text part : String) : Bool := text.toList.tails.any (part.toList.isPrefixOf ·)

def decimalValue (digits : List Char) : Nat :=
  digits.foldl (fun value c => value * 10 + (c.toNat - '0'.toNat)) 0

/-- `str::parse` for an unsigned integer type of that many values: ASCII digits, one `+` allowed. -/
def parseUnsigned (size : Nat) (text : String) : Option Nat :=
  let digits := match text.toList with
    | '+' :: rest => rest
    | all => all
  if digits.isEmpty || !digits.all isAsciiDigit then none
  else if decimalValue digits < size then some (decimalValue digits)
  else none

def parseU16 (text : String) : Option UInt16 := (parseUnsigned (2 ^ 16) text).map UInt16.ofNat

def parseU64 (text : String) : Option UInt64 := (parseUnsigned (2 ^ 64) text).map UInt64.ofNat

/-- `Path::extension` of a single path component: what follows its last dot, unless that dot starts it. -/
def extension (file : String) : Option String :=
  match rsplitOnce '.' file with
  | some (stem, ext) => if stem.toList.isEmpty || file == ".." then none else some ext
  | none => none

def isEmpty (text : String) : Bool := text.toList.isEmpty

theorem isEmpty_iff {text : String} : isEmpty text = true ↔ text = "" := by
  rw [isEmpty, List.isEmpty_iff, ← String.toList_inj]
  rfl

theorem stripPrefix_eq_some_iff {head text rest : String} :
    stripPrefix head text = some rest ↔ text = head ++ rest := by
  unfold stripPrefix startsWith
  rw [← String.toList_inj, String.toList_append]
  split
  · rename_i starts
    obtain ⟨tail, split⟩ := List.isPrefixOf_iff_prefix.mp starts
    rw [← split, List.drop_left, Option.some.injEq, List.append_cancel_left_eq, ← String.toList_inj, String.toList_ofList]
  · rename_i starts
    simp only [reduceCtorEq, false_iff]
    intro split
    exact starts (List.isPrefixOf_iff_prefix.mpr ⟨rest.toList, split.symm⟩)

theorem stripSuffix_eq_some_iff {tail text front : String} :
    stripSuffix tail text = some front ↔ text = front ++ tail := by
  unfold stripSuffix endsWith
  rw [← String.toList_inj, String.toList_append]
  split
  · rename_i ends
    obtain ⟨start, split⟩ := List.isSuffixOf_iff_suffix.mp ends
    rw [← split, List.length_append, Nat.add_sub_cancel, List.take_left, Option.some.injEq,
      List.append_cancel_right_eq, ← String.toList_inj, String.toList_ofList]
  · rename_i ends
    simp only [reduceCtorEq, false_iff]
    intro split
    exact ends (List.isSuffixOf_iff_suffix.mpr ⟨front.toList, split.symm⟩)

theorem toNat_toLower (c : Char) :
    c.toLower.toNat = if 'A'.toNat ≤ c.toNat ∧ c.toNat ≤ 'Z'.toNat then c.toNat + 32 else c.toNat := by
  have upper : (c.val ≥ 'A'.val ∧ c.val ≤ 'Z'.val) = ('A'.toNat ≤ c.toNat ∧ c.toNat ≤ 'Z'.toNat) := by
    simp only [ge_iff_le, UInt32.le_iff_toNat_le]
    rfl
  unfold Char.toLower
  simp only [upper]
  split
  · rename_i range
    simp only [Char.reduceToNat] at range
    change (c.val + ('a'.val - 'A'.val)).toNat = c.toNat + 32
    rw [UInt32.toNat_add]
    exact Nat.mod_eq_of_lt (Nat.lt_of_le_of_lt (Nat.add_le_add_right range.2 32) (by decide))
  · rfl

/-- A character that is no lower-case letter is the lower case of itself only, if of anything. -/
theorem toLower_eq_iff {c d : Char} (plain : d.toNat < 'A'.toNat ∨ 'z'.toNat < d.toNat) : c.toLower = d ↔ c = d := by
  have value := toNat_toLower c
  simp only [← Char.toNat_inj, Char.reduceToNat] at *
  split at value <;> omega

theorem toLower_toLower (c : Char) : c.toLower.toLower = c.toLower := by
  have once := toNat_toLower c
  have twice := toNat_toLower c.toLower
  rw [← Char.toNat_inj]
  simp only [Char.reduceToNat] at *
  split at once <;> split at twice <;> omega

theorem toAsciiLowercase_toAsciiLowercase (text : String) :
    toAsciiLowercase (toAsciiLowercase text) = toAsciiLowercase text := by
  simp only [toAsciiLowercase, String.toList_ofList, List.map_map]
  congr 2
  funext c
  exact toLower_toLower c

theorem toLower_eq_dot_iff {c : Char} : c.toLower = '.' ↔ c = '.' := toLower_eq_iff (.inl (by decide))

theorem splitAtFirst_eq_some_iff {separator : Char} {chars front back : List Char} :
    splitAtFirst separator chars = some (front, back) ↔
      chars = front ++ separator :: back ∧ separator ∉ front := by
  induction chars generalizing front with
  | nil => simp [splitAtFirst]
  | cons c rest ih =>
    by_cases same : c = separator
    · subst same
      cases front with
      | nil => simp [splitAtFirst]
      | cons head front =>
        constructor
        · intro split
          simp [splitAtFirst] at split
        · intro ⟨whole, clear⟩
          cases whole
          exact absurd List.mem_cons_self clear
    · cases front with
      | nil => simp [splitAtFirst, same]
      | cons head front =>
        rw [splitAtFirst, if_neg same, Option.map_eq_some_iff]
        constructor
        · rintro ⟨⟨front', back'⟩, found, split⟩
          cases split
          obtain ⟨rfl, clear⟩ := ih.mp found
          exact ⟨rfl, by simp [Ne.symm same, clear]⟩
        · rintro ⟨whole, clear⟩
          obtain ⟨rfl, rfl⟩ := List.cons.inj whole
          rw [List.mem_cons, not_or] at clear
          exact ⟨(front, back), ih.mpr ⟨rfl, clear.2⟩, rfl⟩

theorem splitAtFirst_eq_none_iff {separator : Char} {chars : List Char} :
    splitAtFirst separator chars = none ↔ separator ∉ chars := by
  induction chars with
  | nil => simp [splitAtFirst]
  | cons c rest ih =>
    by_cases same : c = separator
    · simp [splitAtFirst, same]
    · simp [splitAtFirst, same, ih, Ne.symm same]

/-- A separator that ends in a character of its own is found where that character first stands. -/
theorem splitAtText_append {start front rest : List Char} {last : Char} (startClear : last ∉ start)
    (frontClear : last ∉ front) : splitAtText (start ++ [last]) (front ++ (start ++ [last]) ++ rest) = some (front, rest) := by
  induction front with
  | nil =>
    rw [List.nil_append]
    obtain ⟨c, more, whole⟩ := List.exists_cons_of_ne_nil (List.concat_ne_nil last start)
    have found : (start ++ [last]).isPrefixOf (start ++ [last] ++ rest) = true :=
      List.isPrefixOf_iff_prefix.mpr (List.prefix_append _ _)
    rw [whole] at found ⊢
    rw [List.cons_append] at found ⊢
    rw [splitAtText, if_pos found]
    simp
  | cons c front ih =>
    have notHere : ¬ (start ++ [last]).isPrefixOf (c :: (front ++ (start ++ [last]) ++ rest)) = true := by
      intro here
      obtain ⟨tail, same⟩ := List.isPrefixOf_iff_prefix.mp here
      -- The last character of the separator would stand in two places.
      have early : splitAtFirst last (start ++ [last] ++ tail) = some (start, tail) :=
        splitAtFirst_eq_some_iff.mpr ⟨by simp, startClear⟩
      have late : splitAtFirst last (start ++ [last] ++ tail) = some (c :: (front ++ start), rest) := by
        rw [same]
        refine splitAtFirst_eq_some_iff.mpr ⟨by simp, ?_⟩
        rw [← List.cons_append, List.mem_append, not_or]
        exact ⟨frontClear, startClear⟩
      rw [early, Option.some.injEq, Prod.mk.injEq] at late
      have lengths := congrArg List.length late.1
      simp at lengths
      omega
    rw [List.mem_cons, not_or] at frontClear
    rw [List.cons_append, List.cons_append, splitAtText, if_neg notHere, ih frontClear.2]
    rfl

theorem splitOnce_eq_some_iff {separator : Char} {text front back : String} :
    splitOnce separator text = some (front, back) ↔
      text.toList = front.toList ++ separator :: back.toList ∧ separator ∉ front.toList := by
  rw [splitOnce, Option.map_eq_some_iff, ← splitAtFirst_eq_some_iff]
  constructor
  · rintro ⟨parts, found, same⟩
    cases same
    simpa using found
  · intro found
    exact ⟨_, found, by simp⟩

theorem rsplitOnce_eq_some_iff {separator : Char} {text front back : String} :
    rsplitOnce separator text = some (front, back) ↔
      text.toList = front.toList ++ separator :: back.toList ∧ separator ∉ back.toList := by
  rw [rsplitOnce, Option.map_eq_some_iff]
  constructor
  · rintro ⟨parts, found, same⟩
    cases same
    obtain ⟨whole, clear⟩ := splitAtFirst_eq_some_iff.mp found
    have whole := congrArg List.reverse whole
    simp only [List.reverse_reverse, List.reverse_append, List.reverse_cons, List.append_assoc] at whole
    simpa [whole] using clear
  · rintro ⟨whole, clear⟩
    refine ⟨(back.toList.reverse, front.toList.reverse), splitAtFirst_eq_some_iff.mpr ⟨?_, ?_⟩, ?_⟩
    · rw [whole]
      simp
    · simpa using clear
    · simp

theorem rsplitOnce_eq_none_iff {separator : Char} {text : String} :
    rsplitOnce separator text = none ↔ separator ∉ text.toList := by
  rw [rsplitOnce, Option.map_eq_none_iff, splitAtFirst_eq_none_iff, List.mem_reverse]

/-- A number is written with digits and a sign. -/
theorem parseUnsigned_chars {size value : Nat} {text : String} (parsed : parseUnsigned size text = some value) :
    ∀ c ∈ text.toList, isAsciiDigit c ∨ c = '+' := by
  intro c member
  simp only [parseUnsigned, Option.ite_none_left_eq_some, Bool.or_eq_true, Bool.not_eq_true', not_or,
    Bool.not_eq_false] at parsed
  obtain ⟨⟨-, digits⟩, -⟩ := parsed
  split at digits
  · rename_i rest signed
    rw [signed] at member
    rcases List.mem_cons.mp member with rfl | member
    · exact .inr rfl
    · exact .inl (List.all_eq_true.mp digits c member)
  · exact .inl (List.all_eq_true.mp digits c member)

theorem parseU16_chars {text : String} {value : UInt16} (parsed : parseU16 text = some value) :
    ∀ c ∈ text.toList, isAsciiDigit c ∨ c = '+' := by
  obtain ⟨number, parsed, -⟩ := Option.map_eq_some_iff.mp parsed
  exact parseUnsigned_chars parsed

theorem decimalValue_toDigits (value : Nat) : decimalValue (Nat.toDigits 10 value) = value := by
  have read : Nat.ofDigitChars 10 (Nat.toDigits 10 value) 0 = value := Nat.ofDigitChars_ten_toDigits
  rw [Nat.ofDigitChars_eq_foldl] at read
  simpa only [decimalValue, Nat.mul_comm] using read

theorem isAsciiDigit_of_mem_toDigits {value : Nat} {c : Char} (member : c ∈ Nat.toDigits 10 value) :
    isAsciiDigit c = true := by
  have digit := Nat.isDigit_of_mem_toDigits (by decide) (by decide) member
  simpa [isAsciiDigit, Char.isDigit, Char.le_def] using digit

theorem toList_toString_nat (value : Nat) : (toString value).toList = Nat.toDigits 10 value := Nat.toList_repr

theorem not_mem_toString_of_not_digit {c : Char} (other : isAsciiDigit c = false) (value : Nat) :
    c ∉ (toString value).toList := by
  intro member
  rw [toList_toString_nat] at member
  rw [isAsciiDigit_of_mem_toDigits member] at other
  cases other

/-- Digits alone are their value, if the type has it. -/
theorem parseUnsigned_digits {size : Nat} {digits : List Char} (filled : digits ≠ [])
    (ascii : ∀ c ∈ digits, isAsciiDigit c = true) :
    parseUnsigned size (String.ofList digits) =
      if decimalValue digits < size then some (decimalValue digits) else none := by
  have all : digits.all isAsciiDigit = true := List.all_eq_true.mpr ascii
  cases digits with
  | nil => exact absurd rfl filled
  | cons c rest =>
    have unsigned : c ≠ '+' := by
      rintro rfl
      exact absurd (ascii _ List.mem_cons_self) (by decide)
    simp [parseUnsigned, unsigned, all]

/-- A number is read back from its decimal digits. -/
theorem parseUnsigned_toString {size value : Nat} (fits : value < size) : parseUnsigned size (toString value) = some value := by
  have read := @parseUnsigned_digits size (Nat.toDigits 10 value) Nat.toDigits_ne_nil fun c member =>
    isAsciiDigit_of_mem_toDigits member
  rw [decimalValue_toDigits, if_pos fits, ← toList_toString_nat, String.ofList_toList] at read
  exact read

theorem parseU16_toString (value : UInt16) : parseU16 (toString value.toNat) = some value := by
  rw [parseU16, parseUnsigned_toString value.toNat_lt, Option.map_some, UInt16.ofNat_toNat]

theorem trimWhile_eq_self {test : Char → Bool} {text : String} (clear : ∀ c ∈ text.toList, test c = false) :
    trimWhile test text = text := by
  have front : text.toList.dropWhile test = text.toList := by
    rw [List.dropWhile_eq_self_iff]
    intro some
    simp [clear _ (List.getElem_mem some)]
  have back : text.toList.rdropWhile test = text.toList := by
    rw [List.rdropWhile_eq_self_iff]
    intro some
    simp [clear _ (List.getLast_mem some)]
  rw [trimWhile, front, back, String.ofList_toList]

theorem trim_eq_self {text : String} (clear : ∀ c ∈ text.toList, isWhitespace c = false) : trim text = text :=
  trimWhile_eq_self clear

theorem trimWhile_trimWhile (test : Char → Bool) (text : String) : trimWhile test (trimWhile test text) = trimWhile test text := by
  generalize chars : (text.toList.dropWhile test).rdropWhile test = kept
  have back : kept.rdropWhile test = kept := by rw [← chars, List.rdropWhile_idempotent]
  have front : kept.dropWhile test = kept := by
    rw [List.dropWhile_eq_self_iff]
    intro some
    have start : kept <+: text.toList.dropWhile test := chars ▸ List.rdropWhile_prefix _ _
    rw [start.getElem some]
    exact List.dropWhile_get_zero_not test text.toList (Nat.lt_of_lt_of_le some start.length_le)
  simp only [trimWhile, String.toList_ofList, chars, front, back]

theorem trim_trim (text : String) : trim (trim text) = trim text := trimWhile_trimWhile isWhitespace text

theorem splitOnce_eq_none_iff {separator : Char} {text : String} :
    splitOnce separator text = none ↔ separator ∉ text.toList := by
  rw [splitOnce, Option.map_eq_none_iff, splitAtFirst_eq_none_iff]

theorem splitOnce_eq_none {separator : Char} {text : String} (absent : separator ∉ text.toList) :
    splitOnce separator text = none := splitOnce_eq_none_iff.mpr absent

theorem stripPrefix_eq_none {head text : String} {c : Char} (first : head.toList.head? = some c)
    (absent : c ∉ text.toList) : stripPrefix head text = none := by
  rw [Option.eq_none_iff_forall_ne_some]
  intro rest stripped
  rw [stripPrefix_eq_some_iff.mp stripped, String.toList_append] at absent
  exact absent (List.mem_append_left _ (List.mem_of_head? first))

/-- The part between the first two separators. -/
theorem split_second {separator : Char} {first second rest : List Char} (firstClear : separator ∉ first)
    (secondClear : separator ∉ second) :
    (split separator (String.ofList (first ++ separator :: (second ++ separator :: rest))))[1]? =
      some (String.ofList second) := by
  rw [split, String.toList_ofList, List.splitOn_append_cons_self_of_not_mem firstClear,
    List.splitOn_append_cons_self_of_not_mem secondClear]
  rfl

theorem cons_eq_append_cons_iff {separator : Char} {gap first second : List Char} :
    separator :: first = gap ++ separator :: second ↔
      (gap = [] ∧ first = second) ∨ ∃ part, gap = separator :: part ∧ first = part ++ separator :: second := by
  cases gap with
  | nil => simp
  | cons c part =>
    simp only [List.cons_append, List.cons.injEq, reduceCtorEq, false_and, false_or]
    constructor
    · intro ⟨same, rest⟩
      exact ⟨part, ⟨same.symm, rfl⟩, rest⟩
    · intro ⟨_, ⟨same, rfl⟩, rest⟩
      exact ⟨same.symm, rest⟩

/-- Two ways to join texts with one separator agree only where a part of the one has the separator in it. -/
theorem join_eq_join_iff {separator : Char} {left right first second : List Char} :
    left ++ separator :: first = right ++ separator :: second ↔
      (left = right ∧ first = second) ∨
        (∃ part, left = right ++ separator :: part ∧ second = part ++ separator :: first) ∨
        ∃ part, right = left ++ separator :: part ∧ first = part ++ separator :: second := by
  constructor
  · intro same
    obtain ⟨gap, longer, rest⟩ | ⟨gap, longer, rest⟩ := List.append_eq_append_iff.mp same
    · obtain ⟨rfl, same⟩ | ⟨part, rfl, tail⟩ := cons_eq_append_cons_iff.mp rest
      · exact .inl ⟨by rw [longer, List.append_nil], same⟩
      · exact .inr (.inr ⟨part, longer, tail⟩)
    · obtain ⟨rfl, same⟩ | ⟨part, rfl, tail⟩ := cons_eq_append_cons_iff.mp rest
      · exact .inl ⟨by rw [longer, List.append_nil], same.symm⟩
      · exact .inr (.inl ⟨part, longer, tail⟩)
  · rintro (⟨rfl, rfl⟩ | ⟨part, rfl, rfl⟩ | ⟨part, rfl, rfl⟩)
    · rfl
    · rw [List.append_assoc, List.cons_append]
    · rw [List.append_assoc, List.cons_append]

theorem join_inj {separator : Char} {left right first second : List Char} (leftClear : separator ∉ left)
    (rightClear : separator ∉ right) (same : left ++ separator :: first = right ++ separator :: second) :
    left = right ∧ first = second := by
  rcases join_eq_join_iff.mp same with equal | ⟨part, longer, -⟩ | ⟨part, longer, -⟩
  · exact equal
  · exact absurd (longer ▸ by simp) leftClear
  · exact absurd (longer ▸ by simp) rightClear

/-- A piece between separators lies in the text and has none itself. -/
theorem mem_splitOn {separator : Char} {chars piece : List Char} (member : piece ∈ chars.splitOn separator) :
    piece <:+: chars ∧ separator ∉ piece := by
  induction length : chars.length using Nat.strong_induction_on generalizing chars with
  | _ n ih =>
    cases split : splitAtFirst separator chars with
    | none =>
      have absent := splitAtFirst_eq_none_iff.mp split
      rw [List.splitOn_eq_singleton absent, List.mem_singleton] at member
      rw [member]
      exact ⟨List.infix_rfl, absent⟩
    | some parts =>
      obtain ⟨rfl, absent⟩ := splitAtFirst_eq_some_iff.mp split
      rw [List.splitOn_append_cons_self_of_not_mem absent, List.mem_cons] at member
      rcases member with rfl | later
      · exact ⟨(List.prefix_append ..).isInfix, absent⟩
      · obtain ⟨inside, clear⟩ := ih parts.2.length (by rw [← length, List.length_append, List.length_cons]; omega) later rfl
        exact ⟨inside.trans (((List.suffix_cons ..).trans (List.suffix_append ..)).isInfix), clear⟩

theorem splitOn_eq_three_iff {separator : Char} {chars first second third : List Char} :
    chars.splitOn separator = [first, second, third] ↔
      chars = first ++ separator :: (second ++ separator :: third) ∧
        separator ∉ first ∧ separator ∉ second ∧ separator ∉ third := by
  constructor
  · intro split
    have clear : ∀ piece ∈ [first, second, third], separator ∉ piece := by
      intro piece member
      rw [← split] at member
      exact (mem_splitOn member).2
    have whole : [separator].intercalate (chars.splitOn separator) = chars := List.intercalate_splitOn _
    rw [split] at whole
    simp only [List.forall_mem_cons] at clear
    refine ⟨?_, clear.1, clear.2.1, clear.2.2.1⟩
    rw [← whole]
    simp [List.intercalate]
  · rintro ⟨rfl, firstClear, secondClear, thirdClear⟩
    rw [List.splitOn_append_cons_self_of_not_mem firstClear, List.splitOn_append_cons_self_of_not_mem secondClear,
      List.splitOn_eq_singleton thirdClear]

theorem takeWhile_of_splitAtFirst {separator : Char} {chars front back : List Char}
    (split : splitAtFirst separator chars = some (front, back)) : chars.takeWhile (· != separator) = front := by
  obtain ⟨rfl, clear⟩ := splitAtFirst_eq_some_iff.mp split
  rw [List.takeWhile_append_of_pos]
  · simp
  · intro c member
    exact bne_iff_ne.mpr fun same => clear (same ▸ member)

end Skimasque.Library.Text
