import Skimasque.Library.Address
import Skimasque.Library.Text

/-! Reading IP addresses from text, as `IpAddr::from_str` of the Rust standard library does.

Each reader takes the characters left and returns what it read and what is left after it.
-/

set_option autoImplicit false

namespace Skimasque.Library.AddressText
open Address

/-- A reader of a value off the front of some text. -/
abbrev Reader (α : Type) := List Char → Option (α × List Char)

def toDigit (radix : Nat) (c : Char) : Option Nat :=
  let digit :=
    if '0' ≤ c ∧ c ≤ '9' then some (c.toNat - '0'.toNat)
    else if 'a' ≤ c ∧ c ≤ 'z' then some (c.toNat - 'a'.toNat + 10)
    else if 'A' ≤ c ∧ c ≤ 'Z' then some (c.toNat - 'A'.toNat + 10)
    else none
  digit.filter (· < radix)

def readGivenChar (want : Char) : Reader Unit
  | c :: rest => if c = want then some ((), rest) else none
  | [] => none

/-- As many digits as there are; more than `maxDigits`, a value of `size` or more, or a needless
leading zero where none is allowed, and there is no number here. -/
def readNumber (radix maxDigits size : Nat) (allowZeroPrefix : Bool) : Reader Nat := fun input =>
  let digits := (input.takeWhile fun c => (toDigit radix c).isSome).filterMap (toDigit radix)
  let value := digits.foldl (fun value digit => value * radix + digit) 0
  if digits.isEmpty || maxDigits < digits.length || size ≤ value then none
  else if !allowZeroPrefix && input.head? == some '0' && 1 < digits.length then none
  else some (value, input.drop digits.length)

def readSeparator {α : Type} (separator : Char) (index : Nat) (inner : Reader α) : Reader α :=
  fun input =>
  if 0 < index then (readGivenChar separator input).bind fun found => inner found.2 else inner input

/-- Three-digit octets between dots, `left` of them from `index` on. -/
def readOctets : Nat → Nat → Reader (List Nat)
  | 0, _, input => some ([], input)
  | left + 1, index, input => do
    let (octet, input) ← readSeparator '.' index (readNumber 10 3 256 false) input
    let (octets, input) ← readOctets left (index + 1) input
    return (octet :: octets, input)

def readIpv4Addr : Reader (List Nat) := readOctets 4 0

/-- The groups read, and whether an embedded IPv4 address ended them. -/
def readGroups : Nat → Nat → List Char → List Nat × Bool × List Char
  | 0, _, input => ([], false, input)
  | left + 1, index, input =>
    let embedded := if 0 < left then readSeparator ':' index readIpv4Addr input else none
    match embedded with
    | some ([one, two, three, four], rest) => ([one * 256 + two, three * 256 + four], true, rest)
    | _ =>
      match readSeparator ':' index (readNumber 16 4 65536 true) input with
      | some (group, rest) =>
        let (groups, ipv4, rest) := readGroups left (index + 1) rest
        (group :: groups, ipv4, rest)
      | none => ([], false, input)

def readIpv6Addr : Reader (List Nat) := fun input =>
  let (head, ipv4, rest) := readGroups 8 0 input
  if head.length = 8 then some (head, rest)
  else if ipv4 then none
  else do
    let (_, rest) ← readGivenChar ':' rest
    let (_, rest) ← readGivenChar ':' rest
    let (tail, _, rest) := readGroups (8 - (head.length + 1)) 0 rest
    return (head ++ List.replicate (8 - head.length - tail.length) 0 ++ tail, rest)

/-- Put units of `width` bits together, most significant first. -/
def assemble (width : Nat) (parts : List Nat) : Nat :=
  parts.foldl (fun value part => value * 2 ^ width + part) 0

def parseIpv4 (text : String) : Option (BitVec 32) :=
  match readIpv4Addr text.toList with
  | some (octets, []) => some (BitVec.ofNat 32 (assemble 8 octets))
  | _ => none

def parseIpv6 (text : String) : Option (BitVec 128) :=
  match readIpv6Addr text.toList with
  | some (segments, []) => some (BitVec.ofNat 128 (assemble 16 segments))
  | _ => none

def parseIpAddr (text : String) : Option IpAddr :=
  match parseIpv4 text with
  | some bits => some (.v4 bits)
  | none => (parseIpv6 text).map .v6

example : parseIpAddr "192.0.2.1" = some (.v4 0xc0000201) := by decide
example : parseIpAddr "2001:db8::1" = some (.v6 0x20010db8000000000000000000000001) := by decide
example : parseIpAddr "::ffff:192.0.2.1" = some (.v6 0xffffc0000201) := by decide
example : parseIpAddr "192.0.2.01" = none := by decide

/-! ## What an address is written with -/

/-- The characters an address is written with. -/
def isAddressChar (c : Char) : Bool := (toDigit 16 c).isSome || c == ':' || c == '.'

/-- What a reader takes off the front is made of address characters. -/
def Takes (input rest : List Char) : Prop :=
  ∃ used, input = used ++ rest ∧ ∀ c ∈ used, isAddressChar c

theorem Takes.refl (input : List Char) : Takes input input := ⟨[], rfl, by simp⟩

theorem Takes.trans {first second third : List Char} (front : Takes first second) (back : Takes second third) :
    Takes first third := by
  obtain ⟨used, rfl, clean⟩ := front
  obtain ⟨more, rfl, clean'⟩ := back
  refine ⟨used ++ more, by rw [List.append_assoc], ?_⟩
  intro c member
  rcases List.mem_append.mp member with member | member
  · exact clean c member
  · exact clean' c member

theorem toDigit_mono {small large : Nat} (le : small ≤ large) {c : Char} (digit : (toDigit small c).isSome) :
    (toDigit large c).isSome := by
  unfold toDigit at *
  simp only [Option.isSome_filter, Option.any_eq_true] at *
  obtain ⟨value, found, below⟩ := digit
  refine ⟨value, found, ?_⟩
  simp only [decide_eq_true_eq] at *
  omega

theorem readGivenChar_takes {want : Char} (clean : isAddressChar want) {input : List Char} {found : Unit × List Char}
    (read : readGivenChar want input = some found) : Takes input found.2 := by
  cases input with
  | nil => simp [readGivenChar] at read
  | cons c rest =>
    simp only [readGivenChar, Option.ite_none_right_eq_some] at read
    obtain ⟨rfl, same⟩ := read
    cases same
    exact ⟨[c], rfl, by simpa using clean⟩

theorem readNumber_takes {radix maxDigits size : Nat} {allowZeroPrefix : Bool} (le : radix ≤ 16) {input : List Char}
    {found : Nat × List Char} (read : readNumber radix maxDigits size allowZeroPrefix input = some found) :
    Takes input found.2 := by
  simp only [readNumber] at read
  split at read
  · cases read
  split at read
  · cases read
  cases read
  have length : ((input.takeWhile fun c => (toDigit radix c).isSome).filterMap (toDigit radix)).length =
      (input.takeWhile fun c => (toDigit radix c).isSome).length := by
    rw [List.length_filterMap_eq_countP, List.countP_eq_length]
    intro c member
    exact List.mem_takeWhile_imp (p := fun c => (toDigit radix c).isSome) member
  rw [length]
  refine ⟨input.takeWhile fun c => (toDigit radix c).isSome, ?_, ?_⟩
  · exact (List.prefix_iff_eq_append.mp (List.takeWhile_prefix _)).symm
  · intro c member
    have digit := List.mem_takeWhile_imp (p := fun c => (toDigit radix c).isSome) member
    simp [isAddressChar, toDigit_mono le digit]

theorem readSeparator_takes {α : Type} {separator : Char} (clean : isAddressChar separator) {index : Nat}
    {inner : Reader α} (takes : ∀ input found, inner input = some found → Takes input found.2) {input : List Char}
    {found : α × List Char} (read : readSeparator separator index inner input = some found) :
    Takes input found.2 := by
  unfold readSeparator at read
  split at read
  · obtain ⟨mark, given, read⟩ := Option.bind_eq_some_iff.mp read
    exact (readGivenChar_takes clean given).trans (takes _ _ read)
  · exact takes _ _ read

theorem readOctets_takes {count index : Nat} {input : List Char} {found : List Nat × List Char}
    (read : readOctets count index input = some found) : Takes input found.2 := by
  induction count generalizing index input found with
  | zero =>
    cases read
    exact .refl input
  | succ count ih =>
    simp only [readOctets, Option.bind_eq_bind, Option.bind_eq_some_iff] at read
    obtain ⟨octet, front, rest, back, read⟩ := read
    cases read
    have ahead := readSeparator_takes rfl (fun _ _ => readNumber_takes (by decide)) front
    have behind : Takes octet.2 rest.2 := ih back
    exact ahead.trans behind

theorem readGroups_takes (count index : Nat) (input : List Char) :
    Takes input (readGroups count index input).2.2 := by
  induction count generalizing index input with
  | zero => exact .refl input
  | succ count ih =>
    simp only [readGroups]
    split
    · rename_i embedded
      split at embedded
      · exact readSeparator_takes rfl (fun _ _ => readOctets_takes) embedded
      · cases embedded
    · split
      · rename_i group rest read
        exact (readSeparator_takes rfl (fun _ _ => readNumber_takes le_rfl) read).trans (ih _ rest)
      · exact .refl input

theorem readIpv6Addr_takes {input : List Char} {found : List Nat × List Char}
    (read : readIpv6Addr input = some found) : Takes input found.2 := by
  have front := readGroups_takes 8 0 input
  simp only [readIpv6Addr] at read
  split at read
  · cases read
    exact front
  · split at read
    · cases read
    · simp only [Option.bind_eq_bind, Option.bind_eq_some_iff] at read
      obtain ⟨first, firstRead, second, secondRead, read⟩ := read
      cases read
      exact ((front.trans (readGivenChar_takes rfl firstRead)).trans (readGivenChar_takes rfl secondRead)).trans
        (readGroups_takes _ _ _)

theorem Takes.all {input : List Char} (takes : Takes input []) : ∀ c ∈ input, isAddressChar c := by
  obtain ⟨used, rfl, clean⟩ := takes
  simpa using clean

/-- An address is written with address characters only. -/
theorem parseIpAddr_chars {text : String} {addr : IpAddr} (parsed : parseIpAddr text = some addr) :
    ∀ c ∈ text.toList, isAddressChar c := by
  unfold parseIpAddr at parsed
  split at parsed
  · rename_i read
    unfold parseIpv4 at read
    split at read
    · rename_i found
      exact (readOctets_takes found).all
    · cases read
  · obtain ⟨bits, read, -⟩ := Option.map_eq_some_iff.mp parsed
    unfold parseIpv6 at read
    split at read
    · rename_i found
      exact (readIpv6Addr_takes found).all
    · cases read

end Skimasque.Library.AddressText
