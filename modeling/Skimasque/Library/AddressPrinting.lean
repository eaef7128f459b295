import Mathlib.Tactic.Ring
import Skimasque.Library.AddressText

/-! Addresses are read back from the text they print as, in both families. -/

set_option autoImplicit false

namespace Skimasque.Library.AddressText
open Address

/-! ## Numbers -/

/-- What stands after a number does not go on with a digit. -/
def Ends (radix : Nat) (rest : List Char) : Prop := ∀ c ∈ rest.head?, toDigit radix c = none

theorem ends_nil (radix : Nat) : Ends radix [] := by
  intro c member
  cases member

theorem ends_cons {radix : Nat} {c : Char} {rest : List Char} (plain : toDigit radix c = none) :
    Ends radix (c :: rest) := by
  intro d member
  cases member
  exact plain

theorem toDigit_digitChar {radix digit : Nat} (small : digit < radix) (most : radix ≤ 16) :
    toDigit radix digit.digitChar = some digit := by
  have known : ∀ digit < 16, toDigit 16 digit.digitChar = some digit := by decide
  have found := known digit (by omega)
  unfold toDigit at found ⊢
  rw [Option.filter_eq_some_iff] at found ⊢
  exact ⟨found.1, by simpa using small⟩

theorem isSome_of_mem_toDigits {radix value : Nat} (least : 1 < radix) (most : radix ≤ 16) {c : Char}
    (member : c ∈ Nat.toDigits radix value) : (toDigit radix c).isSome := by
  induction value using Nat.strongRecOn with
  | ind value ih =>
    rw [Nat.toDigits_eq_if least] at member
    split at member
    · rename_i small
      rw [List.mem_singleton.mp member, toDigit_digitChar small most]
      rfl
    · rename_i large
      rcases List.mem_append.mp member with front | last
      · exact ih (value / radix) (Nat.div_lt_self (by omega) least) front
      · rw [List.mem_singleton.mp last, toDigit_digitChar (Nat.mod_lt _ (by omega)) most]
        rfl

/-- The digits of a number, read as `readNumber` does. -/
theorem filterMap_toDigits {radix : Nat} (least : 1 < radix) (most : radix ≤ 16) (value : Nat) :
    ((Nat.toDigits radix value).filterMap (toDigit radix)).foldl (fun value digit => value * radix + digit) 0 =
      value := by
  induction value using Nat.strongRecOn with
  | ind value ih =>
    rw [Nat.toDigits_eq_if least]
    split
    · rename_i small
      simp [toDigit_digitChar small most]
    · rename_i large
      have last : value % radix < radix := Nat.mod_lt _ (by omega)
      rw [List.filterMap_append, List.foldl_append, ih (value / radix) (Nat.div_lt_self (by omega) least)]
      simp only [List.filterMap_cons, toDigit_digitChar last most, List.filterMap_nil, List.foldl_cons, List.foldl_nil]
      rw [Nat.mul_comm]
      exact Nat.div_add_mod value radix

theorem length_filterMap_toDigits {radix : Nat} (least : 1 < radix) (most : radix ≤ 16) (value : Nat) :
    ((Nat.toDigits radix value).filterMap (toDigit radix)).length = (Nat.toDigits radix value).length := by
  rw [List.length_filterMap_eq_countP, List.countP_eq_length]
  intro c member
  exact isSome_of_mem_toDigits least most member

/-- Only zero starts with a zero. -/
theorem head_toDigits_ne_zero {radix value : Nat} (least : 1 < radix) (most : radix ≤ 16) (positive : 0 < value) :
    (Nat.toDigits radix value).head? ≠ some '0' := by
  induction value using Nat.strongRecOn with
  | ind value ih =>
    rw [Nat.toDigits_eq_if least]
    split
    · rename_i small
      intro zero
      have same := toDigit_digitChar small most
      rw [Option.some.inj zero, show '0' = Nat.digitChar 0 from rfl, toDigit_digitChar (by omega) most] at same
      have := Option.some.inj same
      omega
    · rename_i large
      rw [List.head?_append_of_ne_nil _ Nat.toDigits_ne_nil]
      exact ih (value / radix) (Nat.div_lt_self positive least) (Nat.div_pos (by omega) (by omega))

theorem takeWhile_toDigits {radix : Nat} (least : 1 < radix) (most : radix ≤ 16) (value : Nat) {rest : List Char}
    (ends : Ends radix rest) :
    (Nat.toDigits radix value ++ rest).takeWhile (fun c => (toDigit radix c).isSome) = Nat.toDigits radix value := by
  rw [List.takeWhile_append_of_pos fun c member => isSome_of_mem_toDigits least most member]
  have stops : rest.takeWhile (fun c => (toDigit radix c).isSome) = [] := by
    cases rest with
    | nil => rfl
    | cons c more => simp [ends c rfl]
  rw [stops, List.append_nil]

theorem readNumber_toDigits {radix maxDigits size value : Nat} {allowZeroPrefix : Bool} {rest : List Char}
    (least : 1 < radix) (most : radix ≤ 16) (fits : value < size)
    (short : (Nat.toDigits radix value).length ≤ maxDigits) (ends : Ends radix rest) :
    readNumber radix maxDigits size allowZeroPrefix (Nat.toDigits radix value ++ rest) = some (value, rest) := by
  have length := length_filterMap_toDigits least most value
  have found : ((Nat.toDigits radix value).filterMap (toDigit radix)).isEmpty = false := by
    rw [List.isEmpty_eq_false_iff, ← List.length_pos_iff, length]
    exact Nat.length_toDigits_pos
  have plain : (!allowZeroPrefix && (Nat.toDigits radix value ++ rest).head? == some '0' &&
      decide (1 < (Nat.toDigits radix value).length)) = false := by
    rw [List.head?_append_of_ne_nil _ Nat.toDigits_ne_nil]
    rcases Nat.eq_zero_or_pos value with rfl | positive
    · simp
    · simp [head_toDigits_ne_zero least most positive]
  simp only [readNumber, takeWhile_toDigits least most value ends, filterMap_toDigits least most value, length, found,
    Bool.false_or]
  rw [if_neg (by simp; omega), if_neg (by rw [plain]; decide), List.drop_left]

/-! ## Parts and separators -/

/-- A separator before each part but the first; `index` parts have gone before. -/
def separated (separator : Char) : Nat → List (List Char) → List Char
  | _, [] => []
  | index, part :: parts =>
    (if 0 < index then separator :: part else part) ++ separated separator (index + 1) parts

theorem separated_succ (separator : Char) (index : Nat) (parts : List (List Char)) :
    separated separator (index + 1) parts = separated separator 1 parts := by
  induction parts generalizing index with
  | nil => rfl
  | cons part parts ih => simp only [separated, Nat.zero_lt_succ, if_true, ih (index + 1), ih 1]

theorem toList_joinText {text : String} {separator : Char} (single : text.toList = [separator]) (parts : List String) :
    (joinText text parts).toList = separated separator 0 (parts.map String.toList) := by
  induction parts with
  | nil => rfl
  | cons first parts ih =>
    cases parts with
    | nil => simp [joinText, separated]
    | cons second rest =>
      simp only [joinText, String.toList_append, single, ih]
      simp [separated, separated_succ separator 1]

theorem mem_separated {separator c : Char} {index : Nat} {parts : List (List Char)}
    (member : c ∈ separated separator index parts) : c = separator ∨ ∃ part ∈ parts, c ∈ part := by
  induction parts generalizing index with
  | nil => cases member
  | cons part parts ih =>
    rw [separated, List.mem_append] at member
    rcases member with front | back
    · split at front
      · rcases List.mem_cons.mp front with same | inside
        · exact .inl same
        · exact .inr ⟨part, List.mem_cons_self .., inside⟩
      · exact .inr ⟨part, List.mem_cons_self .., front⟩
    · rcases ih back with same | ⟨other, written, inside⟩
      · exact .inl same
      · exact .inr ⟨other, List.mem_cons_of_mem _ written, inside⟩

theorem ends_separated {radix index : Nat} {separator : Char} {parts : List (List Char)} {rest : List Char}
    (plain : toDigit radix separator = none) (ends : Ends radix rest) :
    Ends radix (separated separator (index + 1) parts ++ rest) := by
  cases parts with
  | nil => exact ends
  | cons part parts => exact ends_cons plain

theorem readSeparator_front {α : Type} (separator : Char) (index : Nat) (inner : Reader α) (part rest : List Char) :
    readSeparator separator index inner ((if 0 < index then separator :: part else part) ++ rest) =
      inner (part ++ rest) := by
  unfold readSeparator
  split
  · simp [readGivenChar]
  · rfl

/-! ## IPv4 -/

theorem readOctets_separated {octets : List Nat} {rest : List Char} (small : ∀ octet ∈ octets, octet < 256)
    (ends : Ends 10 rest) (index : Nat) :
    readOctets octets.length index (separated '.' index (octets.map (Nat.toDigits 10)) ++ rest) =
      some (octets, rest) := by
  induction octets generalizing index with
  | nil => rfl
  | cons octet octets ih =>
    have bound := small octet (List.mem_cons_self ..)
    have short : (Nat.toDigits 10 octet).length ≤ 3 := (Nat.length_toDigits_le_iff (by decide) (by decide)).mpr (by omega)
    have later := ih (fun other member => small other (List.mem_cons_of_mem _ member)) (index + 1)
    have stops : Ends 10 (separated '.' (index + 1) (octets.map (Nat.toDigits 10)) ++ rest) :=
      ends_separated (by decide) ends
    simp only [List.length_cons, List.map_cons, separated, List.append_assoc, readOctets, readSeparator_front,
      readNumber_toDigits (by decide) (by decide) bound short stops, Option.bind_eq_bind, Option.bind_some, later,
      Option.pure_def]

theorem unitAt_lt (width place value : Nat) : unitAt width place value < 2 ^ width :=
  Nat.mod_lt _ (Nat.two_pow_pos width)

theorem length_units (width count value : Nat) : (units width count value).length = count := by
  induction count with
  | zero => rfl
  | succ count ih => simp [units, ih]

theorem lt_of_mem_units {width count value part : Nat} (member : part ∈ units width count value) : part < 2 ^ width := by
  induction count with
  | zero => cases member
  | succ count ih =>
    rcases List.mem_cons.mp member with rfl | later
    · exact unitAt_lt width count value
    · exact ih later

/-- Units put together again, on top of what is there already. -/
theorem foldl_units (width count value start : Nat) :
    (units width count value).foldl (fun value part => value * 2 ^ width + part) start =
      start * 2 ^ (width * count) + value % 2 ^ (width * count) := by
  induction count generalizing start with
  | zero => simp [units, Nat.mod_one]
  | succ count ih =>
    rw [units, List.foldl_cons, ih, unitAt, Nat.shiftRight_eq_div_pow, Nat.mul_succ, Nat.pow_add, Nat.mod_mul]
    ring

theorem assemble_units {width count value : Nat} (fits : value < 2 ^ (width * count)) :
    assemble width (units width count value) = value := by
  rw [assemble, foldl_units, Nat.zero_mul, Nat.zero_add, Nat.mod_eq_of_lt fits]

theorem toList_v4Text (bits : BitVec 32) :
    (v4Text bits).toList = separated '.' 0 ((units 8 4 bits.toNat).map (Nat.toDigits 10)) := by
  rw [v4Text, toList_joinText rfl, List.map_map]
  congr 2
  funext value
  exact Nat.toList_repr

theorem colon_not_mem_v4Text (bits : BitVec 32) : ':' ∉ (v4Text bits).toList := by
  rw [toList_v4Text]
  intro member
  rcases mem_separated member with dot | ⟨part, written, inside⟩
  · cases dot
  · obtain ⟨octet, -, rfl⟩ := List.mem_map.mp written
    exact absurd (isSome_of_mem_toDigits (by decide) (by decide) inside) (by decide)

theorem readIpv4Addr_v4Text (bits : BitVec 32) :
    readIpv4Addr (v4Text bits).toList = some (units 8 4 bits.toNat, []) := by
  have small : ∀ octet ∈ units 8 4 bits.toNat, octet < 256 := fun octet member => lt_of_mem_units member
  have read := readOctets_separated small (ends_nil 10) 0
  rwa [length_units, List.append_nil, ← toList_v4Text] at read

theorem parseIpv4_v4Text (bits : BitVec 32) : parseIpv4 (v4Text bits) = some bits := by
  have whole : assemble 8 (units 8 4 bits.toNat) = bits.toNat := assemble_units bits.isLt
  rw [parseIpv4, readIpv4Addr_v4Text]
  simp only [whole, BitVec.ofNat_toNat, BitVec.setWidth_eq]

/-! ## Where no IPv4 address can be read -/

theorem readNumber_eq_none {radix maxDigits size : Nat} {allowZeroPrefix : Bool} {input : List Char}
    (ends : Ends radix input) : readNumber radix maxDigits size allowZeroPrefix input = none := by
  have nothing : input.takeWhile (fun c => (toDigit radix c).isSome) = [] := by
    cases input with
    | nil => rfl
    | cons c rest => simp [ends c rfl]
  simp [readNumber, nothing]

theorem readIpv4Addr_eq_none_of_ends {input : List Char} (ends : Ends 10 input) : readIpv4Addr input = none := by
  simp [readIpv4Addr, readOctets, readSeparator, readNumber_eq_none ends]

/-- What is left is an end of what there was. -/
theorem readNumber_suffix {radix maxDigits size : Nat} {allowZeroPrefix : Bool} {input : List Char}
    {found : Nat × List Char} (read : readNumber radix maxDigits size allowZeroPrefix input = some found) :
    found.2 <:+ input := by
  simp only [readNumber] at read
  split at read
  · cases read
  split at read
  · cases read
  cases read
  exact List.drop_suffix _ _

theorem readIpv4Addr_eq_none_of_no_dot {input : List Char} (undotted : '.' ∉ input) : readIpv4Addr input = none := by
  cases first : readNumber 10 3 256 false input with
  | none => simp [readIpv4Addr, readOctets, readSeparator, first]
  | some found =>
    have clear : '.' ∉ found.2 := fun dotted => undotted ((readNumber_suffix first).subset dotted)
    have second : readGivenChar '.' found.2 = none := by
      cases rest : found.2 with
      | nil => rfl
      | cons c more =>
        have other : c ≠ '.' := by
          rintro rfl
          exact clear (rest ▸ List.mem_cons_self ..)
        simp [readGivenChar, other]
    simp [readIpv4Addr, readOctets, readSeparator, first, second]

theorem readSeparator_ipv4_eq_none {separator : Char} {index : Nat} {input : List Char} (undotted : '.' ∉ input) :
    readSeparator separator index readIpv4Addr input = none := by
  unfold readSeparator
  split
  · cases input with
    | nil => rfl
    | cons c rest =>
      have clear : '.' ∉ rest := fun dotted => undotted (List.mem_cons_of_mem c dotted)
      simp only [readGivenChar]
      split
      · exact readIpv4Addr_eq_none_of_no_dot clear
      · rfl
  · exact readIpv4Addr_eq_none_of_no_dot undotted

/-! ## IPv6 -/

theorem dot_not_mem_toDigits (value : Nat) : '.' ∉ Nat.toDigits 16 value := by
  intro member
  exact absurd (isSome_of_mem_toDigits (by decide) (by decide) member) (by decide)

theorem dot_not_mem_separated {groups : List Nat} {index : Nat} :
    '.' ∉ separated ':' index (groups.map (Nat.toDigits 16)) := by
  intro member
  rcases mem_separated member with colon | ⟨part, written, inside⟩
  · cases colon
  · obtain ⟨group, -, rfl⟩ := List.mem_map.mp written
    exact dot_not_mem_toDigits group inside

/-- No group can be read here. -/
def Stops (index : Nat) (rest : List Char) : Prop :=
  readSeparator ':' index (readNumber 16 4 65536 true) rest = none

theorem readGroups_separated {groups : List Nat} {rest : List Char} (small : ∀ group ∈ groups, group < 65536)
    (undotted : '.' ∉ rest) (ends : Ends 16 rest) {count index : Nat} (room : groups.length ≤ count)
    (stops : groups.length < count → Stops (index + groups.length) rest) :
    readGroups count index (separated ':' index (groups.map (Nat.toDigits 16)) ++ rest) = (groups, false, rest) := by
  induction groups generalizing count index with
  | nil =>
    cases count with
    | zero => rfl
    | succ count =>
      have nothing : readSeparator ':' index (readNumber 16 4 65536 true) rest = none := stops (Nat.succ_pos count)
      simp only [List.map_nil, separated, List.nil_append, readGroups, readSeparator_ipv4_eq_none undotted, ite_self,
        nothing]
  | cons group groups ih =>
    obtain ⟨count, rfl⟩ : ∃ left, count = left + 1 := ⟨count - 1, by simp only [List.length_cons] at room; omega⟩
    simp only [List.length_cons, Nat.add_le_add_iff_right, Nat.add_lt_add_iff_right] at room stops
    have bound := small group (List.mem_cons_self ..)
    have short : (Nat.toDigits 16 group).length ≤ 4 := (Nat.length_toDigits_le_iff (by decide) (by decide)).mpr (by omega)
    have later := @ih (fun other member => small other (List.mem_cons_of_mem _ member)) count (index + 1) room
      (fun less => by rw [Nat.add_assoc, Nat.add_comm 1]; exact stops less)
    have clear : '.' ∉ separated ':' index ((group :: groups).map (Nat.toDigits 16)) ++ rest := by
      rw [List.mem_append, not_or]
      exact ⟨dot_not_mem_separated, undotted⟩
    have tailEnds : Ends 16 (separated ':' (index + 1) (groups.map (Nat.toDigits 16)) ++ rest) :=
      ends_separated (by decide) ends
    have read : readSeparator ':' index (readNumber 16 4 65536 true)
        (separated ':' index ((group :: groups).map (Nat.toDigits 16)) ++ rest) =
        some (group, separated ':' (index + 1) (groups.map (Nat.toDigits 16)) ++ rest) := by
      rw [List.map_cons, separated, List.append_assoc, readSeparator_front]
      exact readNumber_toDigits (by decide) (by decide) bound short tailEnds
    simp only [readGroups, readSeparator_ipv4_eq_none clear, ite_self, read, later]

/-! ## The run of zeros that is left out -/

/-- The span lies within the segments, and all of them are zero there. -/
structure ZeroSpan (segments : List Nat) (span : Span) : Prop where
  inside : span.start + span.len ≤ segments.length
  zeros : ∀ index, span.start ≤ index → index < span.start + span.len → segments[index]? = some 0

theorem zeroSpan_empty (segments : List Nat) : ZeroSpan segments ⟨0, 0⟩ := by
  refine ⟨Nat.zero_le _, ?_⟩
  intro index above below
  exact absurd below (Nat.not_lt_of_ge above)

/-- A span that ends where a zero stands goes on over it. -/
theorem ZeroSpan.extend {segments : List Nat} {span : Span} (valid : ZeroSpan segments span)
    (zero : segments[span.start + span.len]? = some 0) : ZeroSpan segments ⟨span.start, span.len + 1⟩ := by
  obtain ⟨bound, -⟩ := List.getElem?_eq_some_iff.mp zero
  refine ⟨by simp only; omega, ?_⟩
  intro index above below
  simp only at above below
  by_cases last : index = span.start + span.len
  · rw [last]
    exact zero
  · exact valid.zeros index above (by omega)

theorem zeroSpan_longestZeros {segments rest : List Nat} {index : Nat} {current longest : Span}
    (suffix : segments.drop index = rest) (running : ZeroSpan segments current)
    (ends : current.len = 0 ∨ current.start + current.len = index) (valid : ZeroSpan segments longest) :
    ZeroSpan segments (longestZeros rest index current longest) := by
  induction rest generalizing index current longest with
  | nil => exact valid
  | cons segment rest ih =>
    have here : segments[index]? = some segment := by
      rw [← List.head?_drop, suffix]
      rfl
    have later : segments.drop (index + 1) = rest := by rw [← List.drop_drop, suffix, List.drop_one, List.tail_cons]
    rw [longestZeros]
    split
    · rename_i zero
      subst zero
      have started : ZeroSpan segments (if current.len = 0 then ⟨index, 1⟩ else ⟨current.start, current.len + 1⟩) := by
        split
        · have empty : ZeroSpan segments ⟨index, 0⟩ := by
            obtain ⟨bound, -⟩ := List.getElem?_eq_some_iff.mp here
            refine ⟨Nat.le_of_lt bound, ?_⟩
            intro other above below
            exact absurd below (Nat.not_lt_of_ge above)
          exact empty.extend here
        · rename_i some
          obtain none | next := ends
          · exact absurd none some
          · exact running.extend (next ▸ here)
      have next : (if current.len = 0 then (⟨index, 1⟩ : Span) else ⟨current.start, current.len + 1⟩).len = 0 ∨
          (if current.len = 0 then (⟨index, 1⟩ : Span) else ⟨current.start, current.len + 1⟩).start +
            (if current.len = 0 then (⟨index, 1⟩ : Span) else ⟨current.start, current.len + 1⟩).len = index + 1 := by
        split
        · exact .inr rfl
        · simp only
          omega
      generalize (if current.len = 0 then (⟨index, 1⟩ : Span) else ⟨current.start, current.len + 1⟩) = grown
        at started next ⊢
      apply ih later started next
      split
      · exact started
      · exact valid
    · exact ih later (zeroSpan_empty segments) (.inl rfl) valid

/-- Without the span, the zeros can be put back. -/
theorem ZeroSpan.restore {segments : List Nat} {span : Span} (valid : ZeroSpan segments span) :
    segments.take span.start ++ List.replicate span.len 0 ++ segments.drop (span.start + span.len) = segments := by
  have middle : (segments.drop span.start).take span.len = List.replicate span.len 0 := by
    rw [List.eq_replicate_iff]
    have inside := valid.inside
    refine ⟨by rw [List.length_take, List.length_drop]; omega, ?_⟩
    intro segment member
    obtain ⟨offset, bound, rfl⟩ := List.mem_take_iff_getElem.mp member
    rw [List.length_drop] at bound
    have zero := valid.zeros (span.start + offset) (Nat.le_add_right _ _) (by omega)
    rw [List.getElem_drop]
    exact (List.getElem_eq_iff _).mpr zero
  calc segments.take span.start ++ List.replicate span.len 0 ++ segments.drop (span.start + span.len)
      = segments.take span.start ++ ((segments.drop span.start).take span.len ++ (segments.drop span.start).drop span.len) := by
        rw [middle, List.drop_drop, List.append_assoc]
    _ = segments := by rw [List.take_append_drop, List.take_append_drop]

/-! ## The two forms of IPv6 -/

theorem toList_render (groups : List Nat) :
    (joinText ":" (groups.map hexText)).toList = separated ':' 0 (groups.map (Nat.toDigits 16)) := by
  rw [toList_joinText rfl, List.map_map]
  congr 2
  funext value
  exact String.toList_ofList

theorem stops_nil (index : Nat) : Stops index [] := by
  unfold Stops readSeparator
  split
  · rfl
  · exact readNumber_eq_none (ends_nil 16)

/-- Two colons do not start a group, neither at the front nor after another. -/
theorem stops_colons (index : Nat) (rest : List Char) : Stops index (':' :: ':' :: rest) := by
  unfold Stops readSeparator
  split
  · simp only [readGivenChar, if_true, Option.bind_some]
    exact readNumber_eq_none (ends_cons (by decide))
  · exact readNumber_eq_none (ends_cons (by decide))

theorem readIpv6Addr_full {segments : List Nat} (small : ∀ segment ∈ segments, segment < 65536)
    (eight : segments.length = 8) :
    readIpv6Addr (separated ':' 0 (segments.map (Nat.toDigits 16))) = some (segments, []) := by
  have read := @readGroups_separated segments [] small List.not_mem_nil (ends_nil 16) 8 0 (by omega) (fun less => by omega)
  rw [List.append_nil] at read
  simp only [readIpv6Addr, read, eight, if_true]

theorem readIpv6Addr_compressed {front back : List Nat} (frontSmall : ∀ segment ∈ front, segment < 65536)
    (backSmall : ∀ segment ∈ back, segment < 65536) (room : front.length + back.length < 8) :
    readIpv6Addr (separated ':' 0 (front.map (Nat.toDigits 16)) ++
        ':' :: ':' :: separated ':' 0 (back.map (Nat.toDigits 16))) =
      some (front ++ List.replicate (8 - front.length - back.length) 0 ++ back, []) := by
  have undotted : '.' ∉ ':' :: ':' :: separated ':' 0 (back.map (Nat.toDigits 16)) := by
    simp [dot_not_mem_separated]
  have head := @readGroups_separated front _ frontSmall undotted (ends_cons (by decide)) 8 0 (by omega)
    (fun _ => stops_colons _ _)
  have tail := @readGroups_separated back [] backSmall List.not_mem_nil (ends_nil 16) (8 - (front.length + 1)) 0 (by omega)
    (fun _ => stops_nil _)
  rw [List.append_nil] at tail
  simp only [readIpv6Addr, head]
  rw [if_neg (by omega)]
  simp only [readGivenChar, if_true, Bool.false_eq_true, if_false, Option.bind_eq_bind, Option.bind_some, tail,
    Option.pure_def]

/-- After two colons and `ffff`, the last four bytes are read as an IPv4 address. -/
theorem readIpv6Addr_mapped (inner : BitVec 32) :
    readIpv6Addr (':' :: ':' :: (Nat.toDigits 16 0xffff ++ ':' :: (v4Text inner).toList)) =
      some (List.replicate 5 0 ++ [0xffff, unitAt 8 3 inner.toNat * 256 + unitAt 8 2 inner.toNat,
        unitAt 8 1 inner.toNat * 256 + unitAt 8 0 inner.toNat], []) := by
  have atColon {rest : List Char} {count : Nat} : readGroups (count + 1) 0 (':' :: rest) = ([], false, ':' :: rest) := by
    have noAddress : readIpv4Addr (':' :: rest) = none := readIpv4Addr_eq_none_of_ends (ends_cons (by decide))
    have noGroup : readNumber 16 4 65536 true (':' :: rest) = none := readNumber_eq_none (ends_cons (by decide))
    simp only [readGroups, readSeparator, Nat.lt_irrefl, if_false, noAddress, noGroup, ite_self]
  have noAddress : readIpv4Addr (Nat.toDigits 16 0xffff ++ ':' :: (v4Text inner).toList) = none :=
    readIpv4Addr_eq_none_of_ends (ends_cons (by decide))
  have group : readNumber 16 4 65536 true (Nat.toDigits 16 0xffff ++ ':' :: (v4Text inner).toList) =
      some (0xffff, ':' :: (v4Text inner).toList) :=
    readNumber_toDigits (by decide) (by decide) (by decide) (by decide) (ends_cons (by decide))
  have address : readSeparator ':' 1 readIpv4Addr (':' :: (v4Text inner).toList) =
      some ([unitAt 8 3 inner.toNat, unitAt 8 2 inner.toNat, unitAt 8 1 inner.toNat, unitAt 8 0 inner.toNat], []) := by
    simp only [readSeparator, Nat.zero_lt_one, if_true, readGivenChar, Option.bind_some, readIpv4Addr_v4Text, units]
  have tail : readGroups 7 0 (Nat.toDigits 16 0xffff ++ ':' :: (v4Text inner).toList) =
      ([0xffff, unitAt 8 3 inner.toNat * 256 + unitAt 8 2 inner.toNat,
        unitAt 8 1 inner.toNat * 256 + unitAt 8 0 inner.toNat], true, []) := by
    rw [readGroups]
    simp only [readSeparator, Nat.lt_irrefl, if_false, noAddress, group, ite_self]
    rw [readGroups, Nat.zero_add, address]
    rfl
  simp only [readIpv6Addr, atColon]
  simp only [List.length_nil, readGivenChar, if_true, Option.bind_eq_bind, Option.bind_some, Bool.false_eq_true, if_false,
    Nat.reduceEqDiff, Nat.zero_add, Nat.reduceSub, tail, Option.pure_def]
  rfl

theorem parseIpv6_mapped {bits : BitVec 128} {inner : BitVec 32} (mapped : toIpv4Mapped bits = some inner) :
    parseIpv6 ("::ffff:" ++ v4Text inner) = some bits := by
  have text : ("::ffff:" ++ v4Text inner).toList =
      ':' :: ':' :: (Nat.toDigits 16 0xffff ++ ':' :: (v4Text inner).toList) := by
    rw [String.toList_append]
    rfl
  rw [parseIpv6, text, readIpv6Addr_mapped]
  simp only [toIpv4Mapped, Option.ite_none_right_eq_some, Option.some.injEq] at mapped
  obtain ⟨high, rfl⟩ := mapped
  simp only [Option.some.injEq, ← BitVec.toNat_inj, BitVec.toNat_ofNat]
  simp only [Nat.shiftRight_eq_div_pow] at high
  simp [assemble, List.replicate, unitAt, Nat.shiftRight_eq_div_pow]
  omega

theorem parseIpv6_v6Text (bits : BitVec 128) : parseIpv6 (v6Text bits) = some bits := by
  unfold v6Text
  split
  · rename_i inner mapped
    exact parseIpv6_mapped mapped
  · have small : ∀ segment ∈ units 16 8 bits.toNat, segment < 65536 := fun segment member => lt_of_mem_units member
    have eight := length_units 16 8 bits.toNat
    have whole : assemble 16 (units 16 8 bits.toNat) = bits.toNat := assemble_units bits.isLt
    have valid := zeroSpan_longestZeros List.drop_zero (zeroSpan_empty (units 16 8 bits.toNat)) (.inl rfl)
      (zeroSpan_empty _)
    dsimp only
    generalize longestZeros (units 16 8 bits.toNat) 0 ⟨0, 0⟩ ⟨0, 0⟩ = zeros at valid ⊢
    split
    · rename_i long
      have inside := valid.inside
      rw [eight] at inside
      have front : ((units 16 8 bits.toNat).take zeros.start).length = zeros.start := by
        rw [List.length_take, eight]
        omega
      have back : ((units 16 8 bits.toNat).drop (zeros.start + zeros.len)).length = 8 - (zeros.start + zeros.len) := by
        rw [List.length_drop, eight]
      have colons : "::".toList = [':', ':'] := rfl
      rw [parseIpv6, String.toList_append, String.toList_append, toList_render, toList_render, colons, List.append_assoc,
        List.cons_append, List.cons_append, List.nil_append,
        readIpv6Addr_compressed (fun segment member => small segment (List.mem_of_mem_take member))
          (fun segment member => small segment (List.mem_of_mem_drop member)) (by rw [front, back]; omega),
        front, back, show 8 - zeros.start - (8 - (zeros.start + zeros.len)) = zeros.len by omega, valid.restore]
      simp only [whole, BitVec.ofNat_toNat, BitVec.setWidth_eq]
    · rw [parseIpv6, toList_render, readIpv6Addr_full small eight]
      simp only [whole, BitVec.ofNat_toNat, BitVec.setWidth_eq]

theorem parseIpv4_v6Text (bits : BitVec 128) : parseIpv4 (v6Text bits) = none := by
  have read : readIpv4Addr (v6Text bits).toList = none := by
    unfold v6Text
    split
    · rw [String.toList_append]
      exact readIpv4Addr_eq_none_of_ends (ends_cons (by decide))
    · apply readIpv4Addr_eq_none_of_no_dot
      dsimp only
      split
      · have colons : '.' ∉ "::".toList := by decide
        rw [String.toList_append, String.toList_append, toList_render, toList_render, List.mem_append, List.mem_append]
        rintro ((front | middle) | back)
        · exact dot_not_mem_separated front
        · exact colons middle
        · exact dot_not_mem_separated back
      · rw [toList_render]
        exact dot_not_mem_separated
  rw [parseIpv4, read]

theorem parseIpAddr_v4Text (bits : BitVec 32) : parseIpAddr (v4Text bits) = some (.v4 bits) := by
  rw [parseIpAddr, parseIpv4_v4Text]

/-- What an address prints as is read as that address. -/
theorem parseIpAddr_v6Text (bits : BitVec 128) : parseIpAddr (v6Text bits) = some (.v6 bits) := by
  rw [parseIpAddr, parseIpv4_v6Text, parseIpv6_v6Text]
  rfl

/-! ## Case -/

theorem toDigit_toLower (radix : Nat) (c : Char) : toDigit radix c.toLower = toDigit radix c := by
  have value := Text.toNat_toLower c
  have le_iff (low high : Char) : low ≤ high ↔ low.toNat ≤ high.toNat := UInt32.le_iff_toNat_le
  unfold toDigit
  simp only [le_iff, Char.reduceToNat] at *
  split at value <;> rw [value]
  split_ifs <;> grind

/-- What a reader finds, with what is left in lower case. -/
def lowered {α : Type} (found : α × List Char) : α × List Char := (found.1, found.2.map Char.toLower)

/-- A reader to which case is nothing. -/
def CaseBlind {α : Type} (reader : Reader α) : Prop :=
  ∀ input, reader (input.map Char.toLower) = (reader input).map lowered

theorem caseBlind_readGivenChar {want : Char} (plain : want.toNat < 'A'.toNat) : CaseBlind (readGivenChar want) := by
  intro input
  cases input with
  | nil => rfl
  | cons c rest =>
    simp only [List.map_cons, readGivenChar, Text.toLower_eq_iff (.inl plain)]
    split <;> rfl

theorem caseBlind_readNumber (radix maxDigits size : Nat) (allowZeroPrefix : Bool) :
    CaseBlind (readNumber radix maxDigits size allowZeroPrefix) := by
  intro input
  have digits : ((input.map Char.toLower).takeWhile fun c => (toDigit radix c).isSome).filterMap (toDigit radix) =
      (input.takeWhile fun c => (toDigit radix c).isSome).filterMap (toDigit radix) := by
    rw [List.takeWhile_map, List.filterMap_map]
    simp only [Function.comp_def, toDigit_toLower]
  have zero : ((input.map Char.toLower).head? == some '0') = (input.head? == some '0') := by
    cases input with
    | nil => rfl
    | cons c rest =>
      rw [Bool.eq_iff_iff]
      simp [Text.toLower_eq_iff (c := c) (d := '0') (.inl (by decide))]
  simp only [readNumber, digits, zero, ← List.map_drop]
  split_ifs <;> rfl

theorem CaseBlind.readSeparator {α : Type} {inner : Reader α} (blind : CaseBlind inner) (separator : Char)
    (plain : separator.toNat < 'A'.toNat) (index : Nat) : CaseBlind (readSeparator separator index inner) := by
  intro input
  unfold AddressText.readSeparator
  split
  · rw [caseBlind_readGivenChar plain]
    cases readGivenChar separator input with
    | none => rfl
    | some found => exact blind found.2
  · exact blind input

theorem caseBlind_readOctets (count index : Nat) : CaseBlind (readOctets count index) := by
  induction count generalizing index with
  | zero =>
    intro input
    rfl
  | succ count ih =>
    intro input
    have front := (caseBlind_readNumber 10 3 256 false).readSeparator '.' (by decide) index input
    simp only [readOctets, front]
    cases AddressText.readSeparator '.' index (readNumber 10 3 256 false) input with
    | none => rfl
    | some first =>
      simp only [Option.map_some, Option.bind_eq_bind, Option.bind_some, lowered, ih (index + 1) first.2]
      cases readOctets count (index + 1) first.2 with
      | none => rfl
      | some rest => rfl

theorem readGroups_toLower (count index : Nat) (input : List Char) :
    readGroups count index (input.map Char.toLower) =
      ((readGroups count index input).1, (readGroups count index input).2.1,
        (readGroups count index input).2.2.map Char.toLower) := by
  induction count generalizing index input with
  | zero => rfl
  | succ count ih =>
    have group := (caseBlind_readNumber 16 4 65536 true).readSeparator ':' (by decide) index input
    have embedded : (if 0 < count then readSeparator ':' index readIpv4Addr (input.map Char.toLower) else none) =
        (if 0 < count then readSeparator ':' index readIpv4Addr input else none).map lowered := by
      split
      · exact (caseBlind_readOctets 4 0).readSeparator ':' (by decide) index input
      · rfl
    simp only [readGroups, embedded, group]
    generalize (if 0 < count then readSeparator ':' index readIpv4Addr input else none) = address
    cases readSeparator ':' index (readNumber 16 4 65536 true) input with
    | none => rcases address with _ | ⟨_ | ⟨_, _ | ⟨_, _ | ⟨_, _ | ⟨_, _ | ⟨_, _⟩⟩⟩⟩⟩, _⟩ <;> rfl
    | some found =>
      have later := ih (index + 1) found.2
      rcases address with _ | ⟨_ | ⟨_, _ | ⟨_, _ | ⟨_, _ | ⟨_, _ | ⟨_, _⟩⟩⟩⟩⟩, _⟩ <;>
        simp only [Option.map_some, Option.map_none, lowered, later]

theorem caseBlind_readIpv6Addr : CaseBlind readIpv6Addr := by
  intro input
  have colon : CaseBlind (readGivenChar ':') := caseBlind_readGivenChar (by decide)
  simp only [readIpv6Addr, readGroups_toLower 8 0 input]
  generalize readGroups 8 0 input = head
  split_ifs
  · rfl
  · rfl
  · rw [colon]
    cases readGivenChar ':' head.2.2 with
    | none => rfl
    | some first =>
      simp only [Option.map_some, Option.bind_eq_bind, Option.bind_some, lowered, colon first.2]
      cases readGivenChar ':' first.2 with
      | none => rfl
      | some second =>
        simp only [Option.map_some, Option.bind_some, lowered, readGroups_toLower _ _ second.2]
        rfl

theorem parseIpAddr_toAsciiLowercase (text : String) : parseIpAddr (Text.toAsciiLowercase text) = parseIpAddr text := by
  have v4 : parseIpv4 (Text.toAsciiLowercase text) = parseIpv4 text := by
    have blind := caseBlind_readOctets 4 0 text.toList
    simp only [parseIpv4, Text.toAsciiLowercase, String.toList_ofList, readIpv4Addr, blind]
    rcases readOctets 4 0 text.toList with _ | ⟨octets, _ | ⟨c, rest⟩⟩ <;> rfl
  have v6 : parseIpv6 (Text.toAsciiLowercase text) = parseIpv6 text := by
    have blind := caseBlind_readIpv6Addr text.toList
    simp only [parseIpv6, Text.toAsciiLowercase, String.toList_ofList, blind]
    rcases readIpv6Addr text.toList with _ | ⟨segments, _ | ⟨c, rest⟩⟩ <;> rfl
  rw [parseIpAddr, parseIpAddr, v4, v6]

end Skimasque.Library.AddressText
