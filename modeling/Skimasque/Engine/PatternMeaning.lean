import Skimasque.Engine.LivePatterns

/-! What blocks, wildcards and port ranges mean: bits compared byte by byte are numbers compared after a
division, and the end of a lowercased name is the end of the name. -/

set_option autoImplicit false

namespace Skimasque.Engine
open Library Library.Address

/-! ## Bits -/

theorem and_mask_toNat (byte : UInt8) (shift : Nat) (small : shift < 8) :
    (byte &&& (0xff : UInt8) <<< UInt8.ofNat shift).toNat = byte.toNat / 2 ^ shift * 2 ^ shift := by
  have masked : ∀ shift : Fin 8, ∀ byte : Fin 256, (UInt8.ofNat byte.val &&& (0xff : UInt8) <<< UInt8.ofNat shift.val).toNat =
      byte.val / 2 ^ shift.val * 2 ^ shift.val := by decide +kernel
  have known := masked ⟨shift, small⟩ ⟨byte.toNat, byte.toNat_lt⟩
  rwa [UInt8.ofNat_toNat] at known

/-- Bytes agree under a mask of the high bits when they agree without the others. -/
theorem and_mask_eq_iff {first second : UInt8} {shift : Nat} (small : shift < 8) :
    first &&& (0xff : UInt8) <<< UInt8.ofNat shift = second &&& (0xff : UInt8) <<< UInt8.ofNat shift ↔
      first.toNat / 2 ^ shift = second.toNat / 2 ^ shift := by
  rw [← UInt8.toNat_inj, and_mask_toNat first shift small, and_mask_toNat second shift small]
  exact Nat.mul_left_inj (Nat.two_pow_pos shift).ne'

theorem shiftIn_zero_cons (byte : UInt8) (rest : List UInt8) :
    BigEndian.shiftIn 0 (byte :: rest) = byte.toNat * 256 ^ rest.length + BigEndian.shiftIn 0 rest := by
  rw [BigEndian.shiftIn_cons, BigEndian.shiftIn_start, Nat.zero_mul, Nat.zero_add]

theorem shiftIn_zero_lt (bytes : List UInt8) : BigEndian.shiftIn 0 bytes < 256 ^ bytes.length := by
  simpa using BigEndian.shiftIn_lt 0 bytes

/-- A number cut within its first byte. -/
theorem shiftIn_div_first (byte : UInt8) (rest : List UInt8) (shift : Nat) :
    BigEndian.shiftIn 0 (byte :: rest) / 2 ^ (8 * rest.length + shift) = byte.toNat / 2 ^ shift := by
  have low := shiftIn_zero_lt rest
  rw [shiftIn_zero_cons, Nat.pow_add, Nat.pow_mul, ← Nat.div_div_eq_div_mul, Nat.add_comm,
    Nat.add_mul_div_right _ _ (Nat.pow_pos (by decide)), Nat.div_eq_of_lt low, Nat.zero_add]

/-- A number cut behind its first byte. -/
theorem shiftIn_div_later {byte : UInt8} {rest : List UInt8} {cut kept : Nat} (whole : cut + kept = 8 * rest.length) :
    BigEndian.shiftIn 0 (byte :: rest) / 2 ^ cut = byte.toNat * 2 ^ kept + BigEndian.shiftIn 0 rest / 2 ^ cut ∧
      BigEndian.shiftIn 0 rest / 2 ^ cut < 2 ^ kept := by
  have scale : 256 ^ rest.length = 2 ^ kept * 2 ^ cut := by
    rw [← Nat.pow_add, Nat.add_comm kept, whole, Nat.pow_mul]
  have low := shiftIn_zero_lt rest
  rw [scale] at low
  constructor
  · rw [shiftIn_zero_cons, scale, ← Nat.mul_assoc, Nat.add_comm, Nat.add_mul_div_right _ _ (Nat.two_pow_pos cut), Nat.add_comm]
  · exact (Nat.div_lt_iff_lt_mul (Nat.two_pow_pos cut)).mpr low

theorem bitsMatch_cons_long {first second : UInt8} {net got : List UInt8} {len : Nat} :
    bitsMatch (first :: net) (second :: got) (len + 8) = true ↔ first = second ∧ bitsMatch net got len = true := by
  have whole : (len + 8) / 8 = len / 8 + 1 := by omega
  have left : (len + 8) % 8 = len % 8 := by omega
  unfold bitsMatch
  simp only [whole, left, List.take_succ_cons, List.getD_cons_succ]
  by_cases same : first = second
  · simp [same]
  · simp [same]

theorem bitsMatch_cons_short {first second : UInt8} {net got : List UInt8} {len : Nat} (short : len < 8) :
    bitsMatch (first :: net) (second :: got) len = true ↔ first.toNat / 2 ^ (8 - len) = second.toNat / 2 ^ (8 - len) := by
  have whole : len / 8 = 0 := by omega
  have left : len % 8 = len := by omega
  unfold bitsMatch
  simp only [whole, left, List.take_zero, List.getD_cons_zero]
  by_cases none : len = 0
  · have mine : first.toNat / 256 = 0 := Nat.div_eq_of_lt first.toNat_lt
    have other : second.toNat / 256 = 0 := Nat.div_eq_of_lt second.toNat_lt
    subst none
    simp [mine, other]
  · rw [← and_mask_eq_iff (by omega)]
    simp [none]

theorem digits_eq_iff {a b x y base : Nat} (low : x < base) (otherLow : y < base) :
    a * base + x = b * base + y ↔ a = b ∧ x = y := by
  constructor
  · intro same
    have high := congrArg (fun value => value / base) same
    have positive : 0 < base := Nat.zero_lt_of_lt low
    simp only [Nat.add_comm, Nat.add_mul_div_right _ _ positive, Nat.div_eq_of_lt low, Nat.div_eq_of_lt otherLow] at high
    have equal : a = b := by omega
    rw [equal] at same
    exact ⟨equal, Nat.add_left_cancel same⟩
  · rintro ⟨rfl, rfl⟩
    rfl

/-- Bits compared as bytes are the numbers compared without their last bits. -/
theorem bitsMatch_iff {net got : List UInt8} {len : Nat} (long : net.length = got.length) (bounded : len ≤ 8 * net.length) :
    bitsMatch net got len = true ↔
      BigEndian.shiftIn 0 net / 2 ^ (8 * net.length - len) = BigEndian.shiftIn 0 got / 2 ^ (8 * net.length - len) := by
  -- Byte by byte: a whole one is compared as it is, the last one without its low bits.
  induction net generalizing got len with
  | nil =>
    have none : got = [] := List.eq_nil_of_length_eq_zero long.symm
    have zero : len = 0 := by simpa using bounded
    subst none zero
    simp [bitsMatch]
  | cons first net ih =>
    obtain ⟨second, got, rfl⟩ : ∃ second rest, got = second :: rest := List.exists_cons_of_length_pos (by rw [← long]; simp)
    have same : net.length = got.length := by simpa using long
    rw [List.length_cons] at bounded ⊢
    by_cases short : len < 8
    · have cut : 8 * (net.length + 1) - len = 8 * net.length + (8 - len) := by omega
      have otherCut : 8 * net.length + (8 - len) = 8 * got.length + (8 - len) := by rw [same]
      rw [bitsMatch_cons_short short, cut, shiftIn_div_first, otherCut, shiftIn_div_first]
    · obtain ⟨less, rfl⟩ : ∃ less, len = less + 8 := ⟨len - 8, by omega⟩
      have cut : 8 * (net.length + 1) - (less + 8) = 8 * net.length - less := by omega
      have mine := @shiftIn_div_later first net (8 * net.length - less) less (by omega)
      have other := @shiftIn_div_later second got (8 * net.length - less) less (by omega)
      rw [cut, bitsMatch_cons_long, ih same (by omega), mine.1, other.1, digits_eq_iff mine.2 other.2, UInt8.toNat_inj]

/-- `bits_match`, where a slice or an index that leaves the bytes gives nothing. -/
def bitsMatchChecked (net got : List UInt8) (len : Nat) : Option Bool :=
  let whole := len / 8
  if net.length < whole ∨ got.length < whole then none
  else if net.take whole ≠ got.take whole then some false
  else
    let remainder := len % 8
    if remainder = 0 then some true
    else
      let mask := (0xff : UInt8) <<< UInt8.ofNat (8 - remainder)
      match net[whole]?, got[whole]? with
      | some first, some second => some ((first &&& mask) == (second &&& mask))
      | _, _ => none

theorem bitsMatchChecked_eq {net got : List UInt8} {len : Nat} (long : net.length = got.length)
    (bounded : len ≤ 8 * net.length) : bitsMatchChecked net got len = some (bitsMatch net got len) := by
  have slices : ¬(net.length < len / 8 ∨ got.length < len / 8) := by omega
  unfold bitsMatchChecked bitsMatch
  simp only [if_neg slices]
  split
  · rfl
  split
  · rfl
  · have inside : len / 8 < net.length := by omega
    have otherInside : len / 8 < got.length := by omega
    simp [inside, otherInside]

/-- A block holds the addresses of its family that agree with it without the last bits. -/
theorem cidrContains_iff {addr candidate : IpAddr} {len : Nat} (bounded : len ≤ addr.width) :
    cidrContains addr len candidate = true ↔ candidate.isIpv6 = addr.isIpv6 ∧
      candidate.value / 2 ^ (addr.width - len) = addr.value / 2 ^ (addr.width - len) := by
  have size := octets_length addr
  have otherSize := octets_length candidate
  have mine := shiftIn_octets addr
  have other := shiftIn_octets candidate
  cases addr with
  | v4 bits =>
    cases candidate with
    | v4 others =>
      have bound : len ≤ 8 * (IpAddr.v4 bits).octets.length := by simpa [size, IpAddr.width] using bounded
      rw [cidrContains, bitsMatch_iff (size.trans otherSize.symm) bound, mine, other, size]
      simp [IpAddr.isIpv6, IpAddr.width, eq_comm]
    | v6 others => simp [cidrContains, IpAddr.isIpv6]
  | v6 bits =>
    cases candidate with
    | v4 others => simp [cidrContains, IpAddr.isIpv6]
    | v6 others =>
      have bound : len ≤ 8 * (IpAddr.v6 bits).octets.length := by simpa [size, IpAddr.width] using bounded
      rw [cidrContains, bitsMatch_iff (size.trans otherSize.symm) bound, mine, other, size]
      simp [IpAddr.isIpv6, IpAddr.width, eq_comm]

/-- No slice and no index leaves the octets. -/
theorem bitsMatchChecked_octets {addr candidate : IpAddr} {len : Nat} (bounded : len ≤ addr.width)
    (family : candidate.isIpv6 = addr.isIpv6) :
    bitsMatchChecked addr.octets candidate.octets len = some (bitsMatch addr.octets candidate.octets len) := by
  have size := octets_length addr
  have otherSize := octets_length candidate
  apply bitsMatchChecked_eq
  · rw [size, otherSize]
    cases addr with
    | v4 bits =>
      cases candidate with
      | v4 others => rfl
      | v6 others => cases family
    | v6 bits =>
      cases candidate with
      | v4 others => cases family
      | v6 others => rfl
  · rw [size]
    cases addr with
    | v4 bits => simpa [IpAddr.width] using bounded
    | v6 bits => simpa [IpAddr.width] using bounded

/-! ## Names -/

theorem lowercase_append (front back : String) :
    Text.toAsciiLowercase (front ++ back) = Text.toAsciiLowercase front ++ Text.toAsciiLowercase back := by
  simp [Text.toAsciiLowercase]

/-- A lowercased name ends in a lowercased tail when it is some text before the tail, read without case. -/
theorem endsWith_lowercase_iff (name tail : String) :
    Text.endsWith (Text.toAsciiLowercase name) (Text.toAsciiLowercase tail) = true ↔
      ∃ front, Text.eqIgnoreAsciiCase name (front ++ tail) = true := by
  have lowered (text : String) : (Text.toAsciiLowercase text).toList = text.toList.map Char.toLower := by
    simp [Text.toAsciiLowercase]
  simp only [Text.endsWith, Text.eqIgnoreAsciiCase, List.isSuffixOf_iff_suffix, lowered, beq_iff_eq]
  constructor
  · rintro ⟨front, whole⟩
    obtain ⟨start, last, same, rfl, tails⟩ := List.map_eq_append_iff.mp whole.symm
    refine ⟨String.ofList start, ?_⟩
    rw [same, String.toList_append, String.toList_ofList, List.map_append, List.map_append, tails]
  · rintro ⟨front, whole⟩
    rw [whole, String.toList_append, List.map_append]
    exact List.suffix_append ..

/-- The host a pattern is written with. -/
def writtenHost (text : String) : String := ((splitHostPort text).map Prod.fst).getD text

theorem parseHostPattern_suffix {input hostPart suffix : String} {pattern : HostPattern}
    (parsed : parseHostPattern input hostPart = .ok pattern) (wildcard : Text.stripPrefix "*." hostPart = some suffix) :
    pattern = .suffix (Text.toAsciiLowercase ("." ++ suffix)) := by
  have notStar : hostPart ≠ "*" := by
    rintro rfl
    cases wildcard
  simp only [parseHostPattern, if_neg notStar, wildcard] at parsed
  split at parsed
  · cases parsed
  · cases parsed
    rw [lowercase_append]
    rfl

theorem suffix_of_parse {input suffix : String} {spec : DestinationSpec} (parsed : DestinationSpec.parse input = .ok spec)
    (block : Text.splitOnce '/' (Text.trim input) = none)
    (wildcard : Text.stripPrefix "*." (writtenHost (Text.trim input)) = some suffix) :
    spec.host = .suffix (Text.toAsciiLowercase ("." ++ suffix)) := by
  have parts := DestinationSpec.parse_parts parsed
  unfold writtenHost at wildcard
  cases parts with
  | any star =>
    rw [star] at wildcard
    cases wildcard
  | cidr addr len spec split parsed =>
    rw [split] at block
    cases block
  | port hostPart portPart host port noSlash split portParsed hostParsed =>
    rw [split] at wildcard
    exact parseHostPattern_suffix hostParsed wildcard
  | host host noSlash split hostParsed =>
    rw [split] at wildcard
    exact parseHostPattern_suffix hostParsed wildcard

/-! ## The meaning of patterns -/

theorem cidr_of_parse {input addrText lenText : String} {spec : DestinationSpec}
    (parsed : DestinationSpec.parse input = .ok spec)
    (block : Text.splitOnce '/' (Text.trim input) = some (addrText, lenText)) :
    ∃ addr, ∃ len : UInt16, ∃ bounded : len.toNat ≤ addr.width, AddressText.parseIpAddr addrText = some addr ∧
      Text.parseU16 lenText = some len ∧ spec.host = .cidr addr len.toNat bounded ∧ spec.port = .any := by
  have parts := DestinationSpec.parse_parts parsed
  cases parts with
  | any star =>
    rw [star] at block
    cases block
  | cidr addr len spec split parsed =>
    rw [block] at split
    cases split
    unfold parseCidr at parsed
    split at parsed
    · cases parsed
    rename_i addr read
    split at parsed
    · cases parsed
    rename_i len number
    split at parsed
    · rename_i bounded
      cases parsed
      exact ⟨addr, len, bounded, read, number, rfl, rfl⟩
    · cases parsed
  | port hostPart portPart host port noSlash split portParsed hostParsed =>
    rw [noSlash] at block
    cases block
  | host host noSlash split hostParsed =>
    rw [noSlash] at block
    cases block

theorem PortPattern.range_iff {lo hi port : UInt16} : (PortPattern.range lo hi).matches port = true ↔ lo ≤ port ∧ port ≤ hi := by
  simp [PortPattern.matches]

theorem parsePortPattern_range {text low high : String} {pattern : PortPattern}
    (parsed : parsePortPattern text = .ok pattern) (split : Text.splitOnce '-' text = some (low, high)) :
    ∃ lo hi, Text.parseU16 low = some lo ∧ Text.parseU16 high = some hi ∧ pattern = .range lo hi := by
  have notStar : text ≠ "*" := by
    rintro rfl
    cases split
  simp only [parsePortPattern, if_neg notStar, split] at parsed
  split at parsed
  · rename_i lo hi lowRead highRead
    split at parsed
    · cases parsed
    · cases parsed
      exact ⟨lo, hi, lowRead, highRead, rfl⟩
  · cases parsed

/-- Blocks hold the addresses of their family that agree with them above the last bits, wildcards the names below their
domain, and ranges the ports between their ends. -/
theorem patterns_mean_what_they_say :
    (∀ input addrText lenText spec, DestinationSpec.parse input = .ok spec →
      Text.splitOnce '/' (Text.trim input) = some (addrText, lenText) →
      ∃ addr, ∃ len : UInt16, AddressText.parseIpAddr addrText = some addr ∧ Text.parseU16 lenText = some len ∧
        len.toNat ≤ addr.width ∧ ∀ candidate port,
          (spec.matches ⟨.ip candidate, port⟩ = true ↔ candidate.isIpv6 = addr.isIpv6 ∧
            candidate.value / 2 ^ (addr.width - len.toNat) = addr.value / 2 ^ (addr.width - len.toNat)) ∧
          (candidate.isIpv6 = addr.isIpv6 → bitsMatchChecked addr.octets candidate.octets len.toNat =
            some (cidrContains addr len.toNat candidate))) ∧
    (∀ input suffix spec, DestinationSpec.parse input = .ok spec → Text.splitOnce '/' (Text.trim input) = none →
      Text.stripPrefix "*." (writtenHost (Text.trim input)) = some suffix →
      ∀ name port, spec.matches ⟨.name (Text.toAsciiLowercase name), port⟩ = true ↔
        spec.port.matches port = true ∧ ∃ front, Text.eqIgnoreAsciiCase name (front ++ "." ++ suffix) = true) ∧
    (∀ text low high pattern, parsePortPattern text = .ok pattern → Text.splitOnce '-' text = some (low, high) →
      ∃ lo hi, Text.parseU16 low = some lo ∧ Text.parseU16 high = some hi ∧
        ∀ port, pattern.matches port = true ↔ lo ≤ port ∧ port ≤ hi) := by
  refine ⟨?_, ?_, ?_⟩
  · intro input addrText lenText spec parsed block
    obtain ⟨addr, len, bounded, read, number, host, any⟩ := cidr_of_parse parsed block
    refine ⟨addr, len, read, number, bounded, fun candidate port => ⟨?_, ?_⟩⟩
    · simp only [DestinationSpec.matches, DestinationSpec.hostMatches, host, any, PortPattern.matches, Bool.true_and]
      exact cidrContains_iff bounded
    · intro family
      rw [bitsMatchChecked_octets bounded family]
      cases addr with
      | v4 bits =>
        cases candidate with
        | v4 others => rfl
        | v6 others => cases family
      | v6 bits =>
        cases candidate with
        | v4 others => cases family
        | v6 others => rfl
  · intro input suffix spec parsed block wildcard name port
    have host := suffix_of_parse parsed block wildcard
    simp only [DestinationSpec.matches, DestinationSpec.hostMatches, host, Bool.and_eq_true, endsWith_lowercase_iff,
      String.append_assoc]
  · intro text low high pattern parsed split
    obtain ⟨lo, hi, lowRead, highRead, rfl⟩ := parsePortPattern_range parsed split
    exact ⟨lo, hi, lowRead, highRead, fun port => PortPattern.range_iff⟩

end Skimasque.Engine
