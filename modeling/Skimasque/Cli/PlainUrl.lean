import Skimasque.Cli.PlainHttp

/-! What the URL of a plain request stands for: a host and a port, and a path and a query. -/

set_option autoImplicit false

namespace Skimasque.Cli
open Library Library.Lines Skimasque.Core

/-- The path and query of a URL, which end where its fragment starts. -/
def pathAndQuery (url : Line) : Line :=
  let behind := ((url.drop scheme.length).dropWhile (!isDelimiter ·)).takeWhile (· != '#')
  if behind.head? = some '/' then behind else '/' :: behind

def readPort (digits : Line) : Option Nat :=
  if digits.isEmpty || !digits.all Text.isAsciiDigit then none else some (Text.decimalValue digits)

/-- The host and the port of an authority: an address in brackets or what has no colon, then a port, if any, in digits. -/
def readAuthority (authority : Line) : Option (Line × Nat) :=
  if authority.head? = some '[' then
    match Text.splitAtFirst ']' authority with
    | some (inside, []) => some (inside ++ [']'], 80)
    -- Digits alone: the port of a tunnel's target may also have a sign.
    | some (inside, ':' :: digits) => (readPort digits).map fun port => (inside ++ [']'], port)
    | _ => none
  else
    match Text.splitAtFirst ':' authority with
    | none => some (authority, 80)
    | some (host, digits) => (readPort digits).map fun port => (host, port)

/-- An authority that stands for that target. -/
def Names (authority : Line) (target : Target) : Prop :=
  ∃ host, readAuthority authority = some (host, target.port.toNat) ∧ TargetHost.parse (String.ofList host) = .ok target.host

section
variable {url authority : Line}

theorem fragment_iff (found : plainHttpAuthority url = some authority) :
    '#' ∈ url ↔ '#' ∈ (url.drop scheme.length).dropWhile (!isDelimiter ·) := by
  unfold plainHttpAuthority at found
  split at found
  · rename_i schemed
    -- No `#` stands before the end of the authority, which is at the first one at the latest.
    have noScheme : '#' ∉ url.take scheme.length := by
      intro member
      have lower : Char.toLower '#' ∈ scheme := by
        rw [← schemed]
        exact List.mem_map_of_mem member
      exact absurd lower (by decide)
    have noAuthority : '#' ∉ (url.drop scheme.length).takeWhile (!isDelimiter ·) := by
      intro member
      have plain := List.mem_takeWhile_imp member
      exact absurd plain (by decide)
    have whole : '#' ∈ url ↔ '#' ∈ url.take scheme.length ++ ((url.drop scheme.length).takeWhile (!isDelimiter ·) ++
        (url.drop scheme.length).dropWhile (!isDelimiter ·)) := by
      rw [List.takeWhile_append_dropWhile, List.take_append_drop]
    rw [whole, List.mem_append, List.mem_append]
    simp only [noScheme, noAuthority, false_or]
  · cases found

theorem not_mem_pathAndQuery : '#' ∉ pathAndQuery url := by
  have noFragment : '#' ∉ ((url.drop scheme.length).dropWhile (!isDelimiter ·)).takeWhile (· != '#') := by
    intro member
    have other := List.mem_takeWhile_imp member
    exact absurd other (by decide)
  unfold pathAndQuery
  simp only
  split
  · exact noFragment
  · rw [List.mem_cons, not_or]
    exact ⟨by decide, noFragment⟩

/-- What comes behind the authority goes to the origin server, its fragment included. -/
theorem originPath_eq_iff (found : plainHttpAuthority url = some authority) :
    originPath url = pathAndQuery url ↔ '#' ∉ url := by
  rw [fragment_iff found]
  constructor
  · intro same member
    have inPath : '#' ∈ originPath url := by
      unfold originPath
      simp only
      split
      · rename_i nothing
        rw [nothing] at member
        cases member
      · exact member
      · exact List.mem_cons_of_mem _ member
    rw [same] at inPath
    exact not_mem_pathAndQuery inPath
  · intro clear
    have whole : ((url.drop scheme.length).dropWhile (!isDelimiter ·)).takeWhile (· != '#') =
        (url.drop scheme.length).dropWhile (!isDelimiter ·) := by
      rw [List.takeWhile_eq_self_iff]
      intro c member
      exact bne_iff_ne.mpr fun same => clear (same ▸ member)
    unfold originPath pathAndQuery
    simp only [whole]
    split
    · rename_i nothing
      rw [nothing, if_neg (by decide)]
    · rename_i rest starts
      rw [starts, if_pos (by rfl)]
    · rename_i other
      rw [if_neg]
      intro starts
      obtain ⟨rest, slash⟩ := List.head?_eq_some_iff.mp starts
      exact other rest slash

/-! ## The host and the port -/

theorem readPort_eq_some_iff {digits : Line} {port : Nat} : readPort digits = some port ↔
    digits ≠ [] ∧ (∀ c ∈ digits, Text.isAsciiDigit c = true) ∧ Text.decimalValue digits = port := by
  rw [readPort, Option.ite_none_left_eq_some, Bool.or_eq_true, List.isEmpty_iff, Bool.not_eq_true', not_or, Bool.not_eq_false,
    List.all_eq_true, Option.some.injEq, and_assoc]

/-- A port in digits alone is their value. -/
theorem parseU16_of_readPort {digits : Line} {port : Nat} {value : UInt16} (read : readPort digits = some port)
    (parsed : Text.parseU16 (String.ofList digits) = some value) : port = value.toNat := by
  obtain ⟨filled, ascii, rfl⟩ := readPort_eq_some_iff.mp read
  obtain ⟨number, found, rfl⟩ := Option.map_eq_some_iff.mp parsed
  rw [Text.parseUnsigned_digits filled ascii, Option.ite_none_right_eq_some, Option.some.injEq] at found
  obtain ⟨fits, rfl⟩ := found
  exact (UInt16.toNat_ofNat_of_lt' fits).symm

theorem splitAtFirst_bracket {v6 : Line} : Text.splitAtFirst ']' ('[' :: v6) =
    (Text.splitAtFirst ']' v6).map fun parts => ('[' :: parts.1, parts.2) := by
  rw [Text.splitAtFirst, if_neg (by decide)]

theorem hasPort_of_other (other : authority.head? ≠ some '[') : hasPort authority = authority.contains ':' := by
  unfold hasPort
  split
  · exact absurd rfl other
  · rfl

/-- The text that is parsed as the tunnel's target names the host and the port that the authority is read as. -/
theorem tunnelTarget_of_read {host : Line} {port : Nat} (read : readAuthority authority = some (host, port)) :
    ∃ digits, tunnelTarget authority = host ++ ':' :: digits ∧ readPort digits = some port ∧
      ((∃ inside, host = inside ++ [']']) ∨ ':' ∉ host) := by
  unfold readAuthority at read
  unfold tunnelTarget
  split at read
  · rename_i opened
    obtain ⟨v6, rfl⟩ := List.head?_eq_some_iff.mp opened
    rw [splitAtFirst_bracket] at read
    rw [hasPort]
    cases split : Text.splitAtFirst ']' v6 with
    | none =>
      rw [split] at read
      cases read
    | some parts =>
      obtain ⟨inside, behind⟩ := parts
      obtain ⟨rfl, -⟩ := Text.splitAtFirst_eq_some_iff.mp split
      rw [split] at read
      cases behind with
      | nil =>
        cases read
        exact ⟨"80".toList, by simp, by decide, .inl ⟨_, rfl⟩⟩
      | cons c digits =>
        by_cases colon : c = ':'
        · rw [colon] at read ⊢
          obtain ⟨number, digitsRead, same⟩ := Option.map_eq_some_iff.mp read
          cases same
          exact ⟨digits, by simp, digitsRead, .inl ⟨_, rfl⟩⟩
        · simp [colon] at read
  · rename_i other
    rw [hasPort_of_other other]
    cases split : Text.splitAtFirst ':' authority with
    | none =>
      have absent := Text.splitAtFirst_eq_none_iff.mp split
      rw [split] at read
      cases read
      exact ⟨"80".toList, by simp [absent], by decide, .inr absent⟩
    | some parts =>
      obtain ⟨front, digits⟩ := parts
      obtain ⟨rfl, clear⟩ := Text.splitAtFirst_eq_some_iff.mp split
      rw [split] at read
      obtain ⟨number, digitsRead, same⟩ := Option.map_eq_some_iff.mp read
      cases same
      exact ⟨digits, by simp, digitsRead, .inr clear⟩

/-- A text is split in front of its port, if what comes before it ends in a bracket or has no colon. -/
theorem split_of_form {host digits : Line} {hostText portText : String} (colon : ':' ∉ digits) (bracket : ']' ∉ digits)
    (form : (∃ inside, host = inside ++ [']']) ∨ ':' ∉ host)
    (split : Target.split (String.ofList (host ++ ':' :: digits)) = .ok (hostText, portText)) :
    hostText = String.ofList host ∧ portText = String.ofList digits := by
  cases last : Text.rsplitOnce ']' (String.ofList host) with
  | none =>
    rw [Text.rsplitOnce_eq_none_iff, String.toList_ofList] at last
    have bare : Text.rsplitOnce ':' (String.ofList (host ++ ':' :: digits)) = some (String.ofList host, String.ofList digits) := by
      rw [Text.rsplitOnce_eq_some_iff]
      simp only [String.toList_ofList]
      exact ⟨trivial, colon⟩
    rw [target_split_bare bare (by rwa [String.toList_ofList]) (by rwa [String.toList_ofList])] at split
    cases split
    exact ⟨rfl, rfl⟩
  | some parts =>
    obtain ⟨front, rest⟩ := parts
    obtain ⟨whole, clear⟩ := Text.rsplitOnce_eq_some_iff.mp last
    rw [String.toList_ofList] at whole
    have found : Text.rsplitOnce ']' (String.ofList (host ++ ':' :: digits)) =
        some (front, rest ++ String.ofList (':' :: digits)) := by
      rw [Text.rsplitOnce_eq_some_iff, String.toList_append, String.toList_ofList, String.toList_ofList, whole,
        List.append_assoc, List.cons_append, List.mem_append, not_or, List.mem_cons, not_or]
      exact ⟨rfl, clear, by decide, bracket⟩
    unfold Target.split at split
    rw [found] at split
    simp only at split
    -- What follows the last bracket starts with the colon of the port, or the text would not have been split.
    have nothing : rest.toList = [] := by
      cases chars : rest.toList with
      | nil => rfl
      | cons c more =>
        rw [chars] at clear whole
        rcases form with ⟨inside, ended⟩ | colonless
        · have last := congrArg List.getLast? (whole.symm.trans ended)
          rw [List.getLast?_append_cons, List.getLast?_cons_cons, List.getLast?_concat] at last
          exact absurd (List.mem_of_getLast? last) clear
        · split at split
          · rename_i port stripped
            have starts := congrArg String.toList (Text.stripPrefix_eq_some_iff.mp stripped)
            rw [String.toList_append, String.toList_append, chars] at starts
            have first : c = ':' := (List.cons.inj starts).1
            rw [whole, first] at colonless
            exact absurd (List.mem_append_right _ (List.mem_cons_of_mem _ List.mem_cons_self)) colonless
          · cases split
    have stripped : Text.stripPrefix ":" (rest ++ String.ofList (':' :: digits)) = some (String.ofList digits) := by
      rw [Text.stripPrefix_eq_some_iff, ← String.toList_inj]
      simp [nothing]
    rw [stripped] at split
    cases split
    refine ⟨?_, rfl⟩
    rw [← String.toList_inj, String.toList_append, whole, nothing]
    exact String.toList_ofList.symm

/-- The `Host` header names the tunnel's target exactly when it can be read. -/
theorem names_iff {target : Target} (parsed : Target.parse (String.ofList (tunnelTarget authority)) = .ok target) :
    Names authority target ↔ (readAuthority authority).isSome = true := by
  constructor
  · rintro ⟨host, read, -⟩
    rw [read]
    rfl
  · intro readable
    obtain ⟨⟨host, port⟩, read⟩ := Option.isSome_iff_exists.mp readable
    obtain ⟨digits, whole, digitsRead, form⟩ := tunnelTarget_of_read read
    obtain ⟨hostText, portText, split, portParsed, hostParsed, -⟩ := Target.parse_eq_ok_iff.mp parsed
    have ascii := (readPort_eq_some_iff.mp digitsRead).2.1
    have colon : ':' ∉ digits := fun member => absurd (ascii _ member) (by decide)
    have bracket : ']' ∉ digits := fun member => absurd (ascii _ member) (by decide)
    rw [whole] at split
    obtain ⟨rfl, rfl⟩ := split_of_form colon bracket form split
    refine ⟨host, ?_, hostParsed⟩
    rw [read, parseU16_of_readPort digitsRead portParsed]

end

end Skimasque.Cli
