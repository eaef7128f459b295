import Skimasque.Library.Position

/-! Reading the head of an HTTP request off a connection, whatever pieces it comes in. -/

set_option autoImplicit false

namespace Skimasque.Cli
open Library.Position

/-- The largest request head accepted, in bytes. -/
def maxHead : Nat := 8 * 1024

/-- The most that one read returns. -/
def chunkLen : Nat := 1024

/-- `\r\n\r\n`. -/
def headEnd : List UInt8 := [13, 10, 13, 10]

/-- How a connection goes on after its last read: the client closes it, or reading fails. -/
inductive Ending where
  | closed
  | failed
  deriving DecidableEq, Repr

/-- The loop of `read_head` over the reads to come: the head and the bytes read behind it, and the reads that are left. -/
def readHead (ending : Ending) (buf : List UInt8) (reads : List (List UInt8)) :
    Except Unit (Option (List UInt8 × List UInt8)) × List (List UInt8) :=
  match position headEnd buf with
  | some stop => (.ok (some (buf.take (stop + 4), buf.drop (stop + 4))), reads)
  | none =>
    if maxHead < buf.length then (.ok none, reads)
    else
      match reads with
      | [] => (match ending with
        | .closed => .ok none
        | .failed => .error (), [])
      | chunk :: rest => readHead ending (buf ++ chunk) rest

/-- Where the first blank line of a stream ends. -/
def endOfHead (stream : List UInt8) : Option Nat := (position headEnd stream).map (· + 4)

/-- No read ends behind the limit and before the head does, so that the size is not looked at in between. -/
def Unnoticed (stop : Nat) (buf : List UInt8) (reads : List (List UInt8)) : Prop :=
  ∀ front back, reads = front ++ back → maxHead < (buf ++ front.flatten).length → stop ≤ (buf ++ front.flatten).length

section
variable {buf : List UInt8} {reads : List (List UInt8)} {stop : Nat}

theorem endOfHead_append {back : List UInt8} (found : endOfHead buf = some stop) :
    stop ≤ buf.length ∧ endOfHead (buf ++ back) = some stop := by
  unfold endOfHead at *
  obtain ⟨index, here, rfl⟩ := Option.map_eq_some_iff.mp found
  exact ⟨position_bound here, by rw [position_append here]; rfl⟩

theorem endOfHead_of_append {back : List UInt8} (found : endOfHead (buf ++ back) = some stop) (inside : stop ≤ buf.length) :
    endOfHead buf = some stop := by
  unfold endOfHead at *
  obtain ⟨index, there, rfl⟩ := Option.map_eq_some_iff.mp found
  rw [position_of_append there inside]
  rfl

theorem unnoticed_cons {chunk : List UInt8} (small : buf.length ≤ maxHead) :
    Unnoticed stop buf (chunk :: reads) ↔ Unnoticed stop (buf ++ chunk) reads := by
  constructor
  · intro unnoticed front back split large
    rw [List.append_assoc] at large ⊢
    exact unnoticed (chunk :: front) back (by rw [split, List.cons_append]) large
  · intro unnoticed front back split large
    cases front with
    | nil =>
      rw [List.flatten_nil, List.append_nil] at large
      exact absurd large (Nat.not_lt.mpr small)
    | cons first front =>
      obtain ⟨rfl, rest⟩ := List.cons.inj split
      rw [List.flatten_cons, ← List.append_assoc] at large ⊢
      exact unnoticed front back rest large

/-- A head is found when the stream has one, and no read shows in time that it is too large. -/
theorem readHead_isSome_iff :
    (∃ found, (readHead .closed buf reads).1 = .ok (some found)) ↔
      ∃ stop, endOfHead (buf ++ reads.flatten) = some stop ∧ Unnoticed stop buf reads := by
  -- On the reads to come, for any bytes read before.
  induction reads generalizing buf with
  | nil =>
    rw [readHead, List.flatten_nil, List.append_nil]
    cases here : position headEnd buf with
    | some index =>
      have found : endOfHead buf = some (index + 4) := by rw [endOfHead, here]; rfl
      simp only [Except.ok.injEq, Option.some.injEq, exists_eq', true_iff]
      refine ⟨index + 4, found, fun front back _ _ => ?_⟩
      exact Nat.le_trans (@endOfHead_append buf (index + 4) [] found).1 (by simp)
    | none =>
      have nothing : endOfHead buf = none := by rw [endOfHead, here]; rfl
      simp only [nothing]
      split <;> simp
  | cons chunk rest ih =>
    rw [readHead]
    cases here : position headEnd buf with
    | some index =>
      have found : endOfHead buf = some (index + 4) := by rw [endOfHead, here]; rfl
      have whole := @endOfHead_append buf (index + 4) (chunk :: rest).flatten found
      simp only [Except.ok.injEq, Option.some.injEq, exists_eq', true_iff]
      refine ⟨index + 4, whole.2, fun front back _ _ => ?_⟩
      exact Nat.le_trans whole.1 (by simp)
    | none =>
      have nothing : endOfHead buf = none := by rw [endOfHead, here]; rfl
      simp only
      split
      · rename_i large
        simp only [Except.ok.injEq, reduceCtorEq, exists_false, false_iff]
        rintro ⟨stop, found, unnoticed⟩
        have inside := unnoticed [] (chunk :: rest) rfl (by simpa using large)
        have early := endOfHead_of_append found (by simpa using inside)
        rw [nothing] at early
        cases early
      · rename_i small
        rw [ih, List.append_assoc, ← List.flatten_cons]
        simp only [unnoticed_cons (Nat.not_lt.mp small)]

/-- A head is all of the stream up to its end, and no byte that was read is lost or comes twice. -/
theorem readHead_eq_some {ending : Ending} {head early : List UInt8} {left : List (List UInt8)}
    (read : readHead ending buf reads = (.ok (some (head, early)), left)) :
    ∃ stop, endOfHead (buf ++ reads.flatten) = some stop ∧ head = (buf ++ reads.flatten).take stop ∧
      head ++ early ++ left.flatten = buf ++ reads.flatten := by
  induction reads generalizing buf with
  | nil =>
    unfold readHead at read
    cases here : position headEnd buf with
    | some index =>
      rw [here] at read
      cases read
      exact ⟨index + 4, by rw [List.flatten_nil, List.append_nil, endOfHead, here]; rfl, by simp, by simp⟩
    | none =>
      rw [here] at read
      simp only at read
      split at read
      · cases read
      · cases ending with
        | closed => cases read
        | failed => cases read
  | cons chunk rest ih =>
    unfold readHead at read
    cases here : position headEnd buf with
    | some index =>
      rw [here] at read
      cases read
      have found : endOfHead buf = some (index + 4) := by rw [endOfHead, here]; rfl
      have whole := @endOfHead_append buf (index + 4) (chunk :: rest).flatten found
      exact ⟨index + 4, whole.2, (List.take_append_of_le_length whole.1).symm, by rw [List.take_append_drop]⟩
    | none =>
      rw [here] at read
      simp only at read
      split at read
      · cases read
      · obtain ⟨stop, found, start, whole⟩ := ih read
        have same : buf ++ chunk ++ rest.flatten = buf ++ (chunk :: rest).flatten := by
          rw [List.append_assoc, List.flatten_cons]
        rw [same] at found start whole
        exact ⟨stop, found, start, whole⟩

/-- So much is read at most, whether a head is found or not. -/
theorem readHead_bounded {ending : Ending} (sized : ∀ chunk ∈ reads, chunk.length ≤ chunkLen)
    (bounded : buf.length ≤ maxHead + chunkLen) :
    (buf ++ reads.flatten).length ≤ (readHead ending buf reads).2.flatten.length + (maxHead + chunkLen) := by
  induction reads generalizing buf with
  | nil =>
    rw [List.flatten_nil, List.append_nil]
    exact Nat.le_trans bounded (Nat.le_add_left ..)
  | cons chunk rest ih =>
    rw [List.forall_mem_cons] at sized
    have unread : (buf ++ (chunk :: rest).flatten).length ≤ (chunk :: rest).flatten.length + (maxHead + chunkLen) := by
      rw [List.length_append]
      omega
    rw [readHead]
    split
    · exact unread
    · split
      · exact unread
      · rename_i small
        have next : (buf ++ chunk).length ≤ maxHead + chunkLen := by
          rw [List.length_append]
          omega
        rw [List.flatten_cons, ← List.append_assoc]
        exact ih sized.2 next

theorem readHead_closed_ne_error : (readHead .closed buf reads).1 ≠ .error () := by
  induction reads generalizing buf with
  | nil =>
    rw [readHead]
    split
    · exact nofun
    · split
      · exact nofun
      · exact nofun
  | cons chunk rest ih =>
    rw [readHead]
    split
    · exact nofun
    · split
      · exact nofun
      · exact ih

end

/-- Reading depends on the bytes alone: a head is found when the first blank line ends within the limit, it is then all up to
there and the rest of what was read follows it, and in every other case none is found, with so much read at most. -/
structure ReadsAlike (reads : List (List UInt8)) : Prop where
  found_iff : (∃ found, (readHead .closed [] reads).1 = .ok (some found)) ↔
    ∃ stop, endOfHead reads.flatten = some stop ∧ stop ≤ maxHead
  split : ∀ head early left, readHead .closed [] reads = (.ok (some (head, early)), left) →
    ∃ stop, endOfHead reads.flatten = some stop ∧ head = reads.flatten.take stop ∧
      head ++ early ++ left.flatten = reads.flatten
  none_otherwise : (¬∃ found, (readHead .closed [] reads).1 = .ok (some found)) → (readHead .closed [] reads).1 = .ok none
  bounded : reads.flatten.length ≤ (readHead .closed [] reads).2.flatten.length + (maxHead + chunkLen)

/-- The first blank line ends within the limit, or a read ends between the limit and it. -/
def Noticed (reads : List (List UInt8)) : Prop :=
  ∀ stop, endOfHead reads.flatten = some stop → maxHead < stop →
    ∃ front back, reads = front ++ back ∧ maxHead < front.flatten.length ∧ front.flatten.length < stop

theorem found_iff_noticed (reads : List (List UInt8)) :
    ((∃ found, (readHead .closed [] reads).1 = .ok (some found)) ↔
      ∃ stop, endOfHead reads.flatten = some stop ∧ stop ≤ maxHead) ↔ Noticed reads := by
  rw [readHead_isSome_iff, List.nil_append]
  unfold Noticed Unnoticed
  simp only [List.nil_append]
  cases endOfHead reads.flatten with
  | none => simp
  | some stop =>
    simp only [Option.some.injEq, exists_eq_left', forall_eq']
    constructor
    · intro same large
      have noticed := mt same.mp (Nat.not_le.mpr large)
      simp only [not_forall, Nat.not_le] at noticed
      obtain ⟨front, back, split, beyond, before⟩ := noticed
      exact ⟨front, back, split, beyond, before⟩
    · intro noticed
      constructor
      · intro unnoticed
        by_contra large
        obtain ⟨front, back, split, beyond, before⟩ := noticed (Nat.not_le.mp large)
        exact Nat.not_le.mpr before (unnoticed front back split beyond)
      · intro small front back split beyond
        exact Nat.le_trans small (Nat.le_of_lt beyond)

/-- The pieces that a head comes in do not matter exactly when a head that is too large is noticed to be. -/
theorem reads_alike_iff (reads : List (List UInt8)) (sized : ∀ chunk ∈ reads, 1 ≤ chunk.length ∧ chunk.length ≤ chunkLen) :
    ReadsAlike reads ↔ Noticed reads := by
  constructor
  · intro alike
    exact (found_iff_noticed reads).mp alike.found_iff
  · intro noticed
    constructor
    · exact (found_iff_noticed reads).mpr noticed
    · intro head early left read
      exact readHead_eq_some read
    · intro missing
      cases read : (readHead .closed [] reads).1 with
      | error error => exact absurd read readHead_closed_ne_error
      | ok result =>
        cases result with
        | none => rfl
        | some found => exact absurd ⟨found, read⟩ missing
    · exact @readHead_bounded [] reads .closed (fun chunk member => (sized chunk member).2) (Nat.zero_le _)

theorem short_head_reads_alike : ReadsAlike [[71, 13, 10], [13, 10, 33]] := by
  rw [reads_alike_iff _ (by decide)]
  intro stop found large
  have five : endOfHead ([[71, 13, 10], [13, 10, 33]] : List (List UInt8)).flatten = some 5 := by decide
  rw [five] at found
  cases found
  exact absurd large (by decide)

theorem position_headEnd (count : Nat) : position headEnd (List.replicate count 97 ++ headEnd) = some count := by
  induction count with
  | zero => decide
  | succ count ih =>
    have other : ¬headEnd.isPrefixOf (97 :: (List.replicate count 97 ++ headEnd)) = true := by simp [headEnd]
    rw [List.replicate_succ, List.cons_append, position, if_neg other, ih]
    rfl

/-- A head of one byte too many. -/
def tooLarge : List (List UInt8) := List.replicate 8189 [97] ++ [headEnd]

/-- The byte behind the limit is read before the size is looked at, and the head is accepted. -/
theorem too_large_head_is_read :
    endOfHead tooLarge.flatten = some (maxHead + 1) ∧
      (∃ found, (readHead .closed [] tooLarge).1 = .ok (some found)) ∧ ¬ReadsAlike tooLarge := by
  have bytes : tooLarge.flatten = List.replicate 8189 97 ++ headEnd := by
    have singles (count : Nat) : (List.replicate count [(97 : UInt8)]).flatten = List.replicate count 97 := by
      induction count with
      | zero => rfl
      | succ count ih => rw [List.replicate_succ, List.flatten_cons, ih, List.replicate_succ, List.singleton_append]
    rw [tooLarge, List.flatten_append, singles, List.flatten_singleton]
  have stop : endOfHead tooLarge.flatten = some (maxHead + 1) := by
    rw [bytes, endOfHead, position_headEnd]
    rfl
  have found : ∃ found, (readHead .closed [] tooLarge).1 = .ok (some found) := by
    rw [readHead_isSome_iff, List.nil_append]
    exact ⟨maxHead + 1, stop, fun _ _ _ large => large⟩
  refine ⟨stop, found, fun alike => ?_⟩
  obtain ⟨other, same, small⟩ := alike.found_iff.mp found
  rw [stop] at same
  cases same
  exact absurd small (by decide)

end Skimasque.Cli
