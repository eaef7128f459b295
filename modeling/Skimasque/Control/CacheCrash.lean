import Skimasque.Control.PolicyCache

/-! The policy cache when the process stops in the middle of a write. -/

set_option autoImplicit false

namespace Skimasque.Control
open Engine

/-- The directory holds the files of the revision, all of them and no others. -/
def Holds (policies : Option Dir) (revision : Dir) : Prop :=
  ∃ dir, policies = some dir ∧ ∀ name, dir.lookup name = revision.lookup name

/-- The disk a process leaves that stops after the first `count` operations. -/
def stoppedAfter (disk : Disk) (version now : Nat) (documents : List PolicyDocument) (count : Nat) :
    Disk :=
  disk.applyAll ((cacheOps disk version now documents).take count)

/-- Wherever the process stops, the next start finds the old revision whole or the new one whole. -/
def CrashAtomic (disk : Disk) (old : Dir) (version now : Nat) (documents : List PolicyDocument) :
    Prop :=
  ∀ count, Holds (stoppedAfter disk version now documents count).policies old ∨
    Holds (stoppedAfter disk version now documents count).policies (written documents)

theorem not_holds_none (revision : Dir) : ¬ Holds none revision := by
  intro ⟨dir, found, _⟩
  cases found

/-- The last step of removing the policies leaves none, and the swap comes only after it. -/
theorem policies_gone_before_swap (old : Dir) (staging : Option Dir) (record : Option CacheMeta)
    (version now : Nat) (documents : List PolicyDocument) :
    ∃ count, (stoppedAfter ⟨some old, staging, record⟩ version now documents count).policies = none := by
  have split : ∃ before, cacheOps ⟨some old, staging, record⟩ version now documents =
      (before ++ [.removeDir .policies]) ++ [.rename, .writeMeta ⟨version, now⟩] := by
    refine ⟨removeDirAll .staging staging ++ [.createStaging] ++
      documents.map (fun doc => .writeStaging (sanitize doc.name) doc.text) ++
      old.keys.map (Op.removeFile .policies), ?_⟩
    simp [cacheOps, removeDirAll]
  -- Stop right after the directory is removed, before the rename.
  obtain ⟨before, ops⟩ := split
  refine ⟨(before ++ [Op.removeDir .policies]).length, ?_⟩
  rw [stoppedAfter, ops, List.take_left, applyAll_append, applyAll_singleton]
  rfl

/-- Whatever revision was cached and whatever revision replaces it, some stop leaves neither. -/
theorem cache_never_crash_atomic (old : Dir) (staging : Option Dir) (record : Option CacheMeta)
    (version now : Nat) (documents : List PolicyDocument) :
    ¬ CrashAtomic ⟨some old, staging, record⟩ old version now documents := by
  intro atomic
  obtain ⟨count, gone⟩ := policies_gone_before_swap old staging record version now documents
  cases atomic count with
  | inl holds =>
    rw [gone] at holds
    exact not_holds_none old holds
  | inr holds =>
    rw [gone] at holds
    exact not_holds_none (written documents) holds

-- A deny document and an allow document, in the order the directory lists them.
def denyAndAllow : Dir := written [⟨"allow.toml", "name = \"allow\""⟩, ⟨"deny.toml", "name = \"deny\""⟩]

/-- Stopped after the first removal, the deny document is gone and the allow document is still there. -/
theorem stop_leaves_only_the_allow :
    ¬ CrashAtomic ⟨some denyAndAllow, none, none⟩ denyAndAllow 2 0 [⟨"next.toml", "name = \"next\""⟩] := by
  intro atomic
  cases atomic 3 with
  | inl holds =>
    obtain ⟨dir, found, same⟩ := holds
    cases found
    exact absurd (same "deny.toml") (by decide)
  | inr holds =>
    obtain ⟨dir, found, same⟩ := holds
    cases found
    exact absurd (same "next.toml") (by decide)

end Skimasque.Control
