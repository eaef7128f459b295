import Skimasque.Deploy.Steps

/-! Whether the running service is newer than the last change of `current` and of the secrets file. -/

set_option autoImplicit false

namespace Skimasque.Deploy
open Library Library.Interrupted Library.Transition Skimasque.Core

namespace Machine

/-- The process was started after the last change of `current`, and of the secrets file. -/
def Fresh (m : Machine) : Prop := ∀ process, m.process = some process → process.since = m.changes

/-- Neither the process nor what it was started from is another. -/
def SameService (m m' : Machine) : Prop := m'.process = m.process ∧ m'.changes = m.changes

/-- The pass comes to a restart, if it comes to its end: it has another release to install, or other secrets. -/
def Restarts (m : Machine) (cfg : Config) (inputs : Inputs) : Prop :=
  ∃ pointer, inputs.pointer = .found pointer ∧ isVersion (strip pointer) = true ∧
    if m.currentVersion = some (strip pointer) then m.newSecrets cfg inputs.access ≠ none
    else strip pointer ∉ m.readBad

theorem SameService.fresh {m m' : Machine} (same : m.SameService m') : m'.Fresh ↔ m.Fresh := by
  rw [Fresh, Fresh, same.1, same.2]

theorem SameService.trans {m m' m'' : Machine} (first : m.SameService m') (second : m'.SameService m'') :
    m.SameService m'' := ⟨second.1.trans first.1, second.2.trans first.2⟩

theorem TouchedAt.sameService {m m' : Machine} {touched : String → Prop} (only : m.TouchedAt touched m') :
    m.SameService m' := by
  rw [only.rest]
  exact ⟨rfl, rfl⟩

theorem fresh_start (m : Machine) : m.start.Fresh := by
  intro process started
  cases started
  rfl

theorem sameService_write {m : Machine} {file : TextFile} {content : String} (other : file ≠ .secrets) :
    m.SameService (m.write file content) := ⟨rfl, if_neg other⟩

end Machine

section
variable {m start : Machine}

/-- The parts of a pass that are nothing to the service, begun where it is still the same. -/
theorem writeState_sameService {file : TextFile} {value : String} (other : file ≠ .secrets)
    (so : start.SameService m) :
    wp (fun _ => True) (fun _ => start.SameService) (fun _ => True) (writeState file value) m :=
  wp_writeState.mpr ⟨fun _ => so, fun _ => ⟨trivial, so.trans (Machine.sameService_write other)⟩⟩

theorem addBad_sameService {version : String} (so : start.SameService m) :
    wp (fun _ => True) (fun _ => start.SameService) (fun _ => True) (addBad version) m :=
  wp_addBad so fun _ => ⟨trivial, so.trans (Machine.sameService_write (by decide))⟩

theorem clearBad_sameService {version : String} (so : start.SameService m) :
    wp (fun _ => True) (fun _ => start.SameService) (fun _ => True) (clearBad version) m :=
  wp_clearBad so fun _ => ⟨trivial, so.trans (Machine.sameService_write (by decide))⟩

theorem prune_sameService (so : start.SameService m) :
    wp (fun _ => True) (fun _ => start.SameService) (fun _ => True) prune m :=
  wp_mono prune_touches (fun _ _ => trivial) (fun _ _ held => so.trans held.sameService) (fun _ _ => trivial)

/-- A rollback either leaves the service or restarts it. -/
theorem rollBack_service {version : String} {inputs : Inputs} (so : start.SameService m) :
    wp (fun _ => True) (fun code m' => code = 1 ∧ (start.SameService m' ∨ m'.Fresh)) (fun _ => True)
      (rollBack version inputs) m := by
  unfold rollBack
  rw [wp_bind, wp_look]
  split
  · exact wp_pure.mpr ⟨rfl, Or.inl so⟩
  · rename_i previous _
    rw [wp_ite, wp_pure]
    refine ⟨fun _ => ?_, fun _ => ⟨rfl, Or.inl so⟩⟩
    rw [wp_bind]
    refine wp_pointCurrentAt (fun _ => trivial) trivial ?_
    rw [wp_bind]
    refine wp_restart ⟨trivial, ?_⟩ trivial ⟨trivial, trivial⟩
    rw [wp_bind]
    refine wp_mono (writeState_sameService (by decide) ⟨rfl, rfl⟩) (fun _ _ => trivial) (fun _ m' same => ?_)
      (fun _ _ => trivial)
    exact wp_pure.mpr ⟨rfl, Or.inr (same.fresh.mpr (Machine.fresh_start _))⟩

theorem verifyInstalled_service {cfg : Config} {version : String} {inputs : Inputs} (so : start.SameService m) :
    wp (fun _ => True) (fun code m' => start.SameService m' ∨ (code = 1 ∧ m'.Fresh)) (fun _ => True)
      (verifyInstalled cfg version inputs) m := by
  unfold verifyInstalled
  rw [wp_bind]
  refine wp_waitHealthy trivial (fun _ => ⟨trivial, ?_⟩) (fun _ => ?_)
  · have seen : start.SameService m.see := so
    simp only [if_true, wp_bind, wp_pure]
    refine wp_mono (writeState_sameService (by decide) seen) (fun _ _ => trivial) (fun _ m' written => ?_)
      (fun _ _ => trivial)
    refine wp_mono (clearBad_sameService written) (fun _ _ => trivial) (fun _ m' cleared => ?_) (fun _ _ => trivial)
    exact wp_mono (prune_sameService cleared) (fun _ _ => trivial) (fun _ m' pruned => Or.inl pruned) (fun _ _ => trivial)
  · rw [if_neg (by decide), wp_bind]
    refine wp_mono (addBad_sameService so) (fun _ _ => trivial) (fun _ m' listed => ?_) (fun _ _ => trivial)
    refine wp_mono (rollBack_service listed) (fun _ _ => trivial) (fun code m' result => ?_) (fun _ _ => trivial)
    obtain ⟨failed, same | fresh⟩ := result
    · exact Or.inl same
    · exact Or.inr ⟨failed, fresh⟩

/-- How a pass that returns leaves the service: a fresh one fresh, and after a success fresh only so or by a restart. -/
structure Leaves (m : Machine) (restarts : Prop) (code : Nat) (m' : Machine) : Prop where
  keeps : m.Fresh → m'.Fresh
  success : code = 0 → (m'.Fresh ↔ m.Fresh ∨ restarts)

theorem Leaves.of_same {restarts : Prop} {code : Nat} {m' : Machine} (same : m.SameService m')
    (none : code = 0 → ¬ restarts) : Leaves m restarts code m' where
  keeps := same.fresh.mpr
  success zero := by
    rw [same.fresh, or_iff_left (none zero)]

theorem Leaves.of_fresh {restarts : Prop} {code : Nat} {m' : Machine} (fresh : m'.Fresh)
    (restarted : code = 0 → restarts) : Leaves m restarts code m' where
  keeps _ := fresh
  success zero := ⟨fun _ => Or.inr (restarted zero), fun _ => fresh⟩

theorem verifyInstalled_fresh {cfg : Config} {version : String} {inputs : Inputs} :
    wp (fun _ => True) (fun _ m' => m'.Fresh) (fun _ => True) (verifyInstalled cfg version inputs) m.start := by
  refine wp_mono (verifyInstalled_service ⟨rfl, rfl⟩) (fun _ _ => trivial) (fun code m' result => ?_) (fun _ _ => trivial)
  obtain same | ⟨_, fresh⟩ := result
  · exact same.fresh.mpr (Machine.fresh_start m)
  · exact fresh

theorem refresh_leaves {cfg : Config} {version : String} {inputs : Inputs} :
    wp (fun _ => True) (Leaves m (m.newSecrets cfg inputs.access ≠ none)) (fun _ => True) (refresh cfg version inputs) m := by
  unfold refresh
  rw [wp_bind, wp_look, wp_bind]
  refine wp_syncSecrets (fun kept => ?_) (fun content written => ⟨trivial, ?_⟩) trivial
  · have same : ∀ code m', m.SameService m' → Leaves m (m.newSecrets cfg inputs.access ≠ none) code m' :=
      fun _ _ same => .of_same same fun _ changes => changes kept
    simp only [wp_bind, wp_given, wp_ite, wp_pure]
    refine ⟨by rintro ⟨⟩, fun _ => ⟨fun _ => ?_, fun _ => same _ _ ⟨rfl, rfl⟩⟩⟩
    refine wp_mono (verifyInstalled_service ⟨rfl, rfl⟩) (fun _ _ => trivial) (fun code m' result => ?_) (fun _ _ => trivial)
    obtain service | ⟨failed, fresh⟩ := result
    · exact same code m' service
    · refine .of_fresh fresh fun zero => ?_
      rw [zero] at failed
      cases failed
  · have restarted : ∀ code m', Machine.Fresh m' → Leaves m (m.newSecrets cfg inputs.access ≠ none) code m' :=
      fun _ _ fresh => .of_fresh fresh fun _ none => by
        rw [none] at written
        cases written
    rw [wp_bind, wp_given]
    refine ⟨fun _ => wp_restart ⟨trivial, ?_⟩ trivial ⟨trivial, trivial⟩, fun never => absurd rfl never⟩
    rw [wp_ite, wp_pure]
    refine ⟨fun _ => ?_, fun _ => restarted _ _ (Machine.fresh_start _)⟩
    exact wp_mono verifyInstalled_fresh (fun _ _ => trivial) restarted (fun _ _ => trivial)

theorem replace_fresh {cfg : Config} {version : String} {binary : Bytes} {inputs : Inputs} :
    wp (fun _ => True) (fun _ m' => m'.Fresh) (fun _ => True) (replace cfg version binary inputs) m := by
  unfold replace
  rw [wp_bind, wp_look, wp_bind]
  refine wp_mono wp_trivial (fun _ _ => trivial) (fun _ installed _ => ?_) (fun _ _ => trivial)
  rw [wp_bind]
  refine wp_mono wp_trivial (fun _ _ => trivial) (fun _ written _ => ?_) (fun _ _ => trivial)
  rw [wp_bind]
  refine wp_pointCurrentAt (fun _ => trivial) trivial ?_
  rw [wp_bind]
  exact wp_restart ⟨trivial, verifyInstalled_fresh⟩ trivial ⟨trivial, trivial⟩

/-- A fetch that is refused is a failure; one that is not ends in a restart. -/
theorem fetch_leaves {cfg : Config} {sha256 : Bytes → String} {version : String} {inputs : Inputs} {restarts : Prop}
    (restarted : restarts) :
    wp (fun _ => True) (Leaves m restarts) (fun _ => True) (fetch cfg sha256 version inputs) m := by
  have refused : Leaves m restarts 1 m := .of_same ⟨rfl, rfl⟩ nofun
  unfold fetch
  split
  · exact wp_raise.mpr trivial
  · exact wp_pure.mpr refused
  · split
    · exact wp_raise.mpr trivial
    · exact wp_pure.mpr refused
    · dsimp only
      rw [wp_ite, wp_pure, wp_bind, wp_act, wp_bind]
      refine ⟨fun _ => refused, fun _ => ⟨trivial, ?_⟩⟩
      refine wp_mono wp_trivial (fun _ _ => trivial) (fun _ synced _ => ?_) (fun _ _ => trivial)
      exact wp_mono replace_fresh (fun _ _ => trivial) (fun _ _ fresh => .of_fresh fresh fun _ => restarted)
        (fun _ _ => trivial)

theorem deploy_leaves (cfg : Config) (sha256 : Bytes → String) (inputs : Inputs) :
    wp (fun _ => True) (Leaves m (m.Restarts cfg inputs)) (fun _ => True) (deploy cfg sha256 inputs) m := by
  unfold deploy
  cases read : inputs.pointer with
  | failed => exact wp_raise.mpr trivial
  | notFound =>
    refine wp_pure.mpr (.of_same ⟨rfl, rfl⟩ fun _ restarts => ?_)
    obtain ⟨pointer, found, _⟩ := restarts
    rw [read] at found
    cases found
  | found pointer =>
    dsimp only
    rw [wp_ite, wp_pure, wp_bind, wp_look, wp_ite, wp_ite, wp_pure]
    refine ⟨fun _ => .of_same ⟨rfl, rfl⟩ nofun, fun notInvalid => ?_⟩
    have valid : isVersion (strip pointer) = true := by simpa using notInvalid
    have restarts : m.Restarts cfg inputs ↔ if m.currentVersion = some (strip pointer) then
        m.newSecrets cfg inputs.access ≠ none else strip pointer ∉ m.readBad := by
      constructor
      · intro ⟨other, found, _, branch⟩
        rw [read] at found
        cases found
        exact branch
      · intro branch
        exact ⟨pointer, read, valid, branch⟩
    refine ⟨fun same => ?_, fun other => ⟨fun listed => ?_, fun unlisted => ?_⟩⟩
    · rw [if_pos same] at restarts
      rw [restarts]
      exact refresh_leaves
    · rw [if_neg other] at restarts
      exact .of_same ⟨rfl, rfl⟩ fun _ restarted => restarts.mp restarted listed
    · rw [if_neg other] at restarts
      exact fetch_leaves (restarts.mpr unlisted)

end

theorem returned_leaves {cfg : Config} {sha256 : Bytes → String} {m : Machine} {inputs : Inputs} {code : Nat}
    (returned : (m.course cfg sha256 inputs).outcome = some code) :
    Leaves m (m.Restarts cfg inputs) code (m.course cfg sha256 inputs).state := by
  have left := (deploy_leaves (m := { m with now := inputs.now }) cfg sha256 inputs).returns code returned
  exact ⟨left.keeps, left.success⟩

/-- Where every pass that is interrupted, by a cut or an exception, leaves a fresh service, there is always one. -/
theorem fresh_unless_interrupted {cfg : Config} {sha256 : Bytes → String} {history : List Pass} {m : Machine}
    (interrupted : Along (pass cfg sha256) (fun m p => p.cut = none ∧ (m.course cfg sha256 p.inputs).outcome ≠ none ∨
      ∀ m', pass cfg sha256 m p = some m' → m'.Fresh) .blank history)
    (ran : run (pass cfg sha256) .blank history = some m) : m.Fresh := by
  have unstarted : Machine.blank.Fresh := by
    intro process started
    cases started
  apply run_invariant_along Machine.Fresh _ unstarted interrupted ran
  intro m p m' fresh whole stepped
  obtain ⟨uncut, returned⟩ | left := whole
  · obtain ⟨code, outcome⟩ := Option.ne_none_iff_exists'.mp returned
    rw [pass, uncut] at stepped
    cases stepped
    exact (returned_leaves outcome).keeps fresh
  · exact left m' stepped

/-! ## A rollback that is cut -/

def gateway : Config := ⟨"skimasque-gateway", 60, []⟩

/-- A checksum that all of the binaries have. -/
def digest (_ : Bytes) : String := "00ff"

def promoted (version : String) (healthy : Bool) : Inputs where
  now := 0
  pointer := .found version
  binary := .found [1]
  checksum := .found "00ff  skimasque-gateway"
  access _ := .absent
  suffix := "x"
  writeFails := false
  secretsRestart := .started
  installRestart := .started
  rollbackRestart := .started
  checkFrom := 0
  polls := [(healthy, 60)]

/-- The second release is unhealthy, and the first is gone back to. -/
def backFrom (firstHealthy : Bool) : List Pass := [⟨promoted "v1" firstHealthy, none⟩, ⟨promoted "v2" false, none⟩]

end Skimasque.Deploy
