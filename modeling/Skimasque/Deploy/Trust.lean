import Skimasque.Deploy.Freshness

/-! Which releases the `verified` state file has named, and which were seen healthy. -/

set_option autoImplicit false

namespace Skimasque.Deploy
open Library Library.Interrupted Library.Transition Skimasque.Core

/-- A release that `verified` names was seen healthy when it was running, at one time or another. -/
def Machine.TrustsSeen (m : Machine) : Prop := ∀ version, m.readState .verified = some version → version ∈ m.seen

def Config.health (cfg : Config) (inputs : Inputs) : Option Bool :=
  verdict (inputs.checkFrom + cfg.healthTimeout) inputs.polls

/-- The pass finds the release installed, and checks it without a restart. -/
def Machine.Rechecks (m : Machine) (cfg : Config) (inputs : Inputs) : Prop :=
  ∃ pointer, inputs.pointer = .found pointer ∧ m.currentVersion = some (strip pointer) ∧
    m.readState .verified ≠ some (strip pointer) ∧ m.newSecrets cfg inputs.access = none

/-- The release to go back to, where the one that the pointer names turns out unhealthy. -/
def Machine.fallback (m : Machine) (version : String) : Option String :=
  (if m.currentVersion = some version then m.readState .previous else m.currentVersion).filter fun previous =>
    previous ≠ "none" ∧ previous ≠ version ∧ (m.releases.lookup previous).isSome

/-- A recheck is answered by the release it is about, and a rollback goes to one that `verified` has named. -/
structure Checks (cfg : Config) (m : Machine) (p : Pass) : Prop where
  own : m.Rechecks cfg p.inputs → cfg.health p.inputs = some true →
    m.process.bind Process.release = m.currentVersion
  back : cfg.health p.inputs = some false → ∀ pointer previous, p.inputs.pointer = .found pointer →
    m.fallback (strip pointer) = some previous → previous ∈ m.trusted

structure Machine.Trusting (m : Machine) : Prop where
  named : m.Named
  verified : ∀ version, m.readState .verified = some version → version ∈ m.trusted
  seen : ∀ version ∈ m.trusted, version ∈ m.seen

namespace Machine.Trusting
variable {m m' : Machine}

theorem trustsSeen (trusting : m.Trusting) : m.TrustsSeen :=
  fun version read => trusting.seen version (trusting.verified version read)

theorem congr (trusting : m.Trusting) (named : m'.Named) (verified : m'.text .verified = m.text .verified)
    (trusted : m'.trusted = m.trusted) (seen : ∀ version ∈ m.seen, version ∈ m'.seen) : m'.Trusting where
  named := named
  verified version read := by
    rw [trusted]
    exact trusting.verified version (readState_congr verified ▸ read)
  seen version member := seen version (trusting.seen version (trusted ▸ member))

theorem writeVerified (trusting : m.Trusting) {version : String} (kept : strip version = version) (nonempty : version ≠ "")
    (healthy : version ∈ m.seen) : (m.write .verified (version ++ "\n")).Trusting := by
  have trusted : (m.write .verified (version ++ "\n")).trusted = version :: m.trusted := by
    change strip (version ++ "\n") :: m.trusted = _
    rw [strip_line, kept]
  refine ⟨trusting.named.write (by decide), fun other read => ?_, fun other member => ?_⟩
  · rw [readState_write kept nonempty] at read
    cases read
    rw [trusted]
    exact List.mem_cons_self ..
  · rw [trusted] at member
    obtain same | before := List.mem_cons.mp member
    · rw [same]
      exact healthy
    · exact trusting.seen other before

/-- Writing another file is nothing to it. -/
theorem writeOther (trusting : m.Trusting) (file : TextFile) (content : String) (other : file ≠ .verified)
    (named : (m.write file content).Named) : (m.write file content).Trusting :=
  trusting.congr named (Function.update_of_ne other.symm ..) (if_neg other) fun _ member => member

theorem touched (trusting : m.Trusting) {entries : String → Prop} (only : m.TouchedAt entries m') : m'.Trusting := by
  rw [only.rest]
  exact ⟨⟨trusting.named.current, trusting.named.previous⟩, trusting.verified, trusting.seen⟩

theorem installed (trusting : m.Trusting) {cfg : Config} {version staging : String} {binary : Bytes}
    (only : m.Installed cfg version binary staging m') : m'.Trusting := by
  rw [only.rest]
  exact ⟨⟨trusting.named.current, trusting.named.previous⟩, trusting.verified, trusting.seen⟩

theorem see (trusting : m.Trusting) : m.see.Trusting :=
  trusting.congr ⟨trusting.named.current, trusting.named.previous⟩ rfl rfl fun _ => List.mem_append_right _

theorem start (trusting : m.Trusting) : m.start.Trusting :=
  trusting.congr ⟨trusting.named.current, trusting.named.previous⟩ rfl rfl fun _ member => member

theorem stopped (trusting : m.Trusting) : m.stopped.Trusting :=
  trusting.congr ⟨trusting.named.current, trusting.named.previous⟩ rfl rfl fun _ member => member

theorem setNew (trusting : m.Trusting) {target : Option (List String)} : (m.setNew target).Trusting :=
  trusting.congr ⟨trusting.named.current, trusting.named.previous⟩ rfl rfl fun _ member => member

theorem pointedAt (trusting : m.Trusting) {version : String} (valid : isVersion version = true) :
    (m.pointedAt version).Trusting :=
  trusting.congr (trusting.named.pointedAt valid) rfl rfl fun _ member => member

theorem check (trusting : m.Trusting) (check : Check) : Machine.Trusting { m with checks := check :: m.checks } :=
  trusting.congr ⟨trusting.named.current, trusting.named.previous⟩ rfl rfl fun _ member => member

end Machine.Trusting

section
variable {m : Machine} {cfg : Config} {version : String} {inputs : Inputs}

/-- Going back is going to a release that was trusted before. -/
theorem rollBack_trusting (trusting : m.Trusting)
    (back : ∀ previous, m.readState .previous = some previous → previous ≠ "none" → previous ≠ version →
      (m.releases.lookup previous).isSome → previous ∈ m.trusted) :
    wp Machine.Trusting (fun _ => Machine.Trusting) Machine.Trusting (rollBack version inputs) m := by
  unfold rollBack
  rw [wp_bind, wp_look]
  split
  · exact wp_pure.mpr trusting
  · rename_i previous read
    rw [wp_ite, wp_pure]
    refine ⟨fun ⟨named, other, present⟩ => ?_, fun _ => trusting⟩
    have trusted := back previous read named other present
    obtain ⟨kept, nonempty⟩ := Machine.strip_readState read
    have valid := (trusting.named.previous previous read).resolve_left named
    have pointed := trusting.pointedAt valid
    rw [wp_bind]
    refine wp_pointCurrentAt (fun _ => trusting.setNew) pointed ?_
    rw [wp_bind]
    refine wp_restart ⟨pointed.start, ?_⟩ pointed ⟨pointed.stopped, pointed.stopped⟩
    rw [wp_bind]
    have verified := pointed.start.writeVerified kept nonempty (trusting.seen previous trusted)
    exact wp_writeState.mpr ⟨fun _ => wp_pure.mpr pointed.start, fun _ => ⟨verified, wp_pure.mpr verified⟩⟩

theorem verifyInstalled_trusting (trusting : m.Trusting) (valid : isVersion version = true)
    (own : cfg.health inputs = some true → m.process.bind Process.release = some version)
    (back : cfg.health inputs = some false → ∀ previous, m.readState .previous = some previous → previous ≠ "none" →
      previous ≠ version → (m.releases.lookup previous).isSome → previous ∈ m.trusted) :
    wp Machine.Trusting (fun _ => Machine.Trusting) Machine.Trusting (verifyInstalled cfg version inputs) m := by
  have listed {m' : Machine} (trusting : m'.Trusting) (content : String) : (m'.write .bad content).Trusting :=
    trusting.writeOther .bad content TextFile.noConfusion (trusting.named.write TextFile.noConfusion)
  unfold verifyInstalled
  rw [wp_bind]
  refine wp_waitHealthy trusting (fun healthy => ⟨trusting.see, ?_⟩) (fun unhealthy => ?_)
  · have seen : version ∈ m.see.seen := by
      rw [Machine.see, own healthy]
      exact List.mem_cons_self ..
    have verified := trusting.see.writeVerified (strip_version valid) (version_ne_empty valid) seen
    -- What follows once the release is trusted is nothing to the trust.
    have rest {m' : Machine} (trusting : m'.Trusting) : wp Machine.Trusting (fun _ => Machine.Trusting) Machine.Trusting
        (do clearBad version; prune; pure 0 : Program Machine Nat) m' := by
      have pruned {m' : Machine} (trusting : m'.Trusting) : wp Machine.Trusting (fun _ => Machine.Trusting)
          Machine.Trusting (do prune; pure 0 : Program Machine Nat) m' := by
        rw [wp_bind]
        exact wp_mono prune_touches (fun _ only => trusting.touched only)
          (fun _ _ only => wp_pure.mpr (trusting.touched only)) (fun _ never => never.elim)
      rw [wp_bind]
      exact wp_clearBad (pruned trusting) fun content => ⟨listed trusting content, pruned (listed trusting content)⟩
    simp only [if_true]
    rw [wp_bind]
    exact wp_writeState.mpr ⟨fun _ => rest trusting.see, fun _ => ⟨verified, rest verified⟩⟩
  · rw [if_neg (by decide), wp_bind]
    refine wp_addBad (rollBack_trusting trusting (back unhealthy)) fun content => ⟨listed trusting content, ?_⟩
    apply rollBack_trusting (listed trusting content)
    intro previous read
    rw [Machine.readState_write_of_ne (by decide)] at read
    exact back unhealthy previous read

theorem refresh_trusting (trusting : m.Trusting) (installed : m.currentVersion = some version)
    (own : m.readState .verified ≠ some version → m.newSecrets cfg inputs.access = none →
      cfg.health inputs = some true → m.process.bind Process.release = m.currentVersion)
    (back : cfg.health inputs = some false → ∀ previous, m.readState .previous = some previous → previous ≠ "none" →
      previous ≠ version → (m.releases.lookup previous).isSome → previous ∈ m.trusted) :
    wp Machine.Trusting (fun _ => Machine.Trusting) Machine.Trusting (refresh cfg version inputs) m := by
  have valid := (trusting.named.currentVersion installed).2
  unfold refresh
  rw [wp_bind, wp_look, wp_bind]
  refine wp_syncSecrets (fun kept => ?_) (fun content _ => ?_) trusting
  · simp only [wp_bind, wp_given, wp_ite, wp_pure]
    refine ⟨by rintro ⟨⟩, fun _ => ⟨fun unverified => ?_, fun _ => trusting⟩⟩
    exact verifyInstalled_trusting trusting valid (fun healthy => installed ▸ own unverified kept healthy) back
  · have written := trusting.writeOther .secrets content TextFile.noConfusion
      (trusting.named.write TextFile.noConfusion)
    refine ⟨written, ?_⟩
    rw [wp_bind, wp_given]
    refine ⟨fun _ => wp_restart ⟨written.start, ?_⟩ written ⟨written.stopped, written.stopped⟩, fun never => absurd rfl never⟩
    rw [wp_ite, wp_pure]
    refine ⟨fun _ => verifyInstalled_trusting written.start valid (fun _ => installed) ?_, fun _ => written.start⟩
    intro unhealthy previous read
    have started : (m.write .secrets content).start.readState .previous = (m.write .secrets content).readState .previous := rfl
    rw [started, Machine.readState_write_of_ne (by decide)] at read
    exact back unhealthy previous read

/-- From the new release on: what may be gone back to is what was installed. -/
theorem replace_trusting {binary : Bytes} (trusting : m.Trusting) (valid : isVersion version = true)
    (back : cfg.health inputs = some false → ∀ previous, m.currentVersion = some previous → previous ≠ "none" →
      previous ≠ version → (m.releases.lookup previous).isSome → previous ∈ m.trusted) :
    wp Machine.Trusting (fun _ => Machine.Trusting) Machine.Trusting (replace cfg version binary inputs) m := by
  unfold replace
  rw [wp_bind, wp_look, wp_bind]
  refine wp_mono (installRelease_spec valid) (fun _ so => ?_) (fun _ placed only => ?_) (fun _ so => trusting.touched so)
  · obtain touched | installed := so
    · exact trusting.touched touched
    · exact trusting.installed installed
  have installed := trusting.installed only
  have same : placed.currentVersion = m.currentVersion := by
    rw [only.rest]
    rfl
  have trusted : placed.trusted = m.trusted := by
    rw [only.rest]
  rw [← same]
  obtain ⟨kept, nonempty⟩ := installed.named.previousLine
  -- Once `previous` names what was installed, whether it did before or not.
  have noted {m' : Machine} (trusting : m'.Trusting) (releases : m'.releases = placed.releases)
      (before : m'.trusted = m.trusted) (names : m'.readState .previous = some (placed.currentVersion.getD "none")) :
      wp Machine.Trusting (fun _ => Machine.Trusting) Machine.Trusting (do
        pointCurrentAt version
        restart inputs.installRestart
        verifyInstalled cfg version inputs) m' := by
    have pointed := trusting.pointedAt valid
    rw [wp_bind]
    refine wp_pointCurrentAt (fun _ => trusting.setNew) pointed ?_
    rw [wp_bind]
    refine wp_restart ⟨pointed.start, ?_⟩ pointed ⟨pointed.stopped, pointed.stopped⟩
    refine verifyInstalled_trusting pointed.start valid (fun _ => rfl) fun unhealthy previous read named other present => ?_
    have line : previous = placed.currentVersion.getD "none" := Option.some.inj (read.symm.trans names)
    cases current : placed.currentVersion with
    | none =>
      rw [current] at line
      exact absurd line named
    | some version' =>
      rw [current, Option.getD_some] at line
      subst line
      have currentValid := (installed.named.currentVersion current).2
      have found : (m.releases.lookup previous).isSome := by
        rw [← only.lookup previous (version_ne_stagingName currentValid) other, ← releases]
        exact present
      change previous ∈ m'.trusted
      rw [before]
      exact back unhealthy previous (same ▸ current) named other found
  rw [wp_bind]
  refine wp_writeState.mpr ⟨fun text => ?_, fun _ => ?_⟩
  · exact noted installed rfl trusted (Machine.readState_of_text text kept nonempty)
  · have written := installed.writeOther .previous _ TextFile.noConfusion installed.named.writePrevious
    exact ⟨written, noted written rfl trusted (Machine.readState_write kept nonempty)⟩

theorem fetch_trusting {sha256 : Bytes → String} (trusting : m.Trusting) (valid : isVersion version = true)
    (back : cfg.health inputs = some false → ∀ previous, m.currentVersion = some previous → previous ≠ "none" →
      previous ≠ version → (m.releases.lookup previous).isSome → previous ∈ m.trusted) :
    wp Machine.Trusting (fun _ => Machine.Trusting) Machine.Trusting (fetch cfg sha256 version inputs) m := by
  unfold fetch
  split
  · exact wp_raise.mpr trusting
  · exact wp_pure.mpr trusting
  · split
    · exact wp_raise.mpr trusting
    · exact wp_pure.mpr trusting
    · rename_i binary _ _ checksum _
      dsimp only
      rw [wp_ite, wp_pure, wp_bind, wp_act, wp_bind]
      refine ⟨fun _ => trusting, fun _ => ?_⟩
      have checked := trusting.check ⟨version, binary, Text.toAsciiLowercase ((words checksum).headD "")⟩
      refine ⟨checked, wp_syncSecrets (fun _ => ?_) (fun content _ => ?_) checked⟩
      · exact replace_trusting checked valid back
      · have written := checked.writeOther .secrets content TextFile.noConfusion
          (checked.named.write TextFile.noConfusion)
        exact ⟨written, replace_trusting written valid back⟩

theorem deploy_trusting (sha256 : Bytes → String) (trusting : m.Trusting)
    (own : m.Rechecks cfg inputs → cfg.health inputs = some true → m.process.bind Process.release = m.currentVersion)
    (back : cfg.health inputs = some false → ∀ pointer previous, inputs.pointer = .found pointer →
      m.fallback (strip pointer) = some previous → previous ∈ m.trusted) :
    wp Machine.Trusting (fun _ => Machine.Trusting) Machine.Trusting (deploy cfg sha256 inputs) m := by
  unfold deploy
  cases read : inputs.pointer with
  | failed => exact wp_raise.mpr trusting
  | notFound => exact wp_pure.mpr trusting
  | found pointer =>
    dsimp only
    rw [wp_ite, wp_pure, wp_bind, wp_look, wp_ite, wp_ite, wp_pure]
    refine ⟨fun _ => trusting, fun notInvalid => ⟨fun same => ?_, fun other => ⟨fun _ => trusting, fun _ => ?_⟩⟩⟩
    · refine refresh_trusting trusting same ?_ ?_
      · intro unverified kept healthy
        exact own ⟨pointer, read, same, unverified, kept⟩ healthy
      · intro unhealthy previous names named differs present
        apply back unhealthy pointer previous read
        rw [Machine.fallback, if_pos same, names]
        simp [named, differs, present]
    · have valid : isVersion (strip pointer) = true := by simpa using notInvalid
      refine fetch_trusting trusting valid fun unhealthy previous names named differs present => ?_
      apply back unhealthy pointer previous read
      rw [Machine.fallback, if_neg other, names]
      simp [named, differs, present]

end

theorem blank_trusting : Machine.blank.Trusting where
  named := by
    refine ⟨fun target points => ?_, fun version read => ?_⟩
    · cases points
    · cases read
  verified version read := by cases read
  seen version member := by cases member

/-- Whatever passes there are, and wherever they are cut: `verified` names no release that was not seen healthy,
as long as a recheck is answered by the release that it is about, and a rollback goes to a verified one. -/
theorem verified_was_seen {cfg : Config} {sha256 : Bytes → String} {history : List Pass} {m : Machine}
    (checks : Along (pass cfg sha256) (Checks cfg) .blank history)
    (ran : run (pass cfg sha256) .blank history = some m) : m.TrustsSeen := by
  have trusting : m.Trusting := by
    apply run_invariant_along Machine.Trusting _ blank_trusting checks ran
    intro m p m' trusting checked stepped
    have begun : Machine.Trusting { m with now := p.inputs.now } :=
      trusting.congr ⟨trusting.named.current, trusting.named.previous⟩ rfl rfl fun _ member => member
    have held := deploy_trusting sha256 begun checked.own checked.back
    exact pass_keeps held stepped
  exact trusting.trustsSeen

theorem rollback_to_verified_was_seen : ∃ m, run (pass gateway digest) .blank (backFrom true) = some m ∧ m.TrustsSeen := by
  obtain ⟨m, ran⟩ := Option.isSome_iff_exists.mp
    (show (run (pass gateway digest) .blank (backFrom true)).isSome = true by decide)
  have checks : Along (pass gateway digest) (Checks gateway) .blank (backFrom true) := by
    refine ⟨⟨fun ⟨_, _, installed, _⟩ => ?_, fun unhealthy => absurd unhealthy (by decide)⟩, fun first stepped => ?_⟩
    · cases installed
    refine ⟨⟨fun _ healthy => absurd healthy (by decide), fun _ pointer previous read back => ?_⟩, fun _ _ => trivial⟩
    have facts : (pass gateway digest .blank ⟨promoted "v1" true, none⟩).map
        (fun m => (m.fallback (strip "v2"), m.trusted)) = some (some "v1", ["v1"]) := by decide
    cases read
    rw [stepped, Option.map_some, Option.some.injEq, Prod.mk.injEq, back] at facts
    rw [facts.2, Option.some.inj facts.1]
    exact List.mem_singleton_self _
  exact ⟨m, ran, verified_was_seen checks ran⟩

/-- No release was ever healthy, and yet the rollback from the second writes that the first was. -/
theorem rollback_trusts_the_unseen : ∃ m, run (pass gateway digest) .blank (backFrom false) = some m ∧
    m.readState .verified = some "v1" ∧ m.seen = [] ∧ ¬ m.TrustsSeen := by
  obtain ⟨m, ran⟩ := Option.isSome_iff_exists.mp
    (show (run (pass gateway digest) .blank (backFrom false)).isSome = true by decide)
  have facts : (run (pass gateway digest) .blank (backFrom false)).map
      (fun m => (m.readState .verified, m.seen)) = some (some "v1", []) := by decide
  rw [ran, Option.map_some, Option.some.injEq, Prod.mk.injEq] at facts
  refine ⟨m, ran, facts.1, facts.2, fun seen => ?_⟩
  have member := seen "v1" facts.1
  rw [facts.2] at member
  exact absurd member List.not_mem_nil

end Skimasque.Deploy
