import Skimasque.Deploy.Freshness

/-! What the releases directory holds, whatever the agent is cut short in. -/

set_option autoImplicit false

namespace Skimasque.Deploy
open Library Library.Interrupted Library.Transition Skimasque.Core

variable (cfg : Config) (sha256 : Bytes → String)

namespace Machine

/-- The directory of the version holds the binary whose checksum was compared, all of it and nothing else. -/
def Whole (m : Machine) (version : String) : Prop :=
  ∃ dir binary, m.releases.lookup version = some dir ∧ dir.files = [(cfg.binary, binary)] ∧
    ⟨version, binary, sha256 binary⟩ ∈ m.checks

structure Sound (m : Machine) : Prop where
  current : ∀ target, m.current = some target → ∃ version, target = ["releases", version] ∧
    isVersion version = true ∧ m.Whole cfg sha256 version
  /-- No version was installed while it was listed bad. -/
  installs : ∀ entry ∈ m.installs, entry.1 ∉ entry.2

/-- The release that `previous` names is whole, if its directory is there. -/
def FallbackWhole (m : Machine) : Prop :=
  ∀ version, m.readState .previous = some version → version ≠ "none" → (m.releases.lookup version).isSome →
    m.Whole cfg sha256 version

def SameFiles (m m' : Machine) : Prop := m'.current = m.current ∧ m'.releases = m.releases ∧ m'.text = m.text

/-- The pass stops at an invalid pointer, a missing artifact, a wrong checksum, or secrets that cannot be synced. -/
def Refuses (m : Machine) (inputs : Inputs) : Prop :=
  ∃ pointer, inputs.pointer = .found pointer ∧
    (isVersion (strip pointer) = false ∨ (cfg.specs ≠ [] ∧ secretsFile cfg.specs inputs.access = none) ∨
      (m.currentVersion ≠ some (strip pointer) ∧ strip pointer ∉ m.readBad ∧
        (inputs.binary = .notFound ∨ ∃ binary, inputs.binary = .found binary ∧
          (inputs.checksum = .notFound ∨ ∃ checksum, inputs.checksum = .found checksum ∧
            sha256 binary ≠ Text.toAsciiLowercase ((words checksum).headD "")))))

/-- What holds of the machine, of every state that a pass brings it to, and of the releases it removes. -/
structure KeepsReleases (m : Machine) : Prop where
  sound : m.Sound cfg sha256
  during : ∀ inputs, ∀ m' ∈ (m.course cfg sha256 inputs).steps, m'.Sound cfg sha256
  refused : ∀ inputs, m.Refuses cfg sha256 inputs → ∀ m' ∈ (m.course cfg sha256 inputs).steps, m.SameFiles m'
  left : ∀ inputs, m.Refuses cfg sha256 inputs → m.SameFiles (m.course cfg sha256 inputs).state
  pruned : ∀ version, m.currentVersion = some version → ∀ m' ∈ (prune m).steps,
    m'.releases.lookup version = m.releases.lookup version

end Machine

/-- A pass is not cut where it leaves the release that `previous` names half removed, and `current` unverified. -/
def Spares (m : Machine) (p : Pass) : Prop :=
  ∀ count m', p.cut = some count → pass cfg sha256 m p = some m' →
    m'.readState .verified = m'.currentVersion ∨ m'.FallbackWhole cfg sha256

/-! ## The invariant -/

/-- Inside a pass. -/
structure Machine.Kept (m : Machine) : Prop where
  named : m.Named
  whole : ∀ version, m.currentVersion = some version → m.Whole cfg sha256 version
  installs : ∀ entry ∈ m.installs, entry.1 ∉ entry.2

/-- Between passes: a rollback goes to a whole release, where there can be a rollback. -/
structure Machine.Settled (m : Machine) : Prop where
  kept : m.Kept cfg sha256
  fallback : m.readState .verified = m.currentVersion ∨ m.FallbackWhole cfg sha256

variable {cfg sha256} {m m' : Machine}

theorem Machine.Kept.sound (kept : m.Kept cfg sha256) : m.Sound cfg sha256 where
  current target points := by
    obtain ⟨version, shape, valid⟩ := kept.named.current target points
    refine ⟨version, shape, valid, kept.whole version ?_⟩
    rw [currentVersion, points, shape]
    rfl
  installs := kept.installs

theorem Machine.Whole.touched {version : String} {entries : String → Prop} (whole : m.Whole cfg sha256 version)
    (only : m.TouchedAt entries m') (outside : ¬ entries version) : m'.Whole cfg sha256 version := by
  obtain ⟨dir, binary, found, files, checked⟩ := whole
  refine ⟨dir, binary, (only.lookup version outside).trans found, files, ?_⟩
  rw [only.rest]
  exact checked

theorem Machine.Whole.installed {version other staging : String} {binary : Bytes} (whole : m.Whole cfg sha256 version)
    (only : m.Installed cfg other binary staging m') (notStaging : version ≠ staging) (notOther : version ≠ other) :
    m'.Whole cfg sha256 version := by
  obtain ⟨dir, content, found, files, checked⟩ := whole
  refine ⟨dir, content, (only.lookup version notStaging notOther).trans found, files, ?_⟩
  rw [only.rest]
  exact checked

theorem Machine.whole_installed {version staging : String} {binary : Bytes} (only : m.Installed cfg version binary staging m')
    (checked : ⟨version, binary, sha256 binary⟩ ∈ m.checks) : m'.Whole cfg sha256 version := by
  obtain ⟨dir, found, files⟩ := only.placed
  refine ⟨dir, binary, found, files, ?_⟩
  rw [only.rest]
  exact checked

namespace Machine.Kept

/-- What is nothing to the releases: another release named by the right files, or no change of them at all. -/
theorem congr (kept : m.Kept cfg sha256) (named : m'.Named) (current : m'.currentVersion = m.currentVersion)
    (releases : m'.releases = m.releases) (checks : m'.checks = m.checks) (installs : m'.installs = m.installs) :
    m'.Kept cfg sha256 where
  named := named
  whole version points := by
    rw [Whole, releases, checks]
    exact kept.whole version (current ▸ points)
  installs := installs ▸ kept.installs

theorem write (kept : m.Kept cfg sha256) (file : TextFile) (other : file ≠ .previous) (content : String) :
    (m.write file content).Kept cfg sha256 := kept.congr (kept.named.write other) rfl rfl rfl rfl

theorem touched (kept : m.Kept cfg sha256) {entries : String → Prop} (only : m.TouchedAt entries m')
    (outside : ∀ version, m.currentVersion = some version → ¬ entries version) : m'.Kept cfg sha256 := by
  have whole (version : String) (points : m.currentVersion = some version) : m'.Whole cfg sha256 version :=
    (kept.whole version points).touched only (outside version points)
  have same := only.rest
  refine ⟨?_, ?_, ?_⟩
  · rw [same]
    exact ⟨kept.named.current, kept.named.previous⟩
  · intro version points
    rw [same] at points
    exact whole version points
  · rw [same]
    exact kept.installs

theorem pointedAt (kept : m.Kept cfg sha256) {version : String} (valid : isVersion version = true)
    (whole : m.Whole cfg sha256 version) : (m.pointedAt version).Kept cfg sha256 where
  named := kept.named.pointedAt valid
  whole other points := by
    cases points
    exact whole
  installs := kept.installs

theorem installed (kept : m.Kept cfg sha256) {version staging : String} {binary : Bytes}
    (only : m.Installed cfg version binary staging m')
    (outside : ∀ current, m.currentVersion = some current → current ≠ staging ∧ current ≠ version)
    (unlisted : version ∉ m.readBad) : m'.Kept cfg sha256 := by
  have whole (current : String) (points : m.currentVersion = some current) : m'.Whole cfg sha256 current :=
    (kept.whole current points).installed only (outside current points).1 (outside current points).2
  have same := only.rest
  refine ⟨?_, ?_, ?_⟩
  · rw [same]
    exact ⟨kept.named.current, kept.named.previous⟩
  · intro current points
    rw [same] at points
    exact whole current points
  · rw [same]
    intro entry member
    obtain now | before := List.mem_cons.mp member
    · rw [now]
      exact unlisted
    · exact kept.installs entry before

end Machine.Kept

/-- Where a rollback may follow. -/
structure Machine.Ready (cfg : Config) (sha256 : Bytes → String) (m : Machine) : Prop where
  kept : m.Kept cfg sha256
  fallback : m.FallbackWhole cfg sha256

namespace Machine.Ready

theorem settled (ready : m.Ready cfg sha256) : m.Settled cfg sha256 := ⟨ready.kept, Or.inr ready.fallback⟩

theorem congr (ready : m.Ready cfg sha256) (kept : m'.Kept cfg sha256)
    (previous : m'.readState .previous = m.readState .previous) (releases : m'.releases = m.releases)
    (checks : m'.checks = m.checks) : m'.Ready cfg sha256 where
  kept := kept
  fallback := by
    intro version
    rw [previous, releases, Whole, releases, checks]
    exact ready.fallback version

theorem write (ready : m.Ready cfg sha256) (file : TextFile) (other : file ≠ .previous) (content : String) :
    (m.write file content).Ready cfg sha256 :=
  ready.congr (ready.kept.write file other content) (readState_write_of_ne other.symm) rfl rfl

theorem same (ready : m.Ready cfg sha256) (current : m'.current = m.current) (text : m'.text = m.text)
    (releases : m'.releases = m.releases) (checks : m'.checks = m.checks) (installs : m'.installs = m.installs) :
    m'.Ready cfg sha256 := by
  have previous : m'.readState .previous = m.readState .previous := readState_congr (congrFun text _)
  refine ready.congr (ready.kept.congr (ready.kept.named.congr current previous) ?_ releases checks installs) previous
    releases checks
  rw [currentVersion, current]
  rfl

theorem pointedAt (ready : m.Ready cfg sha256) {version : String} (valid : isVersion version = true)
    (whole : m.Whole cfg sha256 version) : (m.pointedAt version).Ready cfg sha256 :=
  ready.congr (ready.kept.pointedAt valid whole) rfl rfl rfl

end Machine.Ready

section
variable {version : String} {inputs : Inputs}

theorem rollBack_settled (ready : m.Ready cfg sha256) :
    wp (Machine.Kept cfg sha256) (fun _ => Machine.Settled cfg sha256) (Machine.Settled cfg sha256)
      (rollBack version inputs) m := by
  unfold rollBack
  rw [wp_bind, wp_look]
  split
  · exact wp_pure.mpr ready.settled
  · rename_i previous read
    rw [wp_ite, wp_pure]
    refine ⟨fun ⟨named, _, present⟩ => ?_, fun _ => ready.settled⟩
    have valid := (ready.kept.named.previous previous read).resolve_left named
    have pointed := ready.pointedAt valid (ready.fallback previous read named present)
    have started : (m.pointedAt previous).start.Ready cfg sha256 := pointed.same rfl rfl rfl rfl rfl
    have stopped : (m.pointedAt previous).stopped.Ready cfg sha256 := pointed.same rfl rfl rfl rfl rfl
    rw [wp_bind]
    refine wp_pointCurrentAt (fun target => ?_) pointed.kept ?_
    · have pending : (m.setNew target).Ready cfg sha256 := ready.same rfl rfl rfl rfl rfl
      exact pending.kept
    rw [wp_bind]
    refine wp_restart ⟨started.kept, ?_⟩ pointed.settled ⟨stopped.kept, stopped.settled⟩
    have verified := started.write .verified TextFile.noConfusion (previous ++ "\n")
    rw [wp_bind]
    exact wp_writeState.mpr ⟨fun _ => wp_pure.mpr started.settled, fun _ => ⟨verified.kept, wp_pure.mpr verified.settled⟩⟩

/-- Once `verified` names what is installed, nothing that is removed can be gone back to. -/
theorem trusted_settled (kept : m.Kept cfg sha256) (verified : m.readState .verified = m.currentVersion) :
    wp (Machine.Kept cfg sha256) (fun _ => Machine.Settled cfg sha256) (Machine.Settled cfg sha256)
      (do clearBad version; prune; pure 0 : Program Machine Nat) m := by
  have pruned {m : Machine} (kept : m.Kept cfg sha256) (verified : m.readState .verified = m.currentVersion) :
      wp (Machine.Kept cfg sha256) (fun _ => Machine.Settled cfg sha256) (Machine.Settled cfg sha256)
        (do prune; pure 0 : Program Machine Nat) m := by
    rw [wp_bind]
    have outside (version : String) (points : m.currentVersion = some version) : ¬ m.currentVersion ≠ some version :=
      fun differs => differs points
    refine wp_mono prune_touches (fun _ only => kept.touched only outside) (fun _ m' only => wp_pure.mpr ?_)
      (fun _ never => never.elim)
    refine ⟨kept.touched only outside, Or.inl ?_⟩
    rw [only.rest]
    exact verified
  rw [wp_bind]
  refine wp_clearBad (pruned kept verified) fun content => ?_
  have cleared := kept.write .bad TextFile.noConfusion content
  refine ⟨cleared, pruned cleared ?_⟩
  rw [Machine.readState_write_of_ne (by decide)]
  exact verified

theorem verifyInstalled_settled (ready : m.Ready cfg sha256) (installed : m.currentVersion = some version) :
    wp (Machine.Kept cfg sha256) (fun _ => Machine.Settled cfg sha256) (Machine.Settled cfg sha256)
      (verifyInstalled cfg version inputs) m := by
  have valid := (ready.kept.named.currentVersion installed).2
  have seen : m.see.Ready cfg sha256 := ready.same rfl rfl rfl rfl rfl
  unfold verifyInstalled
  rw [wp_bind]
  refine wp_waitHealthy ready.settled (fun _ => ⟨seen.kept, ?_⟩) (fun _ => ?_)
  · simp only [if_true]
    rw [wp_bind]
    refine wp_writeState.mpr ⟨fun text => ?_, fun _ => ?_⟩
    · refine trusted_settled seen.kept ?_
      rw [Machine.readState_of_text text (strip_version valid) (version_ne_empty valid)]
      exact installed.symm
    · have verified := seen.kept.write .verified TextFile.noConfusion (version ++ "\n")
      refine ⟨verified, trusted_settled verified ?_⟩
      rw [Machine.readState_write (strip_version valid) (version_ne_empty valid)]
      exact installed.symm
  · rw [if_neg (by decide), wp_bind]
    refine wp_addBad (rollBack_settled ready) fun content => ?_
    have listed := ready.write .bad TextFile.noConfusion content
    exact ⟨listed.kept, rollBack_settled listed⟩

namespace Machine.Settled

/-- Checks may be added to; nothing else that the releases are judged by is another. -/
theorem congr (settled : m.Settled cfg sha256) (current : m'.current = m.current)
    (previous : m'.readState .previous = m.readState .previous) (verified : m'.readState .verified = m.readState .verified)
    (releases : m'.releases = m.releases) (checks : ∀ check ∈ m.checks, check ∈ m'.checks)
    (installs : m'.installs = m.installs) : m'.Settled cfg sha256 := by
  have points : m'.currentVersion = m.currentVersion := by
    rw [currentVersion, current]
    rfl
  have whole {version : String} (whole : m.Whole cfg sha256 version) : m'.Whole cfg sha256 version := by
    obtain ⟨dir, binary, found, files, checked⟩ := whole
    exact ⟨dir, binary, releases ▸ found, files, checks _ checked⟩
  refine ⟨⟨settled.kept.named.congr current previous, fun version present => ?_, installs ▸ settled.kept.installs⟩, ?_⟩
  · exact whole (settled.kept.whole version (points ▸ present))
  · rw [verified, points]
    refine settled.fallback.imp_right fun fallback version read named present => ?_
    exact whole (fallback version (previous ▸ read) named (releases ▸ present))

theorem write (settled : m.Settled cfg sha256) (content : String) : (m.write .secrets content).Settled cfg sha256 :=
  settled.congr rfl (readState_write_of_ne (by decide)) (readState_write_of_ne (by decide)) rfl (fun _ member => member) rfl

end Machine.Settled

theorem refresh_settled (settled : m.Settled cfg sha256) (installed : m.currentVersion = some version) :
    wp (Machine.Kept cfg sha256) (fun _ => Machine.Settled cfg sha256) (Machine.Settled cfg sha256)
      (refresh cfg version inputs) m := by
  -- A recheck comes only where the release is not verified, so that what `previous` names is whole.
  have ready (unverified : m.readState .verified ≠ some version) : m.Ready cfg sha256 := by
    refine ⟨settled.kept, settled.fallback.resolve_left fun verified => unverified ?_⟩
    rw [verified, installed]
  unfold refresh
  rw [wp_bind, wp_look, wp_bind]
  refine wp_syncSecrets (fun _ => ?_) (fun content _ => ?_) settled
  · simp only [wp_bind, wp_given, wp_ite, wp_pure]
    refine ⟨by rintro ⟨⟩, fun _ => ⟨fun unverified => ?_, fun _ => settled⟩⟩
    exact verifyInstalled_settled (ready unverified) installed
  · have written := settled.write content
    have started : (m.write .secrets content).start.Settled cfg sha256 :=
      written.congr rfl rfl rfl rfl (fun _ member => member) rfl
    have stopped : (m.write .secrets content).stopped.Settled cfg sha256 :=
      written.congr rfl rfl rfl rfl (fun _ member => member) rfl
    refine ⟨written.kept, ?_⟩
    rw [wp_bind, wp_given]
    refine ⟨fun _ => wp_restart ⟨started.kept, ?_⟩ written ⟨stopped.kept, stopped⟩, fun never => absurd rfl never⟩
    rw [wp_ite, wp_pure]
    refine ⟨fun unverified => ?_, fun _ => started⟩
    have before := (ready unverified).write .secrets TextFile.noConfusion content
    exact verifyInstalled_settled (before.same rfl rfl rfl rfl rfl) installed

/-- An installed release that is not yet current, and what `previous` may name then. -/
theorem replace_settled {binary : Bytes} (settled : m.Settled cfg sha256) (valid : isVersion version = true)
    (other : m.currentVersion ≠ some version) (unlisted : version ∉ m.readBad)
    (checked : ⟨version, binary, sha256 binary⟩ ∈ m.checks) :
    wp (Machine.Kept cfg sha256) (fun _ => Machine.Settled cfg sha256) (Machine.Settled cfg sha256)
      (replace cfg version binary inputs) m := by
  have outside (current : String) (points : m.currentVersion = some current) :
      current ≠ stagingName version inputs.suffix ∧ current ≠ version := by
    refine ⟨version_ne_stagingName (settled.kept.named.currentVersion points).2, ?_⟩
    rintro rfl
    exact other points
  unfold replace
  rw [wp_bind, wp_look, wp_bind]
  refine wp_mono (installRelease_spec valid) (fun _ so => ?_) (fun _ placed only => ?_) (fun m' only => ?_)
  · obtain touched | installed := so
    · refine settled.kept.touched touched fun current points either => ?_
      exact either.elim (outside current points).1 (outside current points).2
    · exact settled.kept.installed installed outside unlisted
  · have kept := settled.kept.installed only outside unlisted
    have whole : placed.Whole cfg sha256 version := Machine.whole_installed only checked
    have same : placed.currentVersion = m.currentVersion := by
      rw [only.rest]
      rfl
    obtain ⟨line, nonempty⟩ := kept.named.previousLine
    rw [← same]
    -- Once `previous` names what was installed, which is whole.
    have noted {m' : Machine} (kept' : m'.Kept cfg sha256) (releases : m'.releases = placed.releases)
        (checks : m'.checks = placed.checks) (names : m'.readState .previous = some (placed.currentVersion.getD "none")) :
        wp (Machine.Kept cfg sha256) (fun _ => Machine.Settled cfg sha256) (Machine.Settled cfg sha256) (do
          pointCurrentAt version
          restart inputs.installRestart
          verifyInstalled cfg version inputs) m' := by
      have moved {version : String} (whole : placed.Whole cfg sha256 version) : m'.Whole cfg sha256 version := by
        rw [Machine.Whole, releases, checks]
        exact whole
      have ready : m'.Ready cfg sha256 := by
        refine ⟨kept', fun previous read named _ => moved ?_⟩
        rw [names] at read
        cases current : placed.currentVersion with
        | none =>
          rw [current] at read
          exact absurd (Option.some.inj read).symm named
        | some installed =>
          rw [current] at read
          cases read
          exact kept.whole installed current
      have pointed := ready.pointedAt valid (moved whole)
      have started : (m'.pointedAt version).start.Ready cfg sha256 := pointed.same rfl rfl rfl rfl rfl
      have stopped : (m'.pointedAt version).stopped.Ready cfg sha256 := pointed.same rfl rfl rfl rfl rfl
      rw [wp_bind]
      refine wp_pointCurrentAt (fun target => ?_) pointed.kept ?_
      · have pending : (m'.setNew target).Ready cfg sha256 := ready.same rfl rfl rfl rfl rfl
        exact pending.kept
      rw [wp_bind]
      exact wp_restart ⟨started.kept, verifyInstalled_settled started rfl⟩ pointed.settled ⟨stopped.kept, stopped.settled⟩
    rw [wp_bind]
    refine wp_writeState.mpr ⟨fun text => noted kept rfl rfl (Machine.readState_of_text text line nonempty), fun _ => ?_⟩
    have written := kept.congr kept.named.writePrevious rfl rfl rfl rfl
    exact ⟨written, noted written rfl rfl (Machine.readState_write line nonempty)⟩
  · -- Only the staging directory is there, or not even that.
    have whole {version : String} (valid : isVersion version = true) (whole : m.Whole cfg sha256 version) :
        m'.Whole cfg sha256 version := whole.touched only (version_ne_stagingName valid)
    have kept := settled.kept.touched only fun current points => (outside current points).1
    refine ⟨kept, ?_⟩
    have text : m'.text = m.text := by
      rw [only.rest]
    have points : m'.currentVersion = m.currentVersion := by
      rw [only.rest]
      rfl
    rw [Machine.readState_congr (congrFun text _), points]
    refine settled.fallback.imp_right fun fallback previous read named present => ?_
    rw [Machine.readState_congr (congrFun text _)] at read
    have previousValid := (settled.kept.named.previous previous read).resolve_left named
    rw [only.lookup previous (version_ne_stagingName previousValid)] at present
    exact whole previousValid (fallback previous read named present)

theorem fetch_settled (settled : m.Settled cfg sha256) (valid : isVersion version = true)
    (other : m.currentVersion ≠ some version) (unlisted : version ∉ m.readBad) :
    wp (Machine.Kept cfg sha256) (fun _ => Machine.Settled cfg sha256) (Machine.Settled cfg sha256)
      (fetch cfg sha256 version inputs) m := by
  unfold fetch
  split
  · exact wp_raise.mpr settled
  · exact wp_pure.mpr settled
  · split
    · exact wp_raise.mpr settled
    · exact wp_pure.mpr settled
    · rename_i binary _ _ checksum _
      dsimp only
      rw [wp_ite, wp_pure, wp_bind, wp_act, wp_bind]
      refine ⟨fun _ => settled, fun agrees => ?_⟩
      rw [← Decidable.not_not.mp agrees]
      have checked : Machine.Settled cfg sha256 { m with checks := ⟨version, binary, sha256 binary⟩ :: m.checks } :=
        settled.congr rfl rfl rfl rfl (fun _ => List.mem_cons_of_mem _) rfl
      refine ⟨checked.kept, wp_syncSecrets (fun _ => ?_) (fun content _ => ⟨(checked.write content).kept, ?_⟩) checked⟩
      · exact replace_settled checked valid other unlisted (List.mem_cons_self ..)
      · exact replace_settled (checked.write content) valid other unlisted (List.mem_cons_self ..)

theorem deploy_settled (settled : m.Settled cfg sha256) (inputs : Inputs) :
    wp (Machine.Kept cfg sha256) (fun _ => Machine.Settled cfg sha256) (Machine.Settled cfg sha256)
      (deploy cfg sha256 inputs) m := by
  unfold deploy
  cases inputs.pointer with
  | failed => exact wp_raise.mpr settled
  | notFound => exact wp_pure.mpr settled
  | found pointer =>
    dsimp only
    rw [wp_ite, wp_pure, wp_bind, wp_look, wp_ite, wp_ite, wp_pure]
    refine ⟨fun _ => settled, fun notInvalid => ⟨fun same => refresh_settled settled same, fun other => ?_⟩⟩
    have valid : isVersion (strip pointer) = true := by simpa using notInvalid
    exact ⟨fun _ => settled, fun unlisted => fetch_settled settled valid other unlisted⟩

/-! ## Refusals -/

theorem Machine.SameFiles.refl : m.SameFiles m := ⟨rfl, rfl, rfl⟩

theorem syncSecrets_refused {post : Bool → Machine → Prop} {during raised : Machine → Prop} {access : String → Access}
    (specs : cfg.specs ≠ []) (failed : secretsFile cfg.specs access = none) (now : raised m) :
    wp during post raised (syncSecrets cfg access) m := by
  rw [syncSecrets, if_neg specs, failed]
  exact wp_raise.mpr now

/-- A pass that is refused changes no file. -/
theorem deploy_refused (refuses : m.Refuses cfg sha256 inputs) :
    wp m.SameFiles (fun _ => m.SameFiles) m.SameFiles (deploy cfg sha256 inputs) m := by
  obtain ⟨pointer, read, refusal⟩ := refuses
  unfold deploy
  rw [read]
  dsimp only
  rw [wp_ite, wp_pure, wp_bind, wp_look, wp_ite, wp_ite, wp_pure]
  refine ⟨fun _ => .refl, fun notInvalid => ?_⟩
  have valid : isVersion (strip pointer) = true := by simpa using notInvalid
  obtain invalid | ⟨specs, failed⟩ | ⟨other, _, artifact⟩ := refusal
  · rw [valid] at invalid
    cases invalid
  · refine ⟨fun _ => ?_, fun _ => ⟨fun _ => .refl, fun _ => ?_⟩⟩
    · unfold refresh
      rw [wp_bind, wp_look, wp_bind]
      exact syncSecrets_refused specs failed .refl
    · unfold fetch
      split
      · exact wp_raise.mpr .refl
      · exact wp_pure.mpr .refl
      · split
        · exact wp_raise.mpr .refl
        · exact wp_pure.mpr .refl
        · dsimp only
          rw [wp_ite, wp_pure, wp_bind, wp_act, wp_bind]
          exact ⟨fun _ => .refl, fun _ => ⟨⟨rfl, rfl, rfl⟩, syncSecrets_refused specs failed ⟨rfl, rfl, rfl⟩⟩⟩
  · refine ⟨fun same => absurd same other, fun _ => ⟨fun _ => .refl, fun _ => ?_⟩⟩
    unfold fetch
    obtain missing | ⟨binary, found, missing | ⟨checksum, published, differs⟩⟩ := artifact
    · rw [missing]
      exact wp_pure.mpr .refl
    · rw [found, missing]
      exact wp_pure.mpr .refl
    · rw [found, published]
      dsimp only
      rw [wp_ite, wp_pure]
      exact ⟨fun _ => .refl, fun same => absurd differs same⟩

end

theorem blank_settled : Machine.blank.Settled cfg sha256 where
  kept := by
    refine ⟨⟨fun _ points => ?_, fun _ read => ?_⟩, fun _ points => ?_, fun _ member => ?_⟩
    · cases points
    · cases read
    · cases points
    · cases member
  fallback := Or.inl rfl

theorem Machine.Settled.keepsReleases (settled : m.Settled cfg sha256) : m.KeepsReleases cfg sha256 := by
  have begun (inputs : Inputs) : Machine.Settled cfg sha256 { m with now := inputs.now } :=
    settled.congr rfl rfl rfl rfl (fun _ member => member) rfl
  refine ⟨settled.kept.sound, fun inputs m' member => ?_, fun inputs refuses m' member => ?_, fun inputs refuses => ?_,
    fun version points m' member => ?_⟩
  · exact ((deploy_settled (begun inputs) inputs).steps m' member).sound
  · have refused : Machine.Refuses cfg sha256 { m with now := inputs.now } inputs := refuses
    exact (deploy_refused refused).steps m' member
  · have refused : Machine.Refuses cfg sha256 { m with now := inputs.now } inputs := refuses
    have same := deploy_refused refused
    cases ended : (m.course cfg sha256 inputs).outcome with
    | none => exact same.raises ended
    | some code => exact same.returns code ended
  · exact (prune_touches.steps m' member).lookup version fun differs => differs points

/-- Whatever passes there are, and wherever they are cut, except while the release to go back to is half removed
and the one in use is not verified. -/
theorem releases_stay_whole {history : List Pass} (spares : Along (pass cfg sha256) (Spares cfg sha256) .blank history)
    (ran : run (pass cfg sha256) .blank history = some m) : m.KeepsReleases cfg sha256 := by
  have settled : m.Settled cfg sha256 := by
    apply run_invariant_along (Machine.Settled cfg sha256) _ blank_settled spares ran
    intro m p m' settled spared stepped
    have begun : Machine.Settled cfg sha256 { m with now := p.inputs.now } :=
      settled.congr rfl rfl rfl rfl (fun _ member => member) rfl
    have held := deploy_settled begun p.inputs
    cases cut : p.cut with
    | none =>
      rw [pass, cut] at stepped
      cases stepped
      cases ended : (m.course cfg sha256 p.inputs).outcome with
      | none => exact held.raises ended
      | some code => exact held.returns code ended
    | some count =>
      have fallback := spared count m' cut stepped
      rw [pass, cut] at stepped
      exact ⟨held.steps m' (List.mem_of_getElem? stepped), fallback⟩
  exact settled.keepsReleases

theorem uncut_releases_stay_whole : ∃ m, run (pass gateway digest) .blank (backFrom true) = some m ∧
    m.KeepsReleases gateway digest := by
  obtain ⟨m, ran⟩ := Option.isSome_iff_exists.mp
    (show (run (pass gateway digest) .blank (backFrom true)).isSome = true by decide)
  have spares : Along (pass gateway digest) (Spares gateway digest) .blank (backFrom true) := by
    apply along_of_forall
    intro _ p member count _ cut
    have uncut : (backFrom true).map Pass.cut = [none, none] := rfl
    have none : p.cut ∈ [none, none] := uncut ▸ List.mem_map_of_mem member
    rw [cut] at none
    simp at none
  exact ⟨m, ran, releases_stay_whole spares ran⟩

/-- The second release is not yet verified when the first is to be installed again, which is cut when the old binary
is gone. The second then turns out unhealthy. -/
def cutRemoval : List Pass := [⟨promoted "v1" true, none⟩, ⟨promoted "v2" true, some 8⟩, ⟨promoted "v1" true, some 4⟩,
  ⟨promoted "v2" false, none⟩]

/-- The rollback points `current` at the directory that the cut has left empty. -/
theorem rollback_to_half_removed : ∃ m, run (pass gateway digest) .blank cutRemoval = some m ∧
    m.current = some ["releases", "v1"] ∧ m.releases.lookup "v1" = some ⟨[], 0⟩ ∧ ¬ m.Sound gateway digest := by
  obtain ⟨m, ran⟩ := Option.isSome_iff_exists.mp
    (show (run (pass gateway digest) .blank cutRemoval).isSome = true by decide)
  have facts : (run (pass gateway digest) .blank cutRemoval).map (fun m => (m.current, m.releases.lookup "v1")) =
      some (some ["releases", "v1"], some ⟨[], 0⟩) := by decide
  rw [ran, Option.map_some, Option.some.injEq, Prod.mk.injEq] at facts
  refine ⟨m, ran, facts.1, facts.2, fun sound => ?_⟩
  obtain ⟨version, shape, _, dir, binary, found, files, _⟩ := sound.current _ facts.1
  cases shape
  rw [facts.2] at found
  cases found
  cases files

end Skimasque.Deploy
