import Skimasque.Deploy.Agent

/-! What the parts of a pass change, and what they leave alone. -/

set_option autoImplicit false

namespace Skimasque.Deploy
open Library Library.Interrupted Skimasque.Core

/-! ## Names -/

theorem strip_strip (text : String) : strip (strip text) = strip text := Text.trimWhile_trimWhile isSpace text

/-- The line break that `write_state` adds is stripped again. -/
theorem strip_line (text : String) : strip (text ++ "\n") = strip text := by
  have lineBreak : ("\n" : String).toList = ['\n'] := rfl
  unfold strip Text.trimWhile
  congr 1
  rw [String.toList_append, lineBreak, List.dropWhile_append]
  split
  · rename_i empty
    have blank : text.toList.dropWhile isSpace = [] := by simpa using empty
    rw [blank]
    decide
  · rw [List.rdropWhile_concat_pos _ _ _ (by decide)]

theorem isSpace_of_isVersionChar {c : Char} (named : isVersionChar c = true) : isSpace c = false := by
  have range : (0x30 ≤ c.toNat ∧ c.toNat ≤ 0x39) ∨ (0x61 ≤ c.toNat ∧ c.toNat ≤ 0x7a) ∨
      (0x41 ≤ c.toNat ∧ c.toNat ≤ 0x5a) ∨ c.toNat = 0x2e ∨ c.toNat = 0x5f ∨ c.toNat = 0x2d := by
    simp only [isVersionChar, Text.isAsciiAlphanumeric, Text.isAsciiDigit, Text.isAsciiAlphabetic, Bool.or_eq_true,
      Bool.and_eq_true, decide_eq_true_eq, beq_iff_eq] at named
    obtain (((digit | lower | upper) | dot) | underscore) | dash := named
    · exact Or.inl digit
    · exact Or.inr (Or.inl lower)
    · exact Or.inr (Or.inr (Or.inl upper))
    · exact Or.inr (Or.inr (Or.inr (Or.inl (by rw [dot]; rfl))))
    · exact Or.inr (Or.inr (Or.inr (Or.inr (Or.inl (by rw [underscore]; rfl)))))
    · exact Or.inr (Or.inr (Or.inr (Or.inr (Or.inr (by rw [dash]; rfl)))))
  simp only [isSpace, Text.isWhitespace, Bool.or_eq_false_iff, Bool.and_eq_false_iff, decide_eq_false_iff_not, beq_eq_false_iff_ne]
  omega

theorem isVersion_chars {version : String} (valid : isVersion version = true) :
    ∃ first rest, version.toList = first :: rest ∧ Text.isAsciiAlphanumeric first = true ∧
      ∀ c ∈ version.toList, isVersionChar c = true := by
  unfold isVersion at valid
  split at valid
  · cases valid
  · rename_i first rest chars
    simp only [Bool.and_eq_true, List.all_eq_true] at valid
    obtain ⟨⟨alphanumeric, _⟩, others⟩ := valid
    refine ⟨first, rest, chars, alphanumeric, ?_⟩
    rw [chars]
    intro c member
    cases List.mem_cons.mp member with
    | inl same =>
      rw [same, isVersionChar, alphanumeric]
      rfl
    | inr later => exact others c later

theorem strip_version {version : String} (valid : isVersion version = true) : strip version = version := by
  obtain ⟨_, _, _, _, all⟩ := isVersion_chars valid
  exact Text.trimWhile_eq_self fun c member => isSpace_of_isVersionChar (all c member)

theorem version_ne_empty {version : String} (valid : isVersion version = true) : version ≠ "" := by
  intro empty
  rw [empty] at valid
  exact absurd valid (by decide)

theorem hidden_version {version : String} (valid : isVersion version = true) : hidden version = false := by
  obtain ⟨first, rest, chars, alphanumeric, _⟩ := isVersion_chars valid
  have dot : (".".toList) = ['.'] := rfl
  unfold hidden Text.startsWith
  rw [chars, dot]
  have other : first ≠ '.' := by
    intro same
    rw [same] at alphanumeric
    exact absurd alphanumeric (by decide)
  simp [List.isPrefixOf, Ne.symm other]

theorem hidden_stagingName (version suffix : String) : hidden (stagingName version suffix) = true := by
  have dot : (".".toList) = ['.'] := rfl
  unfold hidden Text.startsWith stagingName
  rw [String.toList_append, String.toList_append, String.toList_append, dot]
  simp [List.isPrefixOf]

theorem version_ne_stagingName {version other suffix : String} (valid : isVersion version = true) :
    version ≠ stagingName other suffix := by
  intro same
  have shown := hidden_version valid
  rw [same, hidden_stagingName] at shown
  cases shown

/-! ## State files -/

namespace Machine

theorem readState_congr {m m' : Machine} {file : TextFile} (same : m'.text file = m.text file) :
    m'.readState file = m.readState file := by
  rw [readState, readState, same]

theorem readState_of_text {m : Machine} {file : TextFile} {value : String} (text : m.text file = some (value ++ "\n"))
    (kept : strip value = value) (nonempty : value ≠ "") : m.readState file = some value := by
  rw [readState, text]
  dsimp only
  rw [strip_line, kept, if_neg nonempty]

theorem readState_write {m : Machine} {file : TextFile} {value : String} (kept : strip value = value) (nonempty : value ≠ "") :
    (m.write file (value ++ "\n")).readState file = some value :=
  readState_of_text (Function.update_self ..) kept nonempty

theorem readState_write_of_ne {m : Machine} {file other : TextFile} {content : String} (apart : other ≠ file) :
    (m.write file content).readState other = m.readState other :=
  readState_congr (Function.update_of_ne apart ..)

/-- What a state file says has nothing at its ends. -/
theorem strip_readState {m : Machine} {file : TextFile} {value : String} (read : m.readState file = some value) :
    strip value = value ∧ value ≠ "" := by
  unfold readState at read
  split at read
  · cases read
  · rename_i text _
    split at read
    · cases read
    · rename_i nonempty
      cases read
      exact ⟨strip_strip text, nonempty⟩

end Machine

section
variable {during : Machine → Prop} {raised : Machine → Prop} {m : Machine}

theorem wp_writeIfChanged {file : TextFile} {content : String} {post : Bool → Machine → Prop} :
    wp during post raised (writeIfChanged file content) m ↔
      (m.text file = some content → post false m) ∧
      (m.text file ≠ some content → during (m.write file content) ∧ post true (m.write file content)) := by
  simp [writeIfChanged]

theorem wp_writeState {file : TextFile} {value : String} {post : Unit → Machine → Prop} :
    wp during post raised (writeState file value) m ↔
      (m.text file = some (value ++ "\n") → post () m) ∧
      (m.text file ≠ some (value ++ "\n") →
        during (m.write file (value ++ "\n")) ∧ post () (m.write file (value ++ "\n"))) := by
  simp [writeState, wp_writeIfChanged]

theorem wp_addBad {version : String} {post : Unit → Machine → Prop} (kept : post () m)
    (written : ∀ content, during (m.write .bad content) ∧ post () (m.write .bad content)) :
    wp during post raised (addBad version) m := by
  simp only [addBad, wp_bind, wp_look, wp_pure]
  exact wp_writeIfChanged.mpr ⟨fun _ => kept, fun _ => written _⟩

theorem wp_clearBad {version : String} {post : Unit → Machine → Prop} (kept : post () m)
    (written : ∀ content, during (m.write .bad content) ∧ post () (m.write .bad content)) :
    wp during post raised (clearBad version) m := by
  simp only [clearBad, wp_bind, wp_look, wp_pure]
  exact wp_writeIfChanged.mpr ⟨fun _ => kept, fun _ => written _⟩

end

/-! ## Releases -/

theorem Machine.lookup_setDirectory {m : Machine} {name : String} {files : List (String × Bytes)} :
    (m.setDirectory name files).releases.lookup name = some ⟨files, m.now⟩ := AList.lookup_insert _

/-- Nothing but the named entries of the releases directory is another. -/
structure Machine.TouchedAt (m : Machine) (touched : String → Prop) (m' : Machine) : Prop where
  rest : m' = { m with releases := m'.releases }
  lookup : ∀ name, ¬ touched name → m'.releases.lookup name = m.releases.lookup name

namespace Machine.TouchedAt
variable {m m' m'' : Machine} {touched other : String → Prop}

theorem refl : m.TouchedAt touched m := ⟨rfl, fun _ _ => rfl⟩

theorem trans (first : m.TouchedAt touched m') (second : m'.TouchedAt touched m'') : m.TouchedAt touched m'' where
  rest := by
    rw [second.rest, first.rest]
  lookup name outside := (second.lookup name outside).trans (first.lookup name outside)

theorem widen (first : m.TouchedAt touched m') (wider : ∀ name, touched name → other name) : m.TouchedAt other m' where
  rest := first.rest
  lookup name outside := first.lookup name fun inside => outside (wider name inside)

theorem setDirectory {name : String} (files : List (String × Bytes)) (inside : touched name) :
    m.TouchedAt touched (m.setDirectory name files) where
  rest := rfl
  lookup entry outside := by
    have apart : entry ≠ name := by
      rintro rfl
      exact outside inside
    exact AList.lookup_insert_ne apart

theorem removeDirectory {name : String} (inside : touched name) : m.TouchedAt touched (m.removeDirectory name) where
  rest := rfl
  lookup entry outside := by
    have apart : entry ≠ name := by
      rintro rfl
      exact outside inside
    exact AList.lookup_erase_ne apart

end Machine.TouchedAt

section
variable {m start : Machine} {touched : String → Prop}

theorem removeFiles_touches {name : String} {files : List (String × Bytes)} (so : start.TouchedAt touched m)
    (inside : touched name) :
    wp (start.TouchedAt touched) (fun _ => start.TouchedAt touched) (fun _ => False) (removeFiles name files) m := by
  induction files generalizing m with
  | nil => simpa [removeFiles] using so
  | cons file files ih =>
    have next := so.trans (.setDirectory files inside)
    simp only [removeFiles, wp_bind, wp_act]
    exact ⟨next, ih next⟩

theorem rmtree_touches {name : String} {ignoreErrors : Bool} (so : start.TouchedAt touched m) (inside : touched name)
    (present : ignoreErrors = true ∨ (m.releases.lookup name).isSome) :
    wp (start.TouchedAt touched) (fun _ => start.TouchedAt touched) (fun _ => False) (rmtree name ignoreErrors) m := by
  simp only [rmtree, wp_bind, wp_look]
  cases found : m.releases.lookup name with
  | none =>
    rw [found] at present
    obtain rfl | absent := present
    · simpa using so
    · cases absent
  | some dir =>
    simp only [wp_bind, wp_act]
    refine wp_mono (removeFiles_touches so inside) (fun _ held => held) (fun _ m' held => ?_) (fun _ never => never)
    have next := held.trans (Machine.TouchedAt.removeDirectory (m := m') inside)
    exact ⟨next, next⟩

theorem removeOthers_touches {keepers names : List String} (outside : ∀ name ∈ names, name ∉ keepers → touched name)
    (so : start.TouchedAt touched m) :
    wp (start.TouchedAt touched) (fun _ => start.TouchedAt touched) (fun _ => False) (removeOthers keepers names) m := by
  induction names generalizing m with
  | nil => simpa [removeOthers] using so
  | cons name names ih =>
    have others := fun other member => outside other (List.mem_cons_of_mem _ member)
    simp only [removeOthers, wp_ite]
    constructor
    · exact fun _ => ih others so
    · intro removed
      rw [wp_bind]
      have inside := outside name (List.mem_cons_self ..) removed
      exact wp_mono (rmtree_touches so inside (Or.inl rfl)) (fun _ held => held) (fun _ _ held => ih others held)
        (fun _ never => never)

/-- Pruning leaves the release in use, and what is hidden. -/
theorem prune_touches :
    wp (m.TouchedAt fun name => m.currentVersion ≠ some name)
      (fun _ => m.TouchedAt fun name => m.currentVersion ≠ some name) (fun _ => False) prune m := by
  simp only [prune, wp_bind, wp_look]
  apply removeOthers_touches _ .refl
  intro name _ removed current
  apply removed
  rw [current]
  exact List.mem_append_right _ (List.mem_singleton_self name)

end

/-- The binary is all there is in the directory of the version; other releases are as they were. -/
structure Machine.Installed (m : Machine) (cfg : Config) (version : String) (binary : Bytes) (staging : String)
    (m' : Machine) : Prop where
  rest : m' = { m with releases := m'.releases, installs := (version, m.readBad) :: m.installs }
  placed : ∃ dir, m'.releases.lookup version = some dir ∧ dir.files = [(cfg.binary, binary)]
  lookup : ∀ name, name ≠ staging → name ≠ version → m'.releases.lookup name = m.releases.lookup name

theorem moveInto_installed {m m' : Machine} {cfg : Config} {version staging : String} {binary : Bytes} {dir : Directory}
    (so : m.TouchedAt (fun name => name = staging ∨ name = version) m') (staged : m'.releases.lookup staging = some dir)
    (filled : dir.files = [(cfg.binary, binary)]) : m.Installed cfg version binary staging (m'.moveInto staging version) := by
  have moved : m'.moveInto staging version = { m' with
      releases := (m'.releases.erase staging).insert version dir
      installs := (version, m'.readBad) :: m'.installs } := by
    rw [Machine.moveInto, staged]
  have listed : m'.readBad = m.readBad := by
    rw [so.rest]
    rfl
  have before : m'.installs = m.installs := by
    rw [so.rest]
  refine ⟨?_, ?_, ?_⟩
  · rw [moved, listed, before, so.rest]
  · rw [moved]
    exact ⟨dir, AList.lookup_insert _, filled⟩
  · intro name notStaging notVersion
    rw [moved]
    dsimp only
    rw [AList.lookup_insert_ne notVersion, AList.lookup_erase_ne notStaging]
    exact so.lookup name fun either => either.elim notStaging notVersion

/-- Everything happens beside the releases until the last step; an exception leaves them as they were. -/
theorem installRelease_spec {m : Machine} {cfg : Config} {version : String} {binary : Bytes} {inputs : Inputs}
    (valid : isVersion version = true) :
    let staging := stagingName version inputs.suffix
    wp (fun m' => m.TouchedAt (fun name => name = staging ∨ name = version) m' ∨
        m.Installed cfg version binary staging m')
      (fun _ => m.Installed cfg version binary staging) (m.TouchedAt (· = staging))
      (installRelease cfg version binary inputs) m := by
  intro staging
  have apart : staging ≠ version := (version_ne_stagingName valid).symm
  have onlyStaging {m' : Machine} (so : m.TouchedAt (· = staging) m') :
      m.TouchedAt (fun name => name = staging ∨ name = version) m' := so.widen fun _ same => Or.inl same
  have alone (m' : Machine) : m'.TouchedAt (· = version) m' := .refl
  have made : m.TouchedAt (· = staging) (m.setDirectory staging []) := .setDirectory [] rfl
  simp only [installRelease, wp_bind, wp_look, wp_ite, wp_raise, wp_act, wp_cleaningUp]
  refine ⟨fun _ => .refl, fun _ => ⟨Or.inl (onlyStaging made), ?_⟩⟩
  have opened := made.trans (.setDirectory [(cfg.binary, [])] rfl)
  have full := opened.trans (.setDirectory [(cfg.binary, binary)] rfl)
  simp only [fillAndMove, wp_bind, wp_look, wp_ite, wp_raise, wp_act, wp_given]
  refine ⟨Or.inl (onlyStaging opened), fun _ => ?_, fun _ => ⟨Or.inl (onlyStaging full), fun present => ?_, fun _ => ?_⟩⟩
  · exact wp_mono (rmtree_touches opened rfl (Or.inl rfl)) (fun _ held => Or.inl (onlyStaging held)) (fun _ _ held => held)
      (fun _ never => never.elim)
  · refine wp_mono (rmtree_touches (alone _) rfl (Or.inr present)) (fun m' held => Or.inl ?_) (fun _ m' held => ?_)
      (fun _ never => never.elim)
    · exact (onlyStaging full).trans (held.widen fun _ same => Or.inr same)
    · have both := (onlyStaging full).trans (held.widen fun _ same => Or.inr same)
      have installed := moveInto_installed both ((held.lookup staging apart).trans Machine.lookup_setDirectory) rfl
      exact ⟨Or.inr installed, installed⟩
  · have installed := moveInto_installed (onlyStaging full) Machine.lookup_setDirectory rfl
    exact ⟨Or.inr installed, installed⟩

/-! ## Links, the service, and health -/

def Machine.pointedAt (m : Machine) (version : String) : Machine :=
  { m with current := some ["releases", version], currentNew := none, changes := m.changes + 1 }

@[simp] theorem Machine.currentVersion_pointedAt {m : Machine} {version : String} :
    (m.pointedAt version).currentVersion = some version := rfl

section
variable {during : Machine → Prop} {post : Unit → Machine → Prop} {raised : Machine → Prop} {m : Machine}

theorem wp_pointCurrentAt {version : String} (pending : ∀ target, during (m.setNew target))
    (pointed : during (m.pointedAt version)) (after : post () (m.pointedAt version)) :
    wp during post raised (pointCurrentAt version) m := by
  simp only [pointCurrentAt, wp_bind, wp_look, wp_given, wp_act]
  exact ⟨fun _ => ⟨pending none, pending _, pointed, after⟩, fun _ => ⟨pending _, pointed, after⟩⟩

theorem wp_restart {outcome : Restart} (started : during m.start ∧ post () m.start) (kept : raised m)
    (gone : during m.stopped ∧ raised m.stopped) : wp during post raised (restart outcome) m := by
  cases outcome with
  | started => simpa only [restart, wp_act] using started
  | failed running =>
    cases running with
    | true => simpa only [restart, wp_raise] using kept
    | false => simpa only [restart, wp_bind, wp_act, wp_raise] using gone

/-- The content that syncing gives the secrets file, where that is another than it has. -/
def Machine.newSecrets (m : Machine) (cfg : Config) (access : String → Access) : Option String :=
  if cfg.specs = [] then none
  else (secretsFile cfg.specs access).filter fun content => m.text .secrets ≠ some content

theorem wp_syncSecrets {cfg : Config} {access : String → Access} {post : Bool → Machine → Prop}
    (kept : m.newSecrets cfg access = none → post false m)
    (written : ∀ content, m.newSecrets cfg access = some content →
      during (m.write .secrets content) ∧ post true (m.write .secrets content))
    (failed : raised m) : wp during post raised (syncSecrets cfg access) m := by
  unfold syncSecrets
  rw [wp_ite, wp_pure]
  unfold Machine.newSecrets at kept written
  constructor
  · intro without
    rw [if_pos without] at kept
    exact kept rfl
  · intro specs
    rw [if_neg specs] at kept written
    cases found : secretsFile cfg.specs access with
    | none => exact wp_raise.mpr failed
    | some content =>
      rw [found] at kept written
      refine wp_writeIfChanged.mpr ⟨fun same => kept ?_, fun differs => written content ?_⟩
      · simp [same]
      · simp [differs]

end

/-- What the answers of the probe come to, if they come to anything. -/
def verdict (deadline : Nat) : List (Bool × Nat) → Option Bool
  | [] => none
  | (answer, clock) :: polls => if answer then some true else if deadline ≤ clock then some false else verdict deadline polls

theorem wp_waitHealthy {during : Machine → Prop} {post : Bool → Machine → Prop} {raised : Machine → Prop} {m : Machine}
    {deadline : Nat} {polls : List (Bool × Nat)} (waiting : raised m)
    (healthy : verdict deadline polls = some true → during m.see ∧ post true m.see)
    (unhealthy : verdict deadline polls = some false → post false m) :
    wp during post raised (waitHealthy deadline polls) m := by
  induction polls with
  | nil => exact wp_raise.mpr waiting
  | cons poll polls ih =>
    obtain ⟨answer, clock⟩ := poll
    rw [verdict] at healthy unhealthy
    cases answer with
    | true =>
      simp only [waitHealthy, if_true, wp_bind, wp_act, wp_pure]
      exact healthy rfl
    | false =>
      simp only [waitHealthy, Bool.false_eq_true, if_false, wp_ite, wp_pure] at healthy unhealthy ⊢
      constructor
      · intro late
        rw [if_pos late] at unhealthy
        exact unhealthy rfl
      · intro early
        rw [if_neg early] at healthy unhealthy
        exact ih healthy unhealthy

/-! ## Versions -/

/-- `current` leads to a release by its version, and `previous` names one or none. -/
structure Machine.Named (m : Machine) : Prop where
  current : ∀ target, m.current = some target → ∃ version, target = ["releases", version] ∧ isVersion version = true
  previous : ∀ version, m.readState .previous = some version → version = "none" ∨ isVersion version = true

namespace Machine.Named
variable {m m' : Machine}

theorem currentVersion (named : m.Named) {version : String} (current : m.currentVersion = some version) :
    m.current = some ["releases", version] ∧ isVersion version = true := by
  obtain ⟨target, points, last⟩ := Option.bind_eq_some_iff.mp current
  obtain ⟨other, shape, valid⟩ := named.current target points
  subst shape
  cases last
  exact ⟨points, valid⟩

theorem congr (named : m.Named) (current : m'.current = m.current)
    (previous : m'.readState .previous = m.readState .previous) : m'.Named where
  current := current ▸ named.current
  previous := previous ▸ named.previous

theorem write (named : m.Named) {file : TextFile} (other : file ≠ .previous) {content : String} :
    (m.write file content).Named := named.congr rfl (readState_write_of_ne other.symm)

theorem pointedAt (named : m.Named) {version : String} (valid : isVersion version = true) : (m.pointedAt version).Named where
  current target points := by
    cases points
    exact ⟨version, rfl, valid⟩
  previous := named.previous

/-- What `previous` is given when another release is installed. -/
theorem previousLine (named : m.Named) : strip (m.currentVersion.getD "none") = m.currentVersion.getD "none" ∧
    m.currentVersion.getD "none" ≠ "" := by
  cases installed : m.currentVersion with
  | none => exact ⟨by decide, by decide⟩
  | some current =>
    have valid := (named.currentVersion installed).2
    exact ⟨strip_version valid, version_ne_empty valid⟩

theorem writePrevious (named : m.Named) : (m.write .previous (m.currentVersion.getD "none" ++ "\n")).Named where
  current := named.current
  previous version read := by
    obtain ⟨kept, nonempty⟩ := named.previousLine
    rw [readState_write kept nonempty] at read
    cases read
    cases installed : m.currentVersion with
    | none => exact Or.inl rfl
    | some current => exact Or.inr (named.currentVersion installed).2

end Machine.Named

/-- What a deploy keeps, the pass leaves, wherever it is cut. -/
theorem pass_keeps {cfg : Config} {sha256 : Bytes → String} {invariant : Machine → Prop} {m m' : Machine} {p : Pass}
    (held : wp invariant (fun _ => invariant) invariant (deploy cfg sha256 p.inputs) { m with now := p.inputs.now })
    (stepped : pass cfg sha256 m p = some m') : invariant m' := by
  unfold pass at stepped
  split at stepped
  · cases stepped
    cases ended : (m.course cfg sha256 p.inputs).outcome with
    | none => exact held.raises ended
    | some code => exact held.returns code ended
  · exact held.steps m' (List.mem_of_getElem? stepped)

end Skimasque.Deploy
