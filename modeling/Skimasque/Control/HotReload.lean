import Skimasque.Control.CacheReload
import Skimasque.Library.Transition

/-! The policy watch of a gateway: a load at start-up, then a reload whenever the files look different.

A load lists the files and reads them one after the other, and the files may be edited at any moment in
between. Taking a fingerprint is one moment.
-/

set_option autoImplicit false

namespace Skimasque.Control.HotReload
open Library Library.Transition Engine

/-! ## The files of a policy source -/

/-- The components of a path, the file name last. -/
abbrev Path := List String

structure File where
  /-- `none` when it cannot be read as text. -/
  text : Option String
  modified : Option Nat
  len : Nat
  deriving DecidableEq, Repr

/-- What the names in each readable directory are, and which files there are. A name may have no file to it. -/
structure Tree where
  dirs : AList (fun _ : Path => List String)
  files : AList (fun _ : Path => File)

def Tree.readDir (tree : Tree) (dir : Path) : Option (List Path) :=
  (tree.dirs.lookup dir).map fun names => names.map fun name => dir ++ [name]

def Tree.readToString (tree : Tree) (path : Path) : Option String := (tree.files.lookup path).bind File.text

def displayName (path : Path) : String := path.getLastD ""

inductive SourceSpec where
  | dir (dir : Path)
  | files (files : List Path)
  deriving DecidableEq, Repr

abbrev Fingerprint := List (Path × Option Nat × Option Nat)

def Fingerprint.of (tree : Tree) (paths : List Path) : Fingerprint :=
  (paths.insertionSort (· ≤ ·)).map fun path =>
    let found := tree.files.lookup path
    (path, found.bind File.modified, found.map File.len)

def document (path : Path) : Option String → Except LoadError PolicyDocument
  | some text => .ok ⟨displayName path, text⟩
  | none => .error (.readingFile (displayName path))

def loadPaths (formats : Formats) (tree : Tree) (paths : List Path) : Except LoadError PolicySet := do
  let documents ← paths.mapM fun path => document path (tree.readToString path)
  match PolicySet.fromDocuments formats documents with
  | .ok set => return set
  | .error source => throw (.loadingSet source)

namespace SourceSpec

def fingerprint (spec : SourceSpec) (tree : Tree) : Fingerprint :=
  match spec with
  | .dir root => .of tree (((tree.readDir root).getD []).filter fun path => isPolicyFile (displayName path))
  | .files paths => .of tree paths

/-- A load that no edit falls into. -/
def load (formats : Formats) (spec : SourceSpec) (tree : Tree) : Except LoadError PolicySet :=
  match spec with
  | .dir root =>
    match tree.readDir root with
    | none => .error .readingDirectory
    | some paths =>
      let files := (paths.filter fun path => isPolicyFile (displayName path)).insertionSort (· ≤ ·)
      if files.isEmpty then .error .noPolicyFiles else loadPaths formats tree files
  | .files paths => loadPaths formats tree paths

end SourceSpec

/-! ## The watch -/

/-- What one read of a load comes to. -/
inductive Turn (Loading Value : Type) where
  | more (loading : Loading)
  | loaded (value : Value)
  | failed
  deriving DecidableEq, Repr

/-- What a watch is given: how to tell that the files differ, and how to load them, read by read. -/
structure Source (Files Mark Loading Value : Type) where
  fingerprint : Files → Mark
  opening : Loading
  read : Files → Loading → Turn Loading Value

inductive Phase (Mark Loading : Type) where
  /-- The load at start-up. -/
  | starting (loading : Loading)
  | loaded
  | exited
  /-- In the `select` of the loop. -/
  | waiting
  /-- `torn` says whether the contents have changed since `next` was taken. -/
  | reloading (next : Mark) (loading : Loading) (torn : Bool)
  deriving DecidableEq, Repr

structure Gateway (Files Mark Loading Value : Type) where
  files : Files
  phase : Phase Mark Loading
  /-- The tracked fingerprint, once there is one. -/
  current : Option Mark
  inForce : Option Value
  /-- Every value that has loaded, in order. -/
  history : List Value
  /-- Whether the contents changed between the tracked fingerprint and the load of what is in force. -/
  torn : Bool

inductive Event (Files : Type) where
  | edited (files : Files)
  | read
  /-- The first tick and the first fingerprint. -/
  | watching
  | tick (forced : Bool)
  deriving DecidableEq, Repr

section
variable {Files Mark Loading Value Contents : Type} (source : Source Files Mark Loading Value)
  (contents : Files → Contents)

def start (files : Files) : Gateway Files Mark Loading Value :=
  ⟨files, .starting source.opening, none, none, [], false⟩

def edit [DecidableEq Contents] (gateway : Gateway Files Mark Loading Value) (files : Files) :
    Gateway Files Mark Loading Value :=
  let changed := decide (contents files ≠ contents gateway.files)
  match gateway.phase with
  | .starting _ | .loaded => { gateway with files, torn := gateway.torn || changed }
  | .reloading next loading torn => { gateway with files, phase := .reloading next loading (torn || changed) }
  | .exited | .waiting => { gateway with files }

/-- `handle.store`, with the value noted. -/
def Gateway.store (gateway : Gateway Files Mark Loading Value) (value : Value) : Gateway Files Mark Loading Value :=
  { gateway with inForce := some value, history := gateway.history ++ [value] }

def step [DecidableEq Mark] [DecidableEq Loading] [DecidableEq Contents] (gateway : Gateway Files Mark Loading Value) :
    Event Files → Option (Gateway Files Mark Loading Value)
  | .edited files => some (edit contents gateway files)
  | .read =>
    match gateway.phase with
    | .starting loading =>
      match source.read gateway.files loading with
      | .more loading => some { gateway with phase := .starting loading }
      | .loaded value => some { gateway.store value with phase := .loaded }
      | .failed => some { gateway with phase := .exited }
    | .reloading next loading torn =>
      match source.read gateway.files loading with
      | .more loading => some { gateway with phase := .reloading next loading torn }
      | .loaded value => some { gateway.store value with phase := .waiting, current := some next, torn }
      -- The fingerprint is left alone, so that the next tick tries again.
      | .failed => some { gateway with phase := .waiting }
    | _ => none
  | .watching =>
    if gateway.phase = .loaded then
      some { gateway with phase := .waiting, current := some (source.fingerprint gateway.files) }
    else none
  | .tick forced =>
    if gateway.phase = .waiting then
      let next := source.fingerprint gateway.files
      if forced = false ∧ gateway.current = some next then some gateway
      else some { gateway with phase := .reloading next source.opening false }
    else none

/-! ## What is in force is what was fingerprinted -/

/-- A load whose reads all find the same contents comes to what those contents parse to. `agrees` says
that a load so far has read these contents. -/
structure Loads (parse : Files → Option Value) (agrees : Contents → Loading → Prop) : Prop where
  same {first second : Files} : contents first = contents second → parse first = parse second
  opening (found : Contents) : agrees found source.opening
  more {files : Files} {loading next : Loading} : source.read files loading = .more next →
    agrees (contents files) loading → agrees (contents files) next
  loaded {files : Files} {loading : Loading} {value : Value} : source.read files loading = .loaded value →
    agrees (contents files) loading → parse files = some value

variable (parse : Files → Option Value) (agrees : Contents → Loading → Prop) (seen : Files → Prop)

/-- Unless it is torn, what is in force comes from files that had the tracked fingerprint. -/
def Covered (gateway : Gateway Files Mark Loading Value) : Prop :=
  gateway.torn = false → ∃ base, seen base ∧ gateway.current = some (source.fingerprint base) ∧
    parse base = gateway.inForce

def Staged (gateway : Gateway Files Mark Loading Value) : Phase Mark Loading → Prop
  | .starting loading => gateway.torn = false → agrees (contents gateway.files) loading
  | .loaded => gateway.torn = false → parse gateway.files = gateway.inForce
  | .exited => True
  | .waiting => Covered source parse seen gateway
  | .reloading next loading torn =>
    Covered source parse seen gateway ∧ (torn = false → ∃ base, seen base ∧ next = source.fingerprint base ∧
      contents gateway.files = contents base ∧ agrees (contents base) loading)

structure Tracking (gateway : Gateway Files Mark Loading Value) : Prop where
  files : seen gateway.files
  last : gateway.inForce = gateway.history.getLast?
  staged : Staged source contents parse agrees seen gateway gateway.phase

variable {source contents parse agrees seen} {gateway after : Gateway Files Mark Loading Value}

theorem tracking_start (loads : Loads source contents parse agrees) {files : Files} (found : seen files) :
    Tracking source contents parse agrees seen (start source files) :=
  ⟨found, rfl, fun _ => loads.opening _⟩

/-- At a tick that finds the tracked fingerprint, what is in force is what the files then parse to. -/
theorem Tracking.matched (loads : Loads source contents parse agrees)
    (tracking : Tracking source contents parse agrees seen gateway)
    (faithful : ∀ first second, seen first → seen second → source.fingerprint first = source.fingerprint second →
      contents first = contents second)
    (waiting : gateway.phase = .waiting) (matched : gateway.current = some (source.fingerprint gateway.files))
    (whole : gateway.torn = false) : parse gateway.files = gateway.inForce := by
  obtain ⟨found, _, staged⟩ := tracking
  rw [waiting] at staged
  obtain ⟨base, known, mark, parsed⟩ := staged whole
  have same := faithful base gateway.files known found (Option.some.inj (mark.symm.trans matched))
  rw [← loads.same same]
  exact parsed

theorem Tracking.edit [DecidableEq Contents] (loads : Loads source contents parse agrees)
    (tracking : Tracking source contents parse agrees seen gateway) {files : Files} (found : seen files) :
    Tracking source contents parse agrees seen (edit contents gateway files) := by
  obtain ⟨_, last, staged⟩ := tracking
  unfold HotReload.edit
  -- Where the contents count, either they are the same or the load is now torn.
  split
  next loading phase =>
    rw [phase] at staged
    refine ⟨found, last, ?_⟩
    simp only [phase, Staged, Bool.or_eq_false_iff, decide_eq_false_iff_not, not_not]
    intro ⟨whole, same⟩
    rw [same]
    exact staged whole
  next phase =>
    rw [phase] at staged
    refine ⟨found, last, ?_⟩
    simp only [phase, Staged, Bool.or_eq_false_iff, decide_eq_false_iff_not, not_not]
    intro ⟨whole, same⟩
    rw [loads.same same]
    exact staged whole
  next next loading torn phase =>
    rw [phase] at staged
    refine ⟨found, last, staged.1, ?_⟩
    simp only [Bool.or_eq_false_iff, decide_eq_false_iff_not, not_not]
    intro ⟨whole, same⟩
    rw [same]
    exact staged.2 whole
  next phase =>
    refine ⟨found, last, ?_⟩
    rw [phase]
    trivial
  next phase =>
    rw [phase] at staged
    refine ⟨found, last, ?_⟩
    rw [phase]
    exact staged

variable [DecidableEq Mark] [DecidableEq Loading] [DecidableEq Contents]

theorem Tracking.read (loads : Loads source contents parse agrees)
    (tracking : Tracking source contents parse agrees seen gateway)
    (stepped : step source contents gateway .read = some after) :
    Tracking source contents parse agrees seen after := by
  obtain ⟨found, last, staged⟩ := tracking
  cases phase : gateway.phase with
  | starting loading =>
    rw [phase] at staged
    simp only [step, phase] at stepped
    split at stepped
    next next more =>
      cases stepped
      exact ⟨found, last, fun whole => loads.more more (staged whole)⟩
    next value loaded =>
      cases stepped
      refine ⟨found, List.getLast?_concat.symm, fun whole => loads.loaded loaded (staged whole)⟩
    next =>
      cases stepped
      exact ⟨found, last, trivial⟩
  | reloading next loading torn =>
    rw [phase] at staged
    simp only [step, phase] at stepped
    obtain ⟨covered, window⟩ := staged
    split at stepped
    next more =>
      cases stepped
      refine ⟨found, last, covered, fun whole => ?_⟩
      obtain ⟨base, known, mark, same, agreed⟩ := window whole
      rw [← same] at agreed
      exact ⟨base, known, mark, same, same ▸ loads.more more agreed⟩
    next value loaded =>
      cases stepped
      refine ⟨found, List.getLast?_concat.symm, fun whole => ?_⟩
      obtain ⟨base, known, mark, same, agreed⟩ := window whole
      rw [← same] at agreed
      exact ⟨base, known, congrArg some mark, (loads.same same).symm.trans (loads.loaded loaded agreed)⟩
    next =>
      cases stepped
      exact ⟨found, last, covered⟩
  | _ => simp [step, phase] at stepped

theorem Tracking.step (loads : Loads source contents parse agrees) {event : Event Files}
    (tracking : Tracking source contents parse agrees seen gateway) (known : ∀ files, event = .edited files → seen files)
    (stepped : step source contents gateway event = some after) :
    Tracking source contents parse agrees seen after := by
  cases event with
  | edited files =>
    cases stepped
    exact tracking.edit loads (known files rfl)
  | read => exact tracking.read loads stepped
  | watching =>
    obtain ⟨found, last, staged⟩ := tracking
    simp only [HotReload.step] at stepped
    split at stepped
    next phase =>
      cases stepped
      rw [phase] at staged
      exact ⟨found, last, fun whole => ⟨gateway.files, found, rfl, staged whole⟩⟩
    next => cases stepped
  | tick forced =>
    obtain ⟨found, last, staged⟩ := tracking
    simp only [HotReload.step] at stepped
    split at stepped
    next phase =>
      split at stepped
      · cases stepped
        exact ⟨found, last, staged⟩
      · cases stepped
        rw [phase] at staged
        exact ⟨found, last, staged, fun _ => ⟨gateway.files, found, rfl, rfl, loads.opening _⟩⟩
    next => cases stepped

end

/-! ## The watch of a policy source -/

/-- How far a load is: the files left to read, and the documents read so far. -/
inductive Loading where
  | listing
  | reading (left : List Path) (documents : List PolicyDocument)
  deriving DecidableEq, Repr

namespace SourceSpec

def read (formats : Formats) (spec : SourceSpec) (tree : Tree) : Loading → Turn Loading PolicySet
  | .listing =>
    match spec with
    | .dir root =>
      match tree.readDir root with
      | none => .failed
      | some paths =>
        let files := (paths.filter fun path => isPolicyFile (displayName path)).insertionSort (· ≤ ·)
        if files.isEmpty then .failed else .more (.reading files [])
    | .files paths => .more (.reading paths [])
  | .reading (path :: left) documents =>
    match document path (tree.readToString path) with
    | .ok document => .more (.reading left (documents ++ [document]))
    | .error _ => .failed
  | .reading [] documents =>
    match PolicySet.fromDocuments formats documents with
    | .ok set => .loaded set
    | .error _ => .failed

def source (formats : Formats) (spec : SourceSpec) : Source Tree Fingerprint Loading PolicySet :=
  ⟨spec.fingerprint, .listing, spec.read formats⟩

/-- The files a load is about, in the order it reads them. -/
def paths (spec : SourceSpec) (tree : Tree) : List Path :=
  match spec with
  | .dir root =>
    (((tree.readDir root).getD []).filter fun path => isPolicyFile (displayName path)).insertionSort (· ≤ ·)
  | .files paths => paths

def contents (spec : SourceSpec) (tree : Tree) : List (Path × Option String) :=
  (spec.paths tree).map fun path => (path, tree.readToString path)

/-- An empty list of files is an error of a directory alone. -/
def lists (spec : SourceSpec) (found : List (Path × Option String)) : Prop := ∀ root, spec = .dir root → found ≠ []

def agrees (spec : SourceSpec) (found : List (Path × Option String)) : Loading → Prop
  | .listing => True
  | .reading left documents => spec.lists found ∧ ∃ done rest, found = done ++ rest ∧ rest.map Prod.fst = left ∧
      done.mapM (fun entry => document entry.1 entry.2) = .ok documents

end SourceSpec

section
variable {formats : Formats} {spec : SourceSpec} {tree : Tree}

theorem loadPaths_eq_ok_iff {paths : List Path} {set : PolicySet} :
    loadPaths formats tree paths = .ok set ↔
      ∃ documents, (paths.map fun path => (path, tree.readToString path)).mapM
        (fun entry => document entry.1 entry.2) = .ok documents ∧
        PolicySet.fromDocuments formats documents = .ok set := by
  rw [List.mapM_map]
  simp only [loadPaths, Result.bind_eq_ok_iff]
  refine exists_congr fun documents => and_congr_right fun _ => ?_
  cases PolicySet.fromDocuments formats documents with
  | ok other => simp [pure, Except.pure]
  | error source => simp [throw, throwThe, MonadExceptOf.throw]

theorem load_eq_ok_iff {set : PolicySet} :
    spec.load formats tree = .ok set ↔
      spec.lists (spec.contents tree) ∧ ∃ documents, (spec.contents tree).mapM
        (fun entry => document entry.1 entry.2) = .ok documents ∧
        PolicySet.fromDocuments formats documents = .ok set := by
  cases spec with
  | files paths =>
    have always : (SourceSpec.files paths).lists ((SourceSpec.files paths).contents tree) := nofun
    simp only [SourceSpec.load, always, true_and]
    exact loadPaths_eq_ok_iff
  | dir root =>
    simp only [SourceSpec.load, SourceSpec.contents, SourceSpec.paths, SourceSpec.lists]
    cases tree.readDir root with
    | none => simp
    | some paths =>
      simp only [Option.getD_some]
      generalize (paths.filter fun path => isPolicyFile (displayName path)).insertionSort (· ≤ ·) = files
      cases files with
      | nil => simp
      | cons first rest =>
        rw [if_neg (by simp), loadPaths_eq_ok_iff]
        simp

theorem agrees_listed {next : Loading} (read : spec.read formats tree .listing = .more next) :
    spec.agrees (spec.contents tree) next := by
  -- Nothing is read yet, and what is listed is what the contents are about.
  have fresh {files : List Path} (listed : spec.paths tree = files) (lists : spec.lists (spec.contents tree)) :
      spec.agrees (spec.contents tree) (.reading files []) := by
    refine ⟨lists, [], spec.contents tree, rfl, ?_, rfl⟩
    rw [← listed]
    simp [SourceSpec.contents, Function.comp_def]
  cases spec with
  | files paths =>
    cases read
    exact fresh rfl nofun
  | dir root =>
    cases found : tree.readDir root with
    | none => simp [SourceSpec.read, found] at read
    | some paths =>
      simp only [SourceSpec.read, found] at read
      split at read
      next => cases read
      next nonempty =>
        cases read
        refine fresh (by simp [SourceSpec.paths, found]) fun _ _ => ?_
        simpa [SourceSpec.contents, SourceSpec.paths, found] using nonempty

theorem agrees_read {path : Path} {left : List Path} {documents : List PolicyDocument} {next : Loading}
    (read : spec.read formats tree (.reading (path :: left) documents) = .more next)
    (agreed : spec.agrees (spec.contents tree) (.reading (path :: left) documents)) :
    spec.agrees (spec.contents tree) next := by
  obtain ⟨lists, done, rest, split, names, whole⟩ := agreed
  obtain ⟨entry, rest, rfl, rfl, rfl⟩ := List.map_eq_cons_iff.mp names
  -- The entry that comes next is one of the contents, so its text is what is read.
  have member : entry ∈ spec.contents tree := by
    rw [split]
    simp
  obtain ⟨_, _, rfl⟩ := List.mem_map.mp member
  simp only [SourceSpec.read] at read
  split at read
  next document found =>
    cases read
    refine ⟨lists, done ++ [_], rest, by simpa using split, rfl, ?_⟩
    rw [List.mapM_append, whole]
    simp [found, bind, Except.bind, pure, Except.pure]
  next => cases read

/-- A load ends with the parse of what it has read, after the last file. -/
theorem read_eq_loaded {loading : Loading} {set : PolicySet} (read : spec.read formats tree loading = .loaded set) :
    ∃ documents, loading = .reading [] documents ∧ PolicySet.fromDocuments formats documents = .ok set := by
  cases loading with
  | listing =>
    cases spec with
    | files paths => cases read
    | dir root =>
      simp only [SourceSpec.read] at read
      split at read
      next => cases read
      next => split at read <;> cases read
  | reading left documents =>
    cases left with
    | nil =>
      simp only [SourceSpec.read] at read
      split at read
      next other accepted =>
        cases read
        exact ⟨documents, rfl, accepted⟩
      next => cases read
    | cons path left =>
      simp only [SourceSpec.read] at read
      split at read <;> cases read

theorem SourceSpec.loads : Loads (spec.source formats) spec.contents
    (fun tree => (spec.load formats tree).toOption) spec.agrees where
  same {first second} same := by
    apply Option.ext
    intro set
    simp only [Result.toOption_eq_some_iff, load_eq_ok_iff, same]
  opening _ := trivial
  more {tree loading next} read agreed := by
    change spec.read formats tree loading = _ at read
    cases loading with
    | listing => exact agrees_listed read
    | reading left documents =>
      cases left with
      | nil =>
        simp only [SourceSpec.read] at read
        split at read <;> cases read
      | cons path left => exact agrees_read read agreed
  loaded {tree loading set} read agreed := by
    change spec.read formats tree loading = _ at read
    obtain ⟨documents, rfl, accepted⟩ := read_eq_loaded read
    obtain ⟨lists, done, rest, split, names, whole⟩ := agreed
    have rest : rest = [] := List.map_eq_nil_iff.mp names
    subst rest
    rw [List.append_nil] at split
    subst split
    exact Result.toOption_eq_some_iff.mpr (load_eq_ok_iff.mpr ⟨lists, documents, whole, accepted⟩)

end

/-- The states of the files in a run: the first, and what each edit makes of them. -/
def trees (first : Tree) (events : List (Event Tree)) : List Tree :=
  first :: events.filterMap fun
    | .edited tree => some tree
    | _ => none

/-- Among these states, files that look the same are the same. -/
def Faithful (spec : SourceSpec) (states : List Tree) : Prop :=
  ∀ first ∈ states, ∀ second ∈ states, spec.fingerprint first = spec.fingerprint second →
    spec.contents first = spec.contents second

abbrev PolicyGateway := Gateway Tree Fingerprint Loading PolicySet

def watchStep (formats : Formats) (spec : SourceSpec) : PolicyGateway → Event Tree → Option PolicyGateway :=
  step (spec.source formats) spec.contents

def watchStart (formats : Formats) (spec : SourceSpec) (tree : Tree) : PolicyGateway := start (spec.source formats) tree

/-- What is in force is what the files parse to; where they do not load, it is the last set that did. -/
def UpToDate (formats : Formats) (spec : SourceSpec) (gateway : PolicyGateway) : Prop :=
  gateway.inForce = (spec.load formats gateway.files).toOption.or gateway.history.getLast?

/-- A quiet tick, one that finds the tracked fingerprint, leaves out no change, unless the load of what is in force
was torn and the files would now load. -/
theorem quiet_tick_misses_nothing (formats : Formats) (spec : SourceSpec) (tree : Tree) (events : List (Event Tree))
    (faithful : Faithful spec (trees tree events)) (gateway : PolicyGateway)
    (ran : run (watchStep formats spec) (watchStart formats spec tree) events = some gateway)
    (waiting : gateway.phase = .waiting) (matched : gateway.current = some (spec.fingerprint gateway.files))
    (whole : gateway.torn = true → (spec.load formats gateway.files).toOption = none) :
    UpToDate formats spec gateway := by
  have edits : ∀ (_ : PolicyGateway), ∀ event ∈ events, ∀ files, event = .edited files → files ∈ trees tree events := by
    rintro _ _ member files rfl
    exact List.mem_cons_of_mem _ (List.mem_filterMap.mpr ⟨_, member, rfl⟩)
  have tracking : Tracking (spec.source formats) spec.contents (fun tree => (spec.load formats tree).toOption)
      spec.agrees (· ∈ trees tree events) gateway :=
    run_invariant_along _ (fun _ _ _ tracking known stepped => tracking.step SourceSpec.loads known stepped)
      (tracking_start SourceSpec.loads List.mem_cons_self) (along_of_forall edits _) ran
  unfold UpToDate
  cases torn : gateway.torn with
  | true =>
    rw [whole torn, Option.none_or]
    exact tracking.last
  | false =>
    have parsed := tracking.matched SourceSpec.loads (fun first second => fun known other => faithful first known second other)
      waiting matched torn
    rw [parsed, ← tracking.last, Option.or_self]

-- One policy file, before and after it is written anew.
def samplePath : Path := ["policies", "main.toml"]

def sampleTree (text : String) (modified : Nat) : Tree where
  dirs := AList.singleton ["policies"] ["main.toml"]
  files := AList.singleton samplePath ⟨some text, some modified, text.utf8ByteSize⟩

def sampleSpec : SourceSpec := .dir ["policies"]

def closedTree : Tree := sampleTree closedToml 1

def openTree : Tree := sampleTree openToml 2

theorem faithful_sample {states : List Tree} (known : ∀ tree ∈ states, tree = closedTree ∨ tree = openTree) :
    Faithful sampleSpec states := by
  intro first firstIn second secondIn same
  rcases known first firstIn with rfl | rfl <;> rcases known second secondIn with rfl | rfl
  · rfl
  · revert same
    decide
  · revert same
    decide
  · rfl

theorem edit_after_watch_is_seen :
    ∃ gateway, run (watchStep sampleFormats sampleSpec) (watchStart sampleFormats sampleSpec closedTree)
        [.read, .read, .read, .watching, .edited openTree, .tick false, .read, .read, .read] = some gateway ∧
      gateway.inForce = some ⟨[openPolicy]⟩ ∧ UpToDate sampleFormats sampleSpec gateway := by
  refine ⟨_, rfl, by decide, ?_⟩
  refine quiet_tick_misses_nothing sampleFormats sampleSpec closedTree
    [.read, .read, .read, .watching, .edited openTree, .tick false, .read, .read, .read] ?_ _ rfl rfl ?_ ?_
  · apply faithful_sample
    intro tree member
    simpa [trees] using member
  · decide
  · decide

-- An edit between the load at start-up and the first fingerprint: the watch starts out from the edited files.
theorem edit_before_watch_is_missed :
    ∃ gateway, run (watchStep sampleFormats sampleSpec) (watchStart sampleFormats sampleSpec closedTree)
        [.read, .read, .read, .edited openTree, .watching] = some gateway ∧
      Faithful sampleSpec (trees closedTree [.read, .read, .read, .edited openTree, .watching]) ∧
      gateway.phase = .waiting ∧ gateway.current = some (sampleSpec.fingerprint gateway.files) ∧
      watchStep sampleFormats sampleSpec gateway (.tick false) = some gateway ∧
      gateway.inForce = some ⟨[closedPolicy]⟩ ∧
      (sampleSpec.load sampleFormats gateway.files).toOption = some ⟨[openPolicy]⟩ ∧
      ¬ UpToDate sampleFormats sampleSpec gateway := by
  refine ⟨_, rfl, ?_, rfl, ?_, ?_, ?_, ?_, ?_⟩
  · apply faithful_sample
    intro tree member
    simpa [trees] using member
  · decide
  · rfl
  · decide
  · decide
  · unfold UpToDate
    decide

end Skimasque.Control.HotReload
