import Skimasque.Control.PolicyCache
import Skimasque.Library.Map

/-! What a restart makes of the revision that was cached.

Of documents whose file names collide the last survives, and the survivors are read in the order
of their file names. A revision comes through when none of this changes what it decides.
-/

set_option autoImplicit false

namespace Skimasque.Control
open Library Engine

def storedName (doc : PolicyDocument) : String := sanitize doc.name

/-- The document as its file gives it back. -/
def asStored (doc : PolicyDocument) : PolicyDocument := ⟨storedName doc, doc.text⟩

/-- The documents that no later one overwrites. -/
def surviving : List PolicyDocument → List PolicyDocument
  | [] => []
  | doc :: rest => if storedName doc ∈ rest.map storedName then surviving rest else doc :: surviving rest

/-- The surviving documents in the order of their file names. -/
def stored (documents : List PolicyDocument) : List PolicyDocument :=
  (surviving documents).insertionSort fun left right => storedName left ≤ storedName right

theorem surviving_sublist (documents : List PolicyDocument) :
    (surviving documents).Sublist documents := by
  induction documents with
  | nil => exact .slnil
  | cons doc rest ih =>
    unfold surviving
    split
    · exact ih.cons doc
    · exact ih.cons_cons doc

theorem mem_map_surviving (documents : List PolicyDocument) (name : String) :
    name ∈ (surviving documents).map storedName ↔ name ∈ documents.map storedName := by
  induction documents with
  | nil => rfl
  | cons doc rest ih =>
    unfold surviving
    split
    · rename_i overwritten
      rw [ih, List.map_cons, List.mem_cons]
      constructor
      · exact .inr
      · intro either
        cases either with
        | inl same => exact same ▸ overwritten
        | inr later => exact later
    · rw [List.map_cons, List.map_cons, List.mem_cons, List.mem_cons, ih]

theorem surviving_nodup (documents : List PolicyDocument) :
    ((surviving documents).map storedName).Nodup := by
  induction documents with
  | nil => exact .nil
  | cons doc rest ih =>
    unfold surviving
    split
    · exact ih
    · rename_i last
      rw [List.map_cons, List.nodup_cons, mem_map_surviving]
      exact ⟨last, ih⟩

theorem writeAll_eq_insertAll (dir : Dir) (documents : List PolicyDocument) :
    writeAll dir documents = Map.insertAll storedName (·.text) dir documents := rfl

theorem lookup_writeAll {documents : List PolicyDocument} {doc : PolicyDocument}
    (survives : doc ∈ surviving documents) (dir : Dir) :
    (writeAll dir documents).lookup (storedName doc) = some doc.text := by
  rw [writeAll_eq_insertAll]
  induction documents generalizing dir with
  | nil => cases survives
  | cons first rest ih =>
    rw [Map.insertAll_cons]
    unfold surviving at survives
    split at survives
    · exact ih survives _
    · rename_i last
      cases List.mem_cons.mp survives with
      | inl same => rw [same, Map.lookup_insertAll_of_notMem last, AList.lookup_insert]
      | inr later => exact ih later _

/-! ## File names -/

theorem splitAtFirst_append {separator : Char} {before : List Char} (free : separator ∉ before)
    (after : List Char) :
    Text.splitAtFirst separator (before ++ separator :: after) = some (before, after) := by
  induction before with
  | nil => simp [Text.splitAtFirst]
  | cons c rest ih =>
    rw [List.mem_cons, not_or] at free
    simp [Text.splitAtFirst, Ne.symm free.1, ih free.2]

theorem extension_toml {stem : String} (named : Text.isEmpty stem = false) :
    Text.extension (stem ++ ".toml") = some "toml" := by
  have reversed : (stem ++ ".toml").toList.reverse = ['l', 'm', 'o', 't'] ++ '.' :: stem.toList.reverse := by
    simp
  have split : Text.rsplitOnce '.' (stem ++ ".toml") = some (stem, "toml") := by
    rw [Text.rsplitOnce, reversed, splitAtFirst_append (by decide)]
    simp
  have notDots : (stem ++ ".toml" == "..") = false := by
    rw [beq_eq_false_iff_ne]
    intro same
    have sizes := congrArg (fun text : String => text.toList.length) same
    simp at sizes
  unfold Text.isEmpty at named
  simp [Text.extension, split, named, notDots]

theorem isPolicyFile_sanitize (name : String) : isPolicyFile (sanitize name) = true := by
  unfold sanitize
  dsimp only
  generalize Text.trimWhile (· == '.') (String.ofList (name.toList.filter isNameChar)) = stem
  split
  · decide
  rename_i named
  split
  · rename_i known
    cases found : Text.extension stem with
    | none => simp [found] at known
    | some ext =>
      simp only [found, Option.any_some, isPolicyExtension, Bool.or_eq_true, beq_iff_eq] at known
      rw [isPolicyFile, found]
      rcases known with (rfl | rfl) | rfl <;> decide
  · rw [isPolicyFile, extension_toml (by simpa using named)]
    decide

/-! ## Reading the directory back -/

theorem keys_written (documents : List PolicyDocument) :
    (written documents).keys.Perm ((surviving documents).map storedName) := by
  rw [List.perm_ext_iff_of_nodup (AList.keys_nodup _) (surviving_nodup documents)]
  intro name
  rw [mem_map_surviving, ← AList.mem_keys, written, writeAll_eq_insertAll, Map.mem_insertAll]
  simp

theorem files_written (documents : List PolicyDocument) :
    ((written documents).keys.filter isPolicyFile).insertionSort (· ≤ ·) =
      (stored documents).map storedName := by
  have all : (written documents).keys.filter isPolicyFile = (written documents).keys := by
    rw [List.filter_eq_self]
    intro name member
    rw [(keys_written documents).mem_iff, List.mem_map] at member
    obtain ⟨doc, -, rfl⟩ := member
    exact isPolicyFile_sanitize doc.name
  rw [all, stored, List.map_insertionSort _ (· ≤ ·) storedName _ (fun _ _ _ _ => Iff.rfl)]
  -- Two sorted lists of the same names are one list.
  have permuted := (List.perm_insertionSort (· ≤ ·) _).trans (keys_written documents)
  exact (permuted.trans (List.perm_insertionSort _ _).symm).eq_of_sortedLE
    List.sortedLE_insertionSort List.sortedLE_insertionSort

theorem mem_stored {documents : List PolicyDocument} {doc : PolicyDocument} :
    doc ∈ stored documents ↔ doc ∈ surviving documents :=
  List.mem_insertionSort _

theorem mapM_readFile {dir : Dir} {documents : List PolicyDocument}
    (present : ∀ doc ∈ documents, dir.lookup (storedName doc) = some doc.text) :
    (documents.map storedName).mapM (readFile dir) = .ok (documents.map asStored) := by
  induction documents with
  | nil => rfl
  | cons doc rest ih =>
    rw [List.forall_mem_cons] at present
    simp only [List.map_cons, List.mapM_cons, readFile, present.1, ih present.2]
    rfl

theorem stored_ne_nil {documents : List PolicyDocument} (nonempty : documents ≠ []) :
    stored documents ≠ [] := by
  obtain ⟨doc, member⟩ := List.exists_mem_of_ne_nil documents nonempty
  have name := (mem_map_surviving documents (storedName doc)).mpr (List.mem_map_of_mem member)
  obtain ⟨survivor, survives, -⟩ := List.mem_map.mp name
  exact List.ne_nil_of_mem (mem_stored.mpr survives)

/-- The next start reads the survivors, under their file names and in the order of these. -/
theorem loadDir_written (formats : Formats) {documents : List PolicyDocument}
    (nonempty : documents ≠ []) (loaded : Loaded) :
    loadDir formats (some (written documents)) = .ok loaded ↔
      PolicySet.fromDocuments formats ((stored documents).map asStored) = .ok loaded.set ∧
        (stored documents).map storedName = loaded.sources := by
  have files : ((stored documents).map storedName).isEmpty = false := by
    simpa using stored_ne_nil nonempty
  have read : ((stored documents).map storedName).mapM (readFile (written documents)) =
      .ok ((stored documents).map asStored) :=
    mapM_readFile fun doc member => lookup_writeAll (mem_stored.mp member) ∅
  simp only [loadDir, files_written, files, Bool.false_eq_true, ↓reduceIte, loadFiles, read]
  obtain ⟨set, sources⟩ := loaded
  cases found : PolicySet.fromDocuments formats ((stored documents).map asStored) with
  | error source => simp [bind, Except.bind, throw, throwThe, MonadExceptOf.throw, found]
  | ok loadedSet => simp [bind, Except.bind, pure, Except.pure, found]

theorem loadDir_written_nil (formats : Formats) :
    loadDir formats (some (written [])) = .error .noPolicyFiles := rfl

/-! ## Whether the revision comes through -/

section
variable (formats : Formats)

/-- The set a restart would make of the revision if every document kept its own format. -/
def reordered (documents : List PolicyDocument) : PolicySet :=
  ⟨(stored documents).map (policyOf formats)⟩

/-- After the write completes, the directory loads, and what it loads decides like `set`. -/
def SurvivesCache (disk : Disk) (version now : Nat) (documents : List PolicyDocument)
    (set : PolicySet) : Prop :=
  ∃ loaded, loadDir formats (cachePolicy disk version now documents).policies = .ok loaded ∧
    ∀ ctx, loaded.set.evaluate ctx = set.evaluate ctx

/-- No text both languages accept names a policy in both. -/
def OneLanguage : Prop :=
  ∀ text raw doc, formats.toml text = .ok raw → formats.yaml text = .ok doc → raw.name = none ∨
    doc.name = none

def KeepsFormat (doc : PolicyDocument) : Prop := isYamlName (storedName doc) = isYamlName doc.name

end

variable {formats : Formats} {documents : List PolicyDocument} {set : PolicySet}

theorem fromNamedDocument_asStored {doc : PolicyDocument} (kept : KeepsFormat doc) :
    Policy.fromNamedDocument formats (asStored doc).name (asStored doc).text =
      Policy.fromNamedDocument formats doc.name doc.text := by
  unfold KeepsFormat at kept
  simp only [Policy.fromNamedDocument, asStored, kept]

theorem intoPolicy_name {raw : RawPolicy} {policy : Policy} (ok : raw.intoPolicy formats = .ok policy) :
    raw.name ≠ none := by
  intro unnamed
  simp [RawPolicy.intoPolicy, unnamed, bind, Except.bind] at ok

theorem intoRaw_name {doc : YamlDoc} {raw : RawPolicy} (ok : doc.intoRaw = .ok raw) :
    raw.name = doc.name := by
  unfold YamlDoc.intoRaw at ok
  dsimp only at ok
  split at ok
  · cases ok
  · cases ok
    rfl

theorem not_policy_in_both (one : OneLanguage formats) {text : String} {first second : Policy}
    (asToml : Policy.fromToml formats text = .ok first)
    (asYaml : Policy.fromYaml formats text = .ok second) : False := by
  unfold Policy.fromToml at asToml
  unfold Policy.fromYaml at asYaml
  split at asToml
  · rename_i raw tomlRead
    split at asYaml
    · rename_i doc yamlRead
      obtain ⟨lowered, isRaw, isPolicy⟩ := Result.bind_eq_ok_iff.mp asYaml
      cases one text raw doc tomlRead yamlRead with
      | inl unnamed => exact intoPolicy_name asToml unnamed
      | inr unnamed => exact intoPolicy_name isPolicy ((intoRaw_name isRaw).trans unnamed)
    · cases asYaml
  · cases asToml

/-- A document that reads under both its names reads in one format. -/
theorem keepsFormat_of_reads (one : OneLanguage formats) {doc : PolicyDocument}
    (own : Reads formats doc) (again : Reads formats (asStored doc)) : KeepsFormat doc := by
  unfold Reads Policy.fromNamedDocument asStored at *
  dsimp only at again
  unfold KeepsFormat
  -- A change of format would be a text that both languages read as a policy.
  by_cases before : isYamlName doc.name = true
  · by_cases after : isYamlName (storedName doc) = true
    · rw [before, after]
    · rw [if_pos before] at own
      rw [if_neg after] at again
      exact (not_policy_in_both one again own).elim
  · by_cases after : isYamlName (storedName doc) = true
    · rw [if_neg before] at own
      rw [if_pos after] at again
      exact (not_policy_in_both one own again).elim
    · rw [Bool.eq_false_iff.mpr before, Bool.eq_false_iff.mpr after]

theorem reads_asStored_iff (formats : Formats) {doc : PolicyDocument} (kept : KeepsFormat doc) :
    (Reads formats (asStored doc) ↔ Reads formats doc) ∧
      policyOf formats (asStored doc) = policyOf formats doc := by
  have same : Policy.fromNamedDocument formats (asStored doc).name (asStored doc).text = _ :=
    fromNamedDocument_asStored kept
  have policy : policyOf formats (asStored doc) = policyOf formats doc := by simp only [policyOf, same]
  exact ⟨by rw [Reads, Reads, same, policy], policy⟩

/-- Where the survivors keep their formats, the next start loads the reordered set. -/
theorem fromDocuments_asStored (accepted : PolicySet.fromDocuments formats documents = .ok set)
    (kept : ∀ doc ∈ surviving documents, KeepsFormat doc) :
    PolicySet.fromDocuments formats ((stored documents).map asStored) = .ok (reordered formats documents) := by
  obtain ⟨reads, same, distinct⟩ := PolicySet.fromDocuments_eq_ok_iff.mp accepted
  have sub := surviving_sublist documents
  have perm : (stored documents).Perm (surviving documents) := List.perm_insertionSort _ _
  rw [PolicySet.fromDocuments_eq_ok_iff]
  refine ⟨?_, ?_, ?_⟩
  · intro file member
    obtain ⟨doc, inStored, rfl⟩ := List.mem_map.mp member
    have survives := mem_stored.mp inStored
    exact (reads_asStored_iff formats (kept doc survives)).1.mpr (reads doc (sub.subset survives))
  · rw [reordered, List.map_map]
    apply List.map_congr_left
    intro doc inStored
    rw [Function.comp_apply, (reads_asStored_iff formats (kept doc (mem_stored.mp inStored))).2]
  · rw [same, List.map_map] at distinct
    have survivors := (sub.map (Policy.name ∘ policyOf formats)).nodup distinct
    have names : (reordered formats documents).policies.map Policy.name =
        (stored documents).map (Policy.name ∘ policyOf formats) := List.map_map
    rw [names, (perm.map (Policy.name ∘ policyOf formats)).nodup_iff]
    exact survivors

theorem mem_reordered {policy : Policy} (accepted : PolicySet.fromDocuments formats documents = .ok set)
    (member : policy ∈ (reordered formats documents).policies) : policy ∈ set.policies := by
  obtain ⟨-, same, -⟩ := PolicySet.fromDocuments_eq_ok_iff.mp accepted
  obtain ⟨doc, inStored, rfl⟩ := List.mem_map.mp member
  rw [same]
  exact List.mem_map_of_mem ((surviving_sublist documents).subset (mem_stored.mp inStored))

theorem reordered_byName (accepted : PolicySet.fromDocuments formats documents = .ok set) :
    ∀ p ∈ (reordered formats documents).policies, ∀ q ∈ set.policies, p.name = q.name → p = q := by
  obtain ⟨-, -, distinct⟩ := PolicySet.fromDocuments_eq_ok_iff.mp accepted
  intro p inNew q inOld sameName
  exact List.inj_on_of_nodup_map distinct (mem_reordered accepted inNew) inOld sameName

theorem loadDir_reordered (accepted : PolicySet.fromDocuments formats documents = .ok set)
    (nonempty : documents ≠ []) (kept : ∀ doc ∈ surviving documents, KeepsFormat doc) :
    loadDir formats (some (written documents)) =
      .ok ⟨reordered formats documents, (stored documents).map storedName⟩ :=
  (loadDir_written formats nonempty _).mpr ⟨fromDocuments_asStored accepted kept, rfl⟩

/-- A revision comes through the cache exactly when it has a document, every surviving document keeps
its format under its file name, and reading the survivors in file name order changes neither the
policy selected for any identity nor the baseline in front of what that policy allows. -/
theorem cached_policy_survives_iff (one : OneLanguage formats)
    (accepted : PolicySet.fromDocuments formats documents = .ok set) (disk : Disk) (version now : Nat) :
    SurvivesCache formats disk version now documents set ↔
      documents ≠ [] ∧ (∀ doc ∈ surviving documents, KeepsFormat doc) ∧
        (∀ identity, (reordered formats documents).select identity = set.select identity) ∧
        SameBaselines set (reordered formats documents) := by
  unfold SurvivesCache
  rw [cachePolicy_policies]
  constructor
  · intro ⟨loaded, load, decides⟩
    have nonempty : documents ≠ [] := by
      rintro rfl
      rw [loadDir_written_nil] at load
      cases load
    -- What loads, loads from the survivors, and each of them read once before under its own name.
    have files := ((loadDir_written formats nonempty loaded).mp load).1
    have kept : ∀ doc ∈ surviving documents, KeepsFormat doc := by
      intro doc survives
      have own := (PolicySet.fromDocuments_eq_ok_iff.mp accepted).1 doc ((surviving_sublist documents).subset survives)
      have again := (PolicySet.fromDocuments_eq_ok_iff.mp files).1 (asStored doc)
        (List.mem_map_of_mem (mem_stored.mpr survives))
      exact keepsFormat_of_reads one own again
    rw [fromDocuments_asStored accepted kept, Except.ok.injEq] at files
    rw [← files] at decides
    exact ⟨nonempty, kept, (PolicySet.evaluate_eq_iff (reordered_byName accepted)).mp decides⟩
  · intro ⟨nonempty, kept, agrees⟩
    exact ⟨_, loadDir_reordered accepted nonempty kept,
      (PolicySet.evaluate_eq_iff (reordered_byName accepted)).mpr agrees⟩

-- Two catch-all policies, one that denies everything and one that allows everything.
def closedToml : String := "name = \"closed\"\n"

def openToml : String :=
  "name = \"open\"\n[[rules]]\napplication = \"*\"\naction = \"allow\"\ndestinations = [\"*\"]\n"

def sampleFormats : Formats where
  toml text :=
    if text = closedToml then .ok { name := some "closed" }
    else if text = openToml then
      .ok { name := some "open", rules := [{ application := "*", action := "allow", destinations := ["*"] }] }
    else .error "expected a key"
  yaml _ := .error "invalid type: string, expected struct YamlDoc"
  parseBytes text := .error (.empty text)
  parseBitrate text := .error (.empty text)

def closedPolicy : Policy := { name := "closed" }

def openPolicy : Policy :=
  { name := "open", rules := [⟨none, .any, .any, .allow, [⟨.any, .any, "*"⟩]⟩] }

def emptyDisk : Disk := ⟨none, none, none⟩

theorem sampleFormats_oneLanguage : OneLanguage sampleFormats := by
  intro text raw doc _ asYaml
  cases asYaml

theorem in_order_revision_survives :
    PolicySet.fromDocuments sampleFormats [⟨"closed.toml", closedToml⟩, ⟨"open.toml", openToml⟩] =
        .ok ⟨[closedPolicy, openPolicy]⟩ ∧
      SurvivesCache sampleFormats emptyDisk 2 0 [⟨"closed.toml", closedToml⟩, ⟨"open.toml", openToml⟩]
        ⟨[closedPolicy, openPolicy]⟩ := by
  have accepted : PolicySet.fromDocuments sampleFormats [⟨"closed.toml", closedToml⟩, ⟨"open.toml", openToml⟩] =
      .ok ⟨[closedPolicy, openPolicy]⟩ := by decide
  have same : reordered sampleFormats [⟨"closed.toml", closedToml⟩, ⟨"open.toml", openToml⟩] =
      ⟨[closedPolicy, openPolicy]⟩ := by decide
  refine ⟨accepted, (cached_policy_survives_iff sampleFormats_oneLanguage accepted emptyDisk 2 0).mpr
    ⟨by simp, by unfold KeepsFormat; decide, ?_, ?_⟩⟩
  · intro identity
    rw [same]
  · rw [same]
    intro _ _ _ _ _
    rfl

/-- Written in an order that its file names do not keep, a set that denies everything comes back as
one that allows everything. -/
theorem reordered_revision_lost :
    PolicySet.fromDocuments sampleFormats [⟨"z.toml", closedToml⟩, ⟨"a.toml", openToml⟩] =
        .ok ⟨[closedPolicy, openPolicy]⟩ ∧
      ¬ SurvivesCache sampleFormats emptyDisk 2 0 [⟨"z.toml", closedToml⟩, ⟨"a.toml", openToml⟩]
        ⟨[closedPolicy, openPolicy]⟩ := by
  refine ⟨by decide, ?_⟩
  intro ⟨loaded, load, same⟩
  have reads : loadDir sampleFormats
      (cachePolicy emptyDisk 2 0 [⟨"z.toml", closedToml⟩, ⟨"a.toml", openToml⟩]).policies =
        .ok ⟨⟨[openPolicy, closedPolicy]⟩, ["a.toml", "z.toml"]⟩ := by decide
  cases load.symm.trans reads
  have request := same ⟨{}, "curl", .tcp, ⟨.name "example.com", 443⟩, none⟩
  revert request
  decide

end Skimasque.Control
