import Mathlib.Data.List.AList
import Mathlib.Data.String.Basic
import Skimasque.Engine.Agreement
import Skimasque.Engine.Parse

/-! The policy cache on disk: how a revision is written, and how the next start loads it.

A directory is a map from file names to contents. `cachePolicy` is the sequence of the single
operations `cacheOps` lists, so that a stop in the middle is a prefix of that list.
-/

set_option autoImplicit false

namespace Skimasque.Control
open Library Engine

/-- File names and contents, in the order the directory lists them. -/
abbrev Dir := AList (fun _ : String => String)

structure CacheMeta where
  version : Nat
  fetchedAtMs : Nat
  deriving DecidableEq, Repr

/-- The state directory: the policies, the staging directory beside them, and the freshness record. -/
structure Disk where
  policies : Option Dir
  staging : Option Dir
  cacheMeta : Option CacheMeta

def isNameChar (c : Char) : Bool := Text.isAsciiAlphanumeric c || c == '-' || c == '_' || c == '.'

def isPolicyExtension (ext : String) : Bool := ext == "toml" || ext == "yaml" || ext == "yml"

/-- Keep a document name to a single path component. -/
def sanitize (name : String) : String :=
  let stem := Text.trimWhile (· == '.') (String.ofList (name.toList.filter isNameChar))
  if Text.isEmpty stem then "policy.toml"
  else if (Text.extension stem).any isPolicyExtension then stem
  else stem ++ ".toml"

def isPolicyFile (file : String) : Bool :=
  (Text.extension file).any fun ext => isPolicyExtension (Text.toAsciiLowercase ext)

/-! ## Writing a revision -/

inductive Place where
  | policies
  | staging
  deriving DecidableEq, Repr

inductive Op where
  | removeFile (place : Place) (name : String)
  | removeDir (place : Place)
  | createStaging
  | writeStaging (name text : String)
  | rename
  | writeMeta (record : CacheMeta)
  deriving DecidableEq, Repr

def Disk.update (disk : Disk) (place : Place) (change : Option Dir → Option Dir) : Disk :=
  match place with
  | .policies => { disk with policies := change disk.policies }
  | .staging => { disk with staging := change disk.staging }

def Disk.apply (disk : Disk) : Op → Disk
  | .removeFile place name => disk.update place (Option.map (AList.erase name))
  | .removeDir place => disk.update place (fun _ => none)
  | .createStaging => disk.update .staging (fun staging => some (staging.getD ∅))
  | .writeStaging name text => disk.update .staging (Option.map (AList.insert name text))
  | .rename => { disk with policies := disk.staging, staging := none }
  | .writeMeta record => { disk with cacheMeta := some record }

def Disk.applyAll (disk : Disk) (ops : List Op) : Disk := ops.foldl Disk.apply disk

/-- `remove_dir_all`: one file after the other, then the directory. A missing one is not an error here. -/
def removeDirAll (place : Place) : Option Dir → List Op
  | none => []
  | some dir => dir.keys.map (Op.removeFile place) ++ [.removeDir place]

-- The old policies are removed before the staging directory takes their place.
def cacheOps (disk : Disk) (version now : Nat) (documents : List PolicyDocument) : List Op :=
  removeDirAll .staging disk.staging ++ [.createStaging] ++
    documents.map (fun doc => .writeStaging (sanitize doc.name) doc.text) ++
    removeDirAll .policies disk.policies ++ [.rename, .writeMeta ⟨version, now⟩]

def cachePolicy (disk : Disk) (version now : Nat) (documents : List PolicyDocument) : Disk :=
  disk.applyAll (cacheOps disk version now documents)

def hasCachedPolicy (disk : Disk) : Bool := disk.policies.any fun dir => !dir.keys.isEmpty

/-! ## Loading what is on disk -/

inductive LoadError where
  | readingDirectory
  | noPolicyFiles
  | readingFile (name : String)
  | loadingSet (source : SetError)
  deriving DecidableEq, Repr

structure Loaded where
  set : PolicySet
  sources : List String
  deriving DecidableEq, Repr

def readFile (dir : Dir) (name : String) : Except LoadError PolicyDocument :=
  match dir.lookup name with
  | some text => .ok ⟨name, text⟩
  | none => .error (.readingFile name)

def loadFiles (formats : Formats) (dir : Dir) (names : List String) : Except LoadError Loaded := do
  let documents ← names.mapM (readFile dir)
  match PolicySet.fromDocuments formats documents with
  | .ok set => return ⟨set, names⟩
  | .error source => throw (.loadingSet source)

/-- Every policy file directly under the directory, in file name order. -/
def loadDir (formats : Formats) : Option Dir → Except LoadError Loaded
  | none => .error .readingDirectory
  | some dir =>
    let files := (dir.keys.filter isPolicyFile).insertionSort (· ≤ ·)
    if files.isEmpty then .error .noPolicyFiles else loadFiles formats dir files

/-! ## What a completed write leaves -/

/-- The directory that the documents of a revision make, later ones over earlier ones of their name. -/
def writeAll (dir : Dir) (documents : List PolicyDocument) : Dir :=
  documents.foldl (fun dir doc => dir.insert (sanitize doc.name) doc.text) dir

def written (documents : List PolicyDocument) : Dir := writeAll ∅ documents

theorem applyAll_append (disk : Disk) (first second : List Op) :
    disk.applyAll (first ++ second) = (disk.applyAll first).applyAll second :=
  List.foldl_append

theorem applyAll_singleton (disk : Disk) (op : Op) : disk.applyAll [op] = disk.apply op := rfl

theorem staging_removed (disk : Disk) : (disk.applyAll (removeDirAll .staging disk.staging)).staging = none := by
  cases found : disk.staging with
  | none => exact found
  | some dir =>
    rw [removeDirAll, applyAll_append, applyAll_singleton]
    rfl

theorem staging_kept (disk : Disk) (dir : Option Dir) :
    (disk.applyAll (removeDirAll .policies dir)).staging = disk.staging := by
  cases dir with
  | none => rfl
  | some dir =>
    have files (names : List String) (disk : Disk) :
        (disk.applyAll (names.map (Op.removeFile .policies))).staging = disk.staging := by
      induction names generalizing disk with
      | nil => rfl
      | cons name rest ih => exact ih (disk.apply (.removeFile .policies name))
    rw [removeDirAll, applyAll_append, applyAll_singleton]
    exact files dir.keys disk

theorem staging_written (disk : Disk) (dir : Dir) (documents : List PolicyDocument)
    (found : disk.staging = some dir) :
    (disk.applyAll (documents.map fun doc => .writeStaging (sanitize doc.name) doc.text)).staging =
      some (writeAll dir documents) := by
  -- Each write goes into the directory the writes before it made.
  induction documents generalizing disk dir with
  | nil => exact found
  | cons doc rest ih =>
    have next : (disk.apply (.writeStaging (sanitize doc.name) doc.text)).staging =
        some (dir.insert (sanitize doc.name) doc.text) := by
      simp [Disk.apply, Disk.update, found]
    exact ih _ _ next

/-- Up to the swap, the staging directory has come to hold the new revision whole. -/
theorem staging_complete (disk : Disk) (documents : List PolicyDocument) :
    (disk.applyAll (removeDirAll .staging disk.staging ++ [.createStaging] ++
      documents.map (fun doc => .writeStaging (sanitize doc.name) doc.text) ++
      removeDirAll .policies disk.policies)).staging = some (written documents) := by
  rw [applyAll_append, applyAll_append, applyAll_append, applyAll_singleton, staging_kept]
  apply staging_written
  simp [Disk.apply, Disk.update, staging_removed]

theorem cachePolicy_policies (disk : Disk) (version now : Nat) (documents : List PolicyDocument) :
    (cachePolicy disk version now documents).policies = some (written documents) := by
  rw [cachePolicy, cacheOps, applyAll_append]
  exact staging_complete disk documents

example : sanitize "../../etc/passwd" = "etcpasswd.toml" := by decide
example : sanitize "prod.YAML" = "prod.YAML.toml" := by decide

end Skimasque.Control
