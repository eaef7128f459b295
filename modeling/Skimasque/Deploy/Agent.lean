import Mathlib.Data.List.Sort
import Skimasque.Deploy.Machine
import Skimasque.Library.Transition

/-! The pull-based release agent: one pass of `deploy`, as the steps in which it changes the machine.

What a pass reads from outside, and what the service manager and the probe do, are its inputs.
-/

set_option autoImplicit false

namespace Skimasque.Deploy
open Library Library.Interrupted Skimasque.Core

/-! ## Configuration and inputs -/

structure SecretSpec where
  secret : String
  var : String
  optional : Bool
  deriving DecidableEq, Repr

structure Config where
  binary : String
  healthTimeout : Nat
  /-- The secret map, read; without one there is nothing to sync. -/
  specs : List SecretSpec
  deriving DecidableEq, Repr

def keepReleases : Nat := 2

/-- A read of the release source. -/
inductive Reading (α : Type) where
  | found (content : α)
  | notFound
  /-- Any other exception. -/
  | failed
  deriving DecidableEq, Repr

/-- An access to the secret manager. -/
inductive Access where
  | found (value : String)
  | absent
  | failed
  deriving DecidableEq, Repr

/-- `systemctl restart`; when it fails, the process may be gone. -/
inductive Restart where
  | started
  | failed (running : Bool)
  deriving DecidableEq, Repr

structure Inputs where
  now : Nat
  /-- The channel pointer and the published checksum, decoded. -/
  pointer : Reading String
  binary : Reading Bytes
  checksum : Reading String
  access : String → Access
  /-- What `mkdtemp` chooses, and whether the disk is full. -/
  suffix : String
  writeFails : Bool
  secretsRestart : Restart
  installRestart : Restart
  rollbackRestart : Restart
  /-- The clock before the health check, and each answer of the probe with the clock after it. -/
  checkFrom : Nat
  polls : List (Bool × Nat)

/-! ## Files -/

def writeIfChanged (file : TextFile) (content : String) : Program Machine Bool := do
  let m ← look
  if m.text file = some content then pure false
  else do
    act (·.write file content)
    pure true

def addBad (version : String) : Program Machine Unit := do
  let bad := version :: (← look).readBad
  let _ ← writeIfChanged .bad (unlines (bad.dedup.insertionSort (· ≤ ·)))

def clearBad (version : String) : Program Machine Unit := do
  let bad := (← look).readBad.filter (· ≠ version)
  let _ ← writeIfChanged .bad (unlines (bad.dedup.insertionSort (· ≤ ·)))

def writeState (file : TextFile) (value : String) : Program Machine Unit := do
  let _ ← writeIfChanged file (value ++ "\n")

/-- `SECRET_VALUE_RE`. -/
def isSecretValue (value : String) : Bool :=
  let chars := value.toList
  !chars.isEmpty && chars.all fun c => Text.isAsciiAlphanumeric c || "._~+/=:@-".toList.contains c

/-- The lines of the secrets file, and the required secrets that are missing; nothing where an exception ends it. -/
def secretLines (access : String → Access) : List SecretSpec → Option (List String × List String)
  | [] => some ([], [])
  | spec :: specs =>
    match access spec.secret with
    | .failed => none
    | .absent =>
      (secretLines access specs).map fun (lines, missing) =>
        (lines, if spec.optional then missing else spec.secret :: missing)
    | .found value =>
      if isSecretValue (strip value) then
        (secretLines access specs).map fun (lines, missing) => ((spec.var ++ "=" ++ strip value) :: lines, missing)
      else none

def secretsFile (specs : List SecretSpec) (access : String → Access) : Option String :=
  match secretLines access specs with
  | some (lines, []) => some (unlines lines)
  | _ => none

def syncSecrets (cfg : Config) (access : String → Access) : Program Machine Bool :=
  if cfg.specs = [] then pure false
  else
    match secretsFile cfg.specs access with
    | none => raise
    | some content => writeIfChanged .secrets content

/-! ## The service -/

def restart : Restart → Program Machine Unit
  | .started => act (·.start)
  | .failed true => raise
  | .failed false => do
    act (·.stopped)
    raise

/-- `wait_healthy`; out of answers, it waits until it is cut. -/
def waitHealthy (deadline : Nat) : List (Bool × Nat) → Program Machine Bool
  | [] => raise
  | (answer, clock) :: polls =>
    if answer then do
      act (·.see)
      pure true
    else if deadline ≤ clock then pure false
    else waitHealthy deadline polls

/-! ## Releases -/

def pointCurrentAt (version : String) : Program Machine Unit := do
  given (← look).currentNew.isSome (act (·.setNew none))
  act (·.setNew (some ["releases", version]))
  act (·.repoint)

/-- The files of a directory, removed one by one. -/
def removeFiles (name : String) : List (String × Bytes) → Program Machine Unit
  | [] => pure ()
  | _ :: files => do
    act (·.setDirectory name files)
    removeFiles name files

def rmtree (name : String) (ignoreErrors : Bool) : Program Machine Unit := do
  match (← look).releases.lookup name with
  | none => if ignoreErrors then pure () else raise
  | some dir => do
    removeFiles name dir.files
    act (·.removeDirectory name)

/-- `install_release`, in the staging directory that `mkdtemp` has made. -/
def fillAndMove (cfg : Config) (staging version : String) (binary : Bytes) (writeFails : Bool) :
    Program Machine Unit := do
  act (·.setDirectory staging [(cfg.binary, [])])
  if writeFails then raise
  else do
    act (·.setDirectory staging [(cfg.binary, binary)])
    given ((← look).releases.lookup version).isSome (rmtree version false)
    act (·.moveInto staging version)

def stagingName (version suffix : String) : String := "." ++ version ++ "." ++ suffix

def installRelease (cfg : Config) (version : String) (binary : Bytes) (inputs : Inputs) : Program Machine Unit := do
  let staging := stagingName version inputs.suffix
  if ((← look).releases.lookup staging).isSome then raise
  else do
    act (·.setDirectory staging [])
    cleaningUp (fillAndMove cfg staging version binary inputs.writeFails) (rmtree staging true)

def removeOthers (keepers : List String) : List String → Program Machine Unit
  | [] => pure ()
  | name :: names =>
    if name ∈ keepers then removeOthers keepers names
    else do
      rmtree name true
      removeOthers keepers names

def hidden (name : String) : Bool := Text.startsWith name "."

/-- The releases there are, the newest first. -/
def Machine.newestFirst (m : Machine) : List String :=
  let dirs := m.releases.entries.filter fun entry => !hidden entry.1
  (dirs.insertionSort fun first second => second.2.mtime ≤ first.2.mtime).map Sigma.fst

def prune : Program Machine Unit := do
  let m ← look
  let keepers := m.newestFirst.take keepReleases ++ m.currentVersion.toList
  removeOthers keepers (m.releases.keys.filter fun name => !hidden name)

/-! ## The deploy -/

/-- `verify_installed`, from where the release is listed as bad: back to the one before, where there is one. -/
def rollBack (version : String) (inputs : Inputs) : Program Machine Nat := do
  let m ← look
  match m.readState .previous with
  | none => pure 1
  | some previous =>
    if previous ≠ "none" ∧ previous ≠ version ∧ (m.releases.lookup previous).isSome then do
      pointCurrentAt previous
      restart inputs.rollbackRestart
      writeState .verified previous
      pure 1
    else pure 1

def verifyInstalled (cfg : Config) (version : String) (inputs : Inputs) : Program Machine Nat := do
  if ← waitHealthy (inputs.checkFrom + cfg.healthTimeout) inputs.polls then do
    writeState .verified version
    clearBad version
    prune
    pure 0
  else do
    addBad version
    rollBack version inputs

/-- `deploy`, for the release that is installed. -/
def refresh (cfg : Config) (version : String) (inputs : Inputs) : Program Machine Nat := do
  let verified := (← look).readState .verified
  given (← syncSecrets cfg inputs.access) (restart inputs.secretsRestart)
  if verified ≠ some version then verifyInstalled cfg version inputs
  else pure 0

/-- `deploy`, once there is a binary whose checksum is right, and the secrets are there. -/
def replace (cfg : Config) (version : String) (binary : Bytes) (inputs : Inputs) : Program Machine Nat := do
  let previous := (← look).currentVersion
  installRelease cfg version binary inputs
  writeState .previous (previous.getD "none")
  pointCurrentAt version
  restart inputs.installRestart
  verifyInstalled cfg version inputs

variable (cfg : Config) (sha256 : Bytes → String)

/-- `deploy`, for another release than the installed one. -/
def fetch (version : String) (inputs : Inputs) : Program Machine Nat :=
  match inputs.binary with
  | .failed => raise
  | .notFound => pure 1
  | .found binary =>
    match inputs.checksum with
    | .failed => raise
    | .notFound => pure 1
    | .found checksum =>
      let expected := Text.toAsciiLowercase ((words checksum).headD "")
      if sha256 binary ≠ expected then pure 1
      else do
        act fun m => { m with checks := ⟨version, binary, expected⟩ :: m.checks }
        -- Secrets first: a missing required secret aborts before anything changes.
        let _ ← syncSecrets cfg inputs.access
        replace cfg version binary inputs

def deploy (inputs : Inputs) : Program Machine Nat :=
  match inputs.pointer with
  | .failed => raise
  | .notFound => pure 0
  | .found pointer => do
    let version := strip pointer
    if !isVersion version then pure 1
    else do
      let m ← look
      if m.currentVersion = some version then refresh cfg version inputs
      else if version ∈ m.readBad then pure 0
      else fetch cfg sha256 version inputs

/-- One run of the agent, which may be cut short after any of its steps. -/
structure Pass where
  inputs : Inputs
  cut : Option Nat

def Machine.course (m : Machine) (inputs : Inputs) : Course Machine Nat :=
  deploy cfg sha256 inputs { m with now := inputs.now }

def pass (m : Machine) (p : Pass) : Option Machine :=
  match p.cut with
  | none => some (m.course cfg sha256 p.inputs).state
  | some count => (m.course cfg sha256 p.inputs).steps[count]?

end Skimasque.Deploy
