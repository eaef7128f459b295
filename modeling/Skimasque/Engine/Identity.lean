import Skimasque.Library.Text

/-! WHO is asking: the workload identity a policy is evaluated against. -/

set_option autoImplicit false

namespace Skimasque.Engine
open Library

inductive WorkloadKind where
  | developer
  | ci
  | agent
  deriving DecidableEq, Repr

def WorkloadKind.parse : String → Option WorkloadKind
  | "developer" => some .developer
  | "ci" => some .ci
  | "agent" => some .agent
  | _ => none

structure WorkloadIdentity where
  organization : Option String := none
  repository : Option String := none
  workflow : Option String := none
  gitRef : Option String := none
  environment : Option String := none
  actor : Option String := none
  kind : Option WorkloadKind := none
  runId : Option String := none
  runtime : Option String := none
  sid : Option String := none
  deriving DecidableEq, Repr

/-- The branch name, if the ref is a branch ref. -/
def WorkloadIdentity.branch (identity : WorkloadIdentity) : Option String :=
  identity.gitRef.bind (Text.stripPrefix "refs/heads/")

/-- The repository name without its owner. -/
def WorkloadIdentity.repositoryName (identity : WorkloadIdentity) : Option String :=
  identity.repository.map fun repo =>
    match Text.rsplitOnce '/' repo with
    | some (_, name) => name
    | none => repo

end Skimasque.Engine
