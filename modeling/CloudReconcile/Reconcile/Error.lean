import CloudReconcile.RemoteError

/-!
# Failures of a reconciliation step
-/

namespace CloudReconcile

/-- What a remote call was made for. -/
inductive Phase where
  | get
  | create
  | update
  | delete
deriving DecidableEq, Repr

namespace Phase

def text : Phase → String
  | .get => "get"
  | .create => "create"
  | .update => "update"
  | .delete => "delete"

def names : List (String × Phase) :=
  [("get", .get), ("create", .create), ("update", .update), ("delete", .delete)]

end Phase

inductive ManagedError where
  | remote (phase : Phase) (resource : String) (cause : RemoteError)
  /-- A resource of another kind was handed in. -/
  | misuse (expected : String)
deriving DecidableEq, Repr

namespace ManagedError

def message : ManagedError → String
  | .remote phase resource cause =>
    "cannot " ++ phase.text ++ " " ++ resource ++ ": " ++ cause.message
  | .misuse expected => "unexpected resource, it must be " ++ expected

def phase? : ManagedError → Option Phase
  | .remote phase _ _ => some phase
  | .misuse _ => none

def cause? : ManagedError → Option RemoteError
  | .remote _ _ cause => some cause
  | .misuse _ => none

/-- The failure may clear up on its own; after a refusal or a misuse somebody has to change
something. -/
def isRetryable (e : ManagedError) : Bool := e.cause?.any RemoteError.isTransport

def isMisuse : ManagedError → Bool
  | .misuse _ => true
  | .remote .. => false

end ManagedError

end CloudReconcile
