import CloudReconcile.Reconcile.Error

/-!
# Failures of the operator

What can go wrong around the reconciliation of one declaration.  Some failures are not the
operator's own: what the cluster's API, the reader of JSON and the changing of finalizers report is
only passed on.  With their words given, every failure has a message and a chain of causes.
-/

namespace CloudReconcile

mutual

/-- Why the operator could not do its work. -/
inductive OperatorError where
  | cluster
  | managed (cause : ManagedError)
  | finalizer (cause : FinalizerError)
  | serialization

/-- Why the work guarded by a finalizer failed. -/
inductive FinalizerError where
  | applyFailed (cause : OperatorError)
  | cleanupFailed (cause : OperatorError)
  | addFailed
  | removeFailed
  | unnamedObject
  | invalidFinalizer

end

mutual

/-- The failure of the reconciliation step behind this one. -/
def OperatorError.managed? : OperatorError → Option ManagedError
  | .managed cause => some cause
  | .finalizer cause => cause.managed?
  | .cluster | .serialization => none

def FinalizerError.managed? : FinalizerError → Option ManagedError
  | .applyFailed cause | .cleanupFailed cause => cause.managed?
  | _ => none

end

def ManagedError.sources (e : ManagedError) : List String :=
  (e.cause?.map RemoteError.message).toList

/-- What a failure from elsewhere says, and what the causes behind it say. -/
structure ForeignFailure where
  message : String
  causes : List String
deriving DecidableEq, Repr

/-- The words of the failures that are only passed on. -/
structure Wording where
  cluster : ForeignFailure
  serialization : ForeignFailure
  addFailed : ForeignFailure
  removeFailed : ForeignFailure
deriving DecidableEq, Repr

def Wording.silent : Wording := ⟨⟨"", []⟩, ⟨"", []⟩, ⟨"", []⟩, ⟨"", []⟩⟩

mutual

def OperatorError.message (w : Wording) : OperatorError → String
  | .cluster => "Kubernetes API error: " ++ w.cluster.message
  | .managed cause => cause.message
  | .finalizer cause => "Finalizer error: " ++ cause.message w
  | .serialization => "Serialization error: " ++ w.serialization.message

def FinalizerError.message (w : Wording) : FinalizerError → String
  | .applyFailed cause => "failed to apply object: " ++ cause.message w
  | .cleanupFailed cause => "failed to clean up object: " ++ cause.message w
  | .addFailed => w.addFailed.message
  | .removeFailed => w.removeFailed.message
  | .unnamedObject => "object has no name"
  | .invalidFinalizer => "invalid finalizer"

end

mutual

/-- The wordings of the causes of a failure, the nearest first.  A step's failure stands for its
own cause. -/
def OperatorError.sources (w : Wording) : OperatorError → List String
  | .cluster => w.cluster.message :: w.cluster.causes
  | .managed cause => cause.sources
  | .finalizer cause => cause.message w :: cause.sources w
  | .serialization => w.serialization.message :: w.serialization.causes

def FinalizerError.sources (w : Wording) : FinalizerError → List String
  | .applyFailed cause | .cleanupFailed cause => cause.message w :: cause.sources w
  | .addFailed => w.addFailed.causes
  | .removeFailed => w.removeFailed.causes
  | .unnamedObject | .invalidFinalizer => []

end

mutual

/-- The operator has all the words of the failure itself. -/
def OperatorError.isWorded : OperatorError → Bool
  | .managed _ => true
  | .finalizer cause => cause.isWorded
  | .cluster | .serialization => false

def FinalizerError.isWorded : FinalizerError → Bool
  | .applyFailed cause | .cleanupFailed cause => cause.isWorded
  | .unnamedObject | .invalidFinalizer => true
  | .addFailed | .removeFailed => false

end

namespace OperatorError

/-- The message, if it does not depend on what others say. -/
def message? (e : OperatorError) : Option String :=
  if e.isWorded then some (e.message .silent) else none

/-- The wordings of the causes, if they do not depend on what others say. -/
def sources? (e : OperatorError) : Option (List String) :=
  if e.isWorded then some (e.sources .silent) else none

def phase? (e : OperatorError) : Option Phase := e.managed?.bind ManagedError.phase?

def isMisuse (e : OperatorError) : Bool := e.managed?.any ManagedError.isMisuse

/-- The failure may clear up without a change to the declaration.  Failures of the cluster do. -/
def isRetryable (e : OperatorError) : Bool := e.managed?.all ManagedError.isRetryable

end OperatorError

end CloudReconcile
