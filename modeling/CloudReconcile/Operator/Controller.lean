import CloudReconcile.Operator.Applying

/-!
# Reconciling a declaration

A declaration that is not being deleted is applied.  One that is being deleted is cleaned up.  The
finalizer comes before everything else and goes after everything else.
-/

namespace CloudReconcile

/-- The controller of one kind: its client and its waits, in seconds. -/
structure Controller where
  client : KindName
  pollInterval : Nat
  errorRequeue : Nat
deriving DecidableEq, Repr

/-- The operator's finalizer stands on the object. -/
def Metadata.IsGuarded (m : Metadata) : Prop := finalizerName ∈ m.finalizerList

instance (m : Metadata) : Decidable m.IsGuarded :=
  inferInstanceAs (Decidable (finalizerName ∈ m.finalizerList))

namespace Controller

open Applying (publish reportFailure)

/-- How the controller applies declarations of a kind. -/
def applying (s : Controller) (k : KindName) : Applying k.kind where
  refusal := Step.refusal? s.client k
  pollInterval := s.pollInterval

variable {k : KindName}

/-- Make a step with the client, which refuses declarations of other kinds. -/
def step {α : Type} (s : Controller) (d : Declaration k.kind) (step : Step k.kind α) :
    Program k.kind (Outcome k.kind α) :=
  (s.applying k).step d step

theorem step_eq_erased {α : Type} (s : Controller) (d : Declaration k.kind)
    (step : Step k.kind α) :
    s.step d step =
      match step.erased s.client with
      | .ok step => Program.step step
      | .error e => .done (d, .error e) := by
  have same : step.guarded (s.applying k).refusal = step.erased s.client := rfl
  rw [Controller.step, Applying.step, same]
  cases step.erased s.client <;> rfl

def apply (s : Controller) (d : Declaration k.kind) :
    Program k.kind (Except OperatorError Requeue) :=
  (s.applying k).apply d

def deleted (K : Kind) : Event where
  type := .normal
  reason := "DeletedExternalResource"
  action := "Delete"
  note := "Deleted external " ++ K.name

/-- Tell in an event how deleting went, and in the status if it went wrong. -/
def dismiss (working : Declaration k.kind) :
    Except ManagedError Unit → Program k.kind (Except OperatorError Requeue)
  | .error e => do
    let working := working.withCondition (.reconcileError e.message)
    reportFailure working "Delete" "CannotDeleteExternalResource" e
    let _ ← Persist.status working
    return .error (.managed e)
  | .ok () => do
    publish working (deleted k.kind)
    return .ok none

/-- Release the remote object of a declaration that is being deleted. -/
def cleanup (s : Controller) (d : Declaration k.kind) :
    Program k.kind (Except OperatorError Requeue) := do
  if d.spec.deletionPolicy = .orphan then return .ok none
  else
    let (working, result) ← s.step d (Step.delete d)
    dismiss working result

/-- Change the finalizers of a declaration, which needs a name. -/
def changeFinalizers (d : Declaration k.kind) (change : FinalizerChange)
    (failure : FinalizerError) : Program k.kind (Except OperatorError Unit) :=
  match d.metadata.name with
  | none => pure (.error (.finalizer .unnamedObject))
  | some _ => do
    match ← Persist.named d (.finalizers d change) with
    | .ok () => return .ok ()
    | .error _ => return .error (.finalizer failure)

def finalizerPlace (d : Declaration k.kind) : Option Nat :=
  d.metadata.finalizerList.findIdx? (· = finalizerName)

theorem finalizerPlace_eq_none_iff : finalizerPlace d = none ↔ ¬ d.metadata.IsGuarded := by
  rw [finalizerPlace, List.findIdx?_eq_none_iff]
  constructor
  · intro absent there
    simpa using absent finalizerName there
  · intro absent name there
    rw [decide_eq_false_iff_not]
    rintro rfl
    exact absent there

/-- Reconcile a declaration under the guard of the finalizer. -/
def reconcile (s : Controller) (d : Declaration k.kind) :
    Program k.kind (Except OperatorError Requeue) := do
  match finalizerPlace d, d.metadata.isDeleted with
  | some _, false =>
    return (← s.apply d).mapError fun e => .finalizer (.applyFailed e)
  | some place, true =>
    if d.metadata.name = none then return .error (.finalizer .unnamedObject)
    else
      match ← s.cleanup d with
      | .error e => return .error (.finalizer (.cleanupFailed e))
      | .ok requeue =>
        return (← changeFinalizers d (.remove place) .removeFailed).map fun _ => requeue
  | none, false =>
    return (← changeFinalizers d (.add d.metadata.finalizerList) .addFailed).map fun _ => none
  | none, true => return .ok none

def requeueAfter (s : Controller) (result : Except OperatorError Requeue) : Requeue :=
  match result with
  | .ok requeue => requeue
  | .error _ => some s.errorRequeue

end Controller

end CloudReconcile
