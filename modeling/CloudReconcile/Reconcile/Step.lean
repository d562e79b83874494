import CloudReconcile.Declaration
import CloudReconcile.Drift
import CloudReconcile.Reconcile.Error
import CloudReconcile.Remote.Call

/-!
# Steps of a reconciliation

A step makes exactly one remote call.  What the answer, or the failure to get one, makes of the
declaration is a pure function; so a step says everything about itself before the call is made.
-/

namespace CloudReconcile

/-- What a declaration is after a step, and how the step turned out. -/
abbrev Outcome (K : Kind) (α : Type) := Declaration K × Except ManagedError α

/-- One remote call and what follows from its result. -/
structure Step (K : Kind) (α : Type) where
  call : Call K
  next : call.Result → Outcome K α

/-- What a look at the remote object found out. -/
structure Observation where
  present : Bool
  upToDate : Bool
  lateInitialized : Bool
deriving DecidableEq, Repr

namespace Observation

def absent : Observation := ⟨false, false, false⟩

end Observation

namespace Step

variable {K : Kind}

def failure (phase : Phase) (e : RemoteError) : ManagedError := .remote phase K.name e

/-- A declaration whose remote object was found: it takes over what it says nothing about, becomes
available, and reports what the object shows. -/
def found (d : Declaration K) (r : K.Remote) : Declaration K × Observation :=
  let params := K.lateInit d.params r
  let ready := (d.withParams params).withCondition .available
  let status := ready.statusOrBlank
  let status := { status with atProvider := K.observe status.atProvider r }
  ({ ready with status := some status },
    ⟨true, (Drift.check K params r).upToDate, params ≠ d.params⟩)

def observe (d : Declaration K) : Step K Observation where
  call := .get d.identity
  next
    | .ok r => let (d, o) := found d r; (d, .ok o)
    | .error e => (d, if e.isNotFound then .ok .absent else .error (failure (K := K) .get e))

theorem observe_missing (d : Declaration K) {e : RemoteError} (h : e.isNotFound = true) :
    (observe d).next (.error e) = (d, .ok .absent) := by
  simp [observe, h]

theorem observe_failed (d : Declaration K) {e : RemoteError} (h : e.isNotFound = false) :
    (observe d).next (.error e) = (d, .error (.remote .get K.name e)) := by
  simp [observe, h, failure]

def put (phase : Phase) (d : Declaration K) : Step K Unit where
  call := .put d.params
  next result := (d, (result.map fun _ => ()).mapError (failure (K := K) phase))

def create (d : Declaration K) : Step K Unit := put .create (d.withCondition .creating)

def update (d : Declaration K) : Step K Unit := put .update d

/-- Delete the remote object; one that is gone already counts as deleted. -/
def delete (d : Declaration K) : Step K Unit where
  call := .delete d.identity
  next
    | .ok () => (d.withCondition .deleting, .ok ())
    | .error e =>
      (d.withCondition .deleting,
        if e.isNotFound then .ok () else .error (failure (K := K) .delete e))

theorem delete_missing (d : Declaration K) {e : RemoteError} (h : e.isNotFound = true) :
    (delete d).next (.error e) = (d.withCondition .deleting, .ok ()) := by
  simp [delete, h]

theorem delete_failed (d : Declaration K) {e : RemoteError} (h : e.isNotFound = false) :
    (delete d).next (.error e) =
      (d.withCondition .deleting, .error (.remote .delete K.name e)) := by
  simp [delete, h, failure]

def run {σ α : Type} (step : Step K α) (adapter : Adapter K σ) (s : σ) : Outcome K α × σ :=
  let (result, s) := adapter step.call s
  (step.next result, s)

/-- Why a client for one kind takes no steps with declarations of some kind, if it does not. -/
def refusal? (client k : KindName) : Option ManagedError :=
  if k = client then none else some (.misuse client.text)

/-- What a client does that may refuse a step: the step, or nothing at all. -/
def guarded {α : Type} (refusal : Option ManagedError) (step : Step K α) :
    Except ManagedError (Step K α) :=
  match refusal with
  | none => .ok step
  | some e => .error e

/-- What a client for one kind does with a step of some kind. -/
def erased {α : Type} {k : KindName} (client : KindName) (step : Step k.kind α) :
    Except ManagedError (Step k.kind α) :=
  step.guarded (refusal? client k)

theorem erased_of_eq {α : Type} {client k : KindName} (serves : k = client)
    (step : Step k.kind α) : step.erased client = .ok step := by
  rw [erased, refusal?, if_pos serves]
  rfl

theorem erased_of_ne {α : Type} {client k : KindName} (other : k ≠ client)
    (step : Step k.kind α) : step.erased client = .error (.misuse client.text) := by
  rw [erased, refusal?, if_neg other]
  rfl

end Step

end CloudReconcile
