import CloudReconcile.Operator.Persist

/-!
# Applying declarations

A declaration is applied by looking at its remote object, creating it or bringing it up to date as
needed, and telling in the status how that went.  This takes a client and the wait between two
looks; which kind it is plays no part.
-/

namespace CloudReconcile

/-- When a declaration is looked at again, in seconds; `none` leaves that to changes. -/
abbrev Requeue := Option Nat

/-- What it takes to apply declarations of a kind: a client, which may refuse them, and the wait
between two looks, in seconds. -/
structure Applying (K : Kind) where
  refusal : Option ManagedError
  pollInterval : Nat

namespace Applying

def createRequeue : Nat := 10

def failureReason (e : ManagedError) : String :=
  match e.phase? with
  | some .get => "CannotObserveExternalResource"
  | some .create => "CannotCreateExternalResource"
  | some .update => "CannotUpdateExternalResource"
  | some .delete => "CannotDeleteExternalResource"
  | none => "ReconcileError"

variable {K : Kind}

def created (K : Kind) : Event where
  type := .normal
  reason := "CreatedExternalResource"
  action := "Reconcile"
  note := "Created external " ++ K.name

def updated (K : Kind) : Event where
  type := .normal
  reason := "UpdatedExternalResource"
  action := "Reconcile"
  note := "Updated external " ++ K.name

/-- Publish an event; whether it is accepted makes no difference. -/
def publish (d : Declaration K) (event : Event) : Program K Unit := do
  let _ ← Program.attempt (.publish d event)

/-- Make a step with the client, unless it refuses. -/
def step {α : Type} (a : Applying K) (d : Declaration K) (step : Step K α) :
    Program K (Outcome K α) :=
  match step.guarded a.refusal with
  | .ok step => Program.step step
  | .error e => pure (d, .error e)

/-- Put the object in a phase, and publish an event about it. -/
def putting (a : Applying K) (about working : Declaration K) (phase : Phase) (event : Event)
    (requeue : Requeue) : Program K (Outcome K Requeue) := do
  match ← a.step about (Step.put phase working) with
  | (d, .error e) => return (d, .error e)
  | (d, .ok ()) =>
    publish d event
    return (d, .ok requeue)

/-- Write back what the declaration took over; a failure is made good the next time. -/
def persistLateInit (d : Declaration K) (o : Observation) : Program K Unit := do
  if o.lateInitialized then
    let _ ← Persist.declaration d

def createMissing (a : Applying K) (d : Declaration K) : Program K (Outcome K Requeue) :=
  a.putting d (d.withCondition .creating) .create (created K) (some createRequeue)

def updateDrifted (a : Applying K) (d : Declaration K) (o : Observation) :
    Program K (Outcome K Requeue) :=
  if o.upToDate then pure (d, .ok (some a.pollInterval))
  else a.putting d d .update (updated K) (some a.pollInterval)

/-- Look at the remote object, and create it or bring it up to date as needed. -/
def converge (a : Applying K) (d : Declaration K) : Program K (Outcome K Requeue) := do
  match ← a.step d (Step.observe d) with
  | (d, .error e) => return (d, .error e)
  | (d, .ok o) =>
    persistLateInit d o
    if o.present then a.updateDrifted d o else a.createMissing d

def reportFailure (d : Declaration K) (action reason : String) (e : ManagedError) :
    Program K Unit :=
  publish d { type := .warning, reason, action, note := e.message }

/-- Write back a status that differs from the one that was read. -/
def persistStatus (read d : Declaration K) : Program K (Except OperatorError Unit) :=
  if d.status = read.status then pure (.ok ()) else Persist.status d

/-- The condition that tells how it went. -/
def conclusion : Except ManagedError Requeue → Condition
  | .ok _ => .reconcileSuccess
  | .error e => .reconcileError e.message

def concluded (working : Declaration K) (outcome : Except ManagedError Requeue) : Declaration K :=
  working.withCondition (conclusion outcome)

/-- Tell in the status how it went, and in an event if it went wrong.  A failure to reconcile counts
more than a failure to write. -/
def conclude (read working : Declaration K) (outcome : Except ManagedError Requeue) :
    Program K (Except OperatorError Requeue) :=
  let told := concluded working outcome
  match outcome with
  | .error e => do
    reportFailure told "Reconcile" (failureReason e) e
    let _ ← persistStatus read told
    return .error (.managed e)
  | .ok requeue => do
    let written ← persistStatus read told
    return written.map fun _ => requeue

def apply (a : Applying K) (d : Declaration K) : Program K (Except OperatorError Requeue) := do
  let (working, result) ← a.converge d
  conclude d working result

end Applying
end CloudReconcile
