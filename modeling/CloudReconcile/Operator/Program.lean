import CloudReconcile.Declaration
import CloudReconcile.Reconcile.Step

/-!
# What the operator does

Everything that the operator does for one declaration is a program: remote calls and writes to the
cluster, each with what follows from its result.  A program fixes what is done for every possible
course of events, and nothing is done until somebody runs it.
-/

namespace CloudReconcile

def operatorName : String := "keel"

/-- The finalizer that keeps a declaration until its remote object has been dealt with. -/
def finalizerName : String := "cloud.keel.dev/external"

inductive EventType where
  | normal
  | warning
deriving DecidableEq, Repr

def EventType.text : EventType → String
  | .normal => "Normal"
  | .warning => "Warning"

structure Event where
  type : EventType
  reason : String
  action : String
  note : String
deriving DecidableEq, Repr

/-- A change to the finalizers of an object, tested against what they were. -/
inductive FinalizerChange where
  | add (before : List String)
  | remove (place : Nat)
deriving DecidableEq, Repr

/-- A write to the cluster. -/
inductive Write (K : Kind) where
  /-- Put the declaration in the place of the one that is there. -/
  | replace (d : Declaration K)
  | status (d : Declaration K) (status : Status K.Observation)
  | finalizers (d : Declaration K) (change : FinalizerChange)
  | publish (d : Declaration K) (event : Event)

/-- What the operator does for one declaration. -/
inductive Program (K : Kind) (α : Type) where
  | done (result : α)
  | call (c : Call K) (next : c.Result → Program K α)
  /-- The cluster accepts a write or refuses it. -/
  | write (w : Write K) (next : Bool → Program K α)

namespace Program

variable {K : Kind} {α β : Type}

def bind (p : Program K α) (f : α → Program K β) : Program K β :=
  match p with
  | .done a => f a
  | .call c next => .call c fun result => (next result).bind f
  | .write w next => .write w fun accepted => (next accepted).bind f

instance : Monad (Program K) where
  pure := .done
  bind := bind

def step (s : Step K α) : Program K (Outcome K α) :=
  .call s.call fun result => .done (s.next result)

def attempt (w : Write K) : Program K Bool :=
  .write w .done

end Program

end CloudReconcile
