import CloudReconcile.Kind
import CloudReconcile.Tick

/-!
# Remote calls

A remote system of record answers three calls: get the object of an identity, put the object that
parameters ask for, and delete the object of an identity.
-/

namespace CloudReconcile

inductive Operation where
  | get
  | put
  | delete
deriving DecidableEq, Repr

inductive Call (K : Kind) where
  | get (id : K.Identity)
  /-- Repeating it changes nothing more. -/
  | put (params : K.Params)
  | delete (id : K.Identity)

namespace Call

variable {K : Kind}

def operation : Call K → Operation
  | .get _ => .get
  | .put _ => .put
  | .delete _ => .delete

abbrev Answer : Call K → Type
  | .get _ => K.Remote
  | .put _ => K.Remote
  | .delete _ => Unit

abbrev Result (c : Call K) : Type := Except RemoteError c.Answer

def failed (c : Call K) (e : RemoteError) : c.Result := .error e

def identity : Call K → K.Identity
  | .get id => id
  | .put params => K.identity params
  | .delete id => id

end Call

/-- A remote system: how it answers a call, and what becomes of its state. -/
abbrev Adapter (K : Kind) (σ : Type) := (c : Call K) → σ → c.Result × σ

/-- The same system for a call that ends as said.  The system may have been reached by a call that
did not complete; its answer is lost then. -/
def Adapter.under {K : Kind} {σ : Type} (adapter : Adapter K σ) (tick : Tick) (ending : Ending)
    (reached : Bool) : Adapter K σ := fun c s =>
  let (result, now) := adapter c s
  (tick.answer ending result, if reached then now else s)

end CloudReconcile
