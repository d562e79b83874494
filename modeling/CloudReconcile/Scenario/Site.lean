import CloudReconcile.Operator.Startup
import CloudReconcile.Reconcile.Step
import CloudReconcile.Remote.Gateway
import CloudReconcile.Remote.Memory

/-!
# Remote systems for trying things out

A site is a remote system, in memory or behind a scripted gateway, that takes its time to answer.
-/

namespace CloudReconcile

/-- A transport that answers with the next of some replies and keeps the requests. -/
structure Script where
  replies : List (Except RemoteError Http.Response)
  /-- The reply when no other is left. -/
  fallback : Except RemoteError Http.Response
  sent : List Http.Request

namespace Script

def transport : Transport Script := fun request s =>
  let s := { s with sent := s.sent ++ [request] }
  match s.replies with
  | [] => (s.fallback, s)
  | reply :: rest => (reply, { s with replies := rest })

/-- A script of some replies; after them there is nothing to be found. -/
def ofReplies (replies : List (Except RemoteError Http.Response)) : Script :=
  { replies, fallback := .ok ⟨404, []⟩, sent := [] }

/-- A network in which no connection can be made. -/
def unconnected : Script :=
  { replies := [], fallback := .error (.transport "client error (Connect)"), sent := [] }

end Script

inductive Backend (K : Kind) where
  | memory (m : Memory K)
  | gateway (g : Gateway) (script : Script)

def Backend.answer {K : Kind} : Adapter K (Backend K) := fun c b =>
  match b with
  | .memory m =>
    let (result, m) := Memory.answer c m
    (result, .memory m)
  | .gateway g script =>
    let (result, script) := g.answer K Script.transport c script
    (result, .gateway g script)

/-- How long a call of a sort takes before it reaches the remote system, in milliseconds. -/
abbrev Delays := Operation → Nat

def Delays.set (delay : Delays) (operation : Operation) (milliseconds : Nat) : Delays :=
  fun o => if o = operation then milliseconds else delay o

/-- A remote system that takes its time. -/
structure Site (K : Kind) where
  backend : Backend K
  delay : Delays

/-- What somebody else does at a site. -/
inductive SiteChange (K : Kind) where
  | insert (params : K.Params) (object : K.Remote)
  | fail (operation : Operation) (error : RemoteError)
  | clear (operation : Operation)
  | delay (operation : Operation) (milliseconds : Nat)
  | call (c : Call K)

namespace Site

variable {K : Kind}

def ofBackend (backend : Backend K) : Site K := ⟨backend, fun _ => 0⟩

def ofChoice : RemoteChoice → Site K
  | .memory => ofBackend (.memory .empty)
  | .gateway g => ofBackend (.gateway g .unconnected)

def answer : Adapter K (Site K) := fun c s =>
  let (result, backend) := Backend.answer c s.backend
  (result, { s with backend })

def memory? (s : Site K) : Option (Memory K) :=
  match s.backend with
  | .memory m => some m
  | .gateway .. => none

def sent (s : Site K) : List Http.Request :=
  match s.backend with
  | .memory _ => []
  | .gateway _ script => script.sent

/-- Do something to the objects in memory; a gateway is out of reach. -/
def onMemory (s : Site K) (f : Memory K → Memory K) : Site K :=
  match s.backend with
  | .memory m => { s with backend := .memory (f m) }
  | .gateway .. => s

def change (s : Site K) : SiteChange K → Site K
  | .insert params object => s.onMemory fun m => m.insert (K.identity params) object
  | .fail operation error => s.onMemory fun m => m.fail operation error
  | .clear operation => s.onMemory fun m => m.clear operation
  | .delay operation milliseconds => { s with delay := s.delay.set operation milliseconds }
  | .call c => (answer c s).2

def perform {α : Type} (s : Site K) (tick : Tick) (step : Step K α) : Outcome K α × Site K :=
  let delay := s.delay step.call.operation
  step.run (answer.under tick (tick.ending 0 delay).1 (tick.reaches 0 delay delay)) s

end Site

end CloudReconcile
