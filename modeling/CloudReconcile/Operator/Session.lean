import CloudReconcile.Operator.Program
import CloudReconcile.Remote.Gateway

/-!
# Sessions at a gateway

One reconciliation at a gateway and a cluster that both take their time.  A request goes out as soon
as its call begins, unless the tick is cancelled by then; when the response comes decides how the
call ends.  Writing to the cluster takes time too, but neither the deadline nor a cancellation
counts for it.
-/

namespace CloudReconcile

/-- How a gateway behaves: given the requests before it, how long a request takes and what comes
back, or why nothing does. -/
abbrev Wire := List Http.Request → Http.Request → Nat × Except String Http.Response

/-- How a cluster behaves: given the writes before it, how long a write takes and whether it is
accepted. -/
abbrev Api (K : Kind) := List (Write K) → Write K → Nat × Bool

/-- A reconciliation under way. -/
structure Session (K : Kind) where
  tick : Tick
  now : Nat
  sent : List Http.Request
  written : List (Write K)

namespace Session

variable {K : Kind}

def start (tick : Tick) (now : Nat) : Session K := ⟨tick, now, [], []⟩

/-- A call that begins now finds the tick cancelled. -/
def isCancelled (s : Session K) : Bool := s.tick.isCancelled s.now

/-- Send a request, and count the time until there is something back. -/
def transport (wire : Wire) : Transport (List Http.Request × Nat) := fun request (sent, elapsed) =>
  let (delay, reply) := wire sent request
  (reply.mapError .transport, sent ++ [request], elapsed + delay)

def answer (g : Gateway) (wire : Wire) : Adapter K (Session K) := fun c s =>
  if s.isCancelled then (.error Tick.cancelError, { s with tick := s.tick.after .cancelled })
  else
    let (result, sent, elapsed) := g.answer K (transport wire) c (s.sent, 0)
    let (ending, now) := s.tick.ending s.now elapsed
    (s.tick.answer ending result, { s with tick := s.tick.after ending, now, sent })

def take (api : Api K) : Write K → Session K → Bool × Session K := fun w s =>
  let (delay, accepted) := api s.written w
  (accepted, { s with now := s.now + delay, written := s.written ++ [w] })

end Session
end CloudReconcile
