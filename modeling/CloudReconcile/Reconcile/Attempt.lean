import CloudReconcile.Reconcile.Crowd

/-!
# Errands under ticks

Every errand makes its call under a tick, which belongs to a token of cancellation.  What the tokens
are like when the call begins and how long the remote system would take decide how the call ends.
-/

namespace CloudReconcile

/-- An errand and the circumstances of its call. -/
structure Attempt (τ : Type) where
  errand : Errand
  /-- The tokens when the call begins. -/
  tokens : Tokens τ
  token : τ
  /-- When the token gets cancelled if it is not cancelled yet. -/
  later : Option Nat
  timeout : Duration
  start : Nat
  /-- How long it takes to get to the remote system. -/
  there : Nat
  /-- How long it takes until the answer is back from there. -/
  back : Nat

namespace Attempt

variable {τ : Type} {K : Kind} {σ : Type}

def tick (a : Attempt τ) : Tick := a.tokens.tick a.token a.timeout a.later

def delay (a : Attempt τ) : Nat := a.there + a.back

def ending (a : Attempt τ) : Ending := (a.tick.ending a.start a.delay).1

def reaches (a : Attempt τ) : Bool := a.tick.reaches a.start a.there a.delay

/-- Run the errand; the remote system is reached only if the call gets there before it ends. -/
def run (adapter : Adapter K σ) (a : Attempt τ) :
    Declaration K × σ → Report K × Declaration K × σ :=
  a.errand.run (adapter.under a.tick a.ending a.reaches)

def runAll (adapter : Adapter K σ) :
    List (Attempt τ) → Declaration K × σ → List (Report K) × Declaration K × σ
  | [], s => ([], s)
  | a :: rest, s =>
    let (report, s) := a.run adapter s
    let (reports, final) := runAll adapter rest s
    (report :: reports, final)

end Attempt
end CloudReconcile
