import CloudReconcile.Tick

/-!
# Calls one after the other

Calls under one tick are made one after the other: each begins at the moment when the one before it
has ended.  A span is what became of one of them.  A call that begins acts on a state, so that it
shows which calls were begun at all.
-/

namespace CloudReconcile

/-- A call as it would go if nothing cut it short: what it does when it begins, how long it takes,
and what it gives. -/
structure Timed (σ α : Type) where
  act : σ → σ
  delay : Nat
  result : Except RemoteError α

/-- What became of a call: when it began and ended, what that left behind, and what was answered. -/
structure Span (σ α : Type) where
  call : Timed σ α
  start : Nat
  before : σ
  ending : Ending
  finish : Nat
  after : σ
  answer : Except RemoteError α

namespace Tick

variable {σ α : Type}

/-- A call that finds the tick cancelled is not even begun. -/
def span (t : Tick) (start : Nat) (s : σ) (call : Timed σ α) : Span σ α :=
  let (ending, finish) := t.ending start call.delay
  { call, start, before := s, ending, finish
    after := if t.isCancelled start then s else call.act s
    answer := t.answer ending call.result }

def spans (t : Tick) (start : Nat) (s : σ) : List (Timed σ α) → List (Span σ α)
  | [] => []
  | call :: rest =>
    let span := t.span start s call
    span :: (t.after span.ending).spans span.finish span.after rest

theorem map_answer_spans (t : Tick) (start : Nat) (s : σ) (calls : List (Timed σ α)) :
    (t.spans start s calls).map (·.answer) =
      t.answers start (calls.map fun call => (call.delay, call.result)) := by
  induction calls generalizing t start s with
  | nil => rfl
  | cons call rest ih =>
      have later := ih (t.after (t.span start s call).ending) (t.span start s call).finish
        (t.span start s call).after
      exact List.cons_eq_cons.mpr ⟨rfl, later⟩

theorem map_call_spans (t : Tick) (start : Nat) (s : σ) (calls : List (Timed σ α)) :
    (t.spans start s calls).map (·.call) = calls := by
  induction calls generalizing t start s with
  | nil => rfl
  | cons call rest ih => exact List.cons_eq_cons.mpr ⟨rfl, ih ..⟩

end Tick
end CloudReconcile
