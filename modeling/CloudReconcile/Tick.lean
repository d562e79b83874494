import CloudReconcile.Decimal.Shortest
import CloudReconcile.RemoteError

/-!
# Deadlines and cancellation

All remote calls of one reconciliation run under a tick: each has the same time to finish, and all
end when the tick is cancelled.  Time counts in milliseconds.
-/

namespace CloudReconcile

structure Duration where
  seconds : Nat
  nanoseconds : Nat
deriving DecidableEq, Repr

namespace Duration

def ofSeconds (seconds : Nat) : Duration := ⟨seconds, 0⟩

/-- The number of milliseconds, a part of one counting as a whole one. -/
def milliseconds (d : Duration) : Nat := d.seconds * 1000 + (d.nanoseconds + 999999) / 1000000

/-- The span in seconds as a binary number: whole seconds and the rest are rounded apart. -/
def binarySeconds? (d : Duration) : Option Decimal.Binary64 := do
  let whole ← Decimal.Binary64.ofFraction d.seconds 1
  let rest ← Decimal.Binary64.ofFraction d.nanoseconds 1000000000
  whole.add rest

def secondsText (d : Duration) : String :=
  match d.binarySeconds? with
  | some x => String.ofList (x.text Decimal.Layout.duration)
  | none => "inf"

end Duration

/-- The deadline of each call, and when all of them are cancelled. -/
structure Tick where
  timeout : Duration
  cancelled : Bool
  /-- When the tick gets cancelled.  What is due at that very moment comes first. -/
  cancelledAt : Option Nat
deriving DecidableEq, Repr

inductive Ending where
  | completed
  | timedOut
  | cancelled
deriving DecidableEq, Repr

namespace Tick

def ofTimeout (timeout : Duration) : Tick := ⟨timeout, false, none⟩

/-- A tick that begins at time zero and is cancelled at some moment, possibly right away. -/
def cancelling (timeout : Duration) (moment : Option Nat) : Tick :=
  ⟨timeout, moment = some 0, moment⟩

def cancel (t : Tick) : Tick := { t with cancelled := true }

def isCancelled (t : Tick) (time : Nat) : Bool :=
  t.cancelled || t.cancelledAt.any (· < time)

/-- How and when a call ends that begins at `start` and would take `delay`, cancellation aside.
Completion at the very deadline counts. -/
def uncancelled (t : Tick) (start delay : Nat) : Ending × Nat :=
  let deadline := start + t.timeout.milliseconds
  if start + delay ≤ deadline then (.completed, start + delay) else (.timedOut, deadline)

/-- How and when a call ends that begins at `start` and would take `delay`. -/
def ending (t : Tick) (start delay : Nat) : Ending × Nat :=
  if t.isCancelled start then (.cancelled, start)
  else
    let (ending, time) := t.uncancelled start delay
    match t.cancelledAt with
    | some moment => if moment < time then (.cancelled, moment) else (ending, time)
    | none => (ending, time)

/-- A call that begins at `start` gets to the remote system, which takes `lead`, before it ends. -/
def reaches (t : Tick) (start lead delay : Nat) : Bool :=
  !t.isCancelled start && decide (start + lead ≤ (t.ending start delay).2)

/-- The tick after a call that ended like this: whoever sees a cancellation comes after it. -/
def after (t : Tick) (ending : Ending) : Tick :=
  if ending = .cancelled then t.cancel else t

def timeoutError (t : Tick) : RemoteError :=
  .transport ("remote call timed out after " ++ t.timeout.secondsText ++ "s")

def cancelError : RemoteError := .transport "remote call cancelled"

/-- What a call answers that would give `result`. -/
def answer {α : Type} (t : Tick) (ending : Ending) (result : Except RemoteError α) :
    Except RemoteError α :=
  match ending with
  | .completed => result
  | .timedOut => .error t.timeoutError
  | .cancelled => .error cancelError

/-- A call that does not complete fails on the way. -/
theorem answer_of_ne_completed {α : Type} (t : Tick) {ending : Ending} (h : ending ≠ .completed)
    (result : Except RemoteError α) :
    ∃ e, t.answer ending result = .error e ∧ e.isTransport = true := by
  cases ending with
  | completed => exact (h rfl).elim
  | timedOut => exact ⟨_, rfl, rfl⟩
  | cancelled => exact ⟨_, rfl, rfl⟩

/-- The answers of calls made one after the other, each with its delay and its result. -/
def answers {α : Type} (t : Tick) (start : Nat) :
    List (Nat × Except RemoteError α) → List (Except RemoteError α)
  | [] => []
  | (delay, result) :: rest =>
    let (ending, time) := t.ending start delay
    t.answer ending result :: answers (t.after ending) time rest

/-- A call that finds its tick cancelled ends at once, however long it would take. -/
theorem ending_of_isCancelled {t : Tick} {start : Nat} (h : t.isCancelled start = true)
    (delay : Nat) : t.ending start delay = (.cancelled, start) := by
  rw [ending, if_pos h]

theorem reaches_of_isCancelled {t : Tick} {start : Nat} (h : t.isCancelled start = true)
    (lead delay : Nat) : t.reaches start lead delay = false := by
  rw [reaches, h]
  rfl

end Tick

/-- Tokens of cancellation as they are at some moment: which one each was made from, and whether it
is cancelled. -/
structure Tokens (τ : Type) where
  parent : τ → Option τ
  isCancelled : τ → Bool
  /-- A token is cancelled together with the one that it was made from. -/
  inherited : ∀ {t p}, parent t = some p → isCancelled p = true → isCancelled t = true

namespace Tokens

variable {τ : Type} (tokens : Tokens τ)

/-- A token comes from itself, from the token that it was made from, and so on. -/
inductive ComesFrom : τ → τ → Prop where
  | itself (t : τ) : ComesFrom t t
  | made {t p origin : τ} (link : tokens.parent t = some p) (rest : ComesFrom p origin) :
      ComesFrom t origin

/-- A tick for a call that begins at that moment; `later` is when the token gets cancelled if it is
not cancelled yet. -/
def tick (token : τ) (timeout : Duration) (later : Option Nat) : Tick :=
  ⟨timeout, tokens.isCancelled token, later⟩

variable {tokens}

theorem ComesFrom.isCancelled {t origin : τ} (h : tokens.ComesFrom t origin)
    (cancelled : tokens.isCancelled origin = true) : tokens.isCancelled t = true := by
  induction h with
  | itself t => exact cancelled
  | made link rest ih => exact tokens.inherited link (ih cancelled)

end Tokens

end CloudReconcile
