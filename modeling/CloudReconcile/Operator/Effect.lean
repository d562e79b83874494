import CloudReconcile.Operator.Program

/-!
# What programs do

The effects of a run are its remote calls and its writes to the cluster, in order, each with how it
turned out.  A program allows a course of events if some remote system and some cluster could make
it run that way.
-/

namespace CloudReconcile

/-- Something that a program does, and how it turns out. -/
inductive Effect (K : Kind) where
  | call (c : Call K) (result : c.Result)
  | write (w : Write K) (accepted : Bool)

namespace Effect

variable {K : Kind}

def isCall : Effect K → Bool
  | .call .. => true
  | .write .. => false

/-- What is done to the remote system. -/
def calls (effects : List (Effect K)) : List (Effect K) := effects.filter isCall

end Effect

namespace Program

variable {K : Kind} {α β σ : Type}

/-- Run a program against a remote system and a cluster, which share a state. -/
def trace (remote : Adapter K σ) (cluster : Write K → σ → Bool × σ) :
    Program K α → σ → (α × σ) × List (Effect K)
  | .done a, s => ((a, s), [])
  | .call c next, s =>
    let (result, s) := remote c s
    let (final, effects) := trace remote cluster (next result) s
    (final, .call c result :: effects)
  | .write w next, s =>
    let (accepted, s) := cluster w s
    let (final, effects) := trace remote cluster (next accepted) s
    (final, .write w accepted :: effects)

theorem trace_bind (remote : Adapter K σ) (cluster : Write K → σ → Bool × σ) (p : Program K α)
    (f : α → Program K β) (s : σ) :
    (p >>= f).trace remote cluster s =
      let first := p.trace remote cluster s
      let second := (f first.1.1).trace remote cluster first.1.2
      (second.1, first.2 ++ second.2) := by
  induction p generalizing s with
  | done a => rfl
  | call c next ih =>
      show (_, _ :: _) = _
      rw [show ((next (remote c s).1).bind f).trace remote cluster (remote c s).2 = _ from ih _ _]
      rfl
  | write w next ih =>
      show (_, _ :: _) = _
      rw [show ((next (cluster w s).1).bind f).trace remote cluster (cluster w s).2 = _ from ih _ _]
      rfl

/-- Run from `s`, the program has that result, leaves that state and has these effects. -/
def Runs (remote : Adapter K σ) (cluster : Write K → σ → Bool × σ) (p : Program K α) (s : σ)
    (a : α) (final : σ) (effects : List (Effect K)) : Prop :=
  p.trace remote cluster s = ((a, final), effects)

namespace Runs

variable {remote : Adapter K σ} {cluster : Write K → σ → Bool × σ} {s : σ}

theorem of_trace (p : Program K α) :
    p.Runs remote cluster s (p.trace remote cluster s).1.1 (p.trace remote cluster s).1.2
      (p.trace remote cluster s).2 := rfl

theorem done (a : α) : (Program.done a : Program K α).Runs remote cluster s a s [] := rfl

theorem attempt (w : Write K) :
    (Program.attempt w).Runs remote cluster s (cluster w s).1 (cluster w s).2
      [.write w (cluster w s).1] := rfl

theorem bind {p : Program K α} {f : α → Program K β} {a : α} {b : β} {middle final : σ}
    {before later : List (Effect K)} (first : p.Runs remote cluster s a middle before)
    (second : (f a).Runs remote cluster middle b final later) :
    (p >>= f).Runs remote cluster s b final (before ++ later) := by
  unfold Runs at first second
  rw [Runs, trace_bind, first]
  dsimp only
  rw [second]

theorem map {p : Program K α} {a : α} {final : σ} {effects : List (Effect K)}
    (first : p.Runs remote cluster s a final effects) (f : α → β) :
    (p >>= fun a => .done (f a)).Runs remote cluster s (f a) final effects := by
  have both : (p >>= fun a => .done (f a)).Runs remote cluster s (f a) final (effects ++ []) :=
    first.bind (done (f a))
  rwa [List.append_nil] at both

end Runs

/-- The program has these effects and this result in some course of events. -/
inductive Does : Program K α → List (Effect K) → α → Prop where
  | done (a : α) : Does (.done a) [] a
  | call {c : Call K} {next : c.Result → Program K α} (result : c.Result)
      {effects : List (Effect K)} {a : α} (rest : Does (next result) effects a) :
      Does (.call c next) (.call c result :: effects) a
  | write {w : Write K} {next : Bool → Program K α} (accepted : Bool)
      {effects : List (Effect K)} {a : α} (rest : Does (next accepted) effects a) :
      Does (.write w next) (.write w accepted :: effects) a

theorem does_trace (remote : Adapter K σ) (cluster : Write K → σ → Bool × σ) (p : Program K α)
    (s : σ) : p.Does (p.trace remote cluster s).2 (p.trace remote cluster s).1.1 := by
  induction p generalizing s with
  | done a => exact .done a
  | call c next ih => exact .call _ (ih _ _)
  | write w next ih => exact .write _ (ih _ _)

theorem Runs.does {remote : Adapter K σ} {cluster : Write K → σ → Bool × σ} {p : Program K α}
    {s final : σ} {a : α} {effects : List (Effect K)}
    (h : p.Runs remote cluster s a final effects) : p.Does effects a := by
  have does := p.does_trace remote cluster s
  rwa [h] at does

theorem Does.of_done {a b : α} {effects : List (Effect K)}
    (h : (Program.done a : Program K α).Does effects b) : effects = [] ∧ b = a := by
  cases h
  exact ⟨rfl, rfl⟩

theorem Does.of_call {c : Call K} {next : c.Result → Program K α} {effects : List (Effect K)}
    {a : α} (h : (Program.call c next).Does effects a) :
    ∃ result rest, effects = .call c result :: rest ∧ (next result).Does rest a := by
  cases h with
  | call result rest => exact ⟨result, _, rfl, rest⟩

theorem Does.of_write {w : Write K} {next : Bool → Program K α} {effects : List (Effect K)}
    {a : α} (h : (Program.write w next).Does effects a) :
    ∃ accepted rest, effects = .write w accepted :: rest ∧ (next accepted).Does rest a := by
  cases h with
  | write accepted rest => exact ⟨accepted, _, rfl, rest⟩

/-- One program after the other does what the first does and then what the second does. -/
theorem Does.of_bind {p : Program K α} {f : α → Program K β} {effects : List (Effect K)} {b : β}
    (h : (p >>= f).Does effects b) :
    ∃ first a second, effects = first ++ second ∧ p.Does first a ∧ (f a).Does second b := by
  induction p generalizing effects with
  | done a => exact ⟨[], a, effects, rfl, .done a, h⟩
  | call c next ih =>
      obtain ⟨result, rest, rfl, deeper⟩ := Does.of_call h
      obtain ⟨first, a, second, rfl, hp, hf⟩ := ih result deeper
      exact ⟨_ :: first, a, second, rfl, .call result hp, hf⟩
  | write w next ih =>
      obtain ⟨accepted, rest, rfl, deeper⟩ := Does.of_write h
      obtain ⟨first, a, second, rfl, hp, hf⟩ := ih accepted deeper
      exact ⟨_ :: first, a, second, rfl, .write accepted hp, hf⟩

end Program
end CloudReconcile
