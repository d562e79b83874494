import CloudReconcile.Proofs.Operator.Recording
import CloudReconcile.Proofs.Reconcile.Crowd
import CloudReconcile.Reconcile.Attempt

/-!
# Nothing is done after a cancellation

A call that begins after its token was cancelled, by itself or with a token that it comes from, does
not reach the remote system.  The errand fails, and not because the object is missing; of the
declaration at most the condition about readiness changes.
-/

namespace CloudReconcile

namespace Declaration

variable {K : Kind} {d d' d'' : Declaration K}

/-- The second declaration is the first one, but for what it says about being ready. -/
structure SameButReady (d d' : Declaration K) : Prop where
  metadata : d'.metadata = d.metadata
  spec : d'.spec = d.spec
  reported : d'.reported = d.reported
  conditions : d'.statusOrBlank.conditions.filter (fun c => c.type ≠ Condition.ready) =
    d.statusOrBlank.conditions.filter fun c => c.type ≠ Condition.ready

theorem SameButReady.refl (d : Declaration K) : d.SameButReady d := ⟨rfl, rfl, rfl, rfl⟩

theorem SameButReady.trans (first : d.SameButReady d') (second : d'.SameButReady d'') :
    d.SameButReady d'' where
  metadata := second.metadata.trans first.metadata
  spec := second.spec.trans first.spec
  reported := second.reported.trans first.reported
  conditions := second.conditions.trans first.conditions

end Declaration

theorem Declaration.sameButReady_withCondition {K : Kind} (d : Declaration K) {c : Condition}
    (own : c.type = Condition.ready) : d.SameButReady (d.withCondition c) :=
  ⟨rfl, rfl, rfl, Status.filter_setIn (fun c' same => by simp [same, own]) _⟩

namespace Errand

variable {K : Kind} {σ : Type}

def phase : Errand → Phase
  | .observe => .get
  | .create => .create
  | .update => .update
  | .delete => .delete

/-- What becomes of a declaration whatever is answered to the call of the errand, if it is not an
object. -/
def marked (d : Declaration K) : Errand → Declaration K
  | .observe => d
  | .create => d.withCondition .creating
  | .update => d
  | .delete => d.withCondition .deleting

theorem sameButReady_marked (e : Errand) (d : Declaration K) : d.SameButReady (e.marked d) := by
  cases e with
  | observe => exact .refl d
  | create => exact d.sameButReady_withCondition rfl
  | update => exact .refl d
  | delete => exact d.sameButReady_withCondition rfl

/-- An errand fails in its own phase if its call fails, unless that says that there is no object. -/
theorem next_failed (e : Errand) (d : Declaration K) {cause : RemoteError}
    (other : cause.isNotFound = false) :
    (e.step d).next ((e.step d).call.failed cause) =
      (e.marked d, .error (.remote e.phase K.name cause)) := by
  cases e with
  | observe =>
      show (let (d, outcome) := (Step.observe d).next (.error cause); (d, outcome.map some)) = _
      rw [Step.observe_failed d other]
      rfl
  | create => rfl
  | update => rfl
  | delete =>
      show (let (d, outcome) := (Step.delete d).next (.error cause)
        (d, outcome.map fun _ => none)) = _
      rw [Step.delete_failed d other]
      rfl

end Errand

namespace Attempt

variable {τ : Type} {K : Kind} {σ : Type}

/-- The token of the call was cancelled before, by itself or with a token that it comes from. -/
def ComesTooLate (a : Attempt τ) : Prop :=
  ∃ origin, a.tokens.ComesFrom a.token origin ∧ a.tokens.isCancelled origin = true

theorem ComesTooLate.isCancelled {a : Attempt τ} (late : a.ComesTooLate) :
    a.tick.isCancelled a.start = true := by
  obtain ⟨origin, comes, cancelled⟩ := late
  simp [tick, Tokens.tick, Tick.isCancelled, comes.isCancelled cancelled]

/-- What is reported of an errand whose call was cancelled before it began. -/
def refusal (a : Attempt τ) (d : Declaration K) : Report K :=
  ⟨(a.errand.step d).call, (a.errand.step d).call.failed Tick.cancelError,
    .error (.remote a.errand.phase K.name Tick.cancelError)⟩

theorem ComesTooLate.run_eq {a : Attempt τ} (late : a.ComesTooLate) (adapter : Adapter K σ)
    (d : Declaration K) (s : σ) :
    a.run adapter (d, s) = (a.refusal d, a.errand.marked d, s) := by
  have refused : adapter.under a.tick .cancelled false (a.errand.step d).call s =
      ((a.errand.step d).call.failed Tick.cancelError, s) := rfl
  have turned := a.errand.next_failed d (show Tick.cancelError.isNotFound = false from rfl)
  rw [run, ending, Tick.ending_of_isCancelled late.isCancelled, reaches,
    Tick.reaches_of_isCancelled late.isCancelled, Errand.run_of_answer refused, turned]
  rfl

/-- However often calls are tried after their tokens were cancelled, at whatever remote system: the
remote system is not reached, each errand fails in its own phase because of the cancellation, which
may clear up, and of the declaration at most its readiness changes. -/
theorem runAll_of_comesTooLate (adapter : Adapter K σ) (attempts : List (Attempt τ))
    (late : ∀ a ∈ attempts, a.ComesTooLate) (d : Declaration K) (s : σ) :
    let run := runAll adapter attempts (d, s)
    run.2.2 = s ∧
      run.1.map (·.outcome) = attempts.map (fun a =>
        .error (.remote a.errand.phase K.name (.transport "remote call cancelled"))) ∧
      (∀ report ∈ run.1, ∃ e, report.outcome = .error e ∧ e.isRetryable = true) ∧
      run.2.1 = attempts.foldl (fun d a => a.errand.marked d) d ∧
      d.SameButReady run.2.1 := by
  induction attempts generalizing d with
  | nil => exact ⟨rfl, rfl, fun _ there => (List.not_mem_nil there).elim, rfl, .refl d⟩
  | cons a rest ih =>
      have first := (late a List.mem_cons_self).run_eq adapter d s
      obtain ⟨same, outcomes, retryable, marked, kept⟩ :=
        ih (fun b there => late b (List.mem_cons_of_mem _ there)) (a.errand.marked d)
      simp only [runAll, first]
      refine ⟨same, ?_, ?_, marked, (a.errand.sameButReady_marked d).trans kept⟩
      · exact List.cons_eq_cons.mpr ⟨rfl, outcomes⟩
      · intro report there
        rcases List.mem_cons.mp there with rfl | there
        · exact ⟨_, rfl, rfl⟩
        · exact retryable report there

/-- Tokens that were each made from the one before, after the first of them was cancelled. -/
def shutDown : Tokens Nat where
  parent
    | 0 => none
    | n + 1 => some n
  isCancelled _ := true
  inherited _ _ := rfl

/-- An errand that would be done at once, for a token two steps away from the one that was
cancelled. -/
def afterShutdown (e : Errand) : Attempt Nat := ⟨e, shutDown, 2, none, .ofSeconds 5, 0, 0, 0⟩

def greeted : Memory KindName.keyValue.kind :=
  Memory.empty.insert ⟨"store", "greeting", ""⟩ { KeyValue.Remote.blank with value := some "hi" }

/-- The object is neither seen nor written nor deleted, and nobody asked for it. -/
theorem runAll_of_comesTooLate_greeting :
    let d : Declaration KindName.keyValue.kind :=
      .ofSpec ⟨⟨"store", "greeting", "", "hello", .unset, .unset, .unset⟩, .delete⟩ none
    let attempts := [Errand.observe, .create, .delete].map afterShutdown
    let run := runAll Memory.answer attempts (d, greeted)
    (∀ a ∈ attempts, a.ComesTooLate) ∧
      (run.2.2.objects d.identity).isSome = true ∧ run.2.2.writes = 0 ∧
      (∀ operation, run.2.2.calls operation = 0) ∧
      run.1.map (·.outcome) = [Phase.get, .create, .delete].map (fun phase =>
        .error (.remote phase "KeyValue" (.transport "remote call cancelled"))) ∧
      run.2.1.statusOrBlank.condition? Condition.ready = some .deleting := by
  intro d attempts run
  have late : ∀ a ∈ attempts, a.ComesTooLate := by
    intro a there
    obtain ⟨e, -, rfl⟩ := List.mem_map.mp there
    exact ⟨0, .made rfl (.made rfl (.itself 0)), rfl⟩
  obtain ⟨same, outcomes, -, marked, -⟩ :=
    runAll_of_comesTooLate Memory.answer attempts late d greeted
  refine ⟨late, ?_, ?_, ?_, outcomes, ?_⟩
  · rw [same]
    rfl
  · rw [same]
    rfl
  · rw [same]
    exact fun _ => rfl
  · rw [marked]
    rfl

end Attempt
end CloudReconcile
