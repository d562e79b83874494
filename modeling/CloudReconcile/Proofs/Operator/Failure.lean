import CloudReconcile.Proofs.Operator.Stages
import CloudReconcile.Proofs.Operator.Telling
import Mathlib.Data.List.Nodup

/-!
# Failures are told once, for what they are

If the gateway does not grant the call of a stage, the round ends there: it passes on what the call
failed with under the name of the phase, and tells it once, in a warning and in the status.  Only a
missing object is no failure of who looks for it or wants it gone.
-/

namespace CloudReconcile

/-! ## What is told -/

/-- The event that warns of a failure in a phase. -/
def Phase.warning (phase : Phase) (note : String) : Event where
  type := .warning
  reason :=
    match phase with
    | .get => "CannotObserveExternalResource"
    | .create => "CannotCreateExternalResource"
    | .update => "CannotUpdateExternalResource"
    | .delete => "CannotDeleteExternalResource"
  action := if phase = .delete then "Delete" else "Reconcile"
  note

/-- The status is to say that the last round failed with these words: it is sent to the cluster,
unless it said so before or the declaration has no name. -/
def Effect.TellFailure {K : Kind} (d : Declaration K) (text : String) (effects : List (Effect K)) :
    Prop :=
  ∃ told : Declaration K, told.metadata = d.metadata ∧
    told.statusOrBlank.condition? "Synced" =
      some ⟨"Synced", "False", "ReconcileError", some text⟩ ∧
    (told.status = d.status ∨ d.metadata.nameText = "" ∨
      ∃ accepted, .write (.status told told.statusOrBlank) accepted ∈ effects)

/-- Nothing went wrong between the operator and the gateway. -/
structure Undisturbed {K : Kind} (effects : List (Effect K))
    (result : Except OperatorError Requeue) : Prop where
  events : ∀ event ∈ Effect.events effects, event.type = .normal
  result : ∀ error, result = .error error → error.managed? = none

/-- A round failed in a stage: the failure of the call is passed on as it is, and told once. -/
structure FailsIn {K : Kind} (g : Gateway) (wire : Wire) (d : Declaration K) (stage : Stage K)
    (effects : List (Effect K)) (error : OperatorError) (cause : RemoteError) : Prop where
  answer : stage.answer g wire = stage.call.failed cause
  managed : error.managed? = some (.remote stage.phase K.name cause)
  retryable : error.isRetryable = true ↔ stage.MayClearUp g wire
  event : Effect.events effects =
    [stage.phase.warning (ManagedError.remote stage.phase K.name cause).message]
  status : Effect.TellFailure d (ManagedError.remote stage.phase K.name cause).message effects

/-- A round makes the calls of its stages, and fails where one of them does. -/
structure Reports {K : Kind} (g : Gateway) (wire : Wire) (d : Declaration K)
    (stages : List (Stage K)) (effects : List (Effect K)) (result : Except OperatorError Requeue) :
    Prop where
  calls : Effect.calls effects = stages.map (·.effect g wire)
  undisturbed : (∀ stage ∈ stages, stage.Succeeds g wire) → Undisturbed effects result
  failed : ∀ stage ∈ stages, ¬ stage.Succeeds g wire → ∃ error cause,
    result = .error error ∧ FailsIn g wire d stage effects error cause

namespace Reports

variable {K : Kind} {g : Gateway} {wire : Wire} {d : Declaration K} {stages : List (Stage K)}
variable {effects : List (Effect K)} {result : Except OperatorError Requeue}

theorem of_succeeds (all : ∀ stage ∈ stages, stage.Succeeds g wire)
    (calls : Effect.calls effects = stages.map (·.effect g wire))
    (undisturbed : Undisturbed effects result) : Reports g wire d stages effects result where
  calls := calls
  undisturbed _ := undisturbed
  failed stage there failed := (failed (all stage there)).elim

theorem of_fails (firsts : List (Stage K)) (stage : Stage K) {error : OperatorError}
    {cause : RemoteError} (all : ∀ first ∈ firsts, first.Succeeds g wire)
    (failed : ¬ stage.Succeeds g wire)
    (calls : Effect.calls effects = (firsts ++ [stage]).map (·.effect g wire))
    (fails : FailsIn g wire d stage effects error cause) :
    Reports g wire d (firsts ++ [stage]) effects (.error error) where
  calls := calls
  undisturbed all := (failed (all stage (by simp))).elim
  failed other there failed' := by
    rcases List.mem_append.mp there with earlier | last
    · exact (failed' (all other earlier)).elim
    · obtain rfl := List.mem_singleton.mp last
      exact ⟨error, cause, rfl, fails⟩

/-- It makes no difference by whom a failure is passed on. -/
theorem mapError (h : Reports g wire d stages effects result) {wrap : OperatorError → OperatorError}
    (same : ∀ e, (wrap e).managed? = e.managed?) :
    Reports g wire d stages effects (result.mapError wrap) where
  calls := h.calls
  undisturbed all := by
    refine ⟨(h.undisturbed all).events, fun error ended => ?_⟩
    cases result with
    | ok requeue => cases ended
    | error e =>
        obtain rfl := Except.error.inj ended
        exact (same e).trans ((h.undisturbed all).result e rfl)
  failed stage there failed := by
    obtain ⟨error, cause, rfl, fails⟩ := h.failed stage there failed
    refine ⟨wrap error, cause, rfl, fails.answer, (same error).trans fails.managed, ?_, fails.event,
      fails.status⟩
    rw [← fails.retryable, OperatorError.isRetryable, OperatorError.isRetryable, same]

end Reports

/-! ## Conclusions

A conclusion makes no calls.  After a failure it publishes one event and writes the status; else it
publishes nothing, and only the cluster can make it fail. -/

theorem Effect.TellFailure.mono {K : Kind} {d : Declaration K} {text : String}
    {effects more : List (Effect K)} (h : TellFailure d text effects) (among : effects ⊆ more) :
    TellFailure d text more := by
  obtain ⟨told, same, synced, sent⟩ := h
  exact ⟨told, same, synced, sent.imp_right (.imp_right fun ⟨accepted, there⟩ =>
    ⟨accepted, among there⟩)⟩

namespace Applying

variable {K : Kind} {a : Applying K} {d working : Declaration K} {effects : List (Effect K)}
variable {result : Except OperatorError Requeue}

theorem tellFailure_of_status (same : working.metadata = d.metadata) {text : String}
    {later : List (Effect K)} {written : Except OperatorError Unit}
    (sent : (Persist.status (working.withCondition (.reconcileError text))).Does later written)
    (among : later ⊆ effects) : Effect.TellFailure d text effects := by
  refine ⟨working.withCondition (.reconcileError text), same,
    Status.condition?_set_self working.statusOrBlank (.reconcileError text), .inr ?_⟩
  rcases Persist.does_named sent with ⟨unnamed, -⟩ | ⟨accepted, rfl, -⟩
  · exact .inl (same ▸ unnamed)
  · exact .inr ⟨accepted, among List.mem_cons_self⟩

theorem conclude_fails (same : working.metadata = d.metadata) {e : ManagedError}
    (h : (conclude d working (.error e)).Does effects result) :
    result = .error (.managed e) ∧
      Effect.events effects = [⟨.warning, failureReason e, "Reconcile", e.message⟩] ∧
      Effect.TellFailure d e.message effects := by
  obtain ⟨passed, told, later, written, persisted, among⟩ := failure_does persistStatus_silent h
  refine ⟨passed, told, ?_⟩
  unfold persistStatus at persisted
  split at persisted
  · rename_i unchanged
    exact ⟨working.withCondition (.reconcileError e.message), same,
      Status.condition?_set_self working.statusOrBlank (.reconcileError e.message), .inl unchanged⟩
  · exact tellFailure_of_status same persisted among

theorem conclude_passes {requeue : Requeue}
    (h : (conclude d working (.ok requeue)).Does effects result) {error : OperatorError}
    (failed : result = .error error) : error.managed? = none := by
  obtain ⟨-, patch, written, -, -, persisted, ended⟩ := conclude_does h
  rcases persistStatus_does rfl persisted with ⟨-, rfl, -⟩ | ⟨-, rfl, -⟩
  · cases ended.symm.trans failed
  · obtain rfl := Except.error.inj (ended.symm.trans failed)
    rfl

section Apply

variable {σ : Type} {remote : Adapter K σ} {cluster : Write K → σ → Bool × σ}
variable {here middle : σ} {before : List (Effect K)}

theorem runs_apply_failed {e : ManagedError} (same : working.metadata = d.metadata)
    (converged : (a.converge d).Runs remote cluster here (working, .error e) middle before)
    (silent : Effect.events before = []) :
    ∃ final later, (a.apply d).Runs remote cluster here (.error (.managed e)) final
        (before ++ later) ∧
      Effect.calls later = [] ∧
      Effect.events (before ++ later) = [⟨.warning, failureReason e, "Reconcile", e.message⟩] ∧
      Effect.TellFailure d e.message (before ++ later) := by
  obtain ⟨result, final, later, concluded⟩ : ∃ result final later,
      (conclude d working (.error e)).Runs remote cluster middle result final later :=
    ⟨_, _, _, .of_trace _⟩
  obtain ⟨rfl, told, status⟩ := conclude_fails same concluded.does
  refine ⟨final, later, ?_, (conclude_quiet d working _).calls_eq concluded.does, ?_,
    status.mono (List.subset_append_right _ _)⟩
  · exact converged.bind concluded
  · rw [Effect.events_append, silent, told]
    rfl

theorem runs_apply_done {requeue : Requeue}
    (converged : (a.converge d).Runs remote cluster here (working, .ok requeue) middle before)
    (normal : ∀ event ∈ Effect.events before, event.type = .normal) :
    ∃ result final later, (a.apply d).Runs remote cluster here result final (before ++ later) ∧
      Effect.calls later = [] ∧ Undisturbed (before ++ later) result := by
  obtain ⟨result, final, later, concluded⟩ : ∃ result final later,
      (conclude d working (.ok requeue)).Runs remote cluster middle result final later :=
    ⟨_, _, _, .of_trace _⟩
  refine ⟨result, final, later, ?_, (conclude_quiet d working _).calls_eq concluded.does, ?_,
    fun _ => conclude_passes concluded.does⟩
  · exact converged.bind concluded
  · rwa [Effect.events_append, events_of_conclude_ok concluded.does, List.append_nil]

end Apply

end Applying

theorem Controller.changeFinalizers_fails {k : KindName} {d : Declaration k.kind}
    {effects : List (Effect k.kind)} {change : FinalizerChange} {failure : FinalizerError}
    (untold : failure.managed? = none) {written : Except OperatorError Unit}
    (h : (changeFinalizers d change failure).Does effects written) {error : OperatorError}
    (failed : written = .error error) : error.managed? = none := by
  unfold changeFinalizers at h
  split at h
  · obtain ⟨-, rfl⟩ := h.of_done
    obtain rfl := Except.error.inj failed
    rfl
  · obtain ⟨_, outcome, _, -, -, rest⟩ := h.of_bind
    cases outcome with
    | ok _ => cases (Program.Does.of_done rest).2.symm.trans failed
    | error e =>
        obtain rfl := Except.error.inj ((Program.Does.of_done rest).2.symm.trans failed)
        exact untold


/-! ## Rounds -/

namespace Session

open Applying Controller

variable {k : KindName} {a : Applying k.kind} {s : Controller} {g : Gateway} {wire : Wire}
variable {api : Api k.kind} {here : Session k.kind} {d : Declaration k.kind}

/-- Whoever applies a declaration warns of a failure in the words of its phase. -/
theorem warning_eq {phase : Phase} (other : phase ≠ .delete) (cause : RemoteError) (note : String) :
    (⟨.warning, failureReason (.remote phase k.kind.name cause), "Reconcile", note⟩ : Event) =
      phase.warning note := by
  cases phase with
  | delete => exact (other rfl).elim
  | _ => rfl

theorem apply_reports_failure {working : Declaration k.kind} (firsts : List (Stage k.kind))
    (stage : Stage k.kind) {middle : Session k.kind} {before : List (Effect k.kind)}
    {cause : RemoteError} (all : ∀ first ∈ firsts, first.Succeeds g wire)
    (failed : ¬ stage.Succeeds g wire) (other : stage.phase ≠ .delete)
    (answered : stage.answer g wire = stage.call.failed cause)
    (transport : cause.isTransport = true ↔ stage.MayClearUp g wire)
    (same : working.metadata = d.metadata) (silent : Effect.events before = [])
    (calls : Effect.calls before = (firsts ++ [stage]).map (·.effect g wire))
    (converged : (a.converge d).Runs (answer g wire) (take api) here
      (working, .error (.remote stage.phase k.kind.name cause)) middle before) :
    ∃ result final effects, (a.apply d).Runs (answer g wire) (take api) here result final effects ∧
      Reports g wire d (firsts ++ [stage]) effects result := by
  obtain ⟨final, later, applied, quiet, told, status⟩ := runs_apply_failed same converged silent
  refine ⟨_, final, _, applied, .of_fails firsts stage all failed ?_
    ⟨answered, rfl, transport, told.trans ?_, status⟩⟩
  · rw [Effect.calls_append, quiet, List.append_nil, calls]
  · rw [warning_eq other]

theorem apply_reports_putting (portable : k.kind.Portable) (serves : a.refusal = none)
    (firsts : List (Stage k.kind)) (about working : Declaration k.kind) (phase : Phase)
    (event : Event) (requeue : Requeue) {there : Session k.kind} {before : List (Effect k.kind)}
    (all : ∀ first ∈ firsts, first.Succeeds g wire) (other : phase ≠ .delete)
    (same : working.metadata = d.metadata) (normal : event.type = .normal)
    (silent : Effect.events before = [])
    (calls : Effect.calls before = firsts.map (·.effect g wire))
    (converged : ∀ {outcome final effects},
      (a.putting about working phase event requeue).Runs (answer g wire) (take api) there outcome
        final effects →
      (a.converge d).Runs (answer g wire) (take api) here outcome final (before ++ effects)) :
    ∃ result final effects, (a.apply d).Runs (answer g wire) (take api) here result final effects ∧
      Reports g wire d (firsts ++ [⟨phase, .put working.params, there⟩]) effects result := by
  let stage : Stage k.kind := ⟨phase, .put working.params, there⟩
  have called (result : stage.call.Result) (answered : stage.answer g wire = result) :
      Effect.calls before ++ [.call stage.call result] =
        (firsts ++ [stage]).map (·.effect g wire) := by
    rw [calls, List.map_append, ← answered]
    rfl
  by_cases succeeds : stage.Succeeds g wire
  · obtain ⟨r, answered⟩ | ⟨put, -⟩ := Stage.answer_of_succeeds portable succeeds
    · have done := converged (runs_putting_done serves phase event requeue
        (Prod.ext answered rfl))
      obtain ⟨result, final, later, applied, quiet, undisturbed⟩ :=
        runs_apply_done done (by
          rw [Effect.events_append, silent]
          simpa [Effect.events] using normal)
      refine ⟨result, final, _, applied, .of_succeeds ?_ ?_ undisturbed⟩
      · simpa [or_imp, forall_and] using ⟨all, succeeds⟩
      · rw [Effect.calls_append, quiet, List.append_nil, Effect.calls_append]
        exact called _ answered
    · exact (put rfl).elim
  · obtain ⟨cause, answered, transport, -⟩ := Stage.answer_of_not_succeeds portable succeeds
    refine apply_reports_failure firsts stage all succeeds other answered transport same ?_ ?_
      (converged (runs_putting_failed serves phase event requeue (Prod.ext answered rfl)))
    · rw [Effect.events_append, silent]
      rfl
    · rw [Effect.calls_append]
      exact called _ answered

/-- Applying a declaration reports on its stages: on the look alone if that proves nothing or shows
that all is well, and else on putting the object too. -/
theorem apply_reports (portable : k.kind.Portable) (serves : a.refusal = none) (g : Gateway)
    (wire : Wire) (api : Api k.kind) (here : Session k.kind)
    (alive : d.metadata.isDeleted = false) :
    ∃ result final effects, (a.apply d).Runs (answer g wire) (take api) here result final effects ∧
      Reports g wire d (here.stages g wire api d) effects result := by
  let look : Stage k.kind := ⟨.get, .get d.identity, here⟩
  have looked : look.Succeeds g wire ↔ here.evidence g wire d.identity ≠ .nothing :=
    succeeds_get_iff portable d.identity
  have called (result : look.call.Result) {written : List (Effect k.kind)}
      (answered : look.answer g wire = result) (silent : ∀ e ∈ written, e.Silent) :
      Effect.calls (.call look.call result :: written) = [look].map (·.effect g wire) := by
    subst answered
    show _ :: Effect.calls written = _
    rw [Effect.calls_of_silent silent]
    rfl
  have nothing : ∀ e ∈ ([] : List (Effect k.kind)), e.Silent := fun e there => by cases there
  unfold stages
  rw [alive, if_neg Bool.false_ne_true]
  cases proved : here.evidence g wire d.identity with
  | nothing =>
      have failed : ¬ look.Succeeds g wire := fun succeeds => looked.mp succeeds proved
      obtain ⟨e, -, answered, converged⟩ := runs_converge_of_nothing api serves proved
      obtain ⟨e', answered', transport, -⟩ := Stage.answer_of_not_succeeds portable failed
      obtain rfl := Except.error.inj (answered'.symm.trans answered)
      have other : look.phase ≠ .delete := show Phase.get ≠ .delete by decide
      exact apply_reports_failure [] look (fun first there => by cases there) failed other answered'
        transport rfl rfl (called _ answered nothing) converged
  | absent =>
      have succeeds : look.Succeeds g wire := looked.mpr (by simp [proved])
      obtain ⟨what, answered, converged⟩ := runs_converge_of_absent api serves proved
      exact apply_reports_putting portable serves [look] d (d.withCondition .creating) .create
        (created k.kind) (some createRequeue) (by simpa using succeeds) (by decide) rfl rfl rfl
        (called _ answered nothing) converged
  | present r =>
      have succeeds : look.Succeeds g wire := looked.mpr (by simp [proved])
      obtain ⟨answered, written, silent, converged⟩ :=
        runs_converge_of_present api serves proved
      have untold : Effect.events written = [] := Effect.events_of_silent silent
      replace untold : Effect.events (.call look.call (.ok r) :: written) = [] := untold
      have same : (Step.found d r).2.upToDate =
          (Drift.check k.kind (k.kind.lateInit d.params r) r).upToDate := rfl
      simp only [updateDrifted, same] at converged
      dsimp only
      split
      · rename_i good
        rw [if_pos good] at converged
        obtain ⟨result, final, later, applied, quiet, undisturbed⟩ :=
          runs_apply_done (converged (.done _)) (by
            rw [List.append_nil, untold]
            exact fun event there => by cases there)
        refine ⟨result, final, _, applied, .of_succeeds (by simpa using succeeds) ?_ undisturbed⟩
        rw [Effect.calls_append, quiet, List.append_nil, List.append_nil]
        exact called _ answered silent
      · rename_i drifted
        rw [if_neg drifted] at converged
        exact apply_reports_putting portable serves [look] (Step.found d r).1 (Step.found d r).1
          .update (updated k.kind) (some a.pollInterval) (by simpa using succeeds) (by decide) rfl
          rfl untold (called _ answered silent) converged

theorem runs_delete (serves : k = s.client) {outcome : Outcome k.kind Unit}
    (turned : (Step.delete d).next (answer g wire (.delete d.identity) here).1 = outcome) :
    (s.step d (Step.delete d)).Runs (answer g wire) (take api) here outcome
      (answer g wire (.delete d.identity) here).2
      [Stage.effect g wire ⟨.delete, .delete d.identity, here⟩] := by
  subst turned
  exact runs_step (refusal_eq_none serves) (Step.delete d) rfl

theorem cleanup_reports (portable : k.kind.Portable) (serves : k = s.client) (g : Gateway)
    (wire : Wire) (api : Api k.kind) (here : Session k.kind)
    (kept : d.spec.deletionPolicy ≠ .orphan) :
    ∃ result final effects, (s.cleanup d).Runs (answer g wire) (take api) here result final
        effects ∧
      Reports g wire d [⟨.delete, .delete d.identity, here⟩] effects result := by
  let stage : Stage k.kind := ⟨.delete, .delete d.identity, here⟩
  rw [cleanup_eq s kept]
  by_cases succeeds : stage.Succeeds g wire
  · have gone : (Step.delete d).next (stage.answer g wire) =
        (d.withCondition .deleting, .ok ()) := by
      obtain ⟨_, done⟩ | ⟨-, e, missed, missing⟩ := Stage.answer_of_succeeds portable succeeds
      · rw [done]
        rfl
      · rw [missed]
        exact Step.delete_missing d missing
    have told : (dismiss (d.withCondition .deleting) (.ok ())).Runs (answer g wire) (take api)
        (answer g wire (.delete d.identity) here).2 (.ok none) _ _ :=
      (runs_publish (d := d.withCondition .deleting) (deleted k.kind)).map fun _ =>
        (.ok none : Except OperatorError Requeue)
    refine ⟨_, _, _, (runs_delete serves gone).bind told,
      .of_succeeds (by simpa using succeeds) rfl ⟨fun event there => ?_, fun _ ended => ?_⟩⟩
    · obtain rfl := List.mem_singleton.mp there
      rfl
    · cases ended
  · obtain ⟨cause, answered, transport, other⟩ :=
      Stage.answer_of_not_succeeds portable succeeds
    have lost : (Step.delete d).next (stage.answer g wire) =
        (d.withCondition .deleting, .error (.remote .delete k.kind.name cause)) := by
      rw [answered]
      exact Step.delete_failed d (other nofun)
    obtain ⟨result, final, later, dismissed⟩ : ∃ result final later,
        (dismiss (d.withCondition .deleting) (.error (.remote .delete k.kind.name cause))).Runs
          (answer g wire) (take api) (answer g wire (.delete d.identity) here).2 result final
          later := ⟨_, _, _, .of_trace _⟩
    have quiet := (dismiss_quiet _ _).calls_eq dismissed.does
    obtain ⟨rfl, told, rest, written, sent, among⟩ :=
      failure_does (Persist.status_only fun _ _ _ => trivial) dismissed.does
    refine ⟨_, final, _, (runs_delete serves lost).bind dismissed,
      .of_fails [] stage (fun _ there => by cases there) succeeds ?_
        ⟨answered, rfl, transport, told, ?_⟩⟩
    · rw [Effect.calls_append, quiet]
      rfl
    · have same : (d.withCondition .deleting).metadata = d.metadata := rfl
      exact tellFailure_of_status same sent
        (List.Subset.trans among (List.subset_append_right _ _))

/-- Whether the finalizer can be taken off is no matter of the gateway. -/
theorem release_reports {stages : List (Stage k.kind)} {middle : Session k.kind}
    {effects : List (Effect k.kind)} {result : Except OperatorError Requeue}
    (cleaned : (s.cleanup d).Runs (answer g wire) (take api) here result middle effects)
    (reports : Reports g wire d stages effects result) (place : Nat) :
    ∃ result final effects, (s.cleanup d >>= fun
        | .error e => .done (.error (.finalizer (.cleanupFailed e)))
        | .ok requeue => changeFinalizers d (.remove place) .removeFailed >>= fun written =>
          .done (written.map fun _ => requeue)).Runs (answer g wire) (take api) here result final
        effects ∧
      Reports g wire d stages effects result := by
  cases result with
  | error e =>
      refine ⟨_, middle, effects ++ [], cleaned.bind (.done _), ?_⟩
      rw [List.append_nil]
      show Reports g wire d stages effects
        (Except.mapError (fun e => .finalizer (.cleanupFailed e)) (.error e))
      exact reports.mapError fun _ => rfl
  | ok requeue =>
      obtain ⟨written, final, later, changed⟩ : ∃ written final later,
          (changeFinalizers d (.remove place) .removeFailed).Runs (answer g wire) (take api) middle
            written final later := ⟨_, _, _, .of_trace _⟩
      have silent : ∀ e ∈ later, e.Silent := fun e there => by
        obtain ⟨accepted, rfl⟩ := changeFinalizers_only later written changed.does e there
        trivial
      have all : ∀ stage ∈ stages, stage.Succeeds g wire := fun stage there => by
        refine Classical.byContradiction fun failed => ?_
        obtain ⟨error, cause, ended, -⟩ := reports.failed stage there failed
        cases ended
      refine ⟨_, final, _, cleaned.bind (changed.map _), .of_succeeds all ?_ ⟨?_, ?_⟩⟩
      · rw [Effect.calls_append, Effect.calls_of_silent silent, List.append_nil, reports.calls]
      · rw [Effect.events_append, Effect.events_of_silent silent, List.append_nil]
        exact (reports.undisturbed all).events
      · intro error ended
        cases written with
        | ok _ => cases ended
        | error e =>
            obtain rfl := Except.error.inj ended
            exact changeFinalizers_fails rfl changed.does rfl

theorem reconcile_reports (portable : k.kind.Portable) (serves : k = s.client)
    (guarded : d.metadata.IsGuarded) (g : Gateway) (wire : Wire) (api : Api k.kind)
    (here : Session k.kind) :
    ∃ result final effects, (s.reconcile d).Runs (answer g wire) (take api) here result final
        effects ∧
      Reports g wire d (here.stages g wire api d) effects result := by
  have no_stages {result : Except OperatorError Requeue}
      (ended : ∀ error, result = .error error → error.managed? = none) :
      Reports g wire d [] [] result :=
    .of_succeeds (fun _ there => by cases there) rfl ⟨fun _ there => (by cases there), ended⟩
  cases gone : d.metadata.isDeleted with
  | false =>
      obtain ⟨result, final, effects, applied, reports⟩ :=
        apply_reports portable (refusal_eq_none serves) g wire api here gone
      rw [reconcile_eq_apply s guarded gone]
      exact ⟨_, final, effects, applied.map _, reports.mapError fun _ => rfl⟩
  | true =>
      obtain ⟨place, same⟩ := reconcile_eq_cleanup s guarded gone
      rw [same, stages, if_pos gone]
      by_cases unnamed : d.metadata.name = none
      · rw [if_pos unnamed, if_neg fun both => both.1 unnamed]
        refine ⟨_, here, [], .done _, no_stages fun error ended => ?_⟩
        obtain rfl := Except.error.inj ended
        rfl
      · rw [if_neg unnamed]
        by_cases orphan : d.spec.deletionPolicy = .orphan
        · rw [if_neg fun both => by rw [orphan] at both; cases both.2]
          have cleaned : (s.cleanup d).Runs (answer g wire) (take api) here (.ok none) here [] := by
            rw [cleanup, if_pos orphan]
            exact .done _
          exact release_reports cleaned (no_stages fun _ ended => by cases ended) place
        · have kept : d.spec.deletionPolicy = .delete := by
            cases policy : d.spec.deletionPolicy with
            | delete => rfl
            | orphan => exact (orphan policy).elim
          rw [if_pos ⟨unnamed, kept⟩]
          obtain ⟨result, middle, effects, cleaned, reports⟩ :=
            cleanup_reports portable serves g wire api here orphan
          exact release_reports cleaned reports place

/-- Whatever the gateway, the cluster and the tick: a round of a declaration with the finalizer
fails in a phase just if the gateway does not grant the call of that phase.  It then passes on what
the call failed with, tells it in one warning and in the status, and can be retried just if the
gateway did not refuse the call for good.  An object that is looked for and missing is created. -/
theorem reconcile_reports_stages (managed : k ∈ KindName.managed) (serves : k = s.client)
    (d : Declaration k.kind) (guarded : d.metadata.IsGuarded) (g : Gateway) (wire : Wire)
    (api : Api k.kind) (here : Session k.kind) :
    let run := (s.reconcile d).trace (answer g wire) (take api) here
    let stages := here.stages g wire api d
    Reports g wire d stages run.2 run.1.1 ∧
      (∀ stage ∈ stages, stage.Succeeds g wire ↔
        ∀ error, run.1.1 = .error error → error.phase? ≠ some stage.phase) ∧
      ∀ r, d.metadata.isDeleted = false → here.received g wire (.get d.identity) = some r →
        r.status = 404 → stages = [⟨.get, .get d.identity, here⟩,
          ⟨.create, .put d.params, (answer g wire (.get d.identity) here).2⟩] := by
  intro run stages
  have portable := KindName.portable managed
  obtain ⟨result, final, effects, ran, reports⟩ :=
    reconcile_reports portable serves guarded g wire api here
  rw [show run = _ from ran]
  refine ⟨reports, fun stage there => ⟨fun succeeds error ended same => ?_, fun untold => ?_⟩, ?_⟩
  · by_cases all : ∀ other ∈ stages, other.Succeeds g wire
    · rw [OperatorError.phase?, (reports.undisturbed all).result error ended] at same
      cases same
    · obtain ⟨other, there', failed⟩ : ∃ other ∈ stages, ¬ other.Succeeds g wire := by
        simpa using all
      obtain ⟨error', cause, ended', fails⟩ := reports.failed other there' failed
      obtain rfl := Except.error.inj (ended.symm.trans ended')
      rw [OperatorError.phase?, fails.managed] at same
      obtain rfl : stage = other := List.inj_on_of_nodup_map (nodup_stages here g wire api d) there
        there' (Option.some.inj same).symm
      exact failed succeeds
  · refine Classical.byContradiction fun failed => ?_
    obtain ⟨error, cause, ended, fails⟩ := reports.failed stage there failed
    refine untold error ended ?_
    rw [OperatorError.phase?, fails.managed]
    rfl
  · intro r alive responded missing
    have absent := evidence_of_missing portable responded missing
    show here.stages g wire api d = _
    rw [Session.stages, alive, if_neg Bool.false_ne_true, absent, turn_of_absent absent]

def promised : Declaration KindName.keyValue.kind where
  metadata := { Metadata.blank with name := some "greeting", finalizers := some [finalizerName] }
  spec := unmet.spec
  status := none

/-- The pair is missing, and a gateway that knows of none does not take it either. -/
theorem reconcile_reports_stages_promised :
    let run := ((Controller.mk .keyValue 60 10).reconcile promised).trace (answer nearby barren)
      (take fun _ _ => (1, true)) (start (.ofTimeout (.ofSeconds 5)) 0)
    promised.metadata.IsGuarded ∧
      Effect.events run.2 = [Phase.create.warning
        "cannot create KeyValue: KeyValue store/greeting (label \"\") not found"] ∧
      ∃ error, run.1.1 = .error error ∧ error.isRetryable = false := by
  intro run
  let create : Stage KindName.keyValue.kind :=
    ⟨.create, .put promised.params,
      (answer nearby barren (.get promised.identity) (start (.ofTimeout (.ofSeconds 5)) 0)).2⟩
  have guarded : promised.metadata.IsGuarded := by decide
  obtain ⟨reports, -, creates⟩ := reconcile_reports_stages (k := .keyValue)
    (s := ⟨.keyValue, 60, 10⟩) (by decide) rfl promised guarded nearby barren (fun _ _ => (1, true))
    (start (.ofTimeout (.ofSeconds 5)) 0)
  have refused : create.response? nearby barren = some ⟨404, []⟩ := by decide +kernel
  have failed : ¬ create.Succeeds nearby barren := by
    rintro ⟨r, responded, right⟩
    obtain rfl := Option.some.inj (refused.symm.trans responded)
    rcases right with granted | ⟨-, other⟩
    · exact absurd granted.1 (by decide)
    · exact other rfl
  have there : create ∈ (start (.ofTimeout (.ofSeconds 5)) 0).stages nearby barren
      (fun _ _ => (1, true)) promised := by
    rw [creates ⟨404, []⟩ rfl (by decide +kernel) rfl]
    exact List.mem_cons_of_mem _ List.mem_cons_self
  obtain ⟨error, cause, ended, fails⟩ := reports.failed create there failed
  have answered := answer_of_received (KindName.portable (by decide)) nearby barren create.call
    create.here
  rw [show create.here.received nearby barren create.call = _ from refused] at answered
  obtain rfl : cause = .notFound (KindName.keyValue.kind.describe promised.identity) :=
    Except.error.inj (fails.answer.symm.trans answered)
  refine ⟨guarded, fails.event.trans (by decide +kernel), error, ended,
    Bool.eq_false_iff.mpr fun retryable => ?_⟩
  have clears := fails.retryable.mp retryable _ refused
  exact absurd clears (by simp [Http.Response.MayClearUp])

end Session

end CloudReconcile
