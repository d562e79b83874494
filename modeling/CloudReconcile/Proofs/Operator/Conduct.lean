import CloudReconcile.Operator.Controller
import CloudReconcile.Operator.Effect
import CloudReconcile.Proofs.Kinds.Laws

/-!
# What the parts of a reconciliation may do

Each part of a reconciliation is confined to effects of some sort, whatever the remote system and
the cluster answer.  Confinement is checked part by part: a sequence is confined if its first
program is, and its second one is for every outcome that the first can have.
-/

namespace CloudReconcile

namespace Effect

variable {K : Kind}

/-- What applying a declaration may do: look at the object that is asked for, put it, and write
about the declaration, without changing its finalizers or which object it asks for. -/
def Applies (id : K.Identity) : Effect K → Prop
  | .call (.get i) _ => i = id
  | .call (.put params) _ => K.identity params = id
  | .call (.delete _) _ => False
  | .write (.replace d) _ => d.identity = id
  | .write (.finalizers ..) _ => False
  | .write .. => True

/-- What cleaning up may do: delete the object that is asked for, and report on it. -/
def Cleans (id : K.Identity) : Effect K → Prop
  | .call (.delete i) _ => i = id
  | .call _ _ => False
  | .write (.status ..) _ => True
  | .write (.publish ..) _ => True
  | .write .. => False

/-- The reasons of the events that were published, accepted or not. -/
def reasons (effects : List (Effect K)) : List String :=
  effects.filterMap fun
    | .write (.publish _ event) _ => some event.reason
    | _ => none

/-- The events that were published, accepted or not. -/
def events (effects : List (Effect K)) : List Event :=
  effects.filterMap fun
    | .write (.publish _ event) _ => some event
    | _ => none

theorem reasons_eq (effects : List (Effect K)) :
    reasons effects = (events effects).map (·.reason) := by
  rw [reasons, events, List.map_filterMap]
  congr
  funext e
  cases e with
  | call c result => rfl
  | write w accepted => cases w <;> rfl

theorem reasons_append (before later : List (Effect K)) :
    reasons (before ++ later) = reasons before ++ reasons later := List.filterMap_append

theorem events_append (before later : List (Effect K)) :
    events (before ++ later) = events before ++ events later := List.filterMap_append

theorem calls_append (before later : List (Effect K)) :
    calls (before ++ later) = calls before ++ calls later := List.filter_append ..

/-- The effect neither reaches the remote system nor publishes anything. -/
def Silent : Effect K → Prop
  | .call .. => False
  | .write (.publish ..) _ => False
  | .write .. => True

theorem events_of_silent {effects : List (Effect K)}
    (h : ∀ e ∈ effects, e.Silent) : events effects = [] := by
  rw [events, List.filterMap_eq_nil_iff]
  intro e there
  split
  · exact (h _ there).elim
  · rfl

theorem calls_of_silent {effects : List (Effect K)}
    (h : ∀ e ∈ effects, e.Silent) : calls effects = [] := by
  refine List.filter_eq_nil_iff.mpr fun e there => ?_
  cases e with
  | call c result => exact (h _ there).elim
  | write w accepted => exact Bool.false_ne_true

theorem reasons_of_silent {effects : List (Effect K)}
    (h : ∀ e ∈ effects, e.Silent) : reasons effects = [] := by
  rw [reasons_eq, events_of_silent h]
  rfl

end Effect

/-- The answer to a deletion says that the object does not exist any more. -/
def Gone (result : Except RemoteError Unit) : Prop :=
  result = .ok () ∨ ∃ what, result = .error (.notFound what)

namespace Program

variable {K : Kind} {α β : Type} {P : Effect K → Prop}

/-- Whatever happens, the program has only effects of that sort. -/
def Only (P : Effect K → Prop) (p : Program K α) : Prop :=
  ∀ effects a, p.Does effects a → ∀ e ∈ effects, P e

theorem Only.done (a : α) : Only P (.done a) := by
  intro effects b h e he
  rw [h.of_done.1] at he
  exact (List.not_mem_nil he).elim

theorem Only.bind {p : Program K α} {f : α → Program K β} (first : p.Only P)
    (second : ∀ effects a, p.Does effects a → (f a).Only P) : (p >>= f).Only P := by
  intro effects b h e he
  obtain ⟨before, a, after, rfl, hp, hf⟩ := h.of_bind
  rcases List.mem_append.mp he with he | he
  · exact first before a hp e he
  · exact second before a hp after b hf e he

theorem Only.map {p : Program K α} (first : p.Only P) (f : α → β) :
    (p >>= fun a => .done (f a)).Only P :=
  first.bind fun _ _ _ => .done _

theorem Only.attempt {w : Write K} (h : ∀ accepted, P (.write w accepted)) :
    (Program.attempt w).Only P := by
  intro effects b done e he
  obtain ⟨accepted, rest, rfl, more⟩ := done.of_write
  rw [more.of_done.1] at he
  rw [List.mem_singleton.mp he]
  exact h accepted

/-- The program makes no remote calls. -/
def Quiet (p : Program K α) : Prop := p.Only fun e => e.isCall = false

theorem Quiet.calls_eq {p : Program K α} (quiet : p.Quiet) {effects : List (Effect K)} {a : α}
    (h : p.Does effects a) : Effect.calls effects = [] := by
  refine List.filter_eq_nil_iff.mpr fun e he => ?_
  rw [quiet effects a h e he]
  exact Bool.false_ne_true

/-- What writes leave alone is left alone by a quiet program. -/
theorem Quiet.view_eq {σ τ : Type} {remote : Adapter K σ} {cluster : Write K → σ → Bool × σ}
    {p : Program K α} {s final : σ} {a : α} {effects : List (Effect K)} (quiet : p.Quiet)
    (h : p.Runs remote cluster s a final effects) (view : σ → τ)
    (kept : ∀ w s, view (cluster w s).2 = view s) : view final = view s := by
  have silent := quiet effects a h.does
  suffices (∀ e ∈ (p.trace remote cluster s).2, e.isCall = false) →
      view (p.trace remote cluster s).1.2 = view s by
    rw [h] at this
    exact this silent
  clear quiet h silent
  intro silent
  induction p generalizing s with
  | done b => rfl
  | call c next ih => cases silent _ List.mem_cons_self
  | write w next ih =>
      refine Eq.trans (ih _ fun e he => ?_) (kept w s)
      exact silent e (List.mem_cons_of_mem _ he)

end Program

namespace Persist

variable {K : Kind} {P : Effect K → Prop}

section Runs

variable {σ : Type} {remote : Adapter K σ} {cluster : Write K → σ → Bool × σ} {here : σ}
variable {d : Declaration K}

theorem runs_named (h : d.metadata.nameText ≠ "") (w : Write K) :
    (named d w).Runs remote cluster here
      (if (cluster w here).1 then .ok () else .error .cluster) (cluster w here).2
      [.write w (cluster w here).1] := by
  have written : (Program.attempt w).Runs remote cluster here (cluster w here).1
      (cluster w here).2 [.write w (cluster w here).1] := .attempt w
  rw [named, if_neg h]
  cases accepted : (cluster w here).1 <;>
    (rw [accepted] at written; exact written.bind (.done _))

theorem runs_unnamed (h : d.metadata.nameText = "") (w : Write K) :
    (named d w).Runs remote cluster here (.error .cluster) here [] := by
  rw [named, if_pos h]
  exact .done _

end Runs

theorem does_named {d : Declaration K} {w : Write K} {effects : List (Effect K)}
    {written : Except OperatorError Unit} (h : (named d w).Does effects written) :
    d.metadata.nameText = "" ∧ effects = [] ∧ written = .error .cluster ∨
      ∃ accepted, effects = [.write w accepted] ∧
        written = if accepted then .ok () else .error .cluster := by
  unfold named at h
  split at h
  · rename_i unnamed
    obtain ⟨rfl, rfl⟩ := h.of_done
    exact .inl ⟨unnamed, rfl, rfl⟩
  · obtain ⟨first, accepted, second, rfl, attempted, rest⟩ := h.of_bind
    obtain ⟨_, _, rfl, done⟩ := attempted.of_write
    obtain ⟨rfl, rfl⟩ := done.of_done
    refine .inr ⟨accepted, ?_⟩
    cases accepted with
    | true =>
        obtain ⟨rfl, rfl⟩ := Program.Does.of_done rest
        exact ⟨rfl, rfl⟩
    | false =>
        obtain ⟨rfl, rfl⟩ := Program.Does.of_done rest
        exact ⟨rfl, rfl⟩

theorem named_only {d : Declaration K} {w : Write K} (h : ∀ accepted, P (.write w accepted)) :
    (named d w).Only P := by
  unfold named
  split
  · exact .done _
  · refine .bind (.attempt h) fun _ accepted _ => ?_
    cases accepted <;> exact .done _

theorem declaration_only {d : Declaration K} (h : ∀ accepted, P (.write (.replace d) accepted)) :
    (declaration d).Only P :=
  (named_only h).map _

theorem status_only {d : Declaration K}
    (h : ∀ status accepted, d.status = some status → P (.write (.status d status) accepted)) :
    (status d).Only P := by
  unfold status
  split
  · exact .done _
  · rename_i told
    exact named_only fun accepted => h _ accepted told

end Persist

namespace Applying

variable {K : Kind} {α : Type} {P : Effect K → Prop} {a : Applying K} {d : Declaration K}

/-- A client that does not refuse makes the step as it is. -/
theorem step_eq (serves : a.refusal = none) (d : Declaration K) (step : Step K α) :
    a.step d step = Program.step step := by
  rw [Applying.step, serves]
  rfl

theorem step_refused {e : ManagedError} (refuses : a.refusal = some e) (d : Declaration K)
    (step : Step K α) : a.step d step = .done (d, .error e) := by
  rw [Applying.step, refuses]
  rfl

theorem does_step_of_serves (serves : a.refusal = none) {step : Step K α}
    {effects : List (Effect K)} {outcome : Outcome K α} (h : (a.step d step).Does effects outcome) :
    ∃ result, effects = [.call step.call result] ∧ outcome = step.next result := by
  rw [step_eq serves] at h
  obtain ⟨result, rest, rfl, more⟩ := Program.Does.of_call h
  obtain ⟨rfl, rfl⟩ := more.of_done
  exact ⟨result, rfl, rfl⟩

/-- A step of the client is one call with its outcome, or nothing but a refusal. -/
theorem does_step {step : Step K α} {effects : List (Effect K)} {outcome : Outcome K α}
    (h : (a.step d step).Does effects outcome) :
    (∃ result, effects = [.call step.call result] ∧ outcome = step.next result) ∨
      effects = [] ∧ ∃ e, a.refusal = some e ∧ outcome = (d, .error e) := by
  cases refuses : a.refusal with
  | none => exact .inl (does_step_of_serves refuses h)
  | some e =>
      rw [step_refused refuses] at h
      obtain ⟨rfl, rfl⟩ := Program.Does.of_done h
      exact .inr ⟨rfl, e, rfl, rfl⟩

theorem runs_step {σ : Type} {remote : Adapter K σ} {cluster : Write K → σ → Bool × σ}
    {here now : σ} (serves : a.refusal = none) (step : Step K α) {result : step.call.Result}
    (answered : remote step.call here = (result, now)) :
    (a.step d step).Runs remote cluster here (step.next result) now [.call step.call result] := by
  rw [step_eq serves]
  show ((step.next (remote step.call here).1, _), _) = _
  rw [answered]

theorem runs_publish {σ : Type} {remote : Adapter K σ} {cluster : Write K → σ → Bool × σ}
    {here : σ} (event : Event) :
    (publish d event).Runs remote cluster here () (cluster (.publish d event) here).2
      [.write (.publish d event) (cluster (.publish d event) here).1] :=
  (Program.Runs.attempt (.publish d event)).map _

theorem step_only {step : Step K α} (h : ∀ result, P (.call step.call result)) :
    (a.step d step).Only P := by
  intro effects outcome done e he
  rcases does_step done with ⟨result, rfl, -⟩ | ⟨rfl, -⟩
  · rw [List.mem_singleton.mp he]
    exact h result
  · exact (List.not_mem_nil he).elim

theorem publish_only {event : Event} (h : ∀ accepted, P (.write (.publish d event) accepted)) :
    (publish d event).Only P :=
  (Program.Only.attempt h).map _

theorem publish_does {event : Event} {effects : List (Effect K)} {result : Unit}
    (h : (publish d event).Does effects result) :
    ∃ accepted, effects = [.write (.publish d event) accepted] := by
  obtain ⟨first, accepted, second, rfl, written, rest⟩ := h.of_bind
  obtain ⟨taken, more, rfl, done⟩ := written.of_write
  rw [done.of_done.1, rest.of_done.1]
  exact ⟨taken, rfl⟩

/-! ## Looking, creating and updating -/

theorem putting_only {about working : Declaration K} {phase : Phase} {event : Event}
    {requeue : Requeue} (put : ∀ result, P (.call (.put working.params) result))
    (told : ∀ accepted, P (.write (.publish working event) accepted)) :
    (a.putting about working phase event requeue).Only P := by
  refine .bind (step_only put) fun _ outcome done => ?_
  obtain ⟨d, result⟩ := outcome
  cases result with
  | error e => exact .done _
  | ok _ =>
      rcases does_step done with ⟨result, -, turned⟩ | ⟨-, e, -, refused⟩
      · rw [show d = working from congrArg (·.1) turned]
        exact (publish_only told).map _
      · cases refused

section Putting

variable {σ : Type} {remote : Adapter K σ} {cluster : Write K → σ → Bool × σ}
variable {here now : σ} {about working : Declaration K}

theorem runs_putting_failed (serves : a.refusal = none) (phase : Phase) (event : Event)
    (requeue : Requeue) {e : RemoteError}
    (answered : remote (.put working.params) here = (.error e, now)) :
    (a.putting about working phase event requeue).Runs remote cluster here
      (working, .error (.remote phase K.name e)) now [.call (.put working.params) (.error e)] :=
  (runs_step serves (Step.put phase working) answered).bind (.done _)

theorem runs_putting_done (serves : a.refusal = none) (phase : Phase) (event : Event)
    (requeue : Requeue) {r : K.Remote}
    (answered : remote (.put working.params) here = (.ok r, now)) :
    (a.putting about working phase event requeue).Runs remote cluster here
      (working, .ok requeue) (cluster (.publish working event) now).2
      [.call (.put working.params) (.ok r),
        .write (.publish working event) (cluster (.publish working event) now).1] :=
  (runs_step serves (Step.put phase working) answered).bind ((runs_publish event).map _)

end Putting

theorem createMissing_only : (a.createMissing d).Only (Effect.Applies d.identity) :=
  putting_only (fun _ => rfl) fun _ => trivial

theorem updateDrifted_only {o : Observation} :
    (a.updateDrifted d o).Only (Effect.Applies d.identity) := by
  unfold updateDrifted
  split
  · exact .done _
  · exact putting_only (fun _ => rfl) fun _ => trivial

theorem identity_observe (lawful : K.Lawful) {effects : List (Effect K)}
    {outcome : Outcome K Observation} (h : (a.step d (Step.observe d)).Does effects outcome) :
    outcome.1.identity = d.identity := by
  rcases does_step h with ⟨result, -, rfl⟩ | ⟨-, e, -, rfl⟩
  · cases result with
    | error e => rfl
    | ok r => exact lawful.identity_lateInit d.params r
  · rfl

theorem persistLateInit_only {o : Observation} (h : ∀ accepted, P (.write (.replace d) accepted)) :
    (persistLateInit d o).Only P := by
  unfold persistLateInit
  split
  · exact (Persist.declaration_only h).map _
  · exact .done _

theorem persistLateInit_silent {o : Observation} : (persistLateInit d o).Only Effect.Silent :=
  persistLateInit_only fun _ => trivial

theorem persistLateInit_quiet (d : Declaration K) (o : Observation) :
    (persistLateInit d o).Quiet :=
  persistLateInit_only fun _ => rfl

theorem converge_only (lawful : K.Lawful) :
    (a.converge d).Only (Effect.Applies d.identity) := by
  refine .bind (step_only fun _ => rfl) fun _ outcome observed => ?_
  have same := identity_observe lawful observed
  obtain ⟨found, result⟩ := outcome
  cases result with
  | error e => exact .done _
  | ok o =>
      refine .bind (persistLateInit_only fun _ => same) fun _ _ _ => ?_
      rw [← same]
      split
      · exact updateDrifted_only
      · exact createMissing_only

/-! ## Concluding -/

theorem conclusion_type (outcome : Except ManagedError Requeue) :
    (conclusion outcome).type = Condition.synced := by
  cases outcome <;> rfl

theorem persistStatus_only {read : Declaration K}
    (h : ∀ status accepted, d.status = some status → P (.write (.status d status) accepted)) :
    (persistStatus read d).Only P := by
  unfold persistStatus
  split
  · exact .done _
  · exact Persist.status_only h

theorem persistStatus_silent {read : Declaration K} :
    (persistStatus read d).Only Effect.Silent :=
  persistStatus_only fun _ _ _ => trivial

/-- The status was written back, or there was nothing to write. -/
def WrittenBack (read told : Declaration K) (effects : List (Effect K)) : Prop :=
  told.status = read.status ∨ .write (.status told told.statusOrBlank) true ∈ effects

theorem writtenBack_append_iff {read told : Declaration K} {before later : List (Effect K)}
    (unwritten : .write (.status told told.statusOrBlank) true ∉ before) :
    WrittenBack read told (before ++ later) ↔ WrittenBack read told later := by
  simp [WrittenBack, unwritten]

/-- There was nothing to write and nothing happened, or the status was written back, or nothing that
was tried was accepted. -/
theorem persistStatus_does {read told : Declaration K} {status : Status K.Observation}
    (now : told.status = some status) {effects : List (Effect K)}
    {written : Except OperatorError Unit} (h : (persistStatus read told).Does effects written) :
    WrittenBack read told effects ∧ written = .ok () ∧
        (told.status = read.status ∧ effects = [] ∨ effects = [.write (.status told status) true]) ∨
      ¬ WrittenBack read told effects ∧ written = .error .cluster ∧
        (effects = [] ∨ effects = [.write (.status told status) false]) := by
  have same : told.statusOrBlank = status := Declaration.statusOrBlank_of_told now
  unfold persistStatus at h
  split at h
  · rename_i unchanged
    obtain ⟨rfl, rfl⟩ := Program.Does.of_done h
    exact .inl ⟨.inl unchanged, rfl, .inl ⟨unchanged, rfl⟩⟩
  · rename_i changed
    rw [Persist.status, now] at h
    rcases Persist.does_named h with ⟨-, rfl, rfl⟩ | ⟨accepted, rfl, rfl⟩
    · exact .inr ⟨by simp [WrittenBack, changed], rfl, .inl rfl⟩
    · cases accepted with
      | true => exact .inl ⟨.inr (by simp [same]), rfl, .inr rfl⟩
      | false => exact .inr ⟨by simp [WrittenBack, changed], rfl, .inr rfl⟩

theorem conclude_only {read working : Declaration K} {outcome : Except ManagedError Requeue}
    (status : ∀ c accepted,
      P (.write (.status (working.withCondition c) (working.statusOrBlank.set c)) accepted))
    (told : ∀ c event accepted, P (.write (.publish (working.withCondition c) event) accepted)) :
    (conclude read working outcome).Only P := by
  have persisted (c : Condition) : (persistStatus read (working.withCondition c)).Only P := by
    refine persistStatus_only fun now accepted same => ?_
    obtain rfl := Option.some.inj same
    exact status c accepted
  cases outcome with
  | error e =>
      exact (publish_only fun accepted => told _ _ accepted).bind fun _ _ _ => (persisted _).map _
  | ok requeue => exact (persisted _).map _

theorem conclude_quiet (read working : Declaration K) (outcome : Except ManagedError Requeue) :
    (conclude read working outcome).Quiet :=
  conclude_only (fun _ _ => rfl) fun _ _ _ => rfl

theorem events_of_conclude_ok {working : Declaration K} {requeue : Requeue}
    {effects : List (Effect K)} {result : Except OperatorError Requeue}
    (h : (conclude d working (.ok requeue)).Does effects result) : Effect.events effects = [] := by
  have silent : ∀ e ∈ effects, e.Silent := persistStatus_silent.map _ effects result h
  exact Effect.events_of_silent silent

theorem reasons_of_conclude_ok {working : Declaration K} {requeue : Requeue}
    {effects : List (Effect K)} {result : Except OperatorError Requeue}
    (h : (conclude d working (.ok requeue)).Does effects result) : Effect.reasons effects = [] := by
  rw [Effect.reasons_eq, events_of_conclude_ok h]
  rfl

/-- A failure is reported in one event, something is written that is none, and the failure is
passed on. -/
theorem failure_does {told : Declaration K} {action reason : String} {e : ManagedError}
    {write : Program K (Except OperatorError Unit)} (silent : write.Only Effect.Silent)
    {effects : List (Effect K)} {result : Except OperatorError Requeue}
    (h : (reportFailure told action reason e >>= fun _ =>
      write >>= fun _ => .done (.error (.managed e))).Does effects result) :
    result = .error (.managed e) ∧
      Effect.events effects = [⟨.warning, reason, action, e.message⟩] ∧
      ∃ later written, write.Does later written ∧ later ⊆ effects := by
  obtain ⟨first, _, second, rfl, told, rest⟩ := h.of_bind
  obtain ⟨later, written, fourth, rfl, wrote, done⟩ := rest.of_bind
  obtain ⟨accepted, rfl⟩ := publish_does told
  obtain ⟨rfl, rfl⟩ := done.of_done
  refine ⟨rfl, ?_, later, written, wrote, ?_⟩
  · rw [List.append_nil]
    show _ :: Effect.events later = _
    rw [Effect.events_of_silent (silent later written wrote)]
  · rw [List.append_nil]
    exact List.subset_append_right _ _

theorem reasons_of_conclude_error {working : Declaration K} {e : ManagedError}
    {effects : List (Effect K)} {result : Except OperatorError Requeue}
    (h : (conclude d working (.error e)).Does effects result) :
    Effect.reasons effects = [failureReason e] ∧ result = .error (.managed e) := by
  obtain ⟨passed, told, -⟩ := failure_does persistStatus_silent h
  rw [Effect.reasons_eq, told]
  exact ⟨rfl, passed⟩

theorem apply_only (lawful : K.Lawful) : (a.apply d).Only (Effect.Applies d.identity) :=
  .bind (converge_only lawful) fun _ _ _ =>
    conclude_only (fun _ _ => trivial) fun _ _ _ => trivial

end Applying

namespace Controller

open Applying (publish_only step_only does_step)

variable {k : KindName} {α : Type} {P : Effect k.kind → Prop} {s : Controller}
variable {d : Declaration k.kind}

/-- A controller serves the declarations of its own kind. -/
theorem refusal_eq_none (serves : k = s.client) : (s.applying k).refusal = none := if_pos serves

theorem refusal_eq_some (other : k ≠ s.client) :
    (s.applying k).refusal = some (.misuse s.client.text) := if_neg other

theorem reconcile_eq_apply (s : Controller) (guarded : d.metadata.IsGuarded)
    (alive : d.metadata.isDeleted = false) :
    s.reconcile d =
      s.apply d >>= fun result => .done (result.mapError fun e => .finalizer (.applyFailed e)) := by
  unfold reconcile
  cases found : finalizerPlace d with
  | none => exact (finalizerPlace_eq_none_iff.mp found guarded).elim
  | some place => simp only [alive]; rfl

/-! ## Cleaning up -/

theorem cleanup_eq (s : Controller) (kept : d.spec.deletionPolicy ≠ .orphan) :
    s.cleanup d =
      s.step d (Step.delete d) >>= fun outcome => dismiss outcome.1 outcome.2 := by
  rw [cleanup, if_neg kept]

theorem reconcile_eq_cleanup (s : Controller) (guarded : d.metadata.IsGuarded)
    (gone : d.metadata.isDeleted = true) :
    ∃ place, s.reconcile d =
      if d.metadata.name = none then .done (.error (.finalizer .unnamedObject))
      else s.cleanup d >>= fun
        | .error e => .done (.error (.finalizer (.cleanupFailed e)))
        | .ok requeue => changeFinalizers d (.remove place) .removeFailed >>= fun written =>
          .done (written.map fun _ => requeue) := by
  unfold reconcile
  cases found : finalizerPlace d with
  | none => exact (finalizerPlace_eq_none_iff.mp found guarded).elim
  | some place =>
      refine ⟨place, ?_⟩
      simp only [gone]
      rfl

theorem dismiss_only {working : Declaration k.kind} {result : Except ManagedError Unit}
    (status : ∀ c accepted,
      P (.write (.status (working.withCondition c) (working.statusOrBlank.set c)) accepted))
    (told : ∀ about event accepted, P (.write (.publish about event) accepted)) :
    (dismiss working result).Only P := by
  cases result with
  | error e =>
      refine (publish_only fun accepted => told _ _ accepted).bind fun _ _ _ => ?_
      refine (Persist.status_only fun now accepted same => ?_).map _
      obtain rfl := Option.some.inj same
      exact status _ accepted
  | ok _ => exact (publish_only fun accepted => told _ _ accepted).map _

theorem dismiss_quiet (working : Declaration k.kind) (result : Except ManagedError Unit) :
    (dismiss working result).Quiet :=
  dismiss_only (fun _ _ => rfl) fun _ _ _ => rfl

theorem cleanup_only : (s.cleanup d).Only (Effect.Cleans d.identity) := by
  by_cases kept : d.spec.deletionPolicy = .orphan
  · rw [cleanup, if_pos kept]
    exact .done _
  · rw [cleanup_eq s kept]
    exact .bind (step_only fun _ => rfl) fun _ _ _ =>
      dismiss_only (fun _ _ => trivial) fun _ _ _ => trivial

theorem cleanup_keeps {effects : List (Effect k.kind)} {result : Except OperatorError Requeue}
    (h : (s.cleanup d).Does effects result) (busy : effects ≠ []) :
    d.spec.deletionPolicy = .delete := by
  unfold cleanup at h
  split at h
  · exact (busy h.of_done.1).elim
  · rename_i kept
    cases policy : d.spec.deletionPolicy with
    | delete => rfl
    | orphan => exact (kept policy).elim

/-- Cleaning up succeeds without any effect for a declaration that leaves its object in place, and
otherwise only if the object is gone. -/
theorem cleanup_succeeds {effects : List (Effect k.kind)} {requeue : Requeue}
    (h : (s.cleanup d).Does effects (.ok requeue)) :
    d.spec.deletionPolicy = .orphan ∧ effects = [] ∨
      d.spec.deletionPolicy = .delete ∧
        ∃ result, Effect.call (.delete d.identity) result ∈ effects ∧ Gone result := by
  unfold cleanup at h
  split at h
  · rename_i orphan
    exact .inl ⟨orphan, h.of_done.1⟩
  · rename_i kept
    right
    refine ⟨by cases policy : d.spec.deletionPolicy <;> simp_all, ?_⟩
    obtain ⟨first, ⟨working, outcome⟩, second, rfl, stepped, h⟩ := h.of_bind
    cases outcome with
    | error e =>
        -- A failure to delete is passed on, so this course of events does not succeed.
        obtain ⟨_, _, _, -, -, h⟩ := h.of_bind
        obtain ⟨_, _, _, -, -, h⟩ := h.of_bind
        cases h.of_done.2
    | ok _ =>
        rcases does_step stepped with ⟨result, rfl, turned⟩ | ⟨-, e, -, refused⟩
        · refine ⟨result, List.mem_append_left _ List.mem_cons_self, ?_⟩
          cases result with
          | ok _ => exact .inl rfl
          | error cause =>
              cases cause with
              | notFound what => exact .inr ⟨what, rfl⟩
              | _ => cases turned
        · cases refused

theorem changeFinalizers_only {change : FinalizerChange} {failure : FinalizerError} :
    (changeFinalizers d change failure).Only
      fun e => ∃ accepted, e = .write (.finalizers d change) accepted := by
  unfold changeFinalizers
  split
  · exact .done _
  · refine .bind (Persist.named_only fun accepted => ⟨accepted, rfl⟩) fun _ result _ => ?_
    cases result <;> exact .done _

end Controller
end CloudReconcile
