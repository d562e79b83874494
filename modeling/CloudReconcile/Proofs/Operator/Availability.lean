import CloudReconcile.Proofs.Operator.Telling
import CloudReconcile.Proofs.Reconcile.Readiness

/-!
# Availability follows the evidence

A round looks, creates or updates what it has to, and tells how it went.  So it is a course of
deeds, and the answer to the look decides whether the object counts as available afterwards: an
update that fails takes nothing back, and a creation proves nothing, whether it fails or not.
-/

namespace CloudReconcile

namespace Move

variable {K : Kind}

/-- The call that a move makes, with its answer. -/
def effect (d : Declaration K) : Move K → Effect K
  | .observe answer => .call (.get d.identity) answer
  | .create answer => .call (.put d.params) answer
  | .update answer => .call (.put d.params) answer
  | .delete answer => .call (.delete d.identity) answer

def effects : Declaration K → List (Move K) → List (Effect K)
  | _, [] => []
  | d, m :: moves => m.effect d :: effects (m.take d) moves

/-- The moves that follow on a look, by what was answered to it. -/
inductive FollowUp (d : Declaration K) : Except RemoteError K.Remote → List (Move K) → Prop where
  | settled {r : K.Remote} (upToDate : (Step.found d r).2.upToDate = true) : FollowUp d (.ok r) []
  | updated {r : K.Remote} (drifted : (Step.found d r).2.upToDate = false)
      (answer : Except RemoteError K.Remote) : FollowUp d (.ok r) [.update answer]
  | created {e : RemoteError} (missing : e.isNotFound = true)
      (answer : Except RemoteError K.Remote) : FollowUp d (.error e) [.create answer]
  | failed {e : RemoteError} (other : e.isNotFound = false) : FollowUp d (.error e) []

end Move

/-- What a declaration says about being ready once its object has been looked at and, if it is
missing, is being created. -/
def Declaration.readyAfter? {K : Kind} (d : Declaration K) :
    Except RemoteError K.Remote → Option Condition
  | .ok _ => some .available
  | .error e => if e.isNotFound then some .creating else d.ready?

/-! ## Applying -/

namespace Applying

variable {K : Kind} {a : Applying K} {d told : Declaration K} {effects : List (Effect K)}

/-- Putting an object is one call, whatever is published about it. -/
theorem putting_served (serves : a.refusal = none) {about working : Declaration K} {phase : Phase}
    {event : Event} {requeue : Requeue} {outcome : Outcome K Requeue}
    (h : (a.putting about working phase event requeue).Does effects outcome) :
    ∃ answer, Effect.calls effects = [.call (.put working.params) answer] ∧
      outcome.1 = working := by
  obtain ⟨first, ⟨after, result⟩, rest, rfl, put, goes⟩ := h.of_bind
  obtain ⟨answer, rfl, turned⟩ := does_step_of_serves serves put
  have same : after = working := congrArg (·.1) turned
  refine ⟨answer, ?_⟩
  cases result with
  | error e =>
      obtain ⟨rfl, rfl⟩ := goes.of_done
      exact ⟨rfl, same⟩
  | ok _ =>
      obtain ⟨_, _, _, rfl, published, done⟩ := goes.of_bind
      obtain ⟨accepted, rfl⟩ := publish_does published
      obtain ⟨rfl, rfl⟩ := done.of_done
      exact ⟨rfl, same⟩

/-- An object that was found is updated just if it has drifted. -/
theorem updateDrifted_moves (serves : a.refusal = none) {r : K.Remote}
    {outcome : Outcome K Requeue}
    (h : (a.updateDrifted (Step.found d r).1 (Step.found d r).2).Does effects outcome) :
    ∃ moves, Move.FollowUp d (.ok r) moves ∧
      Effect.calls effects = Move.effects (Step.found d r).1 moves ∧
      outcome.1 = Move.takeAll (Step.found d r).1 moves := by
  unfold updateDrifted at h
  split at h
  · rename_i upToDate
    obtain ⟨rfl, rfl⟩ := h.of_done
    exact ⟨[], .settled upToDate, rfl, rfl⟩
  · rename_i drifted
    have drifted : (Step.found d r).2.upToDate = false := by simpa using drifted
    obtain ⟨answer, calls, same⟩ := putting_served serves h
    exact ⟨[.update answer], .updated drifted answer, calls, same⟩

theorem createMissing_moves (serves : a.refusal = none) {e : RemoteError}
    (missing : e.isNotFound = true) {outcome : Outcome K Requeue}
    (h : (a.createMissing d).Does effects outcome) :
    ∃ moves, Move.FollowUp d (.error e) moves ∧ Effect.calls effects = Move.effects d moves ∧
      outcome.1 = Move.takeAll d moves := by
  obtain ⟨answer, calls, same⟩ := putting_served serves h
  exact ⟨[.create answer], .created missing answer, calls, same⟩

/-- A round begins with a look, and all that it makes of the declaration are the moves that follow
on what was answered. -/
theorem converge_moves (serves : a.refusal = none) {outcome : Outcome K Requeue}
    (h : (a.converge d).Does effects outcome) :
    ∃ answer moves, Move.FollowUp d answer moves ∧
      Effect.calls effects = Move.effects d (.observe answer :: moves) ∧
      outcome.1 = Move.takeAll d (.observe answer :: moves) := by
  obtain ⟨first, seen, rest, rfl, looked, goes⟩ := h.of_bind
  obtain ⟨answer, rfl, rfl⟩ := does_step_of_serves serves looked
  rw [Effect.calls_append]
  cases answer with
  | ok r =>
      obtain ⟨writes, _, last, rfl, kept, updating⟩ := Program.Does.of_bind goes
      obtain ⟨moves, follows, calls, same⟩ := updateDrifted_moves serves updating
      refine ⟨.ok r, moves, follows, ?_, same⟩
      rw [Effect.calls_append, (persistLateInit_quiet _ _).calls_eq kept, calls]
      rfl
  | error e =>
      cases missing : e.isNotFound with
      | true =>
          rw [Step.observe_missing d missing] at goes
          obtain ⟨moves, follows, calls, same⟩ := createMissing_moves serves missing goes
          refine ⟨.error e, moves, follows, ?_, same⟩
          rw [calls]
          rfl
      | false =>
          rw [Step.observe_failed d missing] at goes
          obtain ⟨rfl, rfl⟩ := Program.Does.of_done goes
          exact ⟨.error e, [], .failed missing, rfl, rfl⟩

/-- The deeds of a round that applies a declaration. -/
def course (answer : Except RemoteError K.Remote) (moves : List (Move K))
    (outcome : Except ManagedError Requeue) : List (Deed K) :=
  (.observe answer :: moves).map .move ++ [.tell (conclusion outcome) (conclusion_type outcome)]

theorem takeAll_course (answer : Except RemoteError K.Remote) (moves : List (Move K))
    (outcome : Except ManagedError Requeue) :
    Deed.takeAll d (course answer moves outcome) =
      concluded (Move.takeAll d (.observe answer :: moves)) outcome := by
  rw [course, Deed.takeAll_concat, Deed.takeAll_moves]
  rfl

/-- What a round says about being ready is decided by the answer to its look. -/
theorem ready?_course {answer : Except RemoteError K.Remote} {moves : List (Move K)}
    (follows : Move.FollowUp d answer moves) (outcome : Except ManagedError Requeue) :
    (Deed.takeAll d (course answer moves outcome)).ready? = d.readyAfter? answer := by
  rw [Deed.ready?_takeAll]
  cases follows with
  | settled upToDate => rfl
  | updated drifted answer => rfl
  | created missing answer =>
      rw [Declaration.readyAfter?, if_pos missing]
      rfl
  | failed other =>
      rw [Declaration.readyAfter?, if_neg (by simp [other])]
      rfl

/-- All that is written of a status is the one of `told`. -/
def WritesStatusOf (told : Declaration K) (e : Effect K) : Prop :=
  ∀ about status accepted, e = .write (.status about status) accepted →
    about = told ∧ status = told.statusOrBlank

theorem writesStatusOf_of_spares {e : Effect K} (spared : e.SparesStatus) :
    WritesStatusOf told e := by
  rintro about status accepted rfl
  exact spared.elim

theorem persistStatus_writes {read : Declaration K} :
    (persistStatus read told).Only (WritesStatusOf told) := by
  refine persistStatus_only fun status accepted now about status' accepted' same => ?_
  obtain ⟨rfl, rfl⟩ := Write.status.inj (Effect.write.inj same).1
  exact ⟨rfl, (Declaration.statusOrBlank_of_told now).symm⟩

/-- A round works on `told` if that is what it makes of the declaration and tells in the end, and if
it writes no other status. -/
structure WorksOn (a : Applying K) (d told : Declaration K) (effects : List (Effect K)) :
    Prop where
  made : ∃ before later working outcome, effects = before ++ later ∧
    (a.converge d).Does before (working, outcome) ∧ told = concluded working outcome
  written : ∀ e ∈ effects, WritesStatusOf told e

theorem conclude_writes {read working : Declaration K}
    {outcome : Except ManagedError Requeue} :
    (conclude read working outcome).Only (WritesStatusOf (concluded working outcome)) := by
  have spared : ∀ (about : Declaration K) (event : Event) accepted,
      WritesStatusOf (concluded working outcome) (.write (.publish about event) accepted) :=
    fun _ _ _ => writesStatusOf_of_spares trivial
  cases outcome with
  | error e =>
      exact (publish_only (spared _ _)).bind fun _ _ _ => persistStatus_writes.map _
  | ok requeue => exact persistStatus_writes.map _

/-- A round that applies a declaration of the kind that it serves is a course of deeds. -/
theorem apply_course (serves : a.refusal = none) {result : Except OperatorError Requeue}
    (h : (a.apply d).Does effects result) :
    ∃ answer moves outcome, Move.FollowUp d answer moves ∧
      Effect.calls effects = Move.effects d (.observe answer :: moves) ∧
      a.WorksOn d (Deed.takeAll d (course answer moves outcome)) effects := by
  obtain ⟨before, ⟨working, outcome⟩, later, rfl, converged, rest⟩ := h.of_bind
  obtain ⟨answer, moves, follows, calls, made⟩ := converge_moves serves converged
  have told : Deed.takeAll d (course answer moves outcome) = concluded working outcome := by
    rw [takeAll_course, ← made]
  refine ⟨answer, moves, outcome, follows, ?_, ?_, ?_⟩
  · rw [Effect.calls_append, calls, (conclude_quiet _ _ _).calls_eq rest, List.append_nil]
  · exact ⟨before, later, working, outcome, rfl, converged, told⟩
  · rw [told]
    intro e there
    rcases List.mem_append.mp there with there | there
    · exact writesStatusOf_of_spares (converge_spares before _ converged e there)
    · exact conclude_writes later result rest e there

theorem converge_refused {e : ManagedError} (refuses : a.refusal = some e) (d : Declaration K) :
    a.converge d = .done (d, .error e) := by
  rw [converge, step_refused refuses]
  rfl

/-- A client that refuses says nothing new about being ready. -/
theorem apply_refused {e : ManagedError} (refuses : a.refusal = some e)
    {result : Except OperatorError Requeue} (h : (a.apply d).Does effects result) :
    ∃ told, Effect.calls effects = [] ∧ a.WorksOn d told effects ∧ told.ready? = d.ready? := by
  have refused : (a.converge d).Does [] (d, .error e) := by
    rw [converge_refused refuses]
    exact .done _
  rw [apply, converge_refused refuses] at h
  have rest : (conclude d d (.error e)).Does effects result := h
  refine ⟨concluded d (.error e), (conclude_quiet _ _ _).calls_eq rest,
    ⟨⟨[], effects, d, _, rfl, refused, rfl⟩, conclude_writes effects result rest⟩, ?_⟩
  exact d.ready?_withCondition_of_synced (conclusion_type _)

end Applying

/-! ## Cleaning up -/

namespace Controller

open Applying (WritesStatusOf writesStatusOf_of_spares publish_only does_step)

variable {k : KindName} {s : Controller} {d told : Declaration k.kind}
variable {effects : List (Effect k.kind)}

/-- The deeds of a round that deletes an object: only a failure is told. -/
def dismissal (answer : Except RemoteError Unit) (outcome : Except ManagedError Unit) :
    List (Deed k.kind) :=
  .move (.delete answer) ::
    match outcome with
    | .ok _ => []
    | .error e => [.tell (.reconcileError e.message) rfl]

/-- What a declaration says in the end of a round that deleted its object, or tried to. -/
def dismissed (working : Declaration k.kind) : Except ManagedError Unit → Declaration k.kind
  | .ok _ => working
  | .error e => working.withCondition (.reconcileError e.message)

/-- All that is told is told about `told`: its status is written, and events are about it. -/
def TellsOf (told : Declaration k.kind) (e : Effect k.kind) : Prop :=
  WritesStatusOf told e ∧
    ∀ about event accepted, e = .write (.publish about event) accepted → about = told

theorem tellsOf_publish (event : Event) (accepted : Bool) :
    TellsOf told (.write (.publish told event) accepted) := by
  refine ⟨writesStatusOf_of_spares trivial, fun about event' accepted' same => ?_⟩
  exact ((Write.publish.inj (Effect.write.inj same).1).1).symm

theorem tellsOf_status {status : Status k.kind.Observation} (now : told.status = some status)
    (accepted : Bool) : TellsOf told (.write (.status told status) accepted) := by
  refine ⟨fun about status' accepted' same => ?_, fun about event accepted' same => ?_⟩
  · obtain ⟨rfl, rfl⟩ := Write.status.inj (Effect.write.inj same).1
    exact ⟨rfl, (Declaration.statusOrBlank_of_told now).symm⟩
  · cases (Effect.write.inj same).1

theorem dismiss_tells (working : Declaration k.kind) (outcome : Except ManagedError Unit) :
    (dismiss working outcome).Only (TellsOf (dismissed working outcome)) := by
  cases outcome with
  | ok _ => exact (publish_only (tellsOf_publish _)).map _
  | error e =>
      refine (publish_only (tellsOf_publish _)).bind fun _ _ _ => ?_
      exact (Persist.status_only fun _ accepted now => tellsOf_status now accepted).map _

theorem takeAll_dismissal (d : Declaration k.kind) (answer : Except RemoteError Unit)
    (outcome : Except ManagedError Unit) :
    Deed.takeAll d (dismissal answer outcome) =
      dismissed (Move.take d (.delete answer)) outcome := by
  cases outcome <;> rfl

/-- A deletion is the last that is said about being ready, also if it fails. -/
theorem ready?_dismissal (d : Declaration k.kind) (answer : Except RemoteError Unit)
    (outcome : Except ManagedError Unit) :
    (Deed.takeAll d (dismissal answer outcome)).ready? = some .deleting := by
  rw [Deed.ready?_takeAll]
  cases outcome <;> rfl

/-- A round that makes a call to clean up is a course of deeds. -/
theorem cleanup_course {result : Except OperatorError Requeue}
    (h : (s.cleanup d).Does effects result) (tried : Effect.calls effects ≠ []) :
    ∃ answer, Effect.calls effects = Move.effects d [.delete answer] ∧
      ∀ e ∈ effects,
        TellsOf (Deed.takeAll d (dismissal answer ((Step.delete d).next answer).2)) e := by
  have kept : d.spec.deletionPolicy ≠ .orphan := by
    intro orphan
    rw [cleanup, if_pos orphan] at h
    rw [h.of_done.1] at tried
    exact tried rfl
  rw [cleanup_eq s kept] at h
  obtain ⟨first, ⟨working, outcome⟩, later, rfl, deleted, rest⟩ := h.of_bind
  have quiet : Effect.calls later = [] := (dismiss_quiet _ _).calls_eq rest
  rw [Effect.calls_append, quiet, List.append_nil] at tried ⊢
  rcases does_step deleted with ⟨(answer : Except RemoteError Unit), rfl, turned⟩ | ⟨rfl, -⟩
  · have same : working = Move.take d (.delete answer) := congrArg (·.1) turned
    have ended : ((Step.delete d).next answer).2 = outcome := (congrArg (·.2) turned).symm
    refine ⟨answer, rfl, fun e there => ?_⟩
    rw [takeAll_dismissal, ← same, ended]
    rcases List.mem_append.mp there with there | there
    · rw [List.mem_singleton.mp there]
      exact ⟨writesStatusOf_of_spares trivial, fun _ _ _ other => by cases other⟩
    · exact dismiss_tells working outcome later result rest e there
  · exact absurd rfl tried

/-- An object counts as available just if a look that found it was the last to say anything about
that, or if nothing was said and it counted before.  So a round that applies a declaration ends as
its look says, however the rest turns out, and one that tries to delete the object ends with it
being deleted. -/
theorem isAvailable_iff_latest (s : Controller) (d : Declaration k.kind) :
    (∀ deeds : List (Deed k.kind), (Deed.takeAll d deeds).isAvailable = true ↔
      (∃ r, Deed.latest? deeds = some (.move (.observe (.ok r)))) ∨
        Deed.latest? deeds = none ∧ d.isAvailable = true) ∧
    (∀ effects result, (s.apply d).Does effects result →
      ∃ told, (s.applying k).WorksOn d told effects ∧
      (k ≠ s.client → Effect.calls effects = [] ∧ told.isAvailable = d.isAvailable) ∧
      (k = s.client → ∃ answer moves, Move.FollowUp d answer moves ∧
        Effect.calls effects = Move.effects d (.observe answer :: moves) ∧
        (∀ r, answer = .ok r →
          told.ready? = some ⟨"Ready", "True", "Available", none⟩ ∧ told.isAvailable = true) ∧
        (∀ what, answer = .error (.notFound what) →
          told.ready? = some ⟨"Ready", "False", "Creating", none⟩ ∧ told.isAvailable = false) ∧
        (∀ e, answer = .error e → e.isNotFound = false →
          told.ready? = d.ready? ∧ told.isAvailable = d.isAvailable))) ∧
    ∀ effects result, (s.cleanup d).Does effects result → Effect.calls effects ≠ [] →
      ∃ answer told, Effect.calls effects = [.call (.delete d.identity) answer] ∧
        told = Deed.takeAll d (dismissal answer ((Step.delete d).next answer).2) ∧
        (∀ e ∈ effects, TellsOf told e) ∧
        told.ready? = some ⟨"Ready", "False", "Deleting", none⟩ ∧ told.isAvailable = false := by
  refine ⟨Deed.isAvailable_takeAll_iff d, ?applied, ?cleaned⟩
  case applied =>
    intro effects result h
    by_cases serves : k = s.client
    · obtain ⟨answer, moves, outcome, follows, calls, works⟩ :=
        Applying.apply_course (refusal_eq_none serves) h
      have ready := Applying.ready?_course follows outcome
      refine ⟨_, works, fun other => absurd serves other, fun _ =>
        ⟨answer, moves, follows, calls, ?_, ?_, ?_⟩⟩
      · rintro r rfl
        exact ⟨ready, (Declaration.isAvailable_of_ready? ready).trans rfl⟩
      · rintro what rfl
        exact ⟨ready, (Declaration.isAvailable_of_ready? ready).trans rfl⟩
      · rintro e rfl other
        have same : d.readyAfter? (.error e) = d.ready? := if_neg (by simp [other])
        rw [same] at ready
        exact ⟨ready, Declaration.isAvailable_congr ready⟩
    · obtain ⟨told, silent, works, ready⟩ := Applying.apply_refused (refusal_eq_some serves) h
      exact ⟨told, works, fun _ => ⟨silent, Declaration.isAvailable_congr ready⟩,
        fun own => absurd own serves⟩
  case cleaned =>
    intro effects result h tried
    obtain ⟨answer, calls, tells⟩ := cleanup_course h tried
    have ready := ready?_dismissal d answer ((Step.delete d).next answer).2
    have unavailable := (Declaration.isAvailable_of_ready? ready).trans rfl
    exact ⟨answer, _, calls, rfl, tells, ready, unavailable⟩

end Controller
end CloudReconcile
