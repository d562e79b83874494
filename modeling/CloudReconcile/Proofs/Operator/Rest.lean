import CloudReconcile.Operator.Trial
import CloudReconcile.Proofs.Kinds.Verdict
import CloudReconcile.Proofs.Operator.Conduct
import CloudReconcile.Proofs.Operator.Spelling
import CloudReconcile.Proofs.Reconcile.Meeting
import CloudReconcile.Proofs.Remote.Memory

/-!
# A trial comes to rest

Where the cluster accepts every write and no call fails, a round creates a missing object, and
brings a declaration and its object together otherwise.  Since a second meeting changes nothing, no
later than after the second round nothing is left to do but to look at the object.
-/

namespace CloudReconcile

/-- The operator applies the declaration: it is guarded, nobody has deleted it, and it has a name,
as everything has that a cluster keeps. -/
structure Declaration.IsActive {K : Kind} (d : Declaration K) : Prop where
  guarded : d.metadata.IsGuarded
  alive : d.metadata.isDeleted = false
  named : d.metadata.nameText ≠ ""

namespace Trial

section Parts

variable {K : Kind} {a : Applying K} {R : K.Reporting} {t : Trial K (Memory K)}
variable {d : Declaration K} {objects : K.Identity → Option K.Remote}

/-- The trial is at that declaration, with these objects in a plain memory. -/
structure At (R : K.Reporting) (t : Trial K (Memory K)) (d : Declaration K)
    (objects : K.Identity → Option K.Remote) : Prop where
  spells : t.stored.Spells R d
  plain : t.remote.IsPlain
  objects : t.remote.objects = objects

/-! ## The parts of a round -/

theorem runs_observe (serves : a.refusal = none) (h : t.At R d objects) :
    ∃ final, (a.step d (Step.observe d)).Runs (adapter Memory.answer) (cluster .willing) t
        ((Step.observe d).next
          ((objects d.identity).elim (.error (Memory.missing d.identity)) .ok)) final
        [.call (.get d.identity)
          ((objects d.identity).elim (.error (Memory.missing d.identity)) .ok)] ∧
      final.At R d objects := by
  have answered := adapter_of_answer (h.plain.answer_get d.identity)
  rw [h.objects] at answered
  exact ⟨_, Applying.runs_step serves (Step.observe d) answered, h.spells,
    ⟨h.plain.failures, h.plain.stamp⟩, h.objects⟩

theorem runs_putting (serves : a.refusal = none) (about working : Declaration K) (phase : Phase)
    (event : Event) (requeue : Requeue) (h : t.At R d objects) :
    ∃ final effects, (a.putting about working phase event requeue).Runs
        (adapter Memory.answer) (cluster .willing) t (working, .ok requeue) final effects ∧
      final.At R d (Memory.granted objects working.params) := by
  obtain ⟨now, answered, plain, granted⟩ := h.plain.answer_put working.params
  rw [h.objects] at granted
  exact ⟨_, _, Applying.runs_putting_done serves phase event requeue (adapter_of_answer answered),
    h.spells, plain, granted⟩

theorem runs_persistLateInit {r : K.Remote} (named : d.metadata.nameText ≠ "")
    (h : t.At R d objects) :
    ∃ final effects, (Applying.persistLateInit (Step.found d r).1 (Step.found d r).2).Runs
        (adapter Memory.answer) (cluster .willing) t () final effects ∧
      final.At R { d with spec := (d.met r).spec } objects ∧
        (K.lateInit d.params r = d.params → effects = []) := by
  unfold Applying.persistLateInit
  by_cases same : K.lateInit d.params r = d.params
  · have kept : (d.met r).spec = d.spec := congrArg (Spec.mk · d.spec.deletionPolicy) same
    rw [kept, if_neg (by simp [Step.found, same])]
    exact ⟨t, [], .done (), h, fun _ => rfl⟩
  · rw [if_pos (by simp [Step.found, same])]
    have named : (Step.found d r).1.metadata.nameText ≠ "" := named
    refine ⟨_, _, ((Persist.runs_named named _).map _).map _, ?_, fun eq => absurd eq same⟩
    exact ⟨h.spells.replace _, h.plain, h.objects⟩

theorem runs_updateDrifted (serves : a.refusal = none) (portable : K.Portable)
    (working : Declaration K) (o : Observation) {now : Declaration K} {r : K.Remote}
    (there : objects working.identity = some r)
    (checked : o.upToDate = (Drift.check K working.params r).upToDate)
    (h : t.At R now objects) :
    ∃ final effects, (a.updateDrifted working o).Runs (adapter Memory.answer) (cluster .willing) t
        (working, .ok (some a.pollInterval)) final effects ∧
      final.At R now (Memory.granted objects working.params) ∧
        (K.project working.params r = r → effects = []) := by
  rw [portable.check_eq] at checked
  unfold Applying.updateDrifted
  by_cases same : K.project working.params r = r
  · rw [if_pos (by rw [checked, decide_eq_true same]), Memory.granted_eq_self there same]
    exact ⟨t, [], .done _, h, fun _ => rfl⟩
  · rw [if_neg (by simp [checked, same])]
    obtain ⟨final, effects, put, done⟩ := runs_putting serves working working .update
      (Applying.updated K) (some a.pollInterval) h
    exact ⟨final, effects, put, done, fun eq => absurd eq same⟩

theorem runs_persistStatus (working : Declaration K) {now : Declaration K}
    {status : Status K.Observation} (named : working.metadata.nameText ≠ "")
    (told : working.status = some status) (said : status.conditions ≠ [])
    (h : t.At R now objects) (same : now.status = d.status)
    (extended : R.record.Extends d.statusOrBlank.atProvider status.atProvider) :
    ∃ final effects, (Applying.persistStatus d working).Runs
        (adapter Memory.answer) (cluster .willing) t (.ok ()) final effects ∧
      final.At R { now with status := some status } objects ∧
        (d.status = some status → effects = []) := by
  unfold Applying.persistStatus
  rw [told]
  by_cases eq : d.status = some status
  · rw [if_pos eq.symm, ← eq, ← same]
    exact ⟨t, [], .done _, h, fun _ => rfl⟩
  · rw [if_neg fun there => eq there.symm, Persist.status, told]
    refine ⟨_, _, Persist.runs_named named (.status working status), ?_,
      fun there => absurd there eq⟩
    rw [Declaration.statusOrBlank, ← same] at extended
    exact ⟨h.spells.patch working said extended, h.plain, h.objects⟩

/-! ## Applying -/

/-- A round with an object: declaration and object are brought together, and where they agree
already the object is only looked at. -/
theorem runs_apply_met (serves : a.refusal = none) (portable : K.Portable) (lawful : K.Lawful)
    (named : d.metadata.nameText ≠ "") {r : K.Remote} (there : objects d.identity = some r)
    (h : t.At R d objects) :
    ∃ final effects, (a.apply d).Runs (adapter Memory.answer) (cluster .willing) t
        (.ok (some a.pollInterval)) final effects ∧
      final.At R (d.met r) (Memory.granted objects (d.met r).params) ∧
        (d.Rests r → effects = [.call (.get d.identity) (.ok r)]) := by
  obtain ⟨t₁, observed, h₁⟩ := runs_observe serves h
  rw [there] at observed
  obtain ⟨t₂, e₂, tookOver, h₂, quiet₂⟩ := runs_persistLateInit (r := r) named h₁
  have still : objects (Step.found d r).1.identity = some r := by
    rw [← there]
    exact congrArg objects (lawful.identity_lateInit d.params r)
  obtain ⟨t₃, e₃, updated, h₃, quiet₃⟩ :=
    runs_updateDrifted serves portable _ (Step.found d r).2 still rfl h₂
  obtain ⟨t₄, e₄, persisted, h₄, quiet₄⟩ := runs_persistStatus
    ((Step.found d r).1.withCondition .reconcileSuccess) (d := d) named rfl
    (Status.set_ne_nil _ _) h₃ rfl (R.extends_observe _ r)
  have converged : (a.converge d).Runs (adapter Memory.answer) (cluster .willing) t
      ((Step.found d r).1, .ok (some a.pollInterval)) t₃
      (.call (.get d.identity) (.ok r) :: (e₂ ++ e₃)) :=
    observed.bind (tookOver.bind updated)
  refine ⟨t₄, _, converged.bind (persisted.map _), h₄, fun rests => ?_⟩
  rw [quiet₂ rests.lateInit, quiet₃ ?_, quiet₄ rests.report.symm]
  · rfl
  · show K.project (K.lateInit d.params r) r = r
    rw [rests.lateInit, rests.granted]

/-- A round without an object creates it. -/
theorem runs_apply_missing (serves : a.refusal = none) (lawful : K.Lawful)
    (named : d.metadata.nameText ≠ "") (absent : objects d.identity = none)
    (h : t.At R d objects) :
    ∃ final effects, (a.apply d).Runs (adapter Memory.answer) (cluster .willing) t
        (.ok (some Applying.createRequeue)) final effects ∧
      final.At R { d with status := some d.started } (Memory.granted objects d.params) := by
  obtain ⟨t₁, observed, h₁⟩ := runs_observe serves h
  rw [absent] at observed
  obtain ⟨t₂, e₂, created, h₂⟩ := runs_putting serves d (d.withCondition .creating) .create
    (Applying.created K) (some Applying.createRequeue) h₁
  have reported : R.record.Extends d.statusOrBlank.atProvider d.started.atProvider := by
    have seen := R.extends_observe d.statusOrBlank.atProvider K.blank
    rwa [lawful.observe_blank] at seen
  obtain ⟨t₃, e₃, persisted, h₃, -⟩ := runs_persistStatus
    ((d.withCondition .creating).withCondition .reconcileSuccess) (d := d) named rfl
    (Status.set_ne_nil _ _) h₂ rfl reported
  have converged : (a.converge d).Runs (adapter Memory.answer) (cluster .willing) t
      (d.withCondition .creating, .ok (some Applying.createRequeue)) t₂
      (.call (.get d.identity) (.error (Memory.missing d.identity)) :: e₂) :=
    observed.bind (.bind (.done ()) created)
  exact ⟨t₃, _, converged.bind (persisted.map _), h₃⟩

end Parts

/-! ## A round -/

variable {k : KindName} {s : Controller} {R : k.kind.Reporting}
variable {t : Trial k.kind (Memory k.kind)} {d : Declaration k.kind}
variable {objects : k.kind.Identity → Option k.kind.Remote}

/-- A declaration that the operator applies is applied in its round, and nothing else is done. -/
theorem At.tick_of_runs (h : t.At R d objects) (active : d.IsActive)
    {result : Except OperatorError Requeue} {final : Trial k.kind (Memory k.kind)}
    {effects : List (Effect k.kind)}
    (runs : (s.apply d).Runs (adapter Memory.answer) (cluster .willing) t result final effects) :
    t.tick s Memory.answer .willing = (effects, final) := by
  have reconciled := runs.map fun result =>
    result.mapError fun e => OperatorError.finalizer (.applyFailed e)
  rw [← Controller.reconcile_eq_apply s active.guarded active.alive] at reconciled
  exact tick_eq h.spells.read reconciled

/-- The trial is at a declaration, to be applied, that asks for that object and agrees with it. -/
def Rested (R : k.kind.Reporting) (id : k.kind.Identity) (t : Trial k.kind (Memory k.kind)) :
    Prop :=
  ∃ d objects r, t.At R d objects ∧ d.IsActive ∧ d.identity = id ∧ objects id = some r ∧ d.Rests r

theorem rested_tick_of_found (serves : k = s.client) (portable : k.kind.Portable)
    (active : d.IsActive) {r : k.kind.Remote} (there : objects d.identity = some r)
    (h : t.At R d objects) : Rested R d.identity (t.tick s Memory.answer .willing).2 := by
  obtain ⟨final, _, runs, met, -⟩ := runs_apply_met (Controller.refusal_eq_none serves) portable
    k.lawful active.named there h
  rw [h.tick_of_runs active runs]
  have same := Declaration.identity_met k.lawful d r
  refine ⟨d.met r, _, _, met, ⟨active.guarded, active.alive, active.named⟩, same, ?_,
    Declaration.met_rests k.lawful d r⟩
  have granted := Memory.granted_identity objects (d.met r).params
  rw [show k.kind.identity (d.met r).params = d.identity from same, there] at granted
  exact granted

/-- A round without an object leads to one that is there. -/
theorem found_tick_of_missing (serves : k = s.client) (active : d.IsActive)
    (absent : objects d.identity = none) (h : t.At R d objects) :
    ∃ next later r, (t.tick s Memory.answer .willing).2.At R next later ∧ next.IsActive ∧
      next.identity = d.identity ∧ later next.identity = some r := by
  obtain ⟨final, _, runs, started⟩ := runs_apply_missing (Controller.refusal_eq_none serves)
    k.lawful active.named absent h
  rw [h.tick_of_runs active runs]
  exact ⟨_, _, _, started, ⟨active.guarded, active.alive, active.named⟩, rfl,
    Memory.granted_identity objects d.params⟩

theorem Rested.tick (serves : k = s.client) (portable : k.kind.Portable) {id : k.kind.Identity}
    (h : Rested R id t) :
    Rested R id (t.tick s Memory.answer .willing).2 ∧
      ∃ declared r, t.stored.read = .ok declared ∧ declared.identity = id ∧
        t.remote.objects id = some r ∧ k.IsGranted declared.params r ∧
        Drift.check k.kind declared.params r = ⟨true, none⟩ ∧
        (t.tick s Memory.answer .willing).1 = [.call (.get id) (.ok r)] ∧
        (t.tick s Memory.answer .willing).2.stored = t.stored ∧
        (t.tick s Memory.answer .willing).2.remote.objects = t.remote.objects := by
  obtain ⟨d, objects, r, h, active, rfl, there, rests⟩ := h
  obtain ⟨final, effects, runs, met, quiet⟩ := runs_apply_met
    (Controller.refusal_eq_none serves) portable k.lawful active.named there h
  rw [rests.met, Memory.granted_eq_self there rests.granted] at met
  rw [h.tick_of_runs active runs]
  refine ⟨⟨d, objects, r, met, active, rfl, there, rests⟩, d, r, h.spells.read, rfl, ?_, ?_, ?_,
    quiet rests, ?_, ?_⟩
  · rw [h.objects, there]
  · exact ((KindName.project_eq_self_iff _ r).mp rests.granted).1
  · rw [portable.check_eq, decide_eq_true rests.granted]
  · rw [stored_of_runs runs, quiet rests]
    rfl
  · rw [met.objects, h.objects]

theorem Rested.after (serves : k = s.client) (portable : k.kind.Portable) {id : k.kind.Identity}
    (h : Rested R id t) (n : Nat) : Rested R id (t.after s Memory.answer .willing n) := by
  induction n generalizing t with
  | zero => exact h
  | succ n ih => exact ih (h.tick serves portable).1

/-- However the trial begins, it is at rest after two rounds. -/
theorem rested_after_two (serves : k = s.client) (portable : k.kind.Portable) (active : d.IsActive)
    (h : t.At R d objects) : Rested R d.identity (t.after s Memory.answer .willing 2) := by
  cases there : objects d.identity with
  | some r => exact ((rested_tick_of_found serves portable active there h).tick serves portable).1
  | none =>
      obtain ⟨next, later, r, h, active, same, found⟩ :=
        found_tick_of_missing serves active there h
      rw [← same]
      exact rested_tick_of_found serves portable active found h

theorem after_add {σ : Type} (remote : Adapter k.kind σ) (verdict : Verdict k.kind) (m n : Nat)
    (t : Trial k.kind σ) :
    t.after s remote verdict (m + n) = (t.after s remote verdict m).after s remote verdict n := by
  induction m generalizing t with
  | zero => rw [Nat.zero_add, after]
  | succ m ih =>
      rw [Nat.succ_add]
      exact ih _

/-- Whatever a declaration and the objects in memory are at first: from the third round on, every
round looks at the object and does nothing else, nothing changes any more, and the object is as the
declaration wants it. -/
theorem tick_after_two_add (managed : k ∈ KindName.managed) (serves : k = s.client)
    (d : Declaration k.kind) (active : d.IsActive) (m : Memory k.kind) (plain : m.IsPlain)
    (n : Nat) :
    let now := (Trial.start d m).after s Memory.answer .willing (2 + n)
    let round := now.tick s Memory.answer .willing
    ∃ declared r, now.stored.read = .ok declared ∧ declared.identity = d.identity ∧
      now.remote.objects d.identity = some r ∧ k.IsGranted declared.params r ∧
      Drift.check k.kind declared.params r = ⟨true, none⟩ ∧
      round.1 = [.call (.get d.identity) (.ok r)] ∧
      round.2.stored = now.stored ∧ round.2.remote.objects = now.remote.objects := by
  have portable := KindName.portable managed
  have start : (Trial.start d m).At (KindName.reporting managed) d m.objects :=
    ⟨Stored.ofDeclaration_spells _ d, plain, rfl⟩
  intro now round
  have rested : Rested (KindName.reporting managed) d.identity now := by
    rw [show now = _ from after_add Memory.answer .willing 2 n _]
    exact (rested_after_two serves portable active start).after serves portable n
  exact (rested.tick serves portable).2

def greeting : Declaration KindName.keyValue.kind where
  metadata := { Metadata.blank with name := some "greeting", finalizers := some [finalizerName] }
  spec := ⟨⟨"store", "greeting", "", "hello", .unset, .empty, .unset⟩, .delete⟩
  status := none

theorem tick_after_two_add_greeting :
    let s : Controller := ⟨.keyValue, 60, 10⟩
    let now := (Trial.start greeting .empty).after s Memory.answer .willing 2
    greeting.IsActive ∧ Memory.IsPlain (K := KindName.keyValue.kind) .empty ∧
      ∃ r, (now.tick s Memory.answer .willing).1 = [.call (.get greeting.identity) (.ok r)] := by
  intro s now
  have active : greeting.IsActive := ⟨by decide, rfl, by decide⟩
  have plain : Memory.IsPlain (K := KindName.keyValue.kind) .empty := ⟨fun _ => rfl, fun _ _ => rfl⟩
  obtain ⟨_, r, _, _, _, _, _, round, _⟩ :=
    tick_after_two_add (s := s) (by decide) rfl greeting active .empty plain 0
  exact ⟨active, plain, r, round⟩

end Trial
end CloudReconcile
