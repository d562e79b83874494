import CloudReconcile.Operator.Trial
import CloudReconcile.Proofs.Operator.Conduct
import CloudReconcile.Proofs.Operator.Spelling

/-!
# What a round records

A round writes back only what its look found: parameters that were taken over from there, and
reports of what there is to see.  So whichever of its writes are accepted, what is kept can be read,
and asks for what it asked for, with or without what was taken over.
-/

namespace CloudReconcile

variable {K : Kind}

namespace Declaration

/-- What the status reports about the object. -/
def reported (d : Declaration K) : K.Observation := d.statusOrBlank.atProvider

/-- What may be kept of a declaration during a round whose look found `seen`. -/
structure Follows (now d : Declaration K) (seen : Option K.Remote) : Prop where
  metadata : now.metadata = d.metadata
  spec : now.spec = d.spec ∨ ∃ r, seen = some r ∧ now.spec = (Step.found d r).1.spec
  reported : K.observe now.reported (seen.getD K.blank) = K.observe d.reported (seen.getD K.blank)

end Declaration

/-- What a round writes if its look finds `seen`. -/
def Effect.Records (d : Declaration K) (seen : Option K.Remote) : Effect K → Prop
  | .call (.get _) answer => answer.toOption = seen
  | .call _ _ => True
  | .write (.replace now) _ => ∃ r, seen = some r ∧ now.spec = (Step.found d r).1.spec
  | .write (.status _ status) _ =>
    status.conditions ≠ [] ∧ status.atProvider = K.observe d.reported (seen.getD K.blank)
  | .write (.finalizers ..) _ => False
  | .write (.publish ..) _ => True

/-! ## What is kept -/

namespace Stored

variable {R : K.Reporting} {kept : Stored K} {now d : Declaration K} {seen : Option K.Remote}

theorem Spells.accept (lawful : K.Lawful) (h : kept.Spells R now) (follows : now.Follows d seen)
    {w : Write K} {accepted : Bool} (recorded : Effect.Records d seen (.write w accepted)) :
    ∃ next, (kept.accept w).Spells R next ∧ next.Follows d seen := by
  cases w with
  | replace written =>
      exact ⟨_, h.replace written, follows.metadata, .inr recorded, follows.reported⟩
  | status about status =>
      obtain ⟨said, told⟩ := recorded
      refine ⟨_, h.patch about said ?_, follows.metadata, follows.spec, ?_⟩
      · rw [told, ← follows.reported]
        exact R.extends_observe _ _
      · show K.observe status.atProvider _ = _
        rw [told, lawful.observe_observe]
  | finalizers about change => exact recorded.elim
  | publish about event => exact ⟨now, h, follows⟩

theorem Spells.after (lawful : K.Lawful) (h : kept.Spells R now) (follows : now.Follows d seen)
    {effects : List (Effect K)} (recorded : ∀ e ∈ effects, e.Records d seen) :
    ∃ next, (kept.after effects).Spells R next ∧ next.Follows d seen := by
  refine Stored.after_preserves (P := fun kept => ∃ next, kept.Spells R next ∧ next.Follows d seen)
    (fun s w there ⟨now, h, follows⟩ => ?_) ⟨now, h, follows⟩
  exact h.accept lawful follows (recorded _ there)

end Stored

/-! ## What is written -/

namespace Applying

variable {a : Applying K} {d : Declaration K} {seen : Option K.Remote}

theorem putting_records {about working : Declaration K} {phase : Phase} {event : Event}
    {requeue : Requeue} :
    (a.putting about working phase event requeue).Only (Effect.Records d seen) :=
  putting_only (fun _ => trivial) fun _ => trivial

theorem putting_does {about working : Declaration K} {phase : Phase} {event : Event}
    {requeue : Requeue} {effects : List (Effect K)} {outcome : Outcome K Requeue}
    (h : (a.putting about working phase event requeue).Does effects outcome) :
    outcome.1 = about ∨ outcome.1 = working := by
  obtain ⟨first, ⟨d, result⟩, second, rfl, put, rest⟩ := h.of_bind
  have turned : d = about ∨ d = working := by
    rcases does_step put with ⟨result, -, turned⟩ | ⟨-, e, -, refused⟩
    · exact .inr (congrArg (·.1) turned)
    · exact .inl (congrArg (·.1) refused)
  cases result with
  | error e => rwa [rest.of_done.2]
  | ok _ =>
      obtain ⟨_, _, _, -, -, done⟩ := rest.of_bind
      rwa [done.of_done.2]

theorem updateDrifted_records {working : Declaration K} {o : Observation} :
    (a.updateDrifted working o).Only (Effect.Records d seen) := by
  unfold updateDrifted
  split
  · exact .done _
  · exact putting_records

theorem updateDrifted_does {o : Observation} {effects : List (Effect K)}
    {outcome : Outcome K Requeue} (h : (a.updateDrifted d o).Does effects outcome) :
    outcome.1 = d := by
  unfold updateDrifted at h
  split at h
  · exact congrArg (·.1) h.of_done.2
  · exact (putting_does h).elim id id

theorem createMissing_records : (a.createMissing d).Only (Effect.Records d seen) :=
  putting_records

theorem createMissing_does {effects : List (Effect K)} {outcome : Outcome K Requeue}
    (h : (a.createMissing d).Does effects outcome) : outcome.1.reported = d.reported := by
  rcases putting_does h with same | same
  · rw [same]
  · rw [same]
    rfl

/-- A round up to its conclusion records what its look found, and ends with a report of it. -/
theorem converge_records (lawful : K.Lawful) {effects : List (Effect K)}
    {outcome : Outcome K Requeue} (h : (a.converge d).Does effects outcome) :
    ∃ seen, (∀ e ∈ effects, e.Records d seen) ∧
      outcome.1.reported = K.observe d.reported (seen.getD K.blank) := by
  have unseen : K.observe d.reported K.blank = d.reported := lawful.observe_blank _
  obtain ⟨first, ⟨working, result⟩, second, rfl, observed, rest⟩ := h.of_bind
  rcases does_step observed with ⟨answer, rfl, turned⟩ | ⟨rfl, e, -, refused⟩
  · cases answer with
    | ok r =>
        have looked : Effect.Records d (some r) (.call (Step.observe d).call (.ok r)) := rfl
        obtain ⟨rfl, rfl⟩ := Prod.mk.inj turned
        obtain ⟨third, _, fourth, rfl, tookOver, updated⟩ := Program.Does.of_bind rest
        refine ⟨some r, ?_, congrArg Declaration.reported (updateDrifted_does updated)⟩
        have taken : ∀ e ∈ third, e.Records d (some r) :=
          persistLateInit_only (fun _ => ⟨r, rfl, rfl⟩) third _ tookOver
        have granted : ∀ e ∈ fourth, e.Records d (some r) :=
          updateDrifted_records fourth outcome updated
        simpa [or_imp, forall_and] using ⟨looked, taken, granted⟩
    | error e =>
        have looked : Effect.Records d none (.call (Step.observe d).call (.error e)) := rfl
        refine ⟨none, ?_⟩
        cases missing : e.isNotFound with
        | true =>
            obtain ⟨rfl, rfl⟩ := Prod.mk.inj (turned.trans (Step.observe_missing d missing)).symm
            obtain ⟨third, _, fourth, rfl, tookOver, created⟩ := Program.Does.of_bind rest
            obtain rfl : third = [] := (Program.Does.of_done tookOver).1
            have put : ∀ e ∈ fourth, e.Records d none :=
              createMissing_records fourth outcome created
            exact ⟨by simpa using ⟨looked, put⟩, (createMissing_does created).trans unseen.symm⟩
        | false =>
            obtain ⟨rfl, rfl⟩ := Prod.mk.inj (turned.trans (Step.observe_failed d missing)).symm
            obtain ⟨rfl, rfl⟩ := Program.Does.of_done rest
            exact ⟨by simpa using looked, unseen.symm⟩
  · obtain ⟨rfl, rfl⟩ := Prod.mk.inj refused
    obtain ⟨rfl, rfl⟩ := Program.Does.of_done rest
    exact ⟨none, fun e he => (List.not_mem_nil he).elim, unseen.symm⟩

theorem apply_records (lawful : K.Lawful) {effects : List (Effect K)}
    {result : Except OperatorError Requeue}
    (h : (a.apply d).Does effects result) : ∃ seen, ∀ e ∈ effects, e.Records d seen := by
  obtain ⟨first, ⟨working, outcome⟩, second, rfl, converged, concluded⟩ := h.of_bind
  obtain ⟨seen, recorded, reported⟩ := converge_records lawful converged
  have told : ∀ e ∈ second, e.Records d seen :=
    conclude_only (fun _ _ => ⟨Status.set_ne_nil _ _, reported⟩) (fun _ _ _ => trivial) second
      result concluded
  exact ⟨seen, fun e he => (List.mem_append.mp he).elim (recorded e) (told e)⟩

end Applying

namespace Trial

variable {k : KindName} {σ : Type} {R : k.kind.Reporting} {t : Trial k.kind σ}
variable {d : Declaration k.kind}

/-- Whatever the cluster accepts, a round records what its look found, and keeps at most that. -/
theorem tick_records (s : Controller) (remote : Adapter k.kind σ) (verdict : Verdict k.kind)
    (h : t.stored.Spells R d) (guarded : d.metadata.IsGuarded)
    (alive : d.metadata.isDeleted = false) :
    ∃ seen next, (∀ e ∈ (t.tick s remote verdict).1, e.Records d seen) ∧
      (t.tick s remote verdict).2.stored.Spells R next ∧ next.Follows d seen := by
  obtain ⟨result, final, effects, runs⟩ : ∃ result final effects,
      (s.reconcile d).Runs (adapter remote) (cluster verdict) t result final effects :=
    ⟨_, _, _, .of_trace _⟩
  have does := runs.does
  rw [Controller.reconcile_eq_apply s guarded alive] at does
  obtain ⟨applying, _, rest, rfl, applies, done⟩ := does.of_bind
  obtain rfl : rest = [] := done.of_done.1
  rw [List.append_nil] at runs
  obtain ⟨seen, recorded⟩ := Applying.apply_records k.lawful applies
  have kept : final.stored = t.stored.after applying := stored_of_runs runs
  obtain ⟨next, spells, follows⟩ := h.after k.lawful ⟨rfl, .inl rfl, rfl⟩ recorded
  rw [tick_eq h.read runs]
  exact ⟨seen, next, recorded, kept ▸ spells, follows⟩

end Trial
end CloudReconcile
