import CloudReconcile.Proofs.Json.Sorting
import CloudReconcile.Proofs.Operator.Recording

/-!
# The status tells how a round went

A round tells in the status whether it converged, and why not if it did not.  It leaves alone what
others have said, and takes nothing back from a report.  So the status that is kept is the JSON of
that status as soon as it has been written back: a patch cannot take members away, but none would
have to go.
-/

namespace CloudReconcile

open Json (Codec Record Value)

/-! ## What a round does not touch -/

namespace Status

variable {ω : Type}

/-- The conditions that are not about readiness or the last reconciliation. -/
def others (s : Status ω) : List Condition :=
  s.conditions.filter fun c => c.type ≠ Condition.ready ∧ c.type ≠ Condition.synced

theorem others_set (s : Status ω) {c : Condition}
    (own : c.type = Condition.ready ∨ c.type = Condition.synced) : (s.set c).others = s.others := by
  refine filter_setIn (fun d same => ?_) s.conditions
  rw [same]
  rcases own with own | own <;> simp [own]

end Status

namespace Json.Record

variable {ρ α β : Type} {r s : ρ}

/-- All that is written of `r` is written of `s` as well. -/
def Keeps (record : Record ρ α) (r s : ρ) : Prop := record.write r ⊆ record.write s

namespace Keeps

theorem pure (a : α) : (Record.nothing (ρ := ρ) a).Keeps r s := List.Subset.refl _

theorem seq {f : Record ρ (α → β)} {x : Record ρ α} (hf : f.Keeps r s) (hx : x.Keeps r s) :
    (f <*> x).Keeps r s :=
  List.append_subset.mpr ⟨List.subset_append_of_subset_left _ hf,
    List.subset_append_of_subset_right _ hx⟩

theorem map {f : α → β} {x : Record ρ α} (hx : x.Keeps r s) : (f <$> x).Keeps r s :=
  (pure f).seq hx

theorem placed {key : String} {codec : Codec α} {get : ρ → Option α} {slot seen : Option α}
    (before : get r = slot) (after : get s = Status.fill slot seen) :
    (Record.placed key codec get).Keeps r s := by
  show (((get r).map codec.write).map fun v => (key, v)).toList ⊆
    (((get s).map codec.write).map fun v => (key, v)).toList
  rw [before, after]
  cases slot <;> simp [Status.fill]

end Keeps

end Json.Record

theorem KeyValue.keeps_observe (o : Observation) (r : Remote) :
    Observation.record.Keeps o (observe o r) :=
  .seq (.map (.placed rfl rfl)) (.placed rfl rfl)

theorem ServerConfiguration.keeps_observe (o : Observation) (r : Remote) :
    Observation.record.Keeps o (observe o r) :=
  .seq (.seq (.seq (.map (.placed rfl rfl)) (.placed rfl rfl)) (.placed rfl rfl)) (.placed rfl rfl)

theorem Bucket.keeps_observe (o : Observation) (r : Remote) :
    Observation.record.Keeps o (observe o r) :=
  .seq (.map (.placed rfl rfl)) (.placed rfl rfl)

theorem VaultSecret.keeps_observe (o : Observation) (r : Remote) :
    Observation.record.Keeps o (observe o r) :=
  .seq (.seq (.seq (.seq (.seq (.map (.placed rfl rfl)) (.placed rfl rfl)) (.placed rfl rfl))
    (.placed rfl rfl)) (.placed rfl rfl)) (.placed rfl rfl)

/-- A look at an object takes no value back that was reported before. -/
theorem KindName.reported_observe {k : KindName} (managed : k ∈ KindName.managed)
    (o : k.kind.Observation) (r : k.kind.Remote) :
    (k.kind.observation.write o).members ⊆
      (k.kind.observation.write (k.kind.observe o r)).members := by
  cases k with
  | keyValue => exact KeyValue.keeps_observe o r
  | vaultSecret => exact VaultSecret.keeps_observe o r
  | serverConfiguration => exact ServerConfiguration.keeps_observe o r
  | bucket => exact Bucket.keeps_observe o r
  | probe => exact absurd managed (by decide)

/-! ## What is kept of a status -/

namespace Declaration

variable {K : Kind}

/-- What is written of the status, if there is any. -/
def statusValue (d : Declaration K) : Value := (d.status.map K.status.write).getD .null

theorem keys_statusValue (R : K.Reporting) (d : Declaration K) :
    d.statusValue.members.map (·.1) ⊆ ["conditions", "atProvider"] := by
  cases read : d.status with
  | none => simp [statusValue, read, Value.members]
  | some st =>
      by_cases silent : st.conditions = [] <;>
        simp [statusValue, read, R.write_status, silent, Value.members]

theorem report_statusValue (R : K.Reporting) (d : Declaration K) :
    ((d.statusValue.members.lookup "atProvider").getD .null).members =
      R.record.write d.reported := by
  cases read : d.status with
  | none =>
      have unseen : d.reported = K.unseen := by rw [reported, statusOrBlank, read]; rfl
      rw [unseen, R.write_unseen]
      simp [statusValue, read, Value.members]
  | some st =>
      have same : d.reported = st.atProvider := by rw [reported, statusOrBlank_of_told read]
      by_cases silent : st.conditions = [] <;>
        simp [statusValue, read, R.write_status, silent, Value.members, same, List.lookup_cons]

end Declaration

namespace Stored

variable {K : Kind} {s : Stored K} {d told : Declaration K}

/-- The status that is kept is the JSON of the declaration's; both are missing or neither is. -/
def Tells (s : Stored K) (d : Declaration K) : Prop :=
  s.status.map Value.sorted = d.status.map fun status => (K.status.write status).sorted

instance : Decidable (s.Tells d) := inferInstanceAs (Decidable (_ = _))

theorem Tells.sorted_eq (h : s.Tells d) :
    (s.status.getD .null).sorted = d.statusValue.sorted := by
  rw [Value.sorted_getD_null, h, Declaration.statusValue, Value.sorted_getD_null, Option.map_map]
  rfl

/-- A status that says something and takes nothing back is kept as it is written. -/
theorem Tells.patch (R : K.Reporting) (h : s.Tells d) (about : Declaration K)
    {status : Status K.Observation} (now : told.status = some status)
    (said : status.conditions ≠ []) (extended : R.record.Extends d.reported status.atProvider) :
    (s.accept (.status about status)).Tells told := by
  have same := h.sorted_eq
  have report := Value.sorted_member_of_sorted_eq same "atProvider"
  suffices patched : ((s.status.getD .null).patched (K.status.write status)).sorted =
      (K.status.write status).sorted by
    rw [Tells, now]
    exact congrArg some patched
  rw [R.write_status, if_neg said]
  refine Value.sorted_patched ?_ ?_ fun change there => ?_
  · simp
  · exact List.Subset.trans (Value.keys_subset_of_sorted_eq same) (d.keys_statusValue R)
  · rcases List.mem_cons.mp there with rfl | there
    · exact ⟨fun null => (by cases null), rfl⟩
    · obtain rfl := List.mem_singleton.mp there
      refine ⟨fun null => (by cases null), Value.sorted_patched_of_isPlain
        (R.faithful.spelt_write R.distinct _).1 extended.plain ?_⟩
      have names := Value.keys_subset_of_sorted_eq report
      rw [d.report_statusValue R] at names
      exact List.Subset.trans names extended.grows

end Stored

/-! ## What a round writes of the status -/

/-- The effect leaves the status that is kept alone. -/
def Effect.SparesStatus {K : Kind} : Effect K → Prop
  | .write (.status ..) _ => False
  | _ => True

theorem Stored.after_append {K : Kind} (s : Stored K) (before later : List (Effect K)) :
    s.after (before ++ later) = (s.after before).after later := by
  induction before generalizing s with
  | nil => rfl
  | cons e before ih => rw [List.cons_append, after_cons, ih, ← after_cons]

theorem Stored.status_after {K : Kind} (s : Stored K) {effects : List (Effect K)}
    (spared : ∀ e ∈ effects, e.SparesStatus) : (s.after effects).status = s.status := by
  refine Stored.after_preserves (P := fun now => now.status = s.status)
    (fun now w there same => ?_) rfl
  rw [← same]
  cases w with
  | status d status => exact (spared _ there).elim
  | _ => rfl

namespace Applying

variable {K : Kind} {a : Applying K} {d told : Declaration K} {effects : List (Effect K)}

theorem putting_spares {about working : Declaration K} {phase : Phase} {event : Event}
    {requeue : Requeue} :
    (a.putting about working phase event requeue).Only Effect.SparesStatus :=
  putting_only (fun _ => trivial) fun _ => trivial

theorem converge_spares : (a.converge d).Only Effect.SparesStatus := by
  refine .bind (step_only fun _ => trivial) fun _ outcome _ => ?_
  obtain ⟨working, result⟩ := outcome
  cases result with
  | error e => exact .done _
  | ok o =>
      refine .bind (persistLateInit_only fun _ => trivial) fun _ _ _ => ?_
      split
      · unfold updateDrifted
        split
        · exact .done _
        · exact putting_spares
      · exact putting_spares

/-- The working declaration is the one that was read, whether or not it is being created, or what a
look has made of it. -/
theorem converge_does {outcome : Outcome K Requeue} (h : (a.converge d).Does effects outcome) :
    outcome.1 = d ∨ outcome.1 = d.withCondition .creating ∨
      ∃ r, outcome.1 = (Step.found d r).1 := by
  obtain ⟨first, ⟨working, result⟩, second, rfl, observed, rest⟩ := h.of_bind
  rcases does_step observed with ⟨answer, -, turned⟩ | ⟨-, e, -, refused⟩
  · cases answer with
    | ok r =>
        obtain ⟨rfl, rfl⟩ := Prod.mk.inj turned
        obtain ⟨_, _, _, -, -, updated⟩ := Program.Does.of_bind rest
        exact .inr (.inr ⟨r, updateDrifted_does updated⟩)
    | error e =>
        cases missing : e.isNotFound with
        | true =>
            obtain ⟨rfl, rfl⟩ := Prod.mk.inj (turned.trans (Step.observe_missing d missing))
            obtain ⟨_, _, _, -, -, created⟩ := Program.Does.of_bind rest
            have created : (a.createMissing working).Does _ outcome := created
            exact (putting_does created).imp id .inl
        | false =>
            obtain ⟨rfl, rfl⟩ := Prod.mk.inj (turned.trans (Step.observe_failed d missing))
            exact .inl (congrArg (·.1) (Program.Does.of_done rest).2)
  · obtain ⟨rfl, rfl⟩ := Prod.mk.inj refused
    exact .inl (congrArg (·.1) (Program.Does.of_done rest).2)

/-- Writing the status back makes it the one that is kept, if it is written back at all. -/
theorem persistStatus_keeps (R : K.Reporting) {kept : Stored K} (tells : kept.Tells d)
    {status : Status K.Observation} (now : told.status = some status)
    (said : status.conditions ≠ []) (extended : R.record.Extends d.reported status.atProvider)
    {written : Except OperatorError Unit} (h : (persistStatus d told).Does effects written) :
    WrittenBack d told effects ∧ (kept.after effects).Tells told ∧ written = .ok () ∨
      ¬ WrittenBack d told effects ∧ (kept.after effects).Tells d ∧ written = .error .cluster := by
  rcases persistStatus_does now h with
    ⟨back, rfl, ⟨unchanged, rfl⟩ | rfl⟩ | ⟨missing, rfl, rfl | rfl⟩
  · refine .inl ⟨back, ?_, rfl⟩
    rw [Stored.Tells, unchanged]
    exact tells
  · exact .inl ⟨back, tells.patch R told now said extended, rfl⟩
  · exact .inr ⟨missing, tells, rfl⟩
  · exact .inr ⟨missing, tells, rfl⟩

theorem conclude_does {working : Declaration K} {outcome : Except ManagedError Requeue}
    {result : Except OperatorError Requeue} (h : (conclude d working outcome).Does effects result) :
    ∃ before patch written, effects = before ++ patch ∧ (∀ e ∈ before, e.SparesStatus) ∧
      (persistStatus d (concluded working outcome)).Does patch written ∧
      match outcome with
      | .ok requeue => result = written.map fun _ => requeue
      | .error e => result = .error (.managed e) := by
  cases outcome with
  | ok requeue =>
      obtain ⟨patch, written, rest, rfl, persisted, done⟩ := h.of_bind
      obtain ⟨rfl, rfl⟩ := done.of_done
      exact ⟨[], patch, written, by simp, fun _ there => (List.not_mem_nil there).elim, persisted,
        rfl⟩
  | error e =>
      obtain ⟨first, _, second, rfl, published, rest⟩ := h.of_bind
      obtain ⟨patch, written, last, rfl, persisted, done⟩ := rest.of_bind
      obtain ⟨rfl, rfl⟩ := done.of_done
      obtain ⟨accepted, rfl⟩ := publish_does published
      refine ⟨_, patch, written, by rw [List.append_nil], fun e there => ?_, persisted, rfl⟩
      rw [List.mem_singleton.mp there]
      trivial

theorem others_converged {outcome : Outcome K Requeue}
    (h : (a.converge d).Does effects outcome) :
    outcome.1.statusOrBlank.others = d.statusOrBlank.others := by
  rcases converge_does h with same | same | ⟨r, same⟩
  · rw [same]
  · rw [same]
    exact Status.others_set d.statusOrBlank (.inl rfl)
  · rw [same]
    exact Status.others_set d.statusOrBlank (.inl rfl)

/-- How a round ends.  `told` is the declaration with the status that the round worked on, `kept`
what was kept of the declaration before. -/
structure Concludes (kept : Stored K) (d told : Declaration K)
    (outcome : Except ManagedError Requeue) (effects : List (Effect K))
    (result : Except OperatorError Requeue) : Prop where
  status : told.status = some told.statusOrBlank
  written : WrittenBack d told effects → (kept.after effects).Tells told
  refused : ¬ WrittenBack d told effects → (kept.after effects).Tells d
  success : ∀ requeue, outcome = .ok requeue →
    told.statusOrBlank.condition? "Synced" = some ⟨"Synced", "True", "ReconcileSuccess", none⟩ ∧
      (WrittenBack d told effects → result = .ok requeue) ∧
      (¬ WrittenBack d told effects → result = .error .cluster)
  failure : ∀ e, outcome = .error e → ∃ text, (OperatorError.managed e).message? = some text ∧
    told.statusOrBlank.condition? "Synced" =
      some ⟨"Synced", "False", "ReconcileError", some text⟩ ∧
      result = .error (.managed e)
  others : told.statusOrBlank.others = d.statusOrBlank.others
  reported : (K.observation.write d.reported).members ⊆
    (K.observation.write told.reported).members

end Applying

namespace Controller

open Applying (Concludes WrittenBack concluded conclusion)

variable {k : KindName} {s : Controller} {d : Declaration k.kind} {effects : List (Effect k.kind)}

/-- However looking, writing and creating or updating turn out: once the status is written back,
what is kept is its JSON.  It says whether the round converged, and if not in the words of the
failure that the round ends with.  Other conditions and all that was reported stay, and a status
that could not be written back counts only if nothing else failed. -/
theorem apply_concludes (managed : k ∈ KindName.managed) {kept : Stored k.kind}
    (tells : kept.Tells d) {result : Except OperatorError Requeue}
    (h : (s.apply d).Does effects result) :
    ∃ before later working outcome, effects = before ++ later ∧
      ((s.applying k).converge d).Does before (working, outcome) ∧
      Concludes kept d (concluded working outcome) outcome effects result := by
  obtain ⟨before, ⟨working, outcome⟩, later, rfl, converged, rest⟩ := h.of_bind
  obtain ⟨published, patch, written, rfl, spared, persisted, ended⟩ := Applying.conclude_does rest
  obtain ⟨seen, -, reported⟩ := Applying.converge_records k.lawful converged
  replace reported : working.reported = k.kind.observe d.reported (seen.getD k.kind.blank) :=
    reported
  refine ⟨before, published ++ patch, working, outcome, rfl, converged, ?_⟩
  have spared : ∀ e ∈ before ++ published, e.SparesStatus := fun e there =>
    (List.mem_append.mp there).elim (Applying.converge_spares before _ converged e) (spared e)
  have tells : (kept.after (before ++ published)).Tells d := by
    rw [Stored.Tells, kept.status_after spared]
    exact tells
  have extended : (KindName.reporting managed).record.Extends d.reported
      (working.statusOrBlank.set (conclusion outcome)).atProvider := by
    show (KindName.reporting managed).record.Extends d.reported working.reported
    rw [reported]
    exact (KindName.reporting managed).extends_observe _ _
  rw [← List.append_assoc]
  have synced := Status.condition?_set_self working.statusOrBlank (conclusion outcome)
  rw [Applying.conclusion_type] at synced
  -- What becomes of the patch settles what is kept and whether the round fails because of it.
  have settled := Applying.persistStatus_keeps (KindName.reporting managed) tells rfl
    (Status.set_ne_nil _ _) extended persisted
  have unwritten : ∀ told : Declaration k.kind,
      .write (.status told told.statusOrBlank) true ∉ before ++ published :=
    fun told there => spared _ there
  rw [← Stored.after_append, ← Applying.writtenBack_append_iff (unwritten _)] at settled
  refine ⟨rfl, ?_, ?_, ?_, ?_, ?_, ?_⟩
  · intro back
    rcases settled with ⟨-, tells, -⟩ | ⟨missing, -⟩
    · exact tells
    · exact absurd back missing
  · intro missing
    rcases settled with ⟨back, -⟩ | ⟨-, tells, -⟩
    · exact absurd back missing
    · exact tells
  · rintro requeue rfl
    refine ⟨synced, fun back => ?_, fun missing => ?_⟩
    · rcases settled with ⟨-, -, rfl⟩ | ⟨missing, -⟩
      · exact ended
      · exact absurd back missing
    · rcases settled with ⟨back, -⟩ | ⟨-, -, rfl⟩
      · exact absurd back missing
      · exact ended
  · rintro e rfl
    exact ⟨e.message, rfl, synced, ended⟩
  · exact (Status.others_set _ (.inr (Applying.conclusion_type outcome))).trans
      (Applying.others_converged converged)
  · show _ ⊆ (k.kind.observation.write working.reported).members
    rw [reported]
    exact KindName.reported_observe managed _ _

/-- A pair about which somebody else has said something, and which was looked at before. -/
def audited : Declaration KindName.keyValue.kind where
  metadata := { Metadata.blank with name := some "greeting" }
  spec := ⟨⟨"store", "greeting", "", "hello", .unset, .empty, .unset⟩, .delete⟩
  status := some ⟨[.make "Audited" true "Reviewed"], ⟨some "e1", none⟩⟩

/-- The same status, spelt in another order. -/
def auditedKept : Stored KindName.keyValue.kind where
  metadata := audited.metadata
  spec := audited.spec
  status := some (.object [
    ("atProvider", .object [("etag", .string "e1")]),
    ("conditions", .array [.object [
      ("reason", .string "Reviewed"), ("status", .string "True"), ("type", .string "Audited")]])])

/-- A remote system whose pair must not be changed. -/
def immutable : Adapter KindName.keyValue.kind Unit := fun c t =>
  match c with
  | .get _ => (.ok { KeyValue.Remote.blank with value := some "hi", etag := some "e2" }, t)
  | .put _ => (.error (.rejected 409 "read-only"), t)
  | .delete _ => (.ok (), t)

/-- The update is refused, so the status that is kept says so; the review and the first tag stay. -/
theorem apply_concludes_rejected :
    let round := ((Controller.mk .keyValue 60 10).apply audited).trace immutable
      (fun _ t => (true, t)) ()
    auditedKept.Tells audited ∧ ∃ told : Declaration KindName.keyValue.kind,
      (auditedKept.after round.2).Tells told ∧
      told.statusOrBlank.condition? "Synced" = some ⟨"Synced", "False", "ReconcileError",
        some "cannot update KeyValue: rejected by remote (409): read-only"⟩ ∧
      told.statusOrBlank.others = [.make "Audited" true "Reviewed"] ∧
      ("etag", Value.string "e1") ∈ (KeyValue.Observation.codec.write told.reported).members := by
  intro round
  have tells : auditedKept.Tells audited := by decide +kernel
  have failed : round.1.1 = .error (.managed
      (.remote .update "KeyValue" (.rejected 409 "read-only"))) := rfl
  have changed : ¬ (auditedKept.after round.2).Tells audited := by decide +kernel
  obtain ⟨_, _, working, outcome, -, -, ends⟩ :=
    apply_concludes (s := .mk .keyValue 60 10) (k := .keyValue) (by decide) tells
      (Program.does_trace immutable (fun _ t => (true, t)) _ ())
  have back : WrittenBack audited (concluded working outcome) round.2 :=
    Classical.byContradiction fun missing => changed (ends.refused missing)
  refine ⟨tells, concluded working outcome, ends.written back, ?_, ends.others, ends.reported ?_⟩
  · cases outcome with
    | ok requeue => exact absurd (failed.symm.trans ((ends.success _ rfl).2.1 back)) (by simp)
    | error e =>
        obtain ⟨text, said, synced, ended⟩ := ends.failure e rfl
        obtain rfl := OperatorError.managed.inj (Except.error.inj (failed.symm.trans ended))
        have words : text = "cannot update KeyValue: rejected by remote (409): read-only" :=
          (Option.some.inj said).symm.trans (by decide +kernel)
        rwa [words] at synced
  · exact List.mem_cons_self

end Controller

end CloudReconcile
