import CloudReconcile.Proofs.Operator.Conduct
import CloudReconcile.Proofs.Reconcile.Readiness

/-!
# When the comparison fails

To compare an object with what is wanted, it is written as JSON and read back, and so is the copy
with the wishes granted.  Each of these conversions can fail, depending on the kind.  Then the
object passes as up to date: the round goes on as if there were nothing to do, and no event is
published.
-/

namespace CloudReconcile

namespace Drift

variable {K : Kind} {p : K.Params} {r : K.Remote}

/-- One of the three conversions of a comparison fails. -/
inductive Fails (p : K.Params) (r : K.Remote) : Prop where
  | encode {reason : String} (failed : K.encode r = .error reason)
  | decode {v : Json.Value} {problem : Json.Problem} (encoded : K.encode r = .ok v)
      (failed : K.decode (.ofValue v) = .error problem)
  | project {v : Json.Value} {copy : K.Remote} {reason : String} (encoded : K.encode r = .ok v)
      (decoded : K.decode (.ofValue v) = .ok copy)
      (failed : K.encode (K.project p copy) = .error reason)

/-- The comparison, once the first two conversions have succeeded. -/
theorem compare_of_decoded {v : Json.Value} {copy : K.Remote} (encoded : K.encode r = .ok v)
    (decoded : K.decode (.ofValue v) = .ok copy) :
    compare K p r = (K.encode (K.project p copy)).map fun w => decide (w = v) := by
  rw [compare, encoded]
  show ((K.decode (.ofValue v)).mapError _ >>= _) = _
  rw [decoded]
  show (K.encode (K.project p copy) >>= _) = _
  cases K.encode (K.project p copy) <;> rfl

theorem exists_of_fails (h : Fails p r) : ∃ reason, compare K p r = .error reason := by
  cases h with
  | @encode reason failed =>
      refine ⟨reason, ?_⟩
      rw [compare, failed]
      rfl
  | @decode v problem encoded failed =>
      refine ⟨problem.message, ?_⟩
      rw [compare, encoded]
      show ((K.decode (.ofValue v)).mapError _ >>= _) = _
      rw [failed]
      rfl
  | @project v copy reason encoded decoded failed =>
      refine ⟨reason, ?_⟩
      rw [compare_of_decoded encoded decoded, failed]
      rfl

/-- If no conversion fails, the comparison looks at what they give. -/
theorem exists_of_not_fails (h : ¬ Fails p r) :
    ∃ v copy w, K.encode r = .ok v ∧ K.decode (.ofValue v) = .ok copy ∧
      K.encode (K.project p copy) = .ok w ∧ compare K p r = .ok (decide (w = v)) := by
  cases encoded : K.encode r with
  | error reason => exact absurd (.encode encoded) h
  | ok v =>
      cases decoded : K.decode (.ofValue v) with
      | error problem => exact absurd (.decode encoded decoded) h
      | ok copy =>
          cases projected : K.encode (K.project p copy) with
          | error reason => exact absurd (.project encoded decoded projected) h
          | ok w =>
              refine ⟨v, copy, w, rfl, decoded, projected, ?_⟩
              rw [compare_of_decoded encoded decoded, projected]
              rfl

theorem check_of_fails (h : Fails p r) :
    ∃ reason, check K p r = ⟨true, some ⟨K.name, reason⟩⟩ := by
  obtain ⟨reason, failed⟩ := exists_of_fails h
  exact ⟨reason, by rw [check, failed]⟩

/-- A probe with an undecodable mode is written, but cannot be read back. -/
example : check Probe.kind ⟨"p", "green"⟩ ⟨"undecodable"⟩ =
    ⟨true, some ⟨"Probe", "probe cannot be decoded"⟩⟩ := by decide +kernel

theorem check_of_not_fails (h : ¬ Fails p r) :
    ∃ v copy w, K.encode r = .ok v ∧ K.decode (.ofValue v) = .ok copy ∧
      K.encode (K.project p copy) = .ok w ∧ check K p r = ⟨decide (w = v), none⟩ := by
  obtain ⟨v, copy, w, encoded, decoded, projected, compared⟩ := exists_of_not_fails h
  exact ⟨v, copy, w, encoded, decoded, projected, by rw [check, compared]⟩

/-- A check carries an error just if one of the conversions fails. -/
theorem error_check_iff : (check K p r).error ≠ none ↔ Fails p r := by
  by_cases fails : Fails p r
  · obtain ⟨reason, checked⟩ := check_of_fails fails
    exact iff_of_true (by simp [checked]) fails
  · obtain ⟨v, copy, w, -, -, -, checked⟩ := check_of_not_fails fails
    exact iff_of_false (by simp [checked]) fails

/-- Otherwise its verdict is that granting the wishes leaves the JSON form as it is. -/
theorem upToDate_check_iff (h : ¬ Fails p r) :
    (check K p r).upToDate = true ↔ ∃ v copy, K.encode r = .ok v ∧
      K.decode (.ofValue v) = .ok copy ∧ K.encode (K.project p copy) = .ok v := by
  obtain ⟨v, copy, w, encoded, decoded, projected, checked⟩ := check_of_not_fails h
  rw [checked, decide_eq_true_iff]
  constructor
  · rintro rfl
    exact ⟨w, copy, encoded, decoded, projected⟩
  · rintro ⟨v', copy', encoded', decoded', projected'⟩
    obtain rfl := Except.ok.inj (encoded.symm.trans encoded')
    obtain rfl := Except.ok.inj (decoded.symm.trans decoded')
    exact Except.ok.inj (projected.symm.trans projected')

end Drift

/-! ## Applying -/

namespace Applying

variable {K : Kind} {a : Applying K} {d told : Declaration K} {effects : List (Effect K)}

theorem persistLateInit_does {o : Observation} {result : Unit}
    (h : (persistLateInit d o).Does effects result) :
    (∀ e ∈ effects, ∃ accepted, e = .write (.replace d) accepted) ∧
      (o.lateInitialized = true → d.metadata.nameText ≠ "" →
        ∃ accepted, .write (.replace d) accepted ∈ effects) := by
  unfold persistLateInit at h
  split at h
  · obtain ⟨written, _, rest, rfl, persisted, done⟩ := h.of_bind
    obtain ⟨replaced, _, more, rfl, named, mapped⟩ := Program.Does.of_bind persisted
    obtain ⟨rfl, -⟩ := Program.Does.of_done done
    obtain ⟨rfl, -⟩ := Program.Does.of_done mapped
    rcases Persist.does_named named with ⟨unnamed, rfl, -⟩ | ⟨accepted, rfl, -⟩
    · exact ⟨fun e there => (List.not_mem_nil there).elim, fun _ name => absurd unnamed name⟩
    · refine ⟨fun e there => ⟨accepted, by simpa using there⟩, fun _ _ => ⟨accepted, ?_⟩⟩
      exact List.mem_cons_self
  · rename_i same
    obtain ⟨rfl, -⟩ := h.of_done
    exact ⟨fun e there => (List.not_mem_nil there).elim, fun taken => absurd taken same⟩

/-- How a round ends that found an object and left it alone.  `told` is the declaration with the
status that the round worked on. -/
structure LeavesAlone (a : Applying K) (d told : Declaration K) (r : K.Remote)
    (effects : List (Effect K)) (result : Except OperatorError Requeue) : Prop where
  params : told.params = K.lateInit d.params r
  takenOver : told.params ≠ d.params → d.metadata.nameText ≠ "" →
    ∃ written accepted, .write (.replace written) accepted ∈ effects ∧
      written.params = told.params
  available : told.ready? = some ⟨"Ready", "True", "Available", none⟩ ∧ told.isAvailable = true
  synced : told.statusOrBlank.condition? "Synced" =
    some ⟨"Synced", "True", "ReconcileSuccess", none⟩
  calls : Effect.calls effects = [.call (.get d.identity) (.ok r)]
  events : Effect.events effects = []
  done : WrittenBack d told effects → result = .ok (some a.pollInterval)
  refused : ¬ WrittenBack d told effects → result = .error .cluster

/-- A round begins with a look.  If it finds an object whose comparison passes, what the object has
is taken over, and that is that. -/
theorem converge_passing (serves : a.refusal = none) {outcome : Outcome K Requeue}
    (h : (a.converge d).Does effects outcome) :
    ∃ answer rest, effects = .call (.get d.identity) answer :: rest ∧
      ∀ r, answer = .ok r → (Drift.check K (K.lateInit d.params r) r).upToDate = true →
        outcome = ((Step.found d r).1, .ok (some a.pollInterval)) ∧
          (persistLateInit (Step.found d r).1 (Step.found d r).2).Does rest () := by
  obtain ⟨first, seen, rest, rfl, looked, goes⟩ := h.of_bind
  obtain ⟨answer, rfl, rfl⟩ := does_step_of_serves serves looked
  refine ⟨answer, rest, rfl, fun r found passes => ?_⟩
  subst found
  obtain ⟨written, taken, last, rfl, persisted, goes⟩ := Program.Does.of_bind goes
  have finished : Program.Does (.done ((Step.found d r).1, .ok (some a.pollInterval)))
      last outcome := by
    rwa [if_pos rfl, updateDrifted, if_pos passes] at goes
  obtain ⟨rfl, rfl⟩ := finished.of_done
  rw [List.append_nil]
  exact ⟨rfl, persisted⟩

/-- The declaration that a round works on which leaves its object alone. -/
def settled (d : Declaration K) (r : K.Remote) : Declaration K :=
  (Step.found d r).1.withCondition .reconcileSuccess

theorem ready?_settled (d : Declaration K) (r : K.Remote) :
    (settled d r).ready? = some .available :=
  ((Step.found d r).1.ready?_withCondition_of_synced rfl).trans (d.ready?_found r)

/-- A round that finds an object whose comparison passes leaves the object alone. -/
theorem leavesAlone_of_passes (serves : a.refusal = none) {r : K.Remote}
    {result : Except OperatorError Requeue} {rest : List (Effect K)}
    (h : (a.apply d).Does (.call (.get d.identity) (.ok r) :: rest) result)
    (passes : (Drift.check K (K.lateInit d.params r) r).upToDate = true) :
    a.LeavesAlone d (settled d r) r (.call (.get d.identity) (.ok r) :: rest) result := by
  obtain ⟨before, ⟨working, outcome⟩, later, split, converged, concluded⟩ := h.of_bind
  obtain ⟨answer, written, rfl, passing⟩ := converge_passing serves converged
  obtain ⟨same, rfl⟩ := List.cons.inj split
  obtain rfl : .ok r = answer := eq_of_heq (Effect.call.inj same).2
  obtain ⟨turned, persisted⟩ := passing r rfl passes
  obtain ⟨rfl, rfl⟩ := Prod.mk.inj turned
  obtain ⟨patch, ended, last, rfl, patched, mapped⟩ := Program.Does.of_bind concluded
  obtain ⟨rfl, rfl⟩ := Program.Does.of_done mapped
  rw [List.append_nil]
  obtain ⟨replaces, replaced⟩ := persistLateInit_does persisted
  have patched : (persistStatus d (settled d r)).Does patch ended := patched
  have silent_patch : ∀ e ∈ patch, e.Silent := persistStatus_silent patch ended patched
  have silent : ∀ e ∈ written ++ patch, e.Silent := by
    intro e there
    rcases List.mem_append.mp there with there | there
    · obtain ⟨accepted, rfl⟩ := replaces e there
      trivial
    · exact silent_patch e there
  have unwritten : .write (.status (settled d r) (settled d r).statusOrBlank) true ∉
      .call (.get d.identity) (.ok r) :: written := by
    intro there
    rcases List.mem_cons.mp there with other | there
    · cases other
    · obtain ⟨accepted, other⟩ := replaces _ there
      cases other
  have back_iff :
      WrittenBack d (settled d r) (.call (.get d.identity) (.ok r) :: (written ++ patch)) ↔
        WrittenBack d (settled d r) patch := writtenBack_append_iff unwritten
  refine {
    params := rfl
    takenOver := ?takenOver
    available := ⟨ready?_settled d r, ?available⟩
    synced := Status.condition?_set_self _ .reconcileSuccess
    calls := ?calls
    events := ?events
    done := ?done
    refused := ?refused }
  case takenOver =>
    intro taken named
    have late : (Step.found d r).2.lateInitialized = true := decide_eq_true taken
    obtain ⟨accepted, there⟩ := replaced late named
    exact ⟨_, accepted, List.mem_cons_of_mem _ (List.mem_append_left _ there), rfl⟩
  case available =>
    exact (Declaration.isAvailable_of_ready? (ready?_settled d r)).trans rfl
  case calls =>
    show _ :: Effect.calls (written ++ patch) = _
    rw [Effect.calls_of_silent silent]
  case events =>
    show Effect.events (written ++ patch) = _
    exact Effect.events_of_silent silent
  case done =>
    intro back
    rcases persistStatus_does rfl patched with ⟨-, rfl, -⟩ | ⟨missing, -⟩
    · rfl
    · exact absurd (back_iff.mp back) missing
  case refused =>
    intro missing
    rcases persistStatus_does rfl patched with ⟨back, -⟩ | ⟨-, rfl, -⟩
    · exact absurd (back_iff.mpr back) missing
    · rfl

end Applying

/-- A comparison fails just if the object cannot be written, cannot be read back, or cannot be
written with the wishes granted, and then the object passes; otherwise it passes just if granting
the wishes leaves its JSON form as it is.  A round that finds an object whose comparison fails takes
over what the object has, counts it as available and itself as a success, and puts nothing. -/
theorem Drift.check_error_observations (K : Kind) :
    (∀ (p : K.Params) (r : K.Remote), ((check K p r).error ≠ none ↔ Fails p r) ∧
      ((check K p r).error ≠ none → (check K p r).upToDate = true) ∧
      ((check K p r).error = none → ((check K p r).upToDate = true ↔
        ∃ v copy, K.encode r = .ok v ∧ K.decode (.ofValue v) = .ok copy ∧
          K.encode (K.project p copy) = .ok v))) ∧
    (∀ (a : Applying K) (d : Declaration K) r rest result, a.refusal = none →
      (check K (K.lateInit d.params r) r).error ≠ none →
      (a.apply d).Does (.call (.get d.identity) (.ok r) :: rest) result →
      ∃ told, a.LeavesAlone d told r (.call (.get d.identity) (.ok r) :: rest) result) ∧
    ∀ (k : KindName) (s : Controller), k = s.client → ∀ d : Declaration k.kind,
      s.apply d = Applying.apply ⟨none, s.pollInterval⟩ d := by
  have passes {p : K.Params} {r : K.Remote} (failed : (check K p r).error ≠ none) :
      (check K p r).upToDate = true := by
    obtain ⟨reason, checked⟩ := check_of_fails (error_check_iff.mp failed)
    rw [checked]
  refine ⟨fun p r => ⟨error_check_iff, passes, fun fine => ?_⟩,
    fun a d r rest result serves failed h => ?_, fun k s serves d => ?_⟩
  · exact upToDate_check_iff fun fails => error_check_iff.mpr fails fine
  · exact ⟨_, Applying.leavesAlone_of_passes serves h (passes failed)⟩
  · show Applying.apply ⟨(s.applying k).refusal, s.pollInterval⟩ d = _
    rw [Controller.refusal_eq_none serves]

end CloudReconcile
