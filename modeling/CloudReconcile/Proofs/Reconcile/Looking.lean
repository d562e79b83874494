import CloudReconcile.Proofs.Kinds.Retaking
import CloudReconcile.Proofs.Reconcile.Crowd

/-!
# Looking again

A look that finds an object takes over what the declaration says nothing about, and tells in the
status what there is to see.  As long as the same object is found, looking again changes nothing and
finds out the same, except that there is nothing left to take over.
-/

namespace CloudReconcile

variable {K : Kind} {σ : Type}

namespace Declaration

theorem withCondition_eq_self {d : Declaration K} {status : Status K.Observation} {c : Condition}
    (told : d.status = some status) (there : status.condition? c.type = some c) :
    d.withCondition c = d := by
  rw [withCondition, statusOrBlank_of_told told, Status.set_of_condition? there, ← told]

end Declaration

namespace Step

/-- A declaration that has taken over what there is, and tells so, is not changed by finding the
object. -/
theorem found_eq_self {d : Declaration K} {r : K.Remote} {status : Status K.Observation}
    (taken : K.lateInit d.params r = d.params) (told : d.status = some status)
    (ready : status.condition? Condition.ready = some .available)
    (observed : K.observe status.atProvider r = status.atProvider) :
    found d r = (d, ⟨true, (Drift.check K d.params r).upToDate, false⟩) := by
  have available : d.withCondition .available = d := Declaration.withCondition_eq_self told ready
  have params : d.withParams d.params = d := rfl
  have same : d.statusOrBlank = status := Declaration.statusOrBlank_of_told told
  simp only [found, taken, params, available, same, observed, ne_eq, not_true_eq_false,
    decide_false]
  rw [← told]

/-- What a look found out, once there is nothing left to take over. -/
theorem found_found (lawful : K.Lawful) (steady : K.Steady) (d : Declaration K) (r : K.Remote) :
    found (found d r).1 r =
      ((found d r).1, { (found d r).2 with lateInitialized := false }) := by
  have taken : K.lateInit (found d r).1.params r = (found d r).1.params :=
    steady.lateInit_lateInit d.params r
  have ready : (d.statusOrBlank.set .available).condition? Condition.ready = some .available :=
    Status.condition?_set_self _ .available
  exact found_eq_self taken rfl ready (lawful.observe_observe _ r)

end Step

/-- The object that a look got for an answer. -/
def Report.fetched? : Report K → Option K.Remote
  | ⟨.get _, .ok r, _⟩ => some r
  | _ => none

namespace Errand

theorem run_of_fetched {adapter : Adapter K σ} {d : Declaration K} {s : σ} {r : K.Remote}
    (fetched : (observe.run adapter (d, s)).1.fetched? = some r) :
    (observe.run adapter (d, s)).1.outcome = .ok (some (Step.found d r).2) ∧
      (observe.run adapter (d, s)).2.1 = (Step.found d r).1 := by
  rcases answered : adapter (.get d.identity) s with ⟨answer, now⟩
  rw [run_of_answer (e := .observe) answered] at fetched ⊢
  cases answer with
  | error e => cases fetched
  | ok seen =>
      obtain rfl : seen = r := Option.some.inj fetched
      exact ⟨rfl, rfl⟩

/-- Looks at an object that do not change the declaration all find out the same. -/
theorem runAll_looks {adapter : Adapter K σ} {d : Declaration K} {r : K.Remote} {o : Observation}
    (rests : Step.found d r = (d, o)) (n : Nat) (s : σ)
    (fetched : ∀ report ∈ (runAll adapter (List.replicate n .observe) (d, s)).1,
      report.fetched? = some r) :
    (runAll adapter (List.replicate n .observe) (d, s)).1.map (·.outcome) =
        List.replicate n (.ok (some o)) ∧
      (runAll adapter (List.replicate n .observe) (d, s)).2.1 = d := by
  induction n generalizing s with
  | zero => exact ⟨rfl, rfl⟩
  | succ n ih =>
      obtain ⟨outcome, same⟩ := run_of_fetched (fetched _ List.mem_cons_self)
      rw [rests] at outcome same
      have next : (observe.run adapter (d, s)).2 = (d, (observe.run adapter (d, s)).2.2) :=
        Prod.ext same rfl
      have later := ih (observe.run adapter (d, s)).2.2
      rw [← next] at later
      obtain ⟨outcomes, final⟩ := later fun report there =>
        fetched report (List.mem_cons_of_mem _ there)
      exact ⟨List.cons_eq_cons.mpr ⟨outcome, outcomes⟩, final⟩

/-- After one look that found an object, any number of looks that find the same object leave the
declaration exactly as it is, and find out what the first one did, except that nothing is taken over
any more.  If the first one took nothing over either, there is no difference at all. -/
theorem runAll_observe_replicate {k : KindName} (adapter : Adapter k.kind σ)
    (d : Declaration k.kind) (s : σ) (r : k.kind.Remote) (n : Nat) :
    let first := observe.run adapter (d, s)
    let further := runAll adapter (List.replicate n .observe) first.2
    first.1.fetched? = some r → (∀ report ∈ further.1, report.fetched? = some r) →
      further.2.1 = first.2.1 ∧
        ∃ o, first.1.outcome = .ok (some o) ∧ o.present = true ∧
          further.1.map (·.outcome) =
            List.replicate n (.ok (some { o with lateInitialized := false })) ∧
          (o.lateInitialized = false → ∀ report ∈ further.1, report.outcome = first.1.outcome) := by
  intro first further found again
  obtain ⟨outcome, after⟩ := run_of_fetched found
  have rests := Step.found_found k.lawful k.steady d r
  rw [← after] at rests
  obtain ⟨outcomes, final⟩ := runAll_looks rests n first.2.2 again
  refine ⟨final, _, outcome, rfl, outcomes, fun nothing report there => ?_⟩
  have same : { (Step.found d r).2 with lateInitialized := false } = (Step.found d r).2 := by
    rw [← nothing]
  have mem : report.outcome ∈ further.1.map (·.outcome) := List.mem_map_of_mem there
  rw [show further.1.map (·.outcome) = _ from outcomes, same] at mem
  rw [List.eq_of_mem_replicate mem]
  exact outcome.symm

/-- A secret of whose attributes nothing is said, with a status that somebody has written into. -/
def scribbled : Declaration KindName.vaultSecret.kind :=
  .ofSpec ⟨(⟨"ops", "db", "v", .unset, .unset, .empty⟩ : VaultSecret.Params), .delete⟩
    (some ⟨[.creating, ⟨"Backup", "True", "Nightly", none⟩, .deleting],
      VaultSecret.Observation.unseen⟩)

/-- The first look takes over that the secret is enabled, and the two after it find nothing more to
do.  Only the first of the two conditions about readiness is replaced. -/
theorem runAll_observe_replicate_scribbled :
    let enabled := { VaultSecret.RemoteAttributes.blank with enabled := some true }
    let r := { VaultSecret.Remote.blank with attributes := some enabled, id := some "7" }
    let m : Memory KindName.vaultSecret.kind := Memory.empty.insert ⟨"ops", "db"⟩ r
    let first := observe.run Memory.answer (scribbled, m)
    let further := runAll Memory.answer (List.replicate 2 .observe) first.2
    first.1.fetched? = some r ∧ (∀ report ∈ further.1, report.fetched? = some r) ∧
      further.2.1 = first.2.1 ∧
      further.2.1.statusOrBlank.conditions =
        [.available, ⟨"Backup", "True", "Nightly", none⟩, .deleting] ∧
      ∃ o, o.lateInitialized = true ∧ first.1.outcome = .ok (some o) ∧
        further.1.map (·.outcome) =
          List.replicate 2 (.ok (some { o with lateInitialized := false })) := by
  intro enabled r m first further
  have found : first.1.fetched? = some r := rfl
  have again : ∀ report ∈ further.1, report.fetched? = some r := by
    intro report there
    have seen : report.fetched? ∈ further.1.map Report.fetched? := List.mem_map_of_mem there
    rw [show further.1.map Report.fetched? = List.replicate 2 (some r) from rfl] at seen
    exact List.eq_of_mem_replicate seen
  obtain ⟨final, o, outcome, -, outcomes, -⟩ :=
    runAll_observe_replicate (k := .vaultSecret) Memory.answer scribbled m r 2 found again
  refine ⟨found, again, final, ?_, o, ?_, outcome, outcomes⟩
  · rw [final]
    rfl
  · obtain rfl := Option.some.inj (Except.ok.inj outcome)
    rfl

end Errand
end CloudReconcile
