import CloudReconcile.Proofs.Kinds.Learning
import CloudReconcile.Proofs.Operator.Telling
import CloudReconcile.Proofs.Reconcile.Course
import CloudReconcile.Proofs.Reconcile.Crowd

/-!
# Reports record and decide nothing

Only looks add to the report of a declaration, and they take nothing back.  No step reads the status
to find out which call it makes or how it turns out, so declarations that differ in their status
only go the same way. -/

namespace CloudReconcile

namespace Errand

variable {K : Kind} {σ : Type}

/-- Nothing but the specification decides what an errand does and what it makes of the
specification. -/
theorem run_of_spec_eq (adapter : Adapter K σ) (e : Errand) (d d' : Declaration K)
    (same : d'.spec = d.spec) (s : σ) :
    (e.run adapter (d', s)).1 = (e.run adapter (d, s)).1 ∧
      (e.run adapter (d', s)).2.1.spec = (e.run adapter (d, s)).2.1.spec ∧
      (e.run adapter (d', s)).2.2 = (e.run adapter (d, s)).2.2 := by
  obtain ⟨metadata, spec, status⟩ := d
  obtain ⟨metadata', spec', status'⟩ := d'
  obtain rfl : spec' = spec := same
  cases e with
  | observe =>
      rcases answered : adapter (.get (K.identity spec'.forProvider)) s with ⟨result, now⟩
      rw [run_of_answer (e := .observe) (d := ⟨metadata, spec', status⟩) answered,
        run_of_answer (e := .observe) (d := ⟨metadata', spec', status'⟩) answered]
      cases result <;> exact ⟨rfl, rfl, rfl⟩
  | create => exact ⟨rfl, rfl, rfl⟩
  | update => exact ⟨rfl, rfl, rfl⟩
  | delete =>
      rcases answered : adapter (.delete (K.identity spec'.forProvider)) s with ⟨result, now⟩
      rw [run_of_answer (e := .delete) (d := ⟨metadata, spec', status⟩) answered,
        run_of_answer (e := .delete) (d := ⟨metadata', spec', status'⟩) answered]
      cases result <;> exact ⟨rfl, rfl, rfl⟩

theorem runAll_of_spec_eq (adapter : Adapter K σ) (errands : List Errand) (d d' : Declaration K)
    (same : d'.spec = d.spec) (s : σ) :
    (runAll adapter errands (d', s)).1 = (runAll adapter errands (d, s)).1 ∧
      (runAll adapter errands (d', s)).2.1.spec = (runAll adapter errands (d, s)).2.1.spec ∧
      (runAll adapter errands (d', s)).2.2 = (runAll adapter errands (d, s)).2.2 := by
  induction errands generalizing d d' s with
  | nil => exact ⟨rfl, same, rfl⟩
  | cons e rest ih =>
      obtain ⟨report, spec, remote⟩ := run_of_spec_eq adapter e d d' same s
      have next : (e.run adapter (d', s)).2 =
          ((e.run adapter (d', s)).2.1, (e.run adapter (d, s)).2.2) := Prod.ext rfl remote
      obtain ⟨reports, specs, final⟩ := ih _ _ spec (e.run adapter (d, s)).2.2
      rw [← next] at reports specs final
      exact ⟨List.cons_eq_cons.mpr ⟨report, reports⟩, specs, final⟩

end Errand

namespace Move

/-- Only a look that finds an object adds to the report. -/
theorem reported_take {K : Kind} (d : Declaration K) (m : Move K) :
    (take d m).reported = (found [m]).foldl K.observe d.reported := by
  cases m with
  | observe answer => cases answer <;> rfl
  | create answer => rfl
  | update answer => rfl
  | delete answer => cases answer <;> rfl

theorem reported_takeAll {K : Kind} (d : Declaration K) (moves : List (Move K)) :
    (takeAll d moves).reported = (found moves).foldl K.observe d.reported :=
  view_takeAll reported_take d moves

variable {k : KindName}

/-- Whatever was reported is reported after a move, member for member. -/
theorem members_take (d : Declaration k.kind) (m : Move k.kind) :
    (k.kind.observation.write d.reported).members ⊆
      (k.kind.observation.write (take d m).reported).members := by
  rw [reported_take]
  cases m with
  | observe answer =>
      cases answer with
      | error e => exact List.Subset.refl _
      | ok r =>
          by_cases managed : k ∈ KindName.managed
          · exact KindName.reported_observe managed d.reported r
          · obtain rfl : k = .probe := by cases k <;> simp [KindName.managed] at managed ⊢
            exact List.Subset.refl _
  | _ => exact List.Subset.refl _

/-- After any course the report holds what it held, and in each member that was open the first value
that the looks found.  No move takes a member back or changes it.  At any remote system a
declaration with another status makes the same calls with the same answers, its steps turn out the
same, and it ends with the same parameters. -/
theorem reported_takeAll_eq_learned (d : Declaration k.kind) (moves : List (Move k.kind)) :
    (takeAll d moves).reported = k.learned d.reported (found moves) ∧
      (∀ (now : Declaration k.kind) (m : Move k.kind),
        (k.kind.observation.write now.reported).members ⊆
          (k.kind.observation.write (take now m).reported).members) ∧
      ∀ {σ : Type} (adapter : Adapter k.kind σ) (errands : List Errand) (s : σ)
        (status : Option (Status k.kind.Observation)),
        let run := Errand.runAll adapter errands (d, s)
        let other := Errand.runAll adapter errands ({ d with status := status }, s)
        other.1 = run.1 ∧ other.2.1.params = run.2.1.params ∧ other.2.2 = run.2.2 := by
  have reported : (takeAll d moves).reported = k.learned d.reported (found moves) := by
    rw [reported_takeAll, k.foldl_observe]
  refine ⟨reported, members_take, fun adapter errands s status => ?_⟩
  obtain ⟨reports, specs, final⟩ :=
    Errand.runAll_of_spec_eq adapter errands d { d with status := status } rfl s
  exact ⟨reports, congrArg Spec.forProvider specs, final⟩

end Move
end CloudReconcile
