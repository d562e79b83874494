import CloudReconcile.Proofs.Kinds.Laws
import CloudReconcile.Reconcile.Step

/-!
# A declaration meets its object

A round brings a declaration and its object together: the declaration takes over what it says
nothing about, the object is granted the wishes, and the status tells of it.  A second meeting
changes nothing.
-/

namespace CloudReconcile
namespace Declaration

variable {K : Kind}

/-- The status of a declaration after its object was found. -/
def report (d : Declaration K) (r : K.Remote) : Status K.Observation :=
  let status := d.statusOrBlank.set .available
  Status.set { status with atProvider := K.observe status.atProvider r } .reconcileSuccess

/-- A declaration after its object was found. -/
def met (d : Declaration K) (r : K.Remote) : Declaration K :=
  { d.withParams (K.lateInit d.params r) with status := some (d.report r) }

def started (d : Declaration K) : Status K.Observation :=
  (d.statusOrBlank.set .creating).set .reconcileSuccess

/-- A declaration and its object agree: a round would change neither. -/
structure Rests (d : Declaration K) (r : K.Remote) : Prop where
  met : d.met r = d
  granted : K.project d.params r = r

theorem Rests.lateInit {d : Declaration K} {r : K.Remote} (h : d.Rests r) :
    K.lateInit d.params r = d.params :=
  congrArg params h.met

theorem Rests.report {d : Declaration K} {r : K.Remote} (h : d.Rests r) :
    some (d.report r) = d.status :=
  congrArg status h.met

theorem report_eq_self {d : Declaration K} {r : K.Remote} {status : Status K.Observation}
    (h : d.status = some status) (ready : status.condition? Condition.ready = some .available)
    (synced : status.condition? Condition.synced = some .reconcileSuccess)
    (observed : K.observe status.atProvider r = status.atProvider) : d.report r = status := by
  have available : status.set .available = status := Status.set_of_condition? ready
  rw [report, statusOrBlank_of_told h, available, observed]
  exact Status.set_of_condition? synced

theorem met_eq_self {d : Declaration K} {r : K.Remote} (taken : K.lateInit d.params r = d.params)
    (told : d.status = some (d.report r)) : d.met r = d := by
  rw [met, taken, ← told]
  rfl

/-- A declaration that has met its object, and the object with the wishes granted, agree. -/
theorem met_rests (lawful : K.Lawful) (d : Declaration K) (r : K.Remote) :
    (d.met r).Rests (K.project (d.met r).params r) := by
  have taken : K.lateInit (d.met r).params (K.project (d.met r).params r) = (d.met r).params :=
    lawful.lateInit_project d.params r
  have told : (d.met r).report (K.project (d.met r).params r) = d.report r := by
    refine report_eq_self rfl ?_ (Status.condition?_set_self _ _) ?_
    · rw [report, Status.condition?_set_of_ne _ (by decide)]
      exact Status.condition?_set_self _ .available
    · rw [lawful.observe_project]
      exact lawful.observe_observe _ r
  exact ⟨met_eq_self taken (congrArg some told.symm), lawful.project_project _ r⟩

theorem identity_met (lawful : K.Lawful) (d : Declaration K) (r : K.Remote) :
    (d.met r).identity = d.identity := lawful.identity_lateInit d.params r

end Declaration
end CloudReconcile
