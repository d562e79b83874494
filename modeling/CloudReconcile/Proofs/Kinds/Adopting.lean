import CloudReconcile.Proofs.Kinds.Portable
import CloudReconcile.Proofs.Remote.Memory

/-!
# What was taken over asks for nothing new

A declaration takes over only what its object has already.  So what is written to the object, and
whether there is anything to write, are the same before and after.
-/

namespace CloudReconcile

theorem KeyValue.project_lateInit (p : Params) (r : Remote) :
    project (lateInit p r) r = project p r := by
  simp [project, lateInit, Field.project_lateInit]

theorem ServerConfiguration.project_lateInit (p : Params) (r : Remote) :
    project (lateInit p r) r = project p r := by
  simp [project, lateInit, Field.project_lateInit]

theorem Bucket.project_lateInit (p : Params) (r : Remote) :
    project (lateInit p r) r = project p r := by
  simp [project, lateInit, Field.project_lateInit]

namespace VaultSecret

theorem Attributes.project_lateInit (a : Attributes) (r : RemoteAttributes) :
    (a.lateInit r).project r = a.project r := by
  simp [project, lateInit, Field.project_lateInit]

theorem projectAttributes_lateInitAttributes (wanted : Field Attributes)
    (remote : Option RemoteAttributes) :
    projectAttributes (lateInitAttributes wanted remote) remote =
      projectAttributes wanted remote := by
  cases remote with
  | none => cases wanted <;> rfl
  | some r =>
      cases wanted with
      | empty => rfl
      | set a =>
          show projectAttributes (.set (a.lateInit r)) (some r) = _
          rw [projectAttributes_set, projectAttributes_set, Option.getD_some, a.project_lateInit]
      | unset =>
          by_cases bare : Attributes.blank.lateInit r = .blank
          · have same : lateInitAttributes .unset (some r) = .unset := if_pos bare
            rw [same]
          · -- Attributes that something was taken over from hold something, so they stay.
            have taken : lateInitAttributes .unset (some r) =
                .set (Attributes.blank.lateInit r) := if_neg bare
            have kept : (Attributes.blank.lateInit r).project r = r :=
              Attributes.blank.project_lateInit r
            have holds : r ≠ .blank := by
              rintro rfl
              exact bare Attributes.blank.lateInit_blank
            rw [taken, projectAttributes_set, Option.getD_some, kept, if_neg holds]
            rfl

theorem project_lateInit (p : Params) (r : Remote) : project (lateInit p r) r = project p r := by
  simp [project, lateInit, Field.project_lateInit, projectAttributes_lateInitAttributes]

end VaultSecret

/-- Granting what was taken over from an object grants no more than the declaration asked for. -/
theorem KindName.project_lateInit (k : KindName) (p : k.kind.Params) (r : k.kind.Remote) :
    k.kind.project (k.kind.lateInit p r) r = k.kind.project p r := by
  cases k with
  | keyValue => exact KeyValue.project_lateInit p r
  | vaultSecret => exact VaultSecret.project_lateInit p r
  | serverConfiguration => exact ServerConfiguration.project_lateInit p r
  | bucket => exact Bucket.project_lateInit p r
  | probe => rfl

theorem KindName.check_lateInit (k : KindName) (p : k.kind.Params) (r : k.kind.Remote) :
    Drift.check k.kind (k.kind.lateInit p r) r = Drift.check k.kind p r := by
  by_cases managed : k ∈ KindName.managed
  · rw [(KindName.portable managed).check_eq, (KindName.portable managed).check_eq,
      k.project_lateInit]
  · -- Probes need not survive the way through JSON, but take nothing over either.
    obtain rfl : k = .probe := by cases k <;> simp [KindName.managed] at managed ⊢
    rfl

/-- Taking over what an object has changes neither what the object becomes when the wishes are
granted, nor whether it has drifted.  A memory that holds the object answers the same and is left
the same, whether the parameters are put as they were written or with what was taken over. -/
theorem project_check_put_lateInit (k : KindName) (p : k.kind.Params) (r : k.kind.Remote) :
    let taken := k.kind.lateInit p r
    k.kind.project taken r = k.kind.project p r ∧
      Drift.check k.kind taken r = Drift.check k.kind p r ∧
      ∀ m : Memory k.kind,
        let holding := m.insert (k.kind.identity p) r
        Memory.answer (.put taken) holding = Memory.answer (.put p) holding := by
  intro taken
  refine ⟨k.project_lateInit p r, k.check_lateInit p r, fun m => ?_⟩
  refine Memory.answer_put_congr (k.lawful.identity_lateInit p r) ?_
  have there : (m.insert (k.kind.identity p) r).objects (k.kind.identity p) = some r := if_pos rfl
  rw [there]
  exact k.project_lateInit p r

end CloudReconcile
