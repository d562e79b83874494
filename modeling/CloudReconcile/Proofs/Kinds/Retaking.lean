import CloudReconcile.Proofs.Kinds.Laws

/-!
# Taking over again

Taking over once more changes nothing.  And a declaration that has forgotten what it took over takes
over the same again, from the object as it was and from the one that its wishes were granted on.
-/

namespace CloudReconcile

/-- What is taken over does not depend on whether it was remembered. -/
structure Kind.Steady (K : Kind) : Prop where
  lateInit_lateInit : ∀ p r, K.lateInit (K.lateInit p r) r = K.lateInit p r
  lateInit_granted : ∀ p r, K.lateInit p (K.project (K.lateInit p r) r) = K.lateInit p r

theorem KeyValue.kind_steady : kind.Steady where
  lateInit_lateInit p r := by simp [kind, lateInit]
  lateInit_granted p r := by simp [kind, lateInit, project]

theorem ServerConfiguration.kind_steady : kind.Steady where
  lateInit_lateInit p r := by simp [kind, lateInit]
  lateInit_granted p r := by simp [kind, lateInit, project]

theorem Bucket.kind_steady : kind.Steady where
  lateInit_lateInit p r := by simp [kind, lateInit]
  lateInit_granted p r := by simp [kind, lateInit, project]

theorem Probe.kind_steady : kind.Steady where
  lateInit_lateInit _ _ := rfl
  lateInit_granted _ _ := rfl

namespace VaultSecret

@[simp] theorem Attributes.lateInit_lateInit (a : Attributes) (r : RemoteAttributes) :
    (a.lateInit r).lateInit r = a.lateInit r := by
  simp [lateInit]

theorem Attributes.lateInit_granted (a : Attributes) (r : RemoteAttributes) :
    a.lateInit ((a.lateInit r).project r) = a.lateInit r := by
  simp [lateInit, project]

theorem lateInitAttributes_unset_of_ne {r : RemoteAttributes}
    (shows : Attributes.blank.lateInit r ≠ .blank) :
    lateInitAttributes .unset (some r) = .set (Attributes.blank.lateInit r) := if_neg shows

theorem lateInitAttributes_lateInitAttributes (wanted : Field Attributes)
    (remote : Option RemoteAttributes) :
    lateInitAttributes (lateInitAttributes wanted remote) remote =
      lateInitAttributes wanted remote := by
  cases remote with
  | none => cases wanted <;> rfl
  | some r =>
      cases wanted with
      | empty => rfl
      | set a => exact congrArg Field.set (a.lateInit_lateInit r)
      | unset =>
          by_cases bare : Attributes.blank.lateInit r = .blank
          · have same : lateInitAttributes .unset (some r) = .unset := if_pos bare
            rw [same, same]
          · rw [lateInitAttributes_unset_of_ne bare]
            exact congrArg Field.set (Attributes.blank.lateInit_lateInit r)

theorem lateInitAttributes_granted (wanted : Field Attributes)
    (remote : Option RemoteAttributes) :
    lateInitAttributes wanted (projectAttributes (lateInitAttributes wanted remote) remote) =
      lateInitAttributes wanted remote := by
  cases remote with
  | none =>
      cases wanted with
      | set a => exact lateInitAttributes_set_project a.lateInit_project_blank
      | _ => rfl
  | some r =>
      cases wanted with
      | empty => rfl
      | set a =>
          have same := a.lateInit_granted r
          show lateInitAttributes (.set a) (projectAttributes (.set (a.lateInit r)) (some r)) =
            .set (a.lateInit r)
          rw [projectAttributes_set, Option.getD_some]
          split
          · -- Attributes that are dropped had nothing to take over.
            rename_i dropped
            rw [← same, dropped, a.lateInit_blank]
            rfl
          · exact congrArg Field.set same
      | unset =>
          by_cases bare : Attributes.blank.lateInit r = .blank
          · have same : lateInitAttributes .unset (some r) = .unset := if_pos bare
            rw [same]
            exact same
          · have same := Attributes.blank.lateInit_granted r
            rw [lateInitAttributes_unset_of_ne bare, projectAttributes_set, Option.getD_some]
            split
            · rename_i dropped
              rw [dropped, Attributes.lateInit_blank] at same
              exact (bare same.symm).elim
            · rw [lateInitAttributes_unset_of_ne (by rwa [same]), same]

theorem kind_steady : kind.Steady where
  lateInit_lateInit p r := by
    simp [kind, lateInit, lateInitAttributes_lateInitAttributes]
  lateInit_granted p r := by
    simp [kind, lateInit, project, lateInitAttributes_granted]

end VaultSecret

/-- The parameters at which a declaration arrives once it has seen its object. -/
def Kind.aim (K : Kind) (p : K.Params) (slot : Option K.Remote) : K.Params :=
  K.lateInit p (slot.getD K.blank)

theorem Kind.Lawful.aim_none {K : Kind} (h : K.Lawful) (p : K.Params) : K.aim p none = p :=
  h.lateInit_blank p

theorem Kind.Lawful.identity_aim {K : Kind} (h : K.Lawful) (p : K.Params) (slot : Option K.Remote) :
    K.identity (K.aim p slot) = K.identity p := h.identity_lateInit p _

/-- Wherever a declaration aims, it still aims when it has arrived, or has not, and when its object
is as it was, or as the declaration wants it. -/
theorem Kind.Steady.aim_eq {K : Kind} (h : K.Steady) {p q : K.Params} {slot now : Option K.Remote}
    (remembered : q = p ∨ q = K.aim p slot)
    (granted : now = slot ∨ now = some (K.project (K.aim p slot) (slot.getD K.blank))) :
    K.aim q now = K.aim p slot := by
  unfold aim at *
  rcases remembered with rfl | rfl <;> rcases granted with rfl | rfl
  · rfl
  · exact h.lateInit_granted q _
  · exact h.lateInit_lateInit p _
  · -- Having arrived, the declaration aims where it is, and grants that.
    have arrived := h.lateInit_granted (K.lateInit p (slot.getD K.blank)) (slot.getD K.blank)
    rwa [h.lateInit_lateInit] at arrived

theorem KindName.steady (k : KindName) : k.kind.Steady := by
  cases k with
  | keyValue => exact KeyValue.kind_steady
  | vaultSecret => exact VaultSecret.kind_steady
  | serverConfiguration => exact ServerConfiguration.kind_steady
  | bucket => exact Bucket.kind_steady
  | probe => exact Probe.kind_steady

end CloudReconcile
