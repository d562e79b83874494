import CloudReconcile.Proofs.Kinds.Laws

/-!
# Two ways to write one object

A declaration is granted either on the object that is there or on an empty slate.  Once it has taken
over what it says nothing about, both ways write the same values wherever a wish is possible, with
one exception: a secret whose attributes are asked to be none keeps the attributes it has in the
first way and has none in the second.
-/

namespace CloudReconcile

/-- The pairs agree wherever a declaration can have a wish. -/
def KeyValue.Agree (r s : KeyValue.Remote) : Prop :=
  r.key = s.key ∧ r.label = s.label ∧ r.value = s.value ∧ r.contentType = s.contentType ∧
    r.locked = s.locked ∧ r.tags = s.tags

def ServerConfiguration.Agree (r s : ServerConfiguration.Remote) : Prop :=
  r.name = s.name ∧ r.value = s.value ∧ r.source = s.source

def Bucket.Agree (r s : Bucket.Remote) : Prop :=
  r.name = s.name ∧ r.location = s.location ∧ r.storageClass = s.storageClass ∧
    r.predefinedAcl = s.predefinedAcl ∧ r.versioning = s.versioning ∧ r.labels = s.labels

namespace VaultSecret

/-- The secrets agree wherever a declaration can have a wish, attributes aside. -/
def Agree (r s : Remote) : Prop :=
  r.name = s.name ∧ r.value = s.value ∧ r.contentType = s.contentType ∧ r.tags = s.tags

def RemoteAttributes.wishable (r : RemoteAttributes) : RemoteAttributes :=
  { r with created := none, updated := none, recoveryLevel := none }

/-- The attributes of a secret that a declaration can have a wish about; without attributes all of
them are absent. -/
def Remote.wishable (r : Remote) : RemoteAttributes := (r.attributes.getD .blank).wishable

theorem RemoteAttributes.wishable_project (a : Attributes) (r : RemoteAttributes) :
    (a.project r).wishable = a.project r.wishable := rfl

/-- It makes no difference to a declaration whether attributes without any property are dropped. -/
theorem wishable_projectAttributes_set (a : Attributes) (remote : Option RemoteAttributes) :
    ((projectAttributes (.set a) remote).getD .blank).wishable =
      a.project (remote.getD .blank).wishable := by
  rw [projectAttributes_set, ← RemoteAttributes.wishable_project]
  split
  · rename_i bare
    rw [bare]
    rfl
  · rfl

/-- What wishes make of attributes that they were taken over from does not depend on these. -/
theorem Attributes.project_lateInit_wishable (a : Attributes) (r : RemoteAttributes) :
    (a.lateInit r).project r.wishable = (a.lateInit r).project .blank := by
  simp only [project, lateInit, RemoteAttributes.wishable, RemoteAttributes.blank,
    RemoteAttributes.mk.injEq, and_self, and_true]
  exact ⟨Field.project_lateInit_eq _ _, Field.project_lateInit_eq _ _,
    Field.project_lateInit_eq _ _⟩

/-- Nothing is taken over from attributes just when none of them can be wished for. -/
theorem Attributes.blank_lateInit_eq_blank_iff (r : RemoteAttributes) :
    blank.lateInit r = blank ↔ r.wishable = .blank := by
  obtain ⟨enabled, notBefore, expires, _, _, _⟩ := r
  cases enabled <;> cases notBefore <;> cases expires <;>
    simp [lateInit, blank, Field.lateInit, RemoteAttributes.wishable, RemoteAttributes.blank]

/-- Unless a declaration asks for no attributes at all, the attributes that it can have a wish about
come out the same on the object that is there and on an empty slate. -/
theorem wishable_projectAttributes_lateInit {wanted : Field Attributes}
    (asked : wanted ≠ .empty) (remote : Option RemoteAttributes) :
    ((projectAttributes (lateInitAttributes wanted remote) remote).getD .blank).wishable =
      ((projectAttributes (lateInitAttributes wanted remote) none).getD .blank).wishable := by
  cases remote with
  | none => rfl
  | some r =>
      have taken (a : Attributes) :
          ((projectAttributes (.set (a.lateInit r)) (some r)).getD .blank).wishable =
            ((projectAttributes (.set (a.lateInit r)) none).getD .blank).wishable := by
        rw [wishable_projectAttributes_set, wishable_projectAttributes_set]
        exact a.project_lateInit_wishable r
      cases wanted with
      | empty => exact absurd rfl asked
      | set a => exact taken a
      | unset =>
          by_cases bare : Attributes.blank.lateInit r = .blank
          · have untouched : lateInitAttributes .unset (some r) = .unset := if_pos bare
            rw [untouched]
            exact (Attributes.blank_lateInit_eq_blank_iff r).mp bare
          · have filled : lateInitAttributes .unset (some r) =
                .set (Attributes.blank.lateInit r) := if_neg bare
            rw [filled]
            exact taken .blank

theorem projectAttributes_lateInit_empty (observed remote : Option RemoteAttributes) :
    projectAttributes (lateInitAttributes .empty observed) remote = remote := rfl

end VaultSecret

/-- After taking over, granting the wishes on the object that is there and on an empty slate give
the same values wherever a wish is possible; only attributes that a declaration asks to be none stay
as they are in the first case and are absent in the second. -/
theorem project_lateInit_agree_blank :
    (∀ p r, KeyValue.Agree (KeyValue.project (KeyValue.lateInit p r) r)
      (KeyValue.project (KeyValue.lateInit p r) .blank)) ∧
    (∀ p r, ServerConfiguration.Agree
      (ServerConfiguration.project (ServerConfiguration.lateInit p r) r)
      (ServerConfiguration.project (ServerConfiguration.lateInit p r) .blank)) ∧
    (∀ p r, Bucket.Agree (Bucket.project (Bucket.lateInit p r) r)
      (Bucket.project (Bucket.lateInit p r) .blank)) ∧
    ∀ p r,
      let onObject := VaultSecret.project (VaultSecret.lateInit p r) r
      let onBlank := VaultSecret.project (VaultSecret.lateInit p r) .blank
      VaultSecret.Agree onObject onBlank ∧
        (p.attributes ≠ .empty ∧ onObject.wishable = onBlank.wishable ∨
          p.attributes = .empty ∧ onObject.wishable = r.wishable ∧ onBlank.wishable = .blank) := by
  refine ⟨fun p r => ?_, fun p r => ?_, fun p r => ?_, fun p r => ⟨?_, ?_⟩⟩
  · exact ⟨rfl, rfl, rfl, Field.project_lateInit_eq _ _, Field.project_lateInit_eq _ _,
      Field.project_lateInit_eq _ _⟩
  · exact ⟨rfl, Field.project_lateInit_eq _ _, Field.project_lateInit_eq _ _⟩
  · exact ⟨rfl, Field.project_lateInit_eq _ _, Field.project_lateInit_eq _ _,
      Field.project_lateInit_eq _ _, Field.project_lateInit_eq _ _, Field.project_lateInit_eq _ _⟩
  · exact ⟨rfl, rfl, Field.project_lateInit_eq _ _, Field.project_lateInit_eq _ _⟩
  · by_cases waived : p.attributes = .empty
    · have kept := VaultSecret.projectAttributes_lateInit_empty r.attributes
      rw [← waived] at kept
      refine .inr ⟨waived, ?_, ?_⟩
      · exact congrArg (fun a => (a.getD .blank).wishable) (kept r.attributes)
      · exact congrArg (fun a => (a.getD .blank).wishable) (kept none)
    · exact .inl ⟨waived, VaultSecret.wishable_projectAttributes_lateInit waived r.attributes⟩

/-- An enabled secret whose declaration asks for no attributes loses that attribute on an empty
slate. -/
theorem project_lateInit_blank_differ :
    let p : VaultSecret.Params := ⟨"ops", "db", "new", .unset, .empty, .unset⟩
    let r : VaultSecret.Remote :=
      { VaultSecret.Remote.blank with
        attributes := some { VaultSecret.RemoteAttributes.blank with enabled := some true } }
    (VaultSecret.project (VaultSecret.lateInit p r) r).wishable.enabled = some true ∧
      (VaultSecret.project (VaultSecret.lateInit p r) .blank).wishable.enabled = none ∧
      ¬ ∀ p r, (VaultSecret.project (VaultSecret.lateInit p r) r).wishable =
        (VaultSecret.project (VaultSecret.lateInit p r) .blank).wishable := by
  intro p r
  refine ⟨rfl, rfl, fun alike => ?_⟩
  exact absurd (congrArg (·.enabled) (alike p r)) (by decide)

end CloudReconcile
