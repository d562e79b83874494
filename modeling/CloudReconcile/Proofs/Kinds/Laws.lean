import CloudReconcile.Kinds.Name

/-!
# Laws of kinds

What every kind promises about taking over and granting: it never changes which object a declaration
addresses, one look is enough to take over what there is, granting the wishes twice is granting them
once, and a report depends only on what no declaration can wish for.
-/

namespace CloudReconcile

/-- The laws that make observing and writing an object come to rest. -/
structure Kind.Lawful (K : Kind) : Prop where
  identity_lateInit : ∀ p r, K.identity (K.lateInit p r) = K.identity p
  lateInit_blank : ∀ p, K.lateInit p K.blank = p
  /-- After a declaration has taken over what was there, granting it leaves nothing more to take. -/
  lateInit_project : ∀ p r,
    K.lateInit (K.lateInit p r) (K.project (K.lateInit p r) r) = K.lateInit p r
  project_project : ∀ p r, K.project p (K.project p r) = K.project p r
  /-- Wishes are about other properties than reports. -/
  observe_project : ∀ o p r, K.observe o (K.project p r) = K.observe o r
  observe_observe : ∀ o r, K.observe (K.observe o r) r = K.observe o r
  observe_blank : ∀ o, K.observe o K.blank = o

@[simp] theorem Status.fill_fill {α : Type} (slot seen : Option α) :
    fill (fill slot seen) seen = fill slot seen := by
  cases slot <;> cases seen <;> rfl

@[simp] theorem Status.fill_none {α : Type} (slot : Option α) : fill slot none = slot := by
  cases slot <;> rfl

namespace KeyValue

theorem kind_lawful : kind.Lawful where
  identity_lateInit _ _ := rfl
  lateInit_blank (p : Params) := by
    show lateInit p .blank = p
    simp [lateInit, Remote.blank]
  lateInit_project p r := by simp [kind, lateInit, project]
  project_project p r := by simp [kind, project]
  observe_project _ _ _ := rfl
  observe_observe o r := by simp [kind, observe]
  observe_blank (o : Observation) := by simp [kind, observe, Remote.blank]

end KeyValue

namespace ServerConfiguration

theorem kind_lawful : kind.Lawful where
  identity_lateInit _ _ := rfl
  lateInit_blank (p : Params) := by
    show lateInit p .blank = p
    simp [lateInit, Remote.blank]
  lateInit_project p r := by simp [kind, lateInit, project]
  project_project p r := by simp [kind, project]
  observe_project _ _ _ := rfl
  observe_observe o r := by simp [kind, observe]
  observe_blank (o : Observation) := by simp [kind, observe, Remote.blank]

end ServerConfiguration

namespace Bucket

theorem kind_lawful : kind.Lawful where
  identity_lateInit _ _ := rfl
  lateInit_blank (p : Params) := by
    show lateInit p .blank = p
    simp [lateInit, Remote.blank]
  lateInit_project p r := by simp [kind, lateInit, project]
  project_project p r := by simp [kind, project]
  observe_project _ _ _ := rfl
  observe_observe o r := by simp [kind, observe]
  observe_blank (o : Observation) := by simp [kind, observe, Remote.blank]

end Bucket

namespace Probe

theorem kind_lawful : kind.Lawful where
  identity_lateInit _ _ := rfl
  lateInit_blank _ := rfl
  lateInit_project _ _ := rfl
  project_project (p : Params) (r : Remote) := by
    show project p (project p r) = project p r
    by_cases silent : p.mode = "" <;> simp [project, silent]
  observe_project _ _ _ := rfl
  observe_observe _ _ := rfl
  observe_blank _ := rfl

end Probe

namespace VaultSecret

/-! ## Attributes -/

@[simp] theorem Attributes.lateInit_blank (a : Attributes) : a.lateInit .blank = a := by
  simp [lateInit, RemoteAttributes.blank]

@[simp] theorem Attributes.lateInit_project (a : Attributes) (r : RemoteAttributes) :
    (a.lateInit r).lateInit ((a.lateInit r).project r) = a.lateInit r := by
  simp [lateInit, project]

@[simp] theorem Attributes.project_project (a : Attributes) (r : RemoteAttributes) :
    a.project (a.project r) = a.project r := by
  simp [project]

/-- Wishes about single attributes have nothing to take over from the attributes that grant them to
a secret without any. -/
theorem Attributes.lateInit_project_blank (a : Attributes) :
    a.lateInit (a.project .blank) = a := by
  have settled := a.lateInit_project .blank
  rwa [a.lateInit_blank] at settled

theorem projectAttributes_set (a : Attributes) (remote : Option RemoteAttributes) :
    projectAttributes (.set a) remote =
      if a.project (remote.getD .blank) = .blank then none
      else some (a.project (remote.getD .blank)) := rfl

/-- Dropping attributes without any property does not hide them from a declaration that has taken
over everything. -/
theorem lateInitAttributes_set_project {a : Attributes} {remote : Option RemoteAttributes}
    (settled : a.lateInit (a.project (remote.getD .blank)) = a) :
    lateInitAttributes (.set a) (projectAttributes (.set a) remote) = .set a := by
  rw [projectAttributes_set]
  split
  · rfl
  · rw [lateInitAttributes, settled]

theorem lateInitAttributes_project (wanted : Field Attributes) (remote : Option RemoteAttributes) :
    lateInitAttributes (lateInitAttributes wanted remote)
        (projectAttributes (lateInitAttributes wanted remote) remote) =
      lateInitAttributes wanted remote := by
  cases wanted with
  | empty => rfl
  | set a =>
      cases remote with
      | none => exact lateInitAttributes_set_project a.lateInit_project_blank
      | some r => exact lateInitAttributes_set_project (a.lateInit_project r)
  | unset =>
      cases remote with
      | none => rfl
      | some r =>
          by_cases bare : Attributes.blank.lateInit r = .blank
          · have same : lateInitAttributes .unset (some r) = .unset := if_pos bare
            rw [same]
            exact same
          · have taken : lateInitAttributes .unset (some r) =
                .set (Attributes.blank.lateInit r) := if_neg bare
            rw [taken]
            exact lateInitAttributes_set_project (Attributes.blank.lateInit_project r)

theorem projectAttributes_projectAttributes (wanted : Field Attributes)
    (remote : Option RemoteAttributes) :
    projectAttributes wanted (projectAttributes wanted remote) =
      projectAttributes wanted remote := by
  cases wanted with
  | unset => rfl
  | empty => rfl
  | set a =>
      simp only [projectAttributes_set]
      by_cases bare : a.project (remote.getD .blank) = .blank
      · -- What is dropped grants the wishes already, so they come out blank again.
        have again : a.project .blank = .blank := by
          rw [← bare, a.project_project]
        simp [bare, again]
      · simp [bare]

/-- A property that only the provider sets is the same before and after the wishes are granted, even
if the attributes go. -/
theorem projectAttributes_bind {α : Type} {f : RemoteAttributes → Option α}
    (blank : f .blank = none) (kept : ∀ a r, f (Attributes.project a r) = f r)
    (wanted : Field Attributes) (remote : Option RemoteAttributes) :
    (projectAttributes wanted remote).bind f = remote.bind f := by
  cases wanted with
  | unset => rfl
  | empty => rfl
  | set a =>
      have seen : f (a.project (remote.getD .blank)) = remote.bind f := by
        rw [kept]
        cases remote with
        | none => exact blank
        | some r => rfl
      rw [projectAttributes_set, ← seen]
      split
      · rename_i bare
        rw [bare, blank]
        rfl
      · rfl

theorem kind_lawful : kind.Lawful where
  identity_lateInit _ _ := rfl
  lateInit_blank (p : Params) := by
    have kept : lateInitAttributes p.attributes none = p.attributes := by
      cases p.attributes <;> rfl
    show lateInit p .blank = p
    simp [lateInit, Remote.blank, kept]
  lateInit_project p r := by
    simp [kind, lateInit, project, lateInitAttributes_project]
  project_project (p : Params) (r : Remote) := by
    simp [kind, project, projectAttributes_projectAttributes]
  observe_project o p r := by
    have seen {α : Type} (f : RemoteAttributes → Option α) (blank : f .blank = none)
        (kept : ∀ a r, f (Attributes.project a r) = f r) :=
      projectAttributes_bind blank kept p.attributes r.attributes
    simp [kind, observe, project, seen (·.created) rfl fun _ _ => rfl,
      seen (·.updated) rfl fun _ _ => rfl, seen (·.recoveryLevel) rfl fun _ _ => rfl]
  observe_observe o r := by simp [kind, observe]
  observe_blank (o : Observation) := by simp [kind, observe, Remote.blank]

end VaultSecret

/-- Every kind of this library keeps the laws. -/
theorem KindName.lawful (k : KindName) : k.kind.Lawful := by
  cases k with
  | keyValue => exact KeyValue.kind_lawful
  | vaultSecret => exact VaultSecret.kind_lawful
  | serverConfiguration => exact ServerConfiguration.kind_lawful
  | bucket => exact Bucket.kind_lawful
  | probe => exact Probe.kind_lawful

end CloudReconcile
