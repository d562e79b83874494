import CloudReconcile.Proofs.Kinds.Portable

/-!
# When an object is as its declaration wants it

For the kinds that the operator serves a comparison never fails, so an object is up to date just
when every wish is granted as things stand; of a pair, a server configuration or a bucket each
property counts by itself.  There is one exception.  Granting single wishes about
the attributes of a secret drops attributes without any property, so a secret whose attributes are
there but hold nothing never passes for a declaration that speaks of attributes, whatever it says of
them.
-/

namespace CloudReconcile

/-- The wish is granted as things stand: there is none, or it asks for just what is there. -/
def Field.IsGranted {α : Type} (f : Field α) (there : Option α) : Prop :=
  f = .unset ∨ f = .empty ∧ there = none ∨ ∃ a, f = .set a ∧ there = some a

theorem Field.project_eq_self_iff {α : Type} (f : Field α) (there : Option α) :
    f.project there = there ↔ f.IsGranted there := by
  cases f with
  | unset => simp [project, IsGranted]
  | empty => simp [project, IsGranted, eq_comm]
  | set a => simp [project, IsGranted, eq_comm]

/-- The comparison never fails, and finds nothing to do just when granting changes nothing. -/
theorem Kind.Portable.check_iff {K : Kind} (h : K.Portable) (p : K.Params) (r : K.Remote) :
    (Drift.check K p r).error = none ∧
      ((Drift.check K p r).upToDate = true ↔ K.project p r = r) := by
  rw [h.check_eq]
  exact ⟨rfl, decide_eq_true_iff⟩

namespace VaultSecret

structure Attributes.AreGranted (a : Attributes) (there : RemoteAttributes) : Prop where
  enabled : a.enabled.IsGranted there.enabled
  notBefore : a.notBefore.IsGranted there.notBefore
  expires : a.expires.IsGranted there.expires

/-- Every wish about the secret is granted.  Without attributes each of them is absent. -/
structure IsGranted (p : Params) (r : Remote) : Prop where
  name : r.name = some p.name
  value : r.value = some p.value
  contentType : p.contentType.IsGranted r.contentType
  tags : p.tags.IsGranted r.tags
  attributes : p.attributes = .unset ∨ p.attributes = .empty ∨
    ∃ a, p.attributes = .set a ∧ a.AreGranted (r.attributes.getD .blank)

/-- The declaration speaks of single attributes, and the secret has attributes without any
property. -/
def MeetsBareAttributes (p : Params) (r : Remote) : Prop :=
  (∃ a, p.attributes = .set a) ∧ r.attributes = some .blank

theorem Attributes.project_eq_self_iff (a : Attributes) (r : RemoteAttributes) :
    a.project r = r ↔ a.AreGranted r := by
  obtain ⟨enabled, notBefore, expires, created, updated, recoveryLevel⟩ := r
  simp only [project, RemoteAttributes.mk.injEq, Field.project_eq_self_iff, and_true]
  constructor
  · rintro ⟨he, hn, hx⟩
    exact ⟨he, hn, hx⟩
  · intro h
    exact ⟨h.enabled, h.notBefore, h.expires⟩

theorem projectAttributes_set_eq_self_iff (a : Attributes) (there : Option RemoteAttributes) :
    projectAttributes (.set a) there = there ↔
      a.AreGranted (there.getD .blank) ∧ there ≠ some .blank := by
  rw [projectAttributes_set, ← Attributes.project_eq_self_iff]
  cases there with
  | none => by_cases bare : a.project .blank = .blank <;> simp [bare]
  | some r =>
      by_cases bare : a.project r = .blank
      · simp [bare, eq_comm]
      · have kept : a.project r = r → r ≠ .blank := fun same blank => bare (same.trans blank)
        simpa [bare] using kept

theorem projectAttributes_eq_self_iff (wanted : Field Attributes)
    (there : Option RemoteAttributes) :
    projectAttributes wanted there = there ↔
      (wanted = .unset ∨ wanted = .empty ∨
        ∃ a, wanted = .set a ∧ a.AreGranted (there.getD .blank)) ∧
      ¬ ((∃ a, wanted = .set a) ∧ there = some .blank) := by
  cases wanted with
  | unset => simp [projectAttributes]
  | empty => simp [projectAttributes]
  | set a =>
      rw [projectAttributes_set_eq_self_iff]
      simp

theorem project_eq_self_iff (p : Params) (r : Remote) :
    project p r = r ↔ IsGranted p r ∧ ¬ MeetsBareAttributes p r := by
  have attributes := projectAttributes_eq_self_iff p.attributes r.attributes
  have contentType := Field.project_eq_self_iff p.contentType r.contentType
  have tags := Field.project_eq_self_iff p.tags r.tags
  constructor
  · intro same
    have granted := attributes.mp (congrArg (·.attributes) same)
    exact ⟨⟨(congrArg (·.name) same).symm, (congrArg (·.value) same).symm,
      contentType.mp (congrArg (·.contentType) same), tags.mp (congrArg (·.tags) same),
      granted.1⟩, granted.2⟩
  · rintro ⟨granted, spoken⟩
    rw [project, attributes.mpr ⟨granted.attributes, spoken⟩, contentType.mpr granted.contentType,
      tags.mpr granted.tags, ← granted.name, ← granted.value]

/-- The comparison of a secret with what is wanted of it never fails, and finds it up to date just
when every wish is granted and no wish about attributes meets attributes without any property. -/
theorem check_iff_isGranted (p : Params) (r : Remote) :
    (Drift.check kind p r).error = none ∧
      ((Drift.check kind p r).upToDate = true ↔ IsGranted p r ∧ ¬ MeetsBareAttributes p r) := by
  obtain ⟨compared, verdict⟩ := kind_portable.check_iff p r
  exact ⟨compared, verdict.trans (project_eq_self_iff p r)⟩

/-- A secret of which nothing but its value is wanted, and which has it, is not up to date if its
attributes hold nothing. -/
theorem check_bare_attributes :
    let p : Params := ⟨"ops", "db", "v", .unset, .set .blank, .unset⟩
    let r : Remote :=
      { Remote.blank with name := some "db", value := some "v", attributes := some .blank }
    IsGranted p r ∧ (Drift.check kind p r).upToDate = false := by
  intro p r
  have silent : Attributes.blank.AreGranted (r.attributes.getD .blank) :=
    ⟨.inl rfl, .inl rfl, .inl rfl⟩
  refine ⟨⟨rfl, rfl, .inl rfl, .inl rfl, .inr (.inr ⟨_, rfl, silent⟩)⟩, ?_⟩
  have dropped : project p r ≠ r := fun same => absurd (congrArg (·.attributes) same) (by decide)
  exact Bool.eq_false_iff.mpr fun upToDate =>
    dropped ((kind_portable.check_iff p r).2.mp upToDate)

end VaultSecret

/-! ## Kinds whose objects have no parts -/

/-- An object of the kind passes as up to date just when its declaration's wishes are granted in
that sense. -/
def Kind.PassesOn (K : Kind) (granted : K.Params → K.Remote → Prop) : Prop :=
  ∀ p r, (Drift.check K p r).error = none ∧
    ((Drift.check K p r).upToDate = true ↔ granted p r)

theorem Kind.Portable.passesOn {K : Kind} (h : K.Portable) {granted : K.Params → K.Remote → Prop}
    (same : ∀ p r, K.project p r = r ↔ granted p r) : K.PassesOn granted := by
  intro p r
  obtain ⟨compared, verdict⟩ := h.check_iff p r
  exact ⟨compared, verdict.trans (same p r)⟩

namespace KeyValue

structure IsGranted (p : Params) (r : Remote) : Prop where
  key : r.key = some p.key
  label : r.label = some p.label
  value : r.value = some p.value
  contentType : p.contentType.IsGranted r.contentType
  locked : p.locked.IsGranted r.locked
  tags : p.tags.IsGranted r.tags

theorem project_eq_self_iff (p : Params) (r : Remote) : project p r = r ↔ IsGranted p r := by
  obtain ⟨key, label, value, contentType, locked, tags, etag, lastModified⟩ := r
  simp only [project, Remote.mk.injEq, Field.project_eq_self_iff, and_true]
  constructor
  · rintro ⟨hk, hl, hv, hc, hd, ht⟩
    exact ⟨hk.symm, hl.symm, hv.symm, hc, hd, ht⟩
  · intro h
    exact ⟨h.key.symm, h.label.symm, h.value.symm, h.contentType, h.locked, h.tags⟩

end KeyValue

namespace ServerConfiguration

structure IsGranted (p : Params) (r : Remote) : Prop where
  name : r.name = some p.name
  value : p.value.IsGranted r.value
  source : p.source.IsGranted r.source

theorem project_eq_self_iff (p : Params) (r : Remote) : project p r = r ↔ IsGranted p r := by
  obtain ⟨name, value, source, defaultValue, dataType, allowedValues, description⟩ := r
  simp only [project, Remote.mk.injEq, Field.project_eq_self_iff, and_true]
  constructor
  · rintro ⟨hn, hv, hs⟩
    exact ⟨hn.symm, hv, hs⟩
  · intro h
    exact ⟨h.name.symm, h.value, h.source⟩

end ServerConfiguration

namespace Bucket

structure IsGranted (p : Params) (r : Remote) : Prop where
  name : r.name = some p.name
  location : p.location.IsGranted r.location
  storageClass : p.storageClass.IsGranted r.storageClass
  predefinedAcl : p.predefinedAcl.IsGranted r.predefinedAcl
  versioning : p.versioning.IsGranted r.versioning
  labels : p.labels.IsGranted r.labels

theorem project_eq_self_iff (p : Params) (r : Remote) : project p r = r ↔ IsGranted p r := by
  obtain ⟨name, location, storageClass, acl, versioning, labels, selfLink, created, etag⟩ := r
  simp only [project, Remote.mk.injEq, Field.project_eq_self_iff, and_true]
  constructor
  · rintro ⟨hn, hl, hs, ha, hv, hb⟩
    exact ⟨hn.symm, hl, hs, ha, hv, hb⟩
  · intro h
    exact ⟨h.name.symm, h.location, h.storageClass, h.predefinedAcl, h.versioning, h.labels⟩

end Bucket

/-- A property that is not there is no value, not even an empty one. -/
theorem Field.not_isGranted_none {α : Type} (a : α) : ¬ (Field.set a).IsGranted none := by
  rw [← project_eq_self_iff]
  exact Option.some_ne_none a

/-- Pairs, server configurations and buckets pass as up to date just when they are what is asked
for, with every wish granted; and where a value is wanted, an empty one included, something that is
absent does not pass for it. -/
theorem passesOn_isGranted :
    KeyValue.kind.PassesOn KeyValue.IsGranted ∧
      ServerConfiguration.kind.PassesOn ServerConfiguration.IsGranted ∧
      Bucket.kind.PassesOn Bucket.IsGranted ∧
      ∀ {α : Type} (a : α), ¬ (Field.set a).IsGranted none := by
  refine ⟨?_, ?_, ?_, Field.not_isGranted_none⟩
  · exact KeyValue.kind_portable.passesOn KeyValue.project_eq_self_iff
  · exact ServerConfiguration.kind_portable.passesOn ServerConfiguration.project_eq_self_iff
  · exact Bucket.kind_portable.passesOn Bucket.project_eq_self_iff

/-! ## Any kind -/

namespace Probe

/-- An empty mode is no wish. -/
def IsGranted (p : Params) (r : Remote) : Prop := p.mode = "" ∨ r.mode = p.mode

theorem project_eq_self_iff (p : Params) (r : Remote) : project p r = r ↔ IsGranted p r := by
  obtain ⟨mode⟩ := r
  unfold project IsGranted
  by_cases silent : p.mode = ""
  · simp [silent]
  · simp [silent, eq_comm]

end Probe

namespace KindName

/-- Every wish of the declaration is granted. -/
def IsGranted : (k : KindName) → k.kind.Params → k.kind.Remote → Prop
  | .keyValue => KeyValue.IsGranted
  | .vaultSecret => VaultSecret.IsGranted
  | .serverConfiguration => ServerConfiguration.IsGranted
  | .bucket => Bucket.IsGranted
  | .probe => Probe.IsGranted

/-- Only secrets have attributes that can be there without any property. -/
def MeetsBareAttributes : (k : KindName) → k.kind.Params → k.kind.Remote → Prop
  | .vaultSecret => VaultSecret.MeetsBareAttributes
  | _ => fun _ _ => False

variable {k : KindName}

theorem project_eq_self_iff (p : k.kind.Params) (r : k.kind.Remote) :
    k.kind.project p r = r ↔ k.IsGranted p r ∧ ¬ k.MeetsBareAttributes p r := by
  cases k with
  | keyValue => exact (KeyValue.project_eq_self_iff p r).trans (and_iff_left id).symm
  | vaultSecret => exact VaultSecret.project_eq_self_iff p r
  | serverConfiguration =>
      exact (ServerConfiguration.project_eq_self_iff p r).trans (and_iff_left id).symm
  | bucket => exact (Bucket.project_eq_self_iff p r).trans (and_iff_left id).symm
  | probe => exact (Probe.project_eq_self_iff p r).trans (and_iff_left id).symm

/-- Granting the wishes grants them. -/
theorem isGranted_project (p : k.kind.Params) (r : k.kind.Remote) :
    k.IsGranted p (k.kind.project p r) :=
  ((project_eq_self_iff p _).mp (k.lawful.project_project p r)).1

/-- An object whose wishes are granted is up to date, as far as attributes without any property are
not spoken of. -/
theorem check_of_isGranted (managed : k ∈ KindName.managed) {p : k.kind.Params}
    {r : k.kind.Remote} (granted : k.IsGranted p r) :
    (Drift.check k.kind p r).error = none ∧
      ((Drift.check k.kind p r).upToDate = true ↔ ¬ k.MeetsBareAttributes p r) := by
  obtain ⟨compared, verdict⟩ := (KindName.portable managed).check_iff p r
  exact ⟨compared, verdict.trans ((project_eq_self_iff p r).trans (and_iff_right granted))⟩

end KindName
end CloudReconcile
