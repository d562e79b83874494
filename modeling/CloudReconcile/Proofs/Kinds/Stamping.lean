import CloudReconcile.Proofs.Kinds.Verdict
import CloudReconcile.Proofs.Kinds.Writing

/-!
# What a provider sets on its objects

A provider that sets members of its own on an object which was put leaves what declarations can wish
for as it was.  So the wishes stay granted, and what a declaration makes of the object later is the
same in all that can be wished for.
-/

namespace CloudReconcile

/-! ## Objects without what only the provider sets -/

def KeyValue.Remote.unstamped (r : Remote) : Remote := { r with etag := none, lastModified := none }

def ServerConfiguration.Remote.unstamped (r : Remote) : Remote :=
  { r with defaultValue := none, dataType := none, allowedValues := none, description := none }

def Bucket.Remote.unstamped (r : Remote) : Remote :=
  { r with selfLink := none, timeCreated := none, etag := none }

/-- Absent attributes count as attributes that are absent one by one. -/
def VaultSecret.Remote.unstamped (r : Remote) : Remote :=
  { r with attributes := some r.wishable, id := none, kid := none, managed := none }

namespace KindName

/-- An object with nothing but what a declaration can wish for. -/
def unstamped : (k : KindName) → k.kind.Remote → k.kind.Remote
  | .keyValue => KeyValue.Remote.unstamped
  | .vaultSecret => VaultSecret.Remote.unstamped
  | .serverConfiguration => ServerConfiguration.Remote.unstamped
  | .bucket => Bucket.Remote.unstamped
  | .probe => id

/-- A provider that changes, of the objects that it is given, only what no declaration can wish
for. -/
def Spares (k : KindName) (stamp : k.kind.Remote → Nat → k.kind.Remote) : Prop :=
  ∀ r n, k.unstamped (stamp r n) = k.unstamped r

end KindName

/-! ## Granting the wishes

Whether they are granted shows in what can be wished for, and so does what granting them makes of an
object.
-/

theorem KeyValue.isGranted_unstamped (p : Params) (r : Remote) :
    IsGranted p r.unstamped ↔ IsGranted p r :=
  ⟨fun h => ⟨h.key, h.label, h.value, h.contentType, h.locked, h.tags⟩,
    fun h => ⟨h.key, h.label, h.value, h.contentType, h.locked, h.tags⟩⟩

theorem ServerConfiguration.isGranted_unstamped (p : Params) (r : Remote) :
    IsGranted p r.unstamped ↔ IsGranted p r :=
  ⟨fun h => ⟨h.name, h.value, h.source⟩, fun h => ⟨h.name, h.value, h.source⟩⟩

theorem Bucket.isGranted_unstamped (p : Params) (r : Remote) :
    IsGranted p r.unstamped ↔ IsGranted p r :=
  ⟨fun h => ⟨h.name, h.location, h.storageClass, h.predefinedAcl, h.versioning, h.labels⟩,
    fun h => ⟨h.name, h.location, h.storageClass, h.predefinedAcl, h.versioning, h.labels⟩⟩

namespace VaultSecret

theorem Remote.wishable_eq {r s : Remote} (same : r.unstamped = s.unstamped) :
    r.wishable = s.wishable :=
  Option.some.inj (congrArg (·.attributes) same)

theorem wishable_project (p : Params) {r s : Remote} (same : r.wishable = s.wishable) :
    (project p r).wishable = (project p s).wishable := by
  show ((projectAttributes p.attributes r.attributes).getD .blank).wishable =
    ((projectAttributes p.attributes s.attributes).getD .blank).wishable
  cases p.attributes with
  | unset => exact same
  | empty => exact same
  | set a =>
      rw [wishable_projectAttributes_set, wishable_projectAttributes_set]
      exact congrArg a.project same

theorem unstamped_project (p : Params) {r s : Remote} (same : r.unstamped = s.unstamped) :
    (project p r).unstamped = (project p s).unstamped := by
  have contentType : r.contentType = s.contentType := congrArg (·.contentType) same
  have tags : r.tags = s.tags := congrArg (·.tags) same
  have wishable := wishable_project p (Remote.wishable_eq same)
  simp only [Remote.unstamped, wishable]
  simp only [project, contentType, tags]

theorem Attributes.areGranted_wishable (a : Attributes) (r : RemoteAttributes) :
    a.AreGranted r.wishable ↔ a.AreGranted r :=
  ⟨fun h => ⟨h.enabled, h.notBefore, h.expires⟩, fun h => ⟨h.enabled, h.notBefore, h.expires⟩⟩

theorem isGranted_unstamped (p : Params) (r : Remote) :
    IsGranted p r.unstamped ↔ IsGranted p r := by
  have attributes (a : Attributes) :
      a.AreGranted r.wishable ↔ a.AreGranted (r.attributes.getD .blank) := a.areGranted_wishable _
  constructor
  · rintro ⟨name, value, contentType, tags, granted⟩
    refine ⟨name, value, contentType, tags, granted.imp_right fun rest => rest.imp_right ?_⟩
    exact fun ⟨a, asked, granted⟩ => ⟨a, asked, (attributes a).mp granted⟩
  · rintro ⟨name, value, contentType, tags, granted⟩
    refine ⟨name, value, contentType, tags, granted.imp_right fun rest => rest.imp_right ?_⟩
    exact fun ⟨a, asked, granted⟩ => ⟨a, asked, (attributes a).mpr granted⟩

end VaultSecret

namespace KindName

variable {k : KindName}

/-- What a declaration makes of an object depends, as far as wishes go, only on what can be wished
for. -/
theorem unstamped_project (p : k.kind.Params) {r s : k.kind.Remote}
    (same : k.unstamped r = k.unstamped s) :
    k.unstamped (k.kind.project p r) = k.unstamped (k.kind.project p s) := by
  cases k with
  | keyValue => exact congrArg (KeyValue.project p) same
  | vaultSecret => exact VaultSecret.unstamped_project p same
  | serverConfiguration => exact congrArg (ServerConfiguration.project p) same
  | bucket => exact congrArg (Bucket.project p) same
  | probe => exact congrArg (Probe.project p) same

theorem isGranted_unstamped (p : k.kind.Params) (r : k.kind.Remote) :
    k.IsGranted p (k.unstamped r) ↔ k.IsGranted p r := by
  cases k with
  | keyValue => exact KeyValue.isGranted_unstamped p r
  | vaultSecret => exact VaultSecret.isGranted_unstamped p r
  | serverConfiguration => exact ServerConfiguration.isGranted_unstamped p r
  | bucket => exact Bucket.isGranted_unstamped p r
  | probe => exact Iff.rfl

/-- Wishes that are granted on an object are granted on every other one with the same left of it. -/
theorem IsGranted.of_unstamped {p : k.kind.Params} {r s : k.kind.Remote} (h : k.IsGranted p r)
    (same : k.unstamped s = k.unstamped r) : k.IsGranted p s := by
  rw [← isGranted_unstamped, same, isGranted_unstamped]
  exact h

end KindName
end CloudReconcile
