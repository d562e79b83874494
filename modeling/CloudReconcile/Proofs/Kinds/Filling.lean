import CloudReconcile.Proofs.Kinds.Writing

/-!
# What is taken over from many objects

A declaration that looks at one object after the other takes over, for each property that it says
nothing about, the first value that it sees.  What it does say is never touched, and attributes of a
secret stay unmentioned until one that can be wished for is seen.
-/

namespace CloudReconcile

namespace Field

variable {α : Type}

/-- A wish after values were observed in that order: one that says something stays, and else the
first value counts. -/
def filled (f : Field α) (seen : List (Option α)) : Field α :=
  match f with
  | .unset =>
    match seen.findSome? id with
    | some a => .set a
    | none => .unset
  | f => f

@[simp] theorem filled_nil (f : Field α) : f.filled [] = f := by
  cases f <;> rfl

@[simp] theorem filled_lateInit (f : Field α) (observed : Option α) (seen : List (Option α)) :
    (f.lateInit observed).filled seen = f.filled (observed :: seen) := by
  cases f <;> cases observed <;> rfl

end Field

namespace KeyValue

def filled (p : Params) (seen : List Remote) : Params :=
  { p with
    contentType := p.contentType.filled (seen.map (·.contentType))
    locked := p.locked.filled (seen.map (·.locked))
    tags := p.tags.filled (seen.map (·.tags)) }

theorem filled_nil (p : Params) : filled p [] = p := by simp [filled]

theorem filled_lateInit (p : Params) (r : Remote) (seen : List Remote) :
    filled (lateInit p r) seen = filled p (r :: seen) := by
  simp [filled, lateInit]

end KeyValue

namespace ServerConfiguration

def filled (p : Params) (seen : List Remote) : Params :=
  { p with
    value := p.value.filled (seen.map (·.value))
    source := p.source.filled (seen.map (·.source)) }

theorem filled_nil (p : Params) : filled p [] = p := by simp [filled]

theorem filled_lateInit (p : Params) (r : Remote) (seen : List Remote) :
    filled (lateInit p r) seen = filled p (r :: seen) := by
  simp [filled, lateInit]

end ServerConfiguration

namespace Bucket

def filled (p : Params) (seen : List Remote) : Params :=
  { p with
    location := p.location.filled (seen.map (·.location))
    storageClass := p.storageClass.filled (seen.map (·.storageClass))
    predefinedAcl := p.predefinedAcl.filled (seen.map (·.predefinedAcl))
    versioning := p.versioning.filled (seen.map (·.versioning))
    labels := p.labels.filled (seen.map (·.labels)) }

theorem filled_nil (p : Params) : filled p [] = p := by simp [filled]

theorem filled_lateInit (p : Params) (r : Remote) (seen : List Remote) :
    filled (lateInit p r) seen = filled p (r :: seen) := by
  simp [filled, lateInit]

end Bucket

namespace VaultSecret

/-! ## Attributes -/

def Attributes.filled (a : Attributes) (seen : List RemoteAttributes) : Attributes :=
  { enabled := a.enabled.filled (seen.map (·.enabled))
    notBefore := a.notBefore.filled (seen.map (·.notBefore))
    expires := a.expires.filled (seen.map (·.expires)) }

/-- Attributes that nothing is said of stay so while none that can be wished for is seen. -/
def filledAttributes (wanted : Field Attributes) (seen : List RemoteAttributes) :
    Field Attributes :=
  match wanted with
  | .empty => .empty
  | .set a => .set (a.filled seen)
  | .unset =>
    if ∀ r ∈ seen, r.wishable = .blank then .unset else .set (Attributes.blank.filled seen)

theorem Attributes.filled_nil (a : Attributes) : a.filled [] = a := by simp [filled]

theorem Attributes.filled_lateInit (a : Attributes) (r : RemoteAttributes)
    (seen : List RemoteAttributes) : (a.lateInit r).filled seen = a.filled (r :: seen) := by
  simp [filled, lateInit]

theorem filledAttributes_nil (wanted : Field Attributes) :
    filledAttributes wanted [] = wanted := by
  cases wanted with
  | unset => simp [filledAttributes]
  | empty => rfl
  | set a => exact congrArg Field.set a.filled_nil

theorem filledAttributes_lateInit (wanted : Field Attributes) (r : RemoteAttributes)
    (seen : List RemoteAttributes) :
    filledAttributes (lateInitAttributes wanted (some r)) seen =
      filledAttributes wanted (r :: seen) := by
  cases wanted with
  | empty => rfl
  | set a => exact congrArg Field.set (a.filled_lateInit r seen)
  | unset =>
      have sofar := Attributes.blank.filled_lateInit r seen
      by_cases bare : r.wishable = .blank
      · have same := (Attributes.blank_lateInit_eq_blank_iff r).mpr bare
        rw [same] at sofar
        simp [lateInitAttributes, filledAttributes, same, bare, sofar]
      · have differs := mt (Attributes.blank_lateInit_eq_blank_iff r).mp bare
        simp [lateInitAttributes, filledAttributes, differs, bare, sofar]

/-! ## Secrets -/

def filled (p : Params) (seen : List Remote) : Params :=
  { p with
    contentType := p.contentType.filled (seen.map (·.contentType))
    attributes := filledAttributes p.attributes (seen.filterMap (·.attributes))
    tags := p.tags.filled (seen.map (·.tags)) }

theorem filled_nil (p : Params) : filled p [] = p := by simp [filled, filledAttributes_nil]

theorem filled_lateInit (p : Params) (r : Remote) (seen : List Remote) :
    filled (lateInit p r) seen = filled p (r :: seen) := by
  cases there : r.attributes with
  | none =>
      have untouched : lateInitAttributes p.attributes none = p.attributes := by
        cases p.attributes <;> rfl
      simp [filled, lateInit, there, untouched]
  | some a => simp [filled, lateInit, there, filledAttributes_lateInit]

end VaultSecret

namespace KindName

/-- The parameters after these objects were looked at, the first one first. -/
def filled : (k : KindName) → k.kind.Params → List k.kind.Remote → k.kind.Params
  | .keyValue => KeyValue.filled
  | .vaultSecret => VaultSecret.filled
  | .serverConfiguration => ServerConfiguration.filled
  | .bucket => Bucket.filled
  | .probe => fun p _ => p

theorem filled_nil (k : KindName) (p : k.kind.Params) : k.filled p [] = p := by
  cases k with
  | keyValue => exact KeyValue.filled_nil p
  | vaultSecret => exact VaultSecret.filled_nil p
  | serverConfiguration => exact ServerConfiguration.filled_nil p
  | bucket => exact Bucket.filled_nil p
  | probe => rfl

theorem filled_lateInit (k : KindName) (p : k.kind.Params) (r : k.kind.Remote)
    (seen : List k.kind.Remote) :
    k.filled (k.kind.lateInit p r) seen = k.filled p (r :: seen) := by
  cases k with
  | keyValue => exact KeyValue.filled_lateInit p r seen
  | vaultSecret => exact VaultSecret.filled_lateInit p r seen
  | serverConfiguration => exact ServerConfiguration.filled_lateInit p r seen
  | bucket => exact Bucket.filled_lateInit p r seen
  | probe => rfl

/-- Which object is meant is no property that could be taken over. -/
theorem identity_filled (k : KindName) (p : k.kind.Params) (seen : List k.kind.Remote) :
    k.kind.identity (k.filled p seen) = k.kind.identity p := by
  cases k with
  | keyValue => rfl
  | vaultSecret => rfl
  | serverConfiguration => rfl
  | bucket => rfl
  | probe => rfl

theorem foldl_lateInit (k : KindName) (p : k.kind.Params) (seen : List k.kind.Remote) :
    seen.foldl k.kind.lateInit p = k.filled p seen := by
  induction seen generalizing p with
  | nil => exact (k.filled_nil p).symm
  | cons r seen ih => rw [List.foldl_cons, ih, k.filled_lateInit]

end KindName
end CloudReconcile
