import CloudReconcile.Proofs.Kinds.Laws

/-!
# What is learned from many objects

A report that is made from one object after the other holds, for each of its members, the first
value that was seen.  What it holds already is never looked for again. -/

namespace CloudReconcile

namespace Status

variable {α : Type}

/-- A slot of a report after values were seen in that order: one that is filled stays, and else the
first value counts. -/
def learned (slot : Option α) (seen : List (Option α)) : Option α := slot.or (seen.findSome? id)

@[simp] theorem learned_nil (slot : Option α) : learned slot [] = slot := by
  cases slot <;> rfl

@[simp] theorem learned_fill (slot observed : Option α) (seen : List (Option α)) :
    learned (fill slot observed) seen = learned slot (observed :: seen) := by
  cases slot <;> cases observed <;> rfl

end Status

namespace KeyValue

def learned (o : Observation) (seen : List Remote) : Observation :=
  { etag := Status.learned o.etag (seen.map (·.etag))
    lastModified := Status.learned o.lastModified (seen.map (·.lastModified)) }

theorem learned_nil (o : Observation) : learned o [] = o := by simp [learned]

theorem learned_observe (o : Observation) (r : Remote) (seen : List Remote) :
    learned (observe o r) seen = learned o (r :: seen) := by
  simp [learned, observe]

end KeyValue

namespace ServerConfiguration

def learned (o : Observation) (seen : List Remote) : Observation :=
  { defaultValue := Status.learned o.defaultValue (seen.map (·.defaultValue))
    dataType := Status.learned o.dataType (seen.map (·.dataType))
    allowedValues := Status.learned o.allowedValues (seen.map (·.allowedValues))
    description := Status.learned o.description (seen.map (·.description)) }

theorem learned_nil (o : Observation) : learned o [] = o := by simp [learned]

theorem learned_observe (o : Observation) (r : Remote) (seen : List Remote) :
    learned (observe o r) seen = learned o (r :: seen) := by
  simp [learned, observe]

end ServerConfiguration

namespace Bucket

def learned (o : Observation) (seen : List Remote) : Observation :=
  { selfLink := Status.learned o.selfLink (seen.map (·.selfLink))
    timeCreated := Status.learned o.timeCreated (seen.map (·.timeCreated)) }

theorem learned_nil (o : Observation) : learned o [] = o := by simp [learned]

theorem learned_observe (o : Observation) (r : Remote) (seen : List Remote) :
    learned (observe o r) seen = learned o (r :: seen) := by
  simp [learned, observe]

end Bucket

namespace VaultSecret

/-- Without attributes there is no value for the members that are taken from them. -/
def learned (o : Observation) (seen : List Remote) : Observation :=
  { id := Status.learned o.id (seen.map (·.id))
    kid := Status.learned o.kid (seen.map (·.kid))
    managed := Status.learned o.managed (seen.map (·.managed))
    created := Status.learned o.created (seen.map fun r => r.attributes.bind (·.created))
    updated := Status.learned o.updated (seen.map fun r => r.attributes.bind (·.updated))
    recoveryLevel :=
      Status.learned o.recoveryLevel (seen.map fun r => r.attributes.bind (·.recoveryLevel)) }

theorem learned_nil (o : Observation) : learned o [] = o := by simp [learned]

theorem learned_observe (o : Observation) (r : Remote) (seen : List Remote) :
    learned (observe o r) seen = learned o (r :: seen) := by
  simp [learned, observe]

end VaultSecret

namespace KindName

/-- The report after these objects were looked at, the first one first. -/
def learned : (k : KindName) → k.kind.Observation → List k.kind.Remote → k.kind.Observation
  | .keyValue => KeyValue.learned
  | .vaultSecret => VaultSecret.learned
  | .serverConfiguration => ServerConfiguration.learned
  | .bucket => Bucket.learned
  | .probe => fun o _ => o

theorem learned_nil (k : KindName) (o : k.kind.Observation) : k.learned o [] = o := by
  cases k with
  | keyValue => exact KeyValue.learned_nil o
  | vaultSecret => exact VaultSecret.learned_nil o
  | serverConfiguration => exact ServerConfiguration.learned_nil o
  | bucket => exact Bucket.learned_nil o
  | probe => rfl

theorem learned_observe (k : KindName) (o : k.kind.Observation) (r : k.kind.Remote)
    (seen : List k.kind.Remote) :
    k.learned (k.kind.observe o r) seen = k.learned o (r :: seen) := by
  cases k with
  | keyValue => exact KeyValue.learned_observe o r seen
  | vaultSecret => exact VaultSecret.learned_observe o r seen
  | serverConfiguration => exact ServerConfiguration.learned_observe o r seen
  | bucket => exact Bucket.learned_observe o r seen
  | probe => rfl

theorem foldl_observe (k : KindName) (o : k.kind.Observation) (seen : List k.kind.Remote) :
    seen.foldl k.kind.observe o = k.learned o seen := by
  induction seen generalizing o with
  | nil => exact (k.learned_nil o).symm
  | cons r seen ih => rw [List.foldl_cons, ih, k.learned_observe]

end KindName
end CloudReconcile
