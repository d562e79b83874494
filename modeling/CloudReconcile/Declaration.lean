import CloudReconcile.Kinds.Name
import CloudReconcile.Metadata.Basic

/-!
# Declarations

A declaration is an object of the cluster that asks for a remote object.  It holds what is wanted,
what to do with the remote object in the end, and what became of it so far.
-/

namespace CloudReconcile

/-- What happens to the remote object when its declaration is deleted. -/
inductive DeletionPolicy where
  | delete
  | orphan
deriving DecidableEq, Repr

namespace DeletionPolicy

def names : List (String × DeletionPolicy) := [("Delete", .delete), ("Orphan", .orphan)]

def name : DeletionPolicy → String
  | .delete => "Delete"
  | .orphan => "Orphan"

def codec : Json.Codec DeletionPolicy := .choice names name

end DeletionPolicy

def apiGroup : String := "cloud.keel.dev"

def apiVersion : String := "v1alpha1"

structure Spec (K : Kind) where
  forProvider : K.Params
  deletionPolicy : DeletionPolicy

/-- An object of the cluster that asks for a remote object. -/
structure Declaration (K : Kind) where
  metadata : Metadata
  spec : Spec K
  status : Option (Status K.Observation)

namespace Kind

variable (K : Kind)

def specRecord : Json.Record (Spec K) (Spec K) :=
  Spec.mk <$> Json.Record.required "forProvider" K.params (·.forProvider)
    <*> Json.Record.defaulted "deletionPolicy" DeletionPolicy.codec .delete (·.deletionPolicy)

def spec : Json.Codec (Spec K) := K.specRecord.codec (.struct K.specName)

def status : Json.Codec (Status K.Observation) := Status.codec K.observation K.unseen

def declarationRecord : Json.Record (Declaration K) (Declaration K) :=
  Declaration.mk <$> Json.Record.required "metadata" Metadata.codec (·.metadata)
    <*> Json.Record.required "spec" K.spec (·.spec)
    <*> Json.Record.placed "status" K.status (·.status)

/-- Declarations in JSON.  They begin with the names of version and kind, which are written but
not looked at when reading. -/
def declaration : Json.Codec (Declaration K) where
  write d := .object
    (("apiVersion", .string (apiGroup ++ "/" ++ apiVersion)) :: ("kind", .string K.name) ::
      K.declarationRecord.write d)
  read := K.declarationRecord.read (.struct K.name)

end Kind

namespace Declaration

variable {K : Kind}

instance : DecidableEq (Spec K) := fun a b =>
  decidable_of_iff (a.forProvider = b.forProvider ∧ a.deletionPolicy = b.deletionPolicy)
    (by cases a; cases b; simp)

instance : DecidableEq (Declaration K) := fun a b =>
  decidable_of_iff (a.metadata = b.metadata ∧ a.spec = b.spec ∧ a.status = b.status)
    (by cases a; cases b; simp)

def params (d : Declaration K) : K.Params := d.spec.forProvider

def withParams (d : Declaration K) (params : K.Params) : Declaration K :=
  { d with spec := { d.spec with forProvider := params } }

def identity (d : Declaration K) : K.Identity := K.identity d.params

/-- The status; one that says nothing if there is none yet. -/
def statusOrBlank (d : Declaration K) : Status K.Observation :=
  d.status.getD (.blank K.unseen)

theorem statusOrBlank_of_told {d : Declaration K} {status : Status K.Observation}
    (told : d.status = some status) : d.statusOrBlank = status := by
  rw [statusOrBlank, told]
  rfl

def withCondition (d : Declaration K) (c : Condition) : Declaration K :=
  { d with status := some (d.statusOrBlank.set c) }

def ofSpec (spec : Spec K) (status : Option (Status K.Observation)) : Declaration K :=
  ⟨.blank, spec, status⟩

end Declaration

end CloudReconcile
