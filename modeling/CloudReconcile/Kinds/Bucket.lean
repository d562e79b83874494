import CloudReconcile.Field
import CloudReconcile.Kind
import CloudReconcile.Status.Basic

/-!
# Buckets of an object store
-/

namespace CloudReconcile
namespace Bucket

inductive Acl where
  | isPrivate
  | publicRead
  | publicReadWrite
  | authenticatedRead
deriving DecidableEq, Repr

/-- The wanted bucket; its name addresses it. -/
structure Params where
  name : String
  location : Field String
  storageClass : Field String
  predefinedAcl : Field Acl
  versioning : Field Bool
  labels : Field StringMap
deriving DecidableEq

structure Remote where
  name : Option String
  location : Option String
  storageClass : Option String
  predefinedAcl : Option Acl
  versioning : Option Bool
  labels : Option StringMap
  selfLink : Option String
  timeCreated : Option String
  etag : Option String
deriving DecidableEq

structure Observation where
  selfLink : Option String
  timeCreated : Option String
deriving DecidableEq

namespace Acl

def names : List (String × Acl) :=
  [("Private", .isPrivate), ("PublicRead", .publicRead),
    ("PublicReadWrite", .publicReadWrite), ("AuthenticatedRead", .authenticatedRead)]

def name : Acl → String
  | .isPrivate => "Private"
  | .publicRead => "PublicRead"
  | .publicReadWrite => "PublicReadWrite"
  | .authenticatedRead => "AuthenticatedRead"

def codec : Json.Codec Acl := .choice names name

end Acl

namespace Params

def record : Json.Record Params Params :=
  Params.mk <$> Json.Record.required "name" .string (·.name)
    <*> Field.member "location" .string (·.location)
    <*> Field.member "storageClass" .string (·.storageClass)
    <*> Field.member "predefinedAcl" Acl.codec (·.predefinedAcl)
    <*> Field.member "versioning" .bool (·.versioning)
    <*> Field.member "labels" .stringMap (·.labels)

def codec : Json.Codec Params := record.codec (.struct "BucketParameters")

end Params

namespace Remote

def blank : Remote := ⟨none, none, none, none, none, none, none, none, none⟩

def record : Json.Record Remote Remote :=
  Remote.mk <$> Json.Record.optional "name" .string (·.name)
    <*> Json.Record.optional "location" .string (·.location)
    <*> Json.Record.optional "storageClass" .string (·.storageClass)
    <*> Json.Record.optional "predefinedAcl" Acl.codec (·.predefinedAcl)
    <*> Json.Record.optional "versioning" .bool (·.versioning)
    <*> Json.Record.optional "labels" .stringMap (·.labels)
    <*> Json.Record.optional "selfLink" .string (·.selfLink)
    <*> Json.Record.optional "timeCreated" .string (·.timeCreated)
    <*> Json.Record.optional "etag" .string (·.etag)

def codec : Json.Codec Remote := record.codec (.struct "BucketObject")

end Remote

namespace Observation

def unseen : Observation := ⟨none, none⟩

def record : Json.Record Observation Observation :=
  Observation.mk <$> Json.Record.placed "selfLink" .string (·.selfLink)
    <*> Json.Record.placed "timeCreated" .string (·.timeCreated)

def codec : Json.Codec Observation := record.codec (.struct "BucketObservation")

end Observation

def lateInit (p : Params) (r : Remote) : Params :=
  { p with
    location := p.location.lateInit r.location
    storageClass := p.storageClass.lateInit r.storageClass
    predefinedAcl := p.predefinedAcl.lateInit r.predefinedAcl
    versioning := p.versioning.lateInit r.versioning
    labels := p.labels.lateInit r.labels }

def project (p : Params) (r : Remote) : Remote :=
  { r with
    name := some p.name
    location := p.location.project r.location
    storageClass := p.storageClass.project r.storageClass
    predefinedAcl := p.predefinedAcl.project r.predefinedAcl
    versioning := p.versioning.project r.versioning
    labels := p.labels.project r.labels }

def observe (o : Observation) (r : Remote) : Observation :=
  { selfLink := Status.fill o.selfLink r.selfLink
    timeCreated := Status.fill o.timeCreated r.timeCreated }

def stamp (r : Remote) (n : Nat) : Remote :=
  { r with
    etag := some ("e" ++ Decimal.natText n)
    selfLink := some ("link-" ++ Decimal.natText n)
    location := some (r.location.getD "US") }

def kind : Kind where
  name := "Bucket"
  Identity := String
  Params := Params
  Remote := Remote
  Observation := Observation
  identityEq := inferInstance
  paramsEq := inferInstance
  remoteEq := inferInstance
  observationEq := inferInstance
  identity := Params.name
  label := id
  path name := ["buckets", name]
  query _ := []
  blank := .blank
  unseen := .unseen
  lateInit := lateInit
  project := project
  observe := observe
  params := Params.codec
  observation := Observation.codec
  encode r := .ok (Remote.codec.write r)
  decode := Remote.codec.read
  specName := "BucketSpec"

end Bucket
end CloudReconcile
