import CloudReconcile.Field
import CloudReconcile.Kind
import CloudReconcile.Status.Basic
import CloudReconcile.Text.Quoted

/-!
# Key-value pairs in a configuration store
-/

namespace CloudReconcile
namespace KeyValue

/-- The wanted pair; store, key and label address it. -/
structure Params where
  store : String
  key : String
  label : String
  value : String
  contentType : Field String
  locked : Field Bool
  tags : Field StringMap
deriving DecidableEq

structure Remote where
  key : Option String
  label : Option String
  value : Option String
  contentType : Option String
  locked : Option Bool
  tags : Option StringMap
  etag : Option String
  lastModified : Option String
deriving DecidableEq

structure Observation where
  etag : Option String
  lastModified : Option String
deriving DecidableEq

structure Identity where
  store : String
  key : String
  label : String
deriving DecidableEq

namespace Params

def record : Json.Record Params Params :=
  Params.mk <$> Json.Record.required "store" .string (·.store)
    <*> Json.Record.required "key" .string (·.key)
    <*> Json.Record.required "label" .string (·.label)
    <*> Json.Record.required "value" .string (·.value)
    <*> Field.member "contentType" .string (·.contentType)
    <*> Field.member "locked" .bool (·.locked)
    <*> Field.member "tags" .stringMap (·.tags)

def codec : Json.Codec Params := record.codec (.struct "KeyValueParameters")

def identity (p : Params) : Identity := ⟨p.store, p.key, p.label⟩

end Params

namespace Remote

def blank : Remote := ⟨none, none, none, none, none, none, none, none⟩

def record : Json.Record Remote Remote :=
  Remote.mk <$> Json.Record.optional "key" .string (·.key)
    <*> Json.Record.optional "label" .string (·.label)
    <*> Json.Record.optional "value" .string (·.value)
    <*> Json.Record.optional "contentType" .string (·.contentType)
    <*> Json.Record.optional "locked" .bool (·.locked)
    <*> Json.Record.optional "tags" .stringMap (·.tags)
    <*> Json.Record.optional "etag" .string (·.etag)
    <*> Json.Record.optional "lastModified" .string (·.lastModified)

def codec : Json.Codec Remote := record.codec (.struct "KeyValueObject")

end Remote

namespace Observation

def unseen : Observation := ⟨none, none⟩

def record : Json.Record Observation Observation :=
  Observation.mk <$> Json.Record.placed "etag" .string (·.etag)
    <*> Json.Record.placed "lastModified" .string (·.lastModified)

def codec : Json.Codec Observation := record.codec (.struct "KeyValueObservation")

end Observation

def lateInit (p : Params) (r : Remote) : Params :=
  { p with
    contentType := p.contentType.lateInit r.contentType
    locked := p.locked.lateInit r.locked
    tags := p.tags.lateInit r.tags }

def project (p : Params) (r : Remote) : Remote :=
  { r with
    key := some p.key
    label := some p.label
    value := some p.value
    contentType := p.contentType.project r.contentType
    locked := p.locked.project r.locked
    tags := p.tags.project r.tags }

def observe (o : Observation) (r : Remote) : Observation :=
  { etag := Status.fill o.etag r.etag
    lastModified := Status.fill o.lastModified r.lastModified }

def stamp (r : Remote) (n : Nat) : Remote :=
  { r with etag := some ("e" ++ Decimal.natText n) }

def kind : Kind where
  name := "KeyValue"
  Identity := Identity
  Params := Params
  Remote := Remote
  Observation := Observation
  identityEq := inferInstance
  paramsEq := inferInstance
  remoteEq := inferInstance
  observationEq := inferInstance
  identity := Params.identity
  label id := id.store ++ "/" ++ id.key ++ " (label " ++ Text.quoted id.label ++ ")"
  path id := ["stores", id.store, "kv", id.key]
  query id := [("label", id.label)]
  blank := .blank
  unseen := .unseen
  lateInit := lateInit
  project := project
  observe := observe
  params := Params.codec
  observation := Observation.codec
  encode r := .ok (Remote.codec.write r)
  decode := Remote.codec.read
  specName := "KeyValueSpec"

end KeyValue
end CloudReconcile
