import CloudReconcile.Field
import CloudReconcile.Kind
import CloudReconcile.Status.Basic

/-!
# Secrets in a key vault

A secret has attributes, which a declaration can leave to the provider as a whole or one by one.
-/

namespace CloudReconcile
namespace VaultSecret

structure Attributes where
  enabled : Field Bool
  notBefore : Field String
  expires : Field String
deriving DecidableEq

/-- The wanted secret; vault and name address it. -/
structure Params where
  vault : String
  name : String
  value : String
  contentType : Field String
  attributes : Field Attributes
  tags : Field StringMap
deriving DecidableEq

structure RemoteAttributes where
  enabled : Option Bool
  notBefore : Option String
  expires : Option String
  created : Option String
  updated : Option String
  recoveryLevel : Option String
deriving DecidableEq

structure Remote where
  name : Option String
  value : Option String
  contentType : Option String
  attributes : Option RemoteAttributes
  tags : Option StringMap
  id : Option String
  kid : Option String
  managed : Option Bool
deriving DecidableEq

structure Observation where
  id : Option String
  kid : Option String
  managed : Option Bool
  created : Option String
  updated : Option String
  recoveryLevel : Option String
deriving DecidableEq

structure Identity where
  vault : String
  name : String
deriving DecidableEq

namespace Attributes

def blank : Attributes := ⟨.unset, .unset, .unset⟩

def record : Json.Record Attributes Attributes :=
  Attributes.mk <$> Field.member "enabled" .bool (·.enabled)
    <*> Field.member "notBefore" .string (·.notBefore)
    <*> Field.member "expires" .string (·.expires)

def codec : Json.Codec Attributes := record.codec (.struct "SecretAttributes")

def lateInit (a : Attributes) (r : RemoteAttributes) : Attributes :=
  { enabled := a.enabled.lateInit r.enabled
    notBefore := a.notBefore.lateInit r.notBefore
    expires := a.expires.lateInit r.expires }

def project (a : Attributes) (r : RemoteAttributes) : RemoteAttributes :=
  { r with
    enabled := a.enabled.project r.enabled
    notBefore := a.notBefore.project r.notBefore
    expires := a.expires.project r.expires }

end Attributes

namespace Params

def record : Json.Record Params Params :=
  Params.mk <$> Json.Record.required "vault" .string (·.vault)
    <*> Json.Record.required "name" .string (·.name)
    <*> Json.Record.required "value" .string (·.value)
    <*> Field.member "contentType" .string (·.contentType)
    <*> Field.member "attributes" Attributes.codec (·.attributes)
    <*> Field.member "tags" .stringMap (·.tags)

def codec : Json.Codec Params := record.codec (.struct "VaultSecretParameters")

def identity (p : Params) : Identity := ⟨p.vault, p.name⟩

end Params

namespace RemoteAttributes

def blank : RemoteAttributes := ⟨none, none, none, none, none, none⟩

def record : Json.Record RemoteAttributes RemoteAttributes :=
  RemoteAttributes.mk <$> Json.Record.optional "enabled" .bool (·.enabled)
    <*> Json.Record.optional "notBefore" .string (·.notBefore)
    <*> Json.Record.optional "expires" .string (·.expires)
    <*> Json.Record.optional "created" .string (·.created)
    <*> Json.Record.optional "updated" .string (·.updated)
    <*> Json.Record.optional "recoveryLevel" .string (·.recoveryLevel)

def codec : Json.Codec RemoteAttributes := record.codec (.struct "RemoteSecretAttributes")

end RemoteAttributes

namespace Remote

def blank : Remote := ⟨none, none, none, none, none, none, none, none⟩

def record : Json.Record Remote Remote :=
  Remote.mk <$> Json.Record.optional "name" .string (·.name)
    <*> Json.Record.optional "value" .string (·.value)
    <*> Json.Record.optional "contentType" .string (·.contentType)
    <*> Json.Record.optional "attributes" RemoteAttributes.codec (·.attributes)
    <*> Json.Record.optional "tags" .stringMap (·.tags)
    <*> Json.Record.optional "id" .string (·.id)
    <*> Json.Record.optional "kid" .string (·.kid)
    <*> Json.Record.optional "managed" .bool (·.managed)

def codec : Json.Codec Remote := record.codec (.struct "VaultSecretObject")

end Remote

namespace Observation

def unseen : Observation := ⟨none, none, none, none, none, none⟩

def record : Json.Record Observation Observation :=
  Observation.mk <$> Json.Record.placed "id" .string (·.id)
    <*> Json.Record.placed "kid" .string (·.kid)
    <*> Json.Record.placed "managed" .bool (·.managed)
    <*> Json.Record.placed "created" .string (·.created)
    <*> Json.Record.placed "updated" .string (·.updated)
    <*> Json.Record.placed "recoveryLevel" .string (·.recoveryLevel)

def codec : Json.Codec Observation := record.codec (.struct "VaultSecretObservation")

end Observation

/-- The attributes after a look at the remote ones.  Where nothing is said of any, remote
attributes count only if they have a property that can be wished for. -/
def lateInitAttributes (wanted : Field Attributes) (remote : Option RemoteAttributes) :
    Field Attributes :=
  match wanted, remote with
  | .set a, some r => .set (a.lateInit r)
  | .unset, some r =>
    let a := Attributes.blank.lateInit r
    if a = .blank then .unset else .set a
  | wanted, _ => wanted

/-- The remote attributes with every wish granted; attributes without any property go.  Asking for
no attributes at all is no wish. -/
def projectAttributes (wanted : Field Attributes) (remote : Option RemoteAttributes) :
    Option RemoteAttributes :=
  match wanted with
  | .set a =>
    let r := a.project (remote.getD .blank)
    if r = .blank then none else some r
  | _ => remote

def lateInit (p : Params) (r : Remote) : Params :=
  { p with
    contentType := p.contentType.lateInit r.contentType
    attributes := lateInitAttributes p.attributes r.attributes
    tags := p.tags.lateInit r.tags }

def project (p : Params) (r : Remote) : Remote :=
  { r with
    name := some p.name
    value := some p.value
    contentType := p.contentType.project r.contentType
    attributes := projectAttributes p.attributes r.attributes
    tags := p.tags.project r.tags }

def observe (o : Observation) (r : Remote) : Observation :=
  { id := Status.fill o.id r.id
    kid := Status.fill o.kid r.kid
    managed := Status.fill o.managed r.managed
    created := Status.fill o.created (r.attributes.bind (·.created))
    updated := Status.fill o.updated (r.attributes.bind (·.updated))
    recoveryLevel := Status.fill o.recoveryLevel (r.attributes.bind (·.recoveryLevel)) }

def stamp (r : Remote) (n : Nat) : Remote :=
  { r with
    id := some ("id-" ++ Decimal.natText n)
    attributes := some
      { r.attributes.getD .blank with updated := some ("t" ++ Decimal.natText n) } }

def kind : Kind where
  name := "VaultSecret"
  Identity := Identity
  Params := Params
  Remote := Remote
  Observation := Observation
  identityEq := inferInstance
  paramsEq := inferInstance
  remoteEq := inferInstance
  observationEq := inferInstance
  identity := Params.identity
  label id := id.vault ++ "/" ++ id.name
  path id := ["vaults", id.vault, "secrets", id.name]
  query _ := []
  blank := .blank
  unseen := .unseen
  lateInit := lateInit
  project := project
  observe := observe
  params := Params.codec
  observation := Observation.codec
  encode r := .ok (Remote.codec.write r)
  decode := Remote.codec.read
  specName := "VaultSecretSpec"

end VaultSecret
end CloudReconcile
