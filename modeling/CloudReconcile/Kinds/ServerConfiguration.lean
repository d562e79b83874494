import CloudReconcile.Field
import CloudReconcile.Kind
import CloudReconcile.Status.Basic

/-!
# Configuration entries of a database server
-/

namespace CloudReconcile
namespace ServerConfiguration

/-- The wanted entry; server and name address it. -/
structure Params where
  serverName : String
  name : String
  value : Field String
  source : Field String
deriving DecidableEq

structure Remote where
  name : Option String
  value : Option String
  source : Option String
  defaultValue : Option String
  dataType : Option String
  allowedValues : Option String
  description : Option String
deriving DecidableEq

structure Observation where
  defaultValue : Option String
  dataType : Option String
  allowedValues : Option String
  description : Option String
deriving DecidableEq

structure Identity where
  serverName : String
  name : String
deriving DecidableEq

namespace Params

def record : Json.Record Params Params :=
  Params.mk <$> Json.Record.required "serverName" .string (·.serverName)
    <*> Json.Record.required "name" .string (·.name)
    <*> Field.member "value" .string (·.value)
    <*> Field.member "source" .string (·.source)

def codec : Json.Codec Params := record.codec (.struct "ServerConfigurationParameters")

def identity (p : Params) : Identity := ⟨p.serverName, p.name⟩

end Params

namespace Remote

def blank : Remote := ⟨none, none, none, none, none, none, none⟩

def record : Json.Record Remote Remote :=
  Remote.mk <$> Json.Record.optional "name" .string (·.name)
    <*> Json.Record.optional "value" .string (·.value)
    <*> Json.Record.optional "source" .string (·.source)
    <*> Json.Record.optional "defaultValue" .string (·.defaultValue)
    <*> Json.Record.optional "dataType" .string (·.dataType)
    <*> Json.Record.optional "allowedValues" .string (·.allowedValues)
    <*> Json.Record.optional "description" .string (·.description)

def codec : Json.Codec Remote := record.codec (.struct "ServerConfigurationObject")

end Remote

namespace Observation

def unseen : Observation := ⟨none, none, none, none⟩

def record : Json.Record Observation Observation :=
  Observation.mk <$> Json.Record.placed "defaultValue" .string (·.defaultValue)
    <*> Json.Record.placed "dataType" .string (·.dataType)
    <*> Json.Record.placed "allowedValues" .string (·.allowedValues)
    <*> Json.Record.placed "description" .string (·.description)

def codec : Json.Codec Observation := record.codec (.struct "ServerConfigurationObservation")

end Observation

def lateInit (p : Params) (r : Remote) : Params :=
  { p with
    value := p.value.lateInit r.value
    source := p.source.lateInit r.source }

def project (p : Params) (r : Remote) : Remote :=
  { r with
    name := some p.name
    value := p.value.project r.value
    source := p.source.project r.source }

def observe (o : Observation) (r : Remote) : Observation :=
  { defaultValue := Status.fill o.defaultValue r.defaultValue
    dataType := Status.fill o.dataType r.dataType
    allowedValues := Status.fill o.allowedValues r.allowedValues
    description := Status.fill o.description r.description }

def stamp (r : Remote) (n : Nat) : Remote :=
  { r with
    description := some ("d" ++ Decimal.natText n)
    value := some (r.value.getD "default") }

def kind : Kind where
  name := "ServerConfiguration"
  Identity := Identity
  Params := Params
  Remote := Remote
  Observation := Observation
  identityEq := inferInstance
  paramsEq := inferInstance
  remoteEq := inferInstance
  observationEq := inferInstance
  identity := Params.identity
  label id := id.serverName ++ "/" ++ id.name
  path id := ["servers", id.serverName, "configurations", id.name]
  query _ := []
  blank := .blank
  unseen := .unseen
  lateInit := lateInit
  project := project
  observe := observe
  params := Params.codec
  observation := Observation.codec
  encode r := .ok (Remote.codec.write r)
  decode := Remote.codec.read
  specName := "ServerConfigurationSpec"

end ServerConfiguration
end CloudReconcile
