import CloudReconcile.Crd.Definition

/-!
# The definitions of this library's kinds
-/

namespace CloudReconcile

open Crd (Schema Definition Column)

/-- A report whose members are texts. -/
def Crd.texts (keys : List String) : Schema :=
  .record (keys.map fun key => .optional key .text)

def KeyValue.definition : Definition where
  kind := kind
  params := .record [
    .optional "contentType" .text,
    .documented "key" "Immutable." .text,
    .documented "label" "Immutable." .text,
    .optional "locked" .flag,
    .documented "store" "Name of the configuration store. Immutable." .text,
    .optional "tags" (.map .text),
    .required "value" .text]
  observation := Crd.texts ["etag", "lastModified"]
  columns := [.ready, .synced]

def VaultSecret.attributes : Schema :=
  .record [.optional "enabled" .flag, .optional "expires" .text, .optional "notBefore" .text]

def VaultSecret.definition : Definition where
  kind := kind
  params := .record [
    .mk "attributes" attributes
      (.mk (some "Declared secret attributes; each one is optional on its own.") none true none)
      false,
    .optional "contentType" .text,
    .documented "name" "Immutable." .text,
    .optional "tags" (.map .text),
    .required "value" .text,
    .documented "vault" "Vault holding the secret. Immutable." .text]
  observation := .record [
    .optional "created" .text,
    .optional "id" .text,
    .optional "kid" .text,
    .optional "managed" .flag,
    .optional "recoveryLevel" .text,
    .optional "updated" .text]
  columns := [.ready, .synced]

def ServerConfiguration.definition : Definition where
  kind := kind
  params := .record [
    .documented "name" "Configuration name, e.g. \x60max_connections\x60. Immutable." .text,
    .documented "serverName" "Database server the entry belongs to. Immutable." .text,
    .optional "source" .text,
    .optional "value" .text]
  observation := Crd.texts ["allowedValues", "dataType", "defaultValue", "description"]
  columns := [.ready, ⟨"VALUE", ".spec.forProvider.value"⟩]

def Bucket.definition : Definition where
  kind := kind
  params := .record [
    .optional "labels" (.map .text),
    .optional "location" .text,
    .documented "name" "Globally unique bucket name. Immutable." .text,
    .optional "predefinedAcl" (.choice (Acl.names.map (·.1))),
    .optional "storageClass" .text,
    .optional "versioning" .flag]
  observation := Crd.texts ["selfLink", "timeCreated"]
  columns := [.ready, ⟨"PREDEFINED-ACL", ".spec.forProvider.predefinedAcl"⟩]

def Probe.definition : Definition where
  kind := kind
  params := .record [.plain "mode" .text, .required "name" .text]
  observation := .record []
  columns := [.ready, .synced]

namespace KindName

def definition : KindName → Definition
  | .keyValue => KeyValue.definition
  | .vaultSecret => VaultSecret.definition
  | .serverConfiguration => ServerConfiguration.definition
  | .bucket => Bucket.definition
  | .probe => Probe.definition

end KindName

end CloudReconcile
