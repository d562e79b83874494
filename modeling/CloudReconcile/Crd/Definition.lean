import CloudReconcile.Crd.Schema
import CloudReconcile.Declaration

/-!
# Definitions of custom resources

What a cluster has to be told so that it takes declarations of a kind.
-/

namespace CloudReconcile
namespace Kind

def singular (K : Kind) : String := K.name.map Char.toLower

def plural (K : Kind) : String := K.singular ++ "s"

end Kind

namespace Crd

structure Column where
  name : String
  path : String
deriving DecidableEq, Repr

namespace Column

def condition (name type : String) : Column :=
  ⟨name, ".status.conditions[?(@.type=='" ++ type ++ "')].status"⟩

def ready : Column := condition "READY" Condition.ready

def synced : Column := condition "SYNCED" Condition.synced

def write (c : Column) : Json.Value :=
  .object [("jsonPath", .string c.path), ("name", .string c.name), ("type", .string "string")]

end Column

/-- What a cluster is told of a kind. -/
structure Definition where
  kind : Kind
  params : Schema
  observation : Schema
  columns : List Column

namespace Definition

def policy : Member :=
  .mk "deletionPolicy" (.choice (DeletionPolicy.names.map (·.1)))
    (.mk (some "What happens to the remote object when the declaration is deleted.")
      (some DeletionPolicy.delete.name) false none) false

def spec (d : Definition) : Schema :=
  .record [policy, .required "forProvider" d.params]

def conditions : Schema :=
  .list (.record [.optional "message" .text, .required "reason" .text, .required "status" .text,
    .required "type" .text])

def status (d : Definition) : Schema :=
  .record [.plain "atProvider" d.observation, .plain "conditions" conditions]

def statusNotes : Notes :=
  .mk (some ("Status block of a managed resource: conditions plus the provider reported " ++
    "observation.")) none true none

def schema (d : Definition) : Json.Value :=
  (Schema.record [.required "spec" d.spec, .mk "status" d.status statusNotes false]).write
    (.mk (some ("Auto-generated derived type for " ++ d.kind.specName ++
      " via \x60CustomResource\x60")) none false (some d.kind.name))

def version (d : Definition) : Json.Value :=
  .object [
    ("additionalPrinterColumns", .array (d.columns.map Column.write)),
    ("name", .string apiVersion),
    ("schema", .object [("openAPIV3Schema", d.schema)]),
    ("served", .bool true),
    ("storage", .bool true),
    ("subresources", .object [("status", .object [])])]

def names (d : Definition) : Json.Value :=
  .object [
    ("categories", .array []),
    ("kind", .string d.kind.name),
    ("plural", .string d.kind.plural),
    ("shortNames", .array []),
    ("singular", .string d.kind.singular)]

def write (d : Definition) : Json.Value :=
  .object [
    ("apiVersion", .string "apiextensions.k8s.io/v1"),
    ("kind", .string "CustomResourceDefinition"),
    ("metadata", .object [("name", .string (d.kind.plural ++ "." ++ apiGroup))]),
    ("spec", .object [
      ("group", .string apiGroup),
      ("names", d.names),
      ("scope", .string "Cluster"),
      ("versions", .array [d.version])])]

end Definition

end Crd
end CloudReconcile
