import CloudReconcile.Json.Record
import CloudReconcile.Metadata.Timestamp

/-!
# What a cluster knows about an object

The part that all objects of a cluster have in common: names, finalizers, times and the like.  It
is written with its members in the order of their keys.
-/

namespace CloudReconcile

structure ManagedFields where
  apiVersion : Option String
  fieldsType : Option String
  fieldsV1 : Option Json.Value
  manager : Option String
  operation : Option String
  subresource : Option String
  time : Option Timestamp
deriving DecidableEq

structure OwnerReference where
  apiVersion : String
  blockOwnerDeletion : Option Bool
  controller : Option Bool
  kind : String
  name : String
  uid : String
deriving DecidableEq

/-- What a cluster knows about an object. -/
structure Metadata where
  annotations : Option StringMap
  creationTimestamp : Option Timestamp
  deletionGracePeriodSeconds : Option Int
  deletionTimestamp : Option Timestamp
  finalizers : Option (List String)
  generateName : Option String
  generation : Option Int
  labels : Option StringMap
  managedFields : Option (List ManagedFields)
  name : Option String
  namespaceName : Option String
  ownerReferences : Option (List OwnerReference)
  resourceVersion : Option String
  selfLink : Option String
  uid : Option String
deriving DecidableEq

/-- A record of the cluster: no array stands for it, and a member may come twice. -/
def Metadata.style (name : String) : Json.Record.Style := ⟨name, false, true⟩

def Timestamp.codec : Json.Codec Timestamp :=
  (Json.Codec.words "an RFC 3339 formatted date and time string").refine Timestamp.text
    fun text => (Timestamp.parse text).mapError TimestampError.message

namespace ManagedFields

/-- The levels that may be nested inside a property of a whole resource. -/
def fieldLevels : Nat := 123

def record : Json.Record ManagedFields ManagedFields :=
  ManagedFields.mk <$> Json.Record.optional "apiVersion" .string (·.apiVersion)
    <*> Json.Record.optional "fieldsType" .string (·.fieldsType)
    <*> Json.Record.optional "fieldsV1" (.any fieldLevels) (·.fieldsV1)
    <*> Json.Record.optional "manager" .string (·.manager)
    <*> Json.Record.optional "operation" .string (·.operation)
    <*> Json.Record.optional "subresource" .string (·.subresource)
    <*> Json.Record.optional "time" Timestamp.codec (·.time)

def codec : Json.Codec ManagedFields := record.codec (Metadata.style "ManagedFieldsEntry")

end ManagedFields

namespace OwnerReference

def text (key : String) (get : OwnerReference → String) :
    Json.Record OwnerReference String :=
  Json.Record.member key
    (fun tree => (Json.Codec.string.nullable.read tree).map (·.getD ""))
    (fun _ => some "") (fun r => some (.string (get r)))

def record : Json.Record OwnerReference OwnerReference :=
  OwnerReference.mk <$> text "apiVersion" (·.apiVersion)
    <*> Json.Record.optional "blockOwnerDeletion" .bool (·.blockOwnerDeletion)
    <*> Json.Record.optional "controller" .bool (·.controller)
    <*> text "kind" (·.kind)
    <*> text "name" (·.name)
    <*> text "uid" (·.uid)

def codec : Json.Codec OwnerReference := record.codec (Metadata.style "OwnerReference")

end OwnerReference

namespace Metadata

def blank : Metadata :=
  ⟨none, none, none, none, none, none, none, none, none, none, none, none, none, none, none⟩

def record : Json.Record Metadata Metadata :=
  Metadata.mk <$> Json.Record.optional "annotations" .stringMap (·.annotations)
    <*> Json.Record.optional "creationTimestamp" Timestamp.codec (·.creationTimestamp)
    <*> Json.Record.optional "deletionGracePeriodSeconds" .int64 (·.deletionGracePeriodSeconds)
    <*> Json.Record.optional "deletionTimestamp" Timestamp.codec (·.deletionTimestamp)
    <*> Json.Record.optional "finalizers" (.list .string) (·.finalizers)
    <*> Json.Record.optional "generateName" .string (·.generateName)
    <*> Json.Record.optional "generation" .int64 (·.generation)
    <*> Json.Record.optional "labels" .stringMap (·.labels)
    <*> Json.Record.optional "managedFields" (.list ManagedFields.codec) (·.managedFields)
    <*> Json.Record.optional "name" .string (·.name)
    <*> Json.Record.optional "namespace" .string (·.namespaceName)
    <*> Json.Record.optional "ownerReferences" (.list OwnerReference.codec) (·.ownerReferences)
    <*> Json.Record.optional "resourceVersion" .string (·.resourceVersion)
    <*> Json.Record.optional "selfLink" .string (·.selfLink)
    <*> Json.Record.optional "uid" .string (·.uid)

def codec : Json.Codec Metadata := record.codec (style "ObjectMeta")

def finalizerList (m : Metadata) : List String := m.finalizers.getD []

def isDeleted (m : Metadata) : Bool := m.deletionTimestamp.isSome

def nameText (m : Metadata) : String :=
  m.name.getD (m.generateName.getD "")

end Metadata

end CloudReconcile
