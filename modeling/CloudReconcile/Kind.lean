import CloudReconcile.Json.Record
import CloudReconcile.RemoteError
import CloudReconcile.Url.Query
import CloudReconcile.Url.Segments

/-!
# Kinds of resources

A kind says what its declarations ask for, what its remote objects look like and how the two are
brought together.  Everything else in this library is the same for all kinds.
-/

namespace CloudReconcile

def Url.extended (base : Url) (path : List String) : Except RemoteError Url :=
  match base.withSegments? path with
  | some u => .ok u
  | none => .error (.transport ("endpoint " ++ base.text ++ " cannot be a base URL"))

/-- A kind of resources. -/
structure Kind where
  name : String
  Identity : Type
  Params : Type
  Remote : Type
  /-- What the provider reports about a remote object. -/
  Observation : Type
  identityEq : DecidableEq Identity
  paramsEq : DecidableEq Params
  remoteEq : DecidableEq Remote
  observationEq : DecidableEq Observation
  identity : Params → Identity
  label : Identity → String
  /-- The path of the object at a gateway. -/
  path : Identity → List String
  query : Identity → List (String × String)
  blank : Remote
  unseen : Observation
  /-- Take over what the remote object has where the parameters say nothing. -/
  lateInit : Params → Remote → Params
  /-- The remote object with every wish of the parameters granted. -/
  project : Params → Remote → Remote
  /-- What the remote object adds to a report. -/
  observe : Observation → Remote → Observation
  params : Json.Codec Params
  observation : Json.Codec Observation
  /-- The JSON form of a remote object, if it has one. -/
  encode : Remote → Except String Json.Value
  decode : Json.Tree → Except Json.Problem Remote
  /-- What a specification of the kind is called where one was expected. -/
  specName : String

namespace Kind

variable (K : Kind)

instance : DecidableEq K.Identity := K.identityEq
instance : DecidableEq K.Params := K.paramsEq
instance : DecidableEq K.Remote := K.remoteEq
instance : DecidableEq K.Observation := K.observationEq

def describe (id : K.Identity) : String := K.name ++ " " ++ K.label id

/-- Where the object is found at a gateway. -/
def address (base : Url) (id : K.Identity) : Except RemoteError Url :=
  (base.extended (K.path id)).map fun u =>
    (K.query id).foldl (fun u pair => u.withPair pair.1 pair.2) u

end Kind

end CloudReconcile
