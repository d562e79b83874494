import CloudReconcile.Crd.Definition
import CloudReconcile.Http.Target
import CloudReconcile.Operator.Program

/-!
# A cluster for trying things out

The cluster accepts or refuses writes by their sort and keeps a record of all of them.  Of events
that say the same it is told only that there is one more.  A name that cannot stand in the target of
a request keeps the write from being made at all.
-/

namespace CloudReconcile

inductive WriteSort where
  | replace
  | status
  | finalizers
  | event
deriving DecidableEq, Repr

namespace Kind

def objectPath (K : Kind) (name : String) : String :=
  "/apis/" ++ apiGroup ++ "/" ++ apiVersion ++ "/" ++ K.plural ++ "/" ++ name

end Kind

structure Reference where
  kind : String
  name : String
  namespaceName : Option String
  uid : Option String
deriving DecidableEq, Repr

/-- A request to the cluster. -/
inductive ClusterRequest where
  | write (method : String) (target : Http.OriginForm) (body : Json.Value)
  /-- An event that is told for the first time, or that has occurred `count` times. -/
  | event (count : Option Nat) (event : Event) (about : Reference)

namespace FinalizerChange

def operation (name path : String) (value : Option Json.Value) : Json.Value :=
  .object ([("op", .string name), ("path", .string path)] ++
    (value.map fun v => ("value", v)).toList)

/-- The change as a patch that begins with a test. -/
def patch : FinalizerChange → Json.Value
  | .add [] => .array [
      operation "test" "/metadata/finalizers" (some .null),
      operation "add" "/metadata/finalizers" (some (.array [.string finalizerName]))]
  | .add before => .array [
      operation "test" "/metadata/finalizers" (some (.array (before.map .string))),
      operation "add" "/metadata/finalizers/-" (some (.string finalizerName))]
  | .remove place =>
    let path := "/metadata/finalizers/" ++ Decimal.natText place
    .array [operation "test" path (some (.string finalizerName)), operation "remove" path none]

end FinalizerChange

namespace Write

variable {K : Kind}

def sort : Write K → WriteSort
  | .replace _ => .replace
  | .status .. => .status
  | .finalizers .. => .finalizers
  | .publish .. => .event

def fieldManager : String := "?&fieldManager=" ++ operatorName

def reference (d : Declaration K) : Reference :=
  { kind := K.name, name := d.metadata.nameText, namespaceName := d.metadata.namespaceName
    uid := d.metadata.uid }

end Write

namespace Reference

def eventsPath (r : Reference) : String :=
  "/apis/events.k8s.io/v1/namespaces/" ++ r.namespaceName.getD "default" ++ "/events"

/-- The path of an event that was told before: it is named for what it is about. -/
def eventPath (r : Reference) : String := r.eventsPath ++ "/" ++ r.name ++ "."

end Reference

/-- What makes two events the same. -/
structure EventKey where
  type : EventType
  action : String
  reason : String
  about : Reference
deriving DecidableEq, Repr

/-- The events that the cluster has been told, each with the number of its occurrences. -/
abbrev Recorder := List (EventKey × Event × Nat)

namespace Recorder

def key (event : Event) (about : Reference) : EventKey :=
  ⟨event.type, event.action, event.reason, about⟩

/-- What to tell of an event: itself, or the first one like it and how often it has occurred. -/
def tell (r : Recorder) (event : Event) (about : Reference) : Event × Option Nat :=
  match r.lookup (key event about) with
  | none => (event, none)
  | some (first, count) => (first, some (count + 1))

def remember (r : Recorder) (event : Event) (about : Reference) : Recorder :=
  let (told, count) := r.tell event about
  (key event about, told, count.getD 1) :: r

end Recorder

/-- A cluster that keeps a record of the requests, each with its time. -/
structure Cluster where
  refuses : WriteSort → Bool
  recorder : Recorder
  requests : List (Nat × ClusterRequest)

namespace Cluster

variable {K : Kind}

def ofRefusals (refuses : WriteSort → Bool) : Cluster := ⟨refuses, [], []⟩

/-- The request that a write makes, if it can be made. -/
def request? (c : Cluster) : Write K → Option ClusterRequest
  | .replace d =>
    (Http.OriginForm.parse? (K.objectPath d.metadata.nameText ++ Write.fieldManager)).map
      fun target => .write "PUT" target (K.declaration.write d)
  | .status d s =>
    (Http.OriginForm.parse?
        (K.objectPath d.metadata.nameText ++ "/status" ++ Write.fieldManager)).map
      fun target => .write "PATCH" target (.object [("status", K.status.write s)])
  | .finalizers d change =>
    (Http.OriginForm.parse? (K.objectPath d.metadata.nameText ++ "?")).map
      fun target => .write "PATCH" target change.patch
  | .publish d event =>
    let about := Write.reference d
    let (told, count) := c.recorder.tell event about
    (Http.OriginForm.parse? (if count.isNone then about.eventsPath else about.eventPath)).map
      fun _ => .event count told about

def remember (c : Cluster) : Write K → Recorder
  | .publish d event => c.recorder.remember event (Write.reference d)
  | _ => c.recorder

/-- Take a write at some time, and say whether it is accepted. -/
def take (c : Cluster) (time : Nat) (w : Write K) : Bool × Cluster :=
  match c.request? w with
  | none => (false, c)
  | some request =>
    let accepted := !c.refuses w.sort
    (accepted, { c with
      recorder := if accepted then c.remember w else c.recorder
      requests := c.requests ++ [(time, request)] })

end Cluster

end CloudReconcile
