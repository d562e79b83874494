import CloudReconcile.Json.Record

/-!
# Conditions

A condition is one statement about a resource: its type says what it is about, its status whether
it holds, its reason why.
-/

namespace CloudReconcile

/-- A statement about a resource. -/
structure Condition where
  type : String
  status : String
  reason : String
  message : Option String
deriving DecidableEq, Repr

namespace Condition

def ready : String := "Ready"

def synced : String := "Synced"

/-- A statement that does or does not hold. -/
def make (type : String) (holds : Bool) (reason : String) : Condition :=
  { type, status := if holds then "True" else "False", reason, message := none }

def available : Condition := make ready true "Available"

def creating : Condition := make ready false "Creating"

def deleting : Condition := make ready false "Deleting"

def reconcileSuccess : Condition := make synced true "ReconcileSuccess"

def reconcileError (message : String) : Condition :=
  { make synced false "ReconcileError" with message := some message }

def isTrue (c : Condition) : Bool := c.status = "True"

def record : Json.Record Condition Condition :=
  make <$> Json.Record.required "type" .string (·.type)
    <*> Json.Record.required "status" .string (·.status)
    <*> Json.Record.required "reason" .string (·.reason)
    <*> Json.Record.placed "message" .string (·.message)
where
  make type status reason message : Condition := { type, status, reason, message }

def codec : Json.Codec Condition := record.codec (.struct "Condition")

end Condition

end CloudReconcile
