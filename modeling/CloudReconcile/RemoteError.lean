import CloudReconcile.Decimal.Shortest

/-!
# Failures of remote calls
-/

namespace CloudReconcile

inductive RemoteError where
  | notFound (what : String)
  /-- The remote system could not be reached or not be understood. -/
  | transport (reason : String)
  /-- The remote system refused the call. -/
  | rejected (status : Nat) (reason : String)
deriving DecidableEq, Repr

namespace RemoteError

def message : RemoteError → String
  | .notFound what => what ++ " not found"
  | .transport reason => "transport error: " ++ reason
  | .rejected status reason =>
    "rejected by remote (" ++ Decimal.natText status ++ "): " ++ reason

def isNotFound : RemoteError → Bool
  | .notFound _ => true
  | _ => false

/-- The failure lies on the way to the remote system and may clear up on its own. -/
def isTransport : RemoteError → Bool
  | .transport _ => true
  | _ => false

theorem isNotFound_of_isTransport {e : RemoteError} (h : e.isTransport = true) :
    e.isNotFound = false := by
  cases e with
  | notFound what => cases h
  | transport reason => rfl
  | rejected status reason => rfl

end RemoteError

end CloudReconcile
