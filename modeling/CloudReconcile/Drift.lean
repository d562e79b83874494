import CloudReconcile.Kind

/-!
# Drift

A remote object has drifted when granting all wishes would change it.  The comparison is made on
the JSON forms of the object and of a copy of it with the wishes granted, so properties without a
wish never count.  When the comparison itself fails the object passes as up to date.
-/

namespace CloudReconcile

structure ComparisonError where
  resource : String
  reason : String
deriving DecidableEq, Repr

namespace ComparisonError

def message (e : ComparisonError) : String :=
  "cannot determine if " ++ e.resource ++ " is up-to-date: " ++ e.reason

end ComparisonError

structure DriftCheck where
  upToDate : Bool
  error : Option ComparisonError
deriving DecidableEq, Repr

namespace Drift

variable (K : Kind)

/-- Granting the wishes leaves the JSON form of the object as it is. -/
def compare (p : K.Params) (r : K.Remote) : Except String Bool := do
  let snapshot ← K.encode r
  let copy ← (K.decode (.ofValue snapshot)).mapError (·.message)
  let projected ← K.encode (K.project p copy)
  return projected = snapshot

/-- Whether an object is as the parameters want it. -/
def check (p : K.Params) (r : K.Remote) : DriftCheck :=
  match compare K p r with
  | .ok upToDate => ⟨upToDate, none⟩
  | .error reason => ⟨true, some ⟨K.name, reason⟩⟩

end Drift

end CloudReconcile
