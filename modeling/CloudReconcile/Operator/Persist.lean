import CloudReconcile.Operator.Error
import CloudReconcile.Operator.Program

/-!
# Writing declarations back

Nothing can be written about an object without a name; the cluster is not even asked.
-/

namespace CloudReconcile
namespace Persist

variable {K : Kind}

/-- A write about an object, which needs a name. -/
def named (d : Declaration K) (w : Write K) : Program K (Except OperatorError Unit) :=
  if d.metadata.nameText = "" then pure (.error .cluster)
  else do
    if ← Program.attempt w then return .ok () else return .error .cluster

/-- Put a declaration in the place of the one that is there.  A whole declaration keeps wishes for
absence, and a conflict is an error. -/
def declaration (d : Declaration K) : Program K (Except OperatorError (Declaration K)) := do
  return (← named d (.replace d)).map fun _ => d

/-- Merge the status of a declaration into the one that is there, if it has any. -/
def status (d : Declaration K) : Program K (Except OperatorError Unit) :=
  match d.status with
  | none => pure (.ok ())
  | some s => named d (.status d s)

end Persist
end CloudReconcile
