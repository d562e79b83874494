import CloudReconcile.Operator.Controller
import CloudReconcile.Operator.Stored

/-!
# The lifetime of a declaration

While a declaration is kept by the cluster, others change it and the operator reconciles it, in any
order and with any course of events.  The cluster drops a declaration that somebody has deleted as
soon as nothing stands in the way, that is, when it has no finalizers left.
-/

namespace CloudReconcile

/-- One reconciliation: the declaration that was read, and what was done for it. -/
structure Round (K : Kind) where
  declaration : Declaration K
  effects : List (Effect K)

/-- What may become of a kept declaration, round by round.  `edit` tells which changes others may
make. -/
inductive Lifetime {k : KindName} (s : Controller) (edit : Stored k.kind → Stored k.kind → Prop) :
    Option (Stored k.kind) → List (Round k.kind) → Option (Stored k.kind) → Prop where
  | still (now : Option (Stored k.kind)) : Lifetime s edit now [] now
  | edited {now next : Stored k.kind} {rounds : List (Round k.kind)}
      {final : Option (Stored k.kind)} (allowed : edit now next)
      (rest : Lifetime s edit (some next) rounds final) : Lifetime s edit (some now) rounds final
  | reconciled {now : Stored k.kind} {d : Declaration k.kind} {effects : List (Effect k.kind)}
      {result : Except OperatorError Requeue} {rounds : List (Round k.kind)}
      {final : Option (Stored k.kind)} (read : now.read = .ok d)
      (done : (s.reconcile d).Does effects result)
      (rest : Lifetime s edit (some (now.after effects)) rounds final) :
      Lifetime s edit (some now) (⟨d, effects⟩ :: rounds) final
  | dropped {now : Stored k.kind} (deleted : now.metadata.isDeleted = true)
      (free : now.metadata.finalizerList = []) : Lifetime s edit (some now) [] none

end CloudReconcile
