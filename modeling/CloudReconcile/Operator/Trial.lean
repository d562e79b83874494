import CloudReconcile.Operator.Controller
import CloudReconcile.Operator.Stored

/-!
# Trials

A declaration and a remote system left to the operator: it reads the declaration, reconciles it, and
does so again and again, while the cluster may refuse any write.  A refused write changes nothing;
nobody else changes anything.
-/

namespace CloudReconcile

/-- Which writes a cluster accepts, given the writes before. -/
abbrev Verdict (K : Kind) := List (Write K) → Write K → Bool

/-- A cluster that accepts every write. -/
def Verdict.willing {K : Kind} : Verdict K := fun _ _ => true

/-- A declaration as the cluster keeps it, a remote system, and the writes so far. -/
structure Trial (K : Kind) (σ : Type) where
  stored : Stored K
  remote : σ
  written : List (Write K)

namespace Trial

section Systems

variable {K : Kind} {σ : Type}

def start (d : Declaration K) (remote : σ) : Trial K σ := ⟨.ofDeclaration d, remote, []⟩

def adapter (remote : Adapter K σ) : Adapter K (Trial K σ) := fun c t =>
  let (result, now) := remote c t.remote
  (result, { t with remote := now })

def cluster (verdict : Verdict K) (w : Write K) (t : Trial K σ) : Bool × Trial K σ :=
  let accepted := verdict t.written w
  (accepted,
    { t with
      stored := if accepted then t.stored.accept w else t.stored
      written := t.written ++ [w] })

theorem adapter_of_answer {remote : Adapter K σ} {t : Trial K σ} {c : Call K} {result : c.Result}
    {now : σ} (answered : remote c t.remote = (result, now)) :
    adapter remote c t = (result, { t with remote := now }) := by
  rw [adapter, answered]

/-- What is kept in the end is what the effects of the run make of it. -/
theorem stored_of_runs {α : Type} {remote : Adapter K σ} {verdict : Verdict K} {p : Program K α}
    {t final : Trial K σ} {a : α} {effects : List (Effect K)}
    (runs : p.Runs (adapter remote) (cluster verdict) t a final effects) :
    final.stored = t.stored.after effects := by
  refine Stored.after_of_runs (·.stored) (fun _ _ => rfl) (fun w t => ?_) runs
  cases accepted : verdict t.written w <;> simp [cluster, accepted, Stored.after]

end Systems

variable {k : KindName} {σ : Type}

/-- One reconciliation: what is done, and what that leads to.  A declaration that cannot be read is
not reconciled. -/
def tick (s : Controller) (remote : Adapter k.kind σ) (verdict : Verdict k.kind)
    (t : Trial k.kind σ) : List (Effect k.kind) × Trial k.kind σ :=
  match t.stored.read with
  | .ok d =>
    let ((_, final), effects) := (s.reconcile d).trace (adapter remote) (cluster verdict) t
    (effects, final)
  | .error _ => ([], t)

theorem tick_eq {s : Controller} {remote : Adapter k.kind σ} {verdict : Verdict k.kind}
    {t final : Trial k.kind σ} {d : Declaration k.kind} {result : Except OperatorError Requeue}
    {effects : List (Effect k.kind)} (read : t.stored.read = .ok d)
    (runs : (s.reconcile d).Runs (adapter remote) (cluster verdict) t result final effects) :
    t.tick s remote verdict = (effects, final) := by
  rw [tick, read]
  dsimp only
  rw [runs]

def after (s : Controller) (remote : Adapter k.kind σ) (verdict : Verdict k.kind) :
    Nat → Trial k.kind σ → Trial k.kind σ
  | 0, t => t
  | n + 1, t => after s remote verdict n (t.tick s remote verdict).2

end Trial
end CloudReconcile
