import CloudReconcile.Json.MergePatch
import CloudReconcile.Operator.Effect

/-!
# What the cluster keeps

The cluster keeps a declaration and its status apart: putting a declaration leaves the status alone,
and a status is merged into the one that is there.  So the status is kept as JSON, and what is read
later is what that JSON spells.
-/

namespace CloudReconcile

/-- A declaration as the cluster keeps it. -/
structure Stored (K : Kind) where
  metadata : Metadata
  spec : Spec K
  status : Option Json.Value

def FinalizerChange.apply : FinalizerChange → List String → List String
  | .add _, finalizers => finalizers ++ [finalizerName]
  | .remove place, finalizers => finalizers.eraseIdx place

namespace Stored

variable {K : Kind}

def ofDeclaration (d : Declaration K) : Stored K :=
  ⟨d.metadata, d.spec, d.status.map K.status.write⟩

def read (s : Stored K) : Except Json.Problem (Declaration K) :=
  match s.status with
  | none => .ok ⟨s.metadata, s.spec, none⟩
  | some v => (K.status.read (.ofValue v)).map fun status => ⟨s.metadata, s.spec, some status⟩

def accept (s : Stored K) : Write K → Stored K
  | .replace d => { s with spec := d.spec }
  | .status _ status =>
    { s with status := some ((s.status.getD .null).patched (K.status.write status)) }
  | .finalizers _ change =>
    let finalizers := change.apply s.metadata.finalizerList
    { s with metadata := { s.metadata with finalizers := some finalizers } }
  | .publish .. => s

/-- What is kept after the writes of some effects; a write that was refused changes nothing. -/
def after (s : Stored K) : List (Effect K) → Stored K
  | [] => s
  | .write w true :: rest => (s.accept w).after rest
  | _ :: rest => s.after rest

theorem after_cons (s : Stored K) (e : Effect K) (rest : List (Effect K)) :
    s.after (e :: rest) = (s.after [e]).after rest := by
  cases e with
  | call c result => rfl
  | write w accepted => cases accepted <;> rfl

/-- What every accepted write preserves is preserved by the effects. -/
theorem after_preserves {P : Stored K → Prop} {effects : List (Effect K)}
    (step : ∀ s w, Effect.write w true ∈ effects → P s → P (s.accept w)) {s : Stored K} (h : P s) :
    P (s.after effects) := by
  fun_induction after s effects with
  | case1 s => exact h
  | case2 s w rest ih =>
      refine ih (fun s' w' there => step s' w' (List.mem_cons_of_mem _ there)) ?_
      exact step s w List.mem_cons_self h
  | case3 s e rest _ ih =>
      exact ih (fun s' w' there => step s' w' (List.mem_cons_of_mem _ there)) h

/-- If each call and each write changes what is kept as its effect says, a run does. -/
theorem after_of_runs {σ α : Type} {remote : Adapter K σ} {cluster : Write K → σ → Bool × σ}
    (kept : σ → Stored K) (called : ∀ c t, kept (remote c t).2 = kept t)
    (wrote : ∀ w t, kept (cluster w t).2 = (kept t).after [.write w (cluster w t).1])
    {p : Program K α} {t final : σ} {a : α} {effects : List (Effect K)}
    (h : p.Runs remote cluster t a final effects) : kept final = (kept t).after effects := by
  suffices kept (p.trace remote cluster t).1.2 = (kept t).after (p.trace remote cluster t).2 by
    rwa [h] at this
  clear h
  induction p generalizing t with
  | done b => rfl
  | call c next ih => exact (ih _).trans (congrArg (after · _) (called c t))
  | write w next ih =>
      exact Eq.trans ((ih _).trans (congrArg (after · _) (wrote w t))) (after_cons ..).symm

def identity (s : Stored K) : K.Identity := K.identity s.spec.forProvider

end Stored

end CloudReconcile
