import CloudReconcile.Proofs.Kinds.Filling
import CloudReconcile.Reconcile.Course

/-!
# What a course of steps makes of the parameters

Only looks change the parameters, and a look says so when it did.  So after a course the parameters
are what was written, filled with the first values that the looks found.
-/

namespace CloudReconcile
namespace Move

variable {K : Kind}

/-- Only a look that finds an object changes the parameters. -/
theorem params_take (d : Declaration K) (m : Move K) :
    (take d m).params = (found [m]).foldl K.lateInit d.params := by
  cases m with
  | observe answer => cases answer <;> rfl
  | create answer => rfl
  | update answer => rfl
  | delete answer => cases answer <;> rfl

theorem params_take_of_not_look (d : Declaration K) {m : Move K} (other : m.isLook = false) :
    (take d m).params = d.params := by
  rw [params_take]
  cases m with
  | observe answer => cases other
  | _ => rfl

/-- A move reports that something was taken over just when it changed the parameters. -/
theorem lateInitialized_iff (d : Declaration K) (m : Move K) :
    (∃ o, m.observation? d = some o ∧ o.lateInitialized = true) ↔
      (take d m).params ≠ d.params := by
  rw [params_take]
  cases m with
  | observe answer =>
      cases answer with
      | ok r => simp [observation?, Step.observe, Step.found, Except.toOption, found]
      | error e =>
          -- An object that is missing is an answer too, but one that nothing is taken over from.
          cases missing : e.isNotFound <;>
            simp [observation?, Step.observe, missing, Except.toOption, found, Observation.absent]
  | _ => simp [observation?, found]

/-- What each move changes only by the object that it finds, a course changes by the objects that
its looks find, in order. -/
theorem view_takeAll {β : Type} {view : Declaration K → β} {learn : β → K.Remote → β}
    (step : ∀ d m, view (take d m) = (found [m]).foldl learn (view d)) (d : Declaration K)
    (moves : List (Move K)) : view (takeAll d moves) = (found moves).foldl learn (view d) := by
  induction moves generalizing d with
  | nil => rfl
  | cons m moves ih =>
      have split : found (m :: moves) = found [m] ++ found moves :=
        List.filterMap_append (l := [m])
      rw [split, List.foldl_append, ← step]
      exact ih (take d m)

theorem params_takeAll (d : Declaration K) (moves : List (Move K)) :
    (takeAll d moves).params = (found moves).foldl K.lateInit d.params :=
  view_takeAll params_take d moves

variable {k : KindName}

/-- After any course the declaration asks for the same object, and its parameters are what was
written, each property that nothing was said of filled with the first value that was found.  Moves
that are no looks leave the parameters alone, and a look tells whether it changed them. -/
theorem params_takeAll_eq_filled (d : Declaration k.kind) (moves : List (Move k.kind)) :
    (takeAll d moves).identity = d.identity ∧
      (takeAll d moves).params = k.filled d.params (found moves) ∧
      (∀ (now : Declaration k.kind) (m : Move k.kind), m.isLook = false →
        (take now m).params = now.params) ∧
      ∀ (now : Declaration k.kind) (m : Move k.kind),
        (∃ o, m.observation? now = some o ∧ o.lateInitialized = true) ↔
          (take now m).params ≠ now.params := by
  have params : (takeAll d moves).params = k.filled d.params (found moves) := by
    rw [params_takeAll, k.foldl_lateInit]
  refine ⟨?_, params, fun now m other => params_take_of_not_look now other,
    fun now m => lateInitialized_iff now m⟩
  rw [Declaration.identity, params, k.identity_filled, Declaration.identity]

end Move
end CloudReconcile
