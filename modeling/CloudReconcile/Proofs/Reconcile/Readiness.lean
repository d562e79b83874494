import CloudReconcile.Reconcile.Course
import Mathlib.Data.List.Induction

/-!
# What a declaration says about being ready

Looks that find the object, creations and deletions each say something about being ready; failed
looks and updates do not.  What was said last counts, whatever else the status says and however
often the conditions in it are repeated.
-/

namespace CloudReconcile

variable {K : Kind}

namespace Declaration

/-- What the declaration says about being ready. -/
def ready? (d : Declaration K) : Option Condition := d.statusOrBlank.condition? Condition.ready

def isAvailable (d : Declaration K) : Bool := d.statusOrBlank.isAvailable

theorem isAvailable_of_ready? {d : Declaration K} {c : Condition} (h : d.ready? = some c) :
    d.isAvailable = (c.isTrue && c.reason = "Available") := by
  have said : d.statusOrBlank.condition? Condition.ready = some c := h
  simp [isAvailable, Status.isAvailable, said]

theorem isAvailable_congr {d d' : Declaration K} (h : d'.ready? = d.ready?) :
    d'.isAvailable = d.isAvailable := by
  have same : d'.statusOrBlank.condition? Condition.ready =
      d.statusOrBlank.condition? Condition.ready := h
  simp [isAvailable, Status.isAvailable, same]

theorem ready?_withCondition (d : Declaration K) {c : Condition} (own : c.type = Condition.ready) :
    (d.withCondition c).ready? = some c := by
  have said := Status.condition?_set_self d.statusOrBlank c
  rwa [own] at said

theorem ready?_withCondition_of_synced (d : Declaration K) {c : Condition}
    (synced : c.type = Condition.synced) : (d.withCondition c).ready? = d.ready? := by
  have other : c.type ≠ Condition.ready := by
    rw [synced]
    decide
  exact Status.condition?_set_of_ne d.statusOrBlank other

theorem ready?_found (d : Declaration K) (r : K.Remote) :
    (Step.found d r).1.ready? = some .available :=
  (d.withParams (K.lateInit d.params r)).ready?_withCondition (c := .available) rfl

end Declaration

/-- A move, or telling how a round went. -/
inductive Deed (K : Kind) where
  | move (m : Move K)
  | tell (c : Condition) (synced : c.type = Condition.synced)

namespace Deed

/-- The declaration after a deed. -/
def take (d : Declaration K) : Deed K → Declaration K
  | .move m => m.take d
  | .tell c _ => d.withCondition c

def takeAll (d : Declaration K) (deeds : List (Deed K)) : Declaration K := deeds.foldl take d

/-- What a deed says about being ready, if it says anything. -/
def word? : Deed K → Option Condition
  | .move (.observe (.ok _)) => some .available
  | .move (.create _) => some .creating
  | .move (.delete _) => some .deleting
  | _ => none

/-- The last deed that says anything about being ready. -/
def latest? (deeds : List (Deed K)) : Option (Deed K) :=
  (deeds.filter fun x => x.word?.isSome).getLast?

theorem ready?_take (d : Declaration K) (x : Deed K) :
    (take d x).ready? = x.word?.or d.ready? := by
  cases x with
  | tell c synced => exact d.ready?_withCondition_of_synced synced
  | move m =>
      cases m with
      | observe answer =>
          cases answer with
          | ok r => exact d.ready?_found r
          | error e => rfl
      | create answer => exact d.ready?_withCondition rfl
      | update answer => rfl
      | delete answer => cases answer <;> exact d.ready?_withCondition rfl

/-- Only a look that found the object says that it is available. -/
theorem isAvailable_take_iff (d : Declaration K) {x : Deed K} (said : x.word? ≠ none) :
    (take d x).isAvailable = true ↔ ∃ r, x = .move (.observe (.ok r)) := by
  have ready := ready?_take d x
  cases x with
  | tell c synced => exact absurd rfl said
  | move m =>
      cases m with
      | observe answer =>
          cases answer with
          | ok r => simp [Declaration.isAvailable_of_ready? ready, Condition.available,
              Condition.make, Condition.isTrue]
          | error e => exact absurd rfl said
      | create answer => simp [Declaration.isAvailable_of_ready? ready, Condition.creating,
          Condition.make, Condition.isTrue]
      | update answer => exact absurd rfl said
      | delete answer => simp [Declaration.isAvailable_of_ready? ready, Condition.deleting,
          Condition.make, Condition.isTrue]

theorem isAvailable_take_of_silent (d : Declaration K) {x : Deed K} (silent : x.word? = none) :
    (take d x).isAvailable = d.isAvailable :=
  Declaration.isAvailable_congr (by rw [ready?_take, silent]; rfl)

theorem takeAll_concat (d : Declaration K) (deeds : List (Deed K)) (x : Deed K) :
    takeAll d (deeds ++ [x]) = take (takeAll d deeds) x := by
  simp [takeAll]

theorem takeAll_moves (d : Declaration K) (moves : List (Move K)) :
    takeAll d (moves.map .move) = Move.takeAll d moves := by
  rw [takeAll, List.foldl_map]
  rfl

theorem latest?_concat_of_word {x : Deed K} {c : Condition} (said : x.word? = some c)
    (deeds : List (Deed K)) : latest? (deeds ++ [x]) = some x := by
  simp [latest?, said]

theorem latest?_concat_of_silent {x : Deed K} (silent : x.word? = none)
    (deeds : List (Deed K)) : latest? (deeds ++ [x]) = latest? deeds := by
  simp [latest?, silent]

/-- What the deeds said last stands, and what was there before if they said nothing. -/
theorem ready?_takeAll (d : Declaration K) (deeds : List (Deed K)) :
    (takeAll d deeds).ready? = ((latest? deeds).bind word?).or d.ready? := by
  induction deeds using List.reverseRecOn with
  | nil => rfl
  | append_singleton deeds x ih =>
      rw [takeAll_concat, ready?_take, ih]
      cases said : x.word? with
      | none => simp [latest?_concat_of_silent said]
      | some c => simp [latest?_concat_of_word said, said]

/-- The object counts as available just if a look that found it was the last to say anything, or if
nothing was said and it counted as available before. -/
theorem isAvailable_takeAll_iff (d : Declaration K) (deeds : List (Deed K)) :
    (takeAll d deeds).isAvailable = true ↔
      (∃ r, latest? deeds = some (.move (.observe (.ok r)))) ∨
        latest? deeds = none ∧ d.isAvailable = true := by
  induction deeds using List.reverseRecOn with
  | nil => simp [takeAll, latest?]
  | append_singleton deeds x ih =>
      rw [takeAll_concat]
      cases said : x.word? with
      | none => rw [isAvailable_take_of_silent _ said, latest?_concat_of_silent said, ih]
      | some c =>
          rw [isAvailable_take_iff _ (by simp [said]), latest?_concat_of_word said]
          simp

end Deed
end CloudReconcile
