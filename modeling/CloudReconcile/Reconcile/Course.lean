import CloudReconcile.Reconcile.Step

/-!
# Courses of steps

A declaration goes through steps one after the other.  A course tells which steps these are and what
was answered to the call of each; nothing else decides what becomes of the declaration.
-/

namespace CloudReconcile

/-- A step, and the answer to its call. -/
inductive Move (K : Kind) where
  | observe (answer : Except RemoteError K.Remote)
  | create (answer : Except RemoteError K.Remote)
  | update (answer : Except RemoteError K.Remote)
  | delete (answer : Except RemoteError Unit)

namespace Move

variable {K : Kind}

/-- The declaration after a move. -/
def take (d : Declaration K) : Move K → Declaration K
  | .observe answer => ((Step.observe d).next answer).1
  | .create answer => ((Step.create d).next answer).1
  | .update answer => ((Step.update d).next answer).1
  | .delete answer => ((Step.delete d).next answer).1

def takeAll (d : Declaration K) (moves : List (Move K)) : Declaration K := moves.foldl take d

/-- What the move found out, if it was a look that got an answer. -/
def observation? (d : Declaration K) : Move K → Option Observation
  | .observe answer => ((Step.observe d).next answer).2.toOption
  | _ => none

def isLook : Move K → Bool
  | .observe _ => true
  | _ => false

/-- The objects that the looks of a course found, in order. -/
def found (moves : List (Move K)) : List K.Remote :=
  moves.filterMap fun
    | .observe (.ok r) => some r
    | _ => none

end Move
end CloudReconcile
