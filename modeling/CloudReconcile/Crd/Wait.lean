import CloudReconcile.Crd.Discovery

/-!
# Waiting for the kinds to be served

The cluster is asked again and again.  The time between two attempts doubles, up to a limit, no
matter whether an attempt failed or found that something is missing.
-/

namespace CloudReconcile
namespace Crd

/-- What an attempt found: the missing kinds, or that the cluster did not answer. -/
inductive Attempt where
  | missing (kinds : List String)
  | failed
deriving DecidableEq, Repr

namespace Attempt

def isComplete : Attempt → Bool
  | .missing [] => true
  | _ => false

/-- What the groups that a cluster serves amount to. -/
def ofGroups (needed : List String) (groups : List ServedGroup) : Attempt :=
  if (askedGroups groups).all ServedGroup.isDiscoverable then
    .missing (missingKinds groups needed)
  else .failed

end Attempt

namespace Wait

def firstInterval : Nat := 10

def maxInterval : Nat := 60

def nextInterval (interval : Nat) : Nat := min (interval * 2) maxInterval

structure Report where
  attempts : List Nat
  availableAt : Option Nat
deriving DecidableEq, Repr

/-- Make the `n`-th and later attempts, the first of them at `time`. -/
def runFrom (attempt : Nat → Attempt) (stop : Nat) :
    Nat → (n time interval : Nat) → Report
  | 0, _, _, _ => ⟨[], none⟩
  | fuel + 1, n, time, interval =>
    if stop ≤ time then ⟨[], none⟩
    else if (attempt n).isComplete then ⟨[time], some time⟩
    else
      let later := runFrom attempt stop fuel (n + 1) (time + interval) (nextInterval interval)
      { later with attempts := time :: later.attempts }

/-- Wait until everything is served, but not beyond `stop`. -/
def run (attempt : Nat → Attempt) (stop : Nat) : Report :=
  runFrom attempt stop (stop + 1) 0 0 firstInterval

/-- The `n`-th attempt of a list whose last one repeats for ever. -/
def repeating (attempts : List Attempt) (n : Nat) : Attempt :=
  match attempts[n]? with
  | some a => a
  | none => attempts.getLast?.getD .failed

end Wait
end Crd
end CloudReconcile
