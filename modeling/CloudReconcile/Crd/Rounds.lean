import CloudReconcile.Crd.Wait
import CloudReconcile.Operator.Error

/-!
# What a wait does

A wait checks, sleeps and checks again until nothing is missing.  Here it is act by act, for the
results that its checks have had so far, with the time between two checks in words of 64 bits.
Watched with a clock, these acts are the wait.
-/

namespace CloudReconcile
namespace Crd
namespace Wait

inductive Act where
  | check (found : Attempt)
  | sleep (seconds : UInt64)
  | leave (result : Except OperatorError Unit)

def doubled (interval : UInt64) : UInt64 := min (interval * 2) (.ofNat maxInterval)

/-- The acts that begin with a check after which the wait would sleep for `interval` seconds, if
this and the later checks have these results. -/
def actsFrom (interval : UInt64) : List Attempt → List Act
  | [] => []
  | found :: rest =>
    if found.isComplete then [.check found, .leave (.ok ())]
    else .check found :: .sleep interval :: actsFrom (doubled interval) rest

def acts (results : List Attempt) : List Act := actsFrom (.ofNat firstInterval) results

namespace Act

/-- How long the act takes, in seconds. -/
def seconds : Act → Nat
  | .sleep seconds => seconds.toNat
  | .check _ | .leave _ => 0

end Act

def slept (acts : List Act) : Nat := acts.foldr (fun act later => act.seconds + later) 0

/-- What a clock shows of acts, the first of them at `time`, until `stop`. -/
def observed (stop : Nat) : (time : Nat) → List Act → Report
  | _, [] => ⟨[], none⟩
  | time, .check _ :: rest =>
    if stop ≤ time then ⟨[], none⟩
    else
      let later := observed stop time rest
      { later with attempts := time :: later.attempts }
  | time, .sleep seconds :: rest => observed stop (time + seconds.toNat) rest
  | time, .leave result :: _ => ⟨[], if result.isOk then some time else none⟩

end Wait
end Crd
end CloudReconcile
