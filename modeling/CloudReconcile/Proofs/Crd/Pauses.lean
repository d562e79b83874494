import CloudReconcile.Crd.Rounds
import CloudReconcile.Proofs.Crd.Waiting
import Mathlib.Algebra.Ring.Nat

/-!
# The pauses of a wait

After a check that failed or found something missing, the wait sleeps, for ten seconds at first and
then for twice as long each time, but never for more than a minute.  It ends right after the first
check that finds nothing missing, and never with an error.  The pauses are so short that doubling
one stays within 64 bits, so words and numbers give the same wait.
-/

namespace CloudReconcile
namespace Crd

theorem Attempt.isComplete_iff (found : Attempt) :
    found.isComplete = true ↔ found = .missing [] := by
  cases found with
  | missing kinds => rw [isComplete_missing, missing.injEq]
  | failed => simp [isComplete]

namespace Wait

/-! ## The length of a pause -/

theorem interval_eq (n : Nat) : interval n = min (10 * 2 ^ n) 60 := by
  induction n with
  | zero => rfl
  | succ n ih =>
      have doubles : 2 ^ (n + 1) = 2 ^ n * 2 := pow_succ 2 n
      simp only [interval, nextInterval, maxInterval, ih]
      omega

theorem interval_le (n : Nat) : interval n ≤ maxInterval := by
  rw [interval_eq]
  exact Nat.min_le_right _ _

theorem instant_eq (n : Nat) :
    instant n = ((List.range n).map fun k => min (10 * 2 ^ k) 60).sum := by
  induction n with
  | zero => rfl
  | succ n ih =>
      rw [instant, ih, interval_eq, List.range_succ, List.map_append, List.sum_append]
      simp

/-- The pause after the `n`-th check, as a word. -/
def pause (n : Nat) : UInt64 := .ofNat (interval n)

theorem toNat_pause (n : Nat) : (pause n).toNat = interval n := by
  have small : interval n ≤ 60 := interval_le n
  rw [pause, UInt64.toNat_ofNat']
  omega

theorem doubling_pause_fits (n : Nat) : 2 * (pause n).toNat < 2 ^ 64 := by
  have small : interval n ≤ 60 := interval_le n
  rw [toNat_pause]
  omega

/-- Nothing is lost by doubling in words. -/
theorem doubled_pause (n : Nat) : doubled (pause n) = pause (n + 1) := by
  have twice : (pause n * 2).toNat = interval n * 2 := by
    have fits := doubling_pause_fits n
    have two : (2 : UInt64).toNat = 2 := rfl
    rw [toNat_pause] at fits
    rw [UInt64.toNat_mul, toNat_pause, two]
    omega
  have short_iff : pause n * 2 ≤ .ofNat maxInterval ↔ interval n * 2 ≤ maxInterval := by
    rw [UInt64.le_iff_toNat_le, twice]
    rfl
  refine UInt64.toNat_inj.mp ?_
  rw [toNat_pause, interval, nextInterval]
  show (if pause n * 2 ≤ .ofNat maxInterval then pause n * 2 else .ofNat maxInterval).toNat = _
  by_cases short : interval n * 2 ≤ maxInterval
  · rw [if_pos (short_iff.mpr short), twice, Nat.min_eq_left short]
  · rw [if_neg (mt short_iff.mp short), Nat.min_eq_right (Nat.le_of_not_le short)]
    rfl

/-! ## The acts -/

theorem actsFrom_of_complete {interval : UInt64} {found : Attempt} (rest : List Attempt)
    (complete : found.isComplete = true) :
    actsFrom interval (found :: rest) = [.check found, .leave (.ok ())] := by
  rw [actsFrom, if_pos complete]

theorem actsFrom_of_incomplete {interval : UInt64} {found : Attempt} (rest : List Attempt)
    (incomplete : found.isComplete = false) :
    actsFrom interval (found :: rest) =
      .check found :: .sleep interval :: actsFrom (doubled interval) rest := by
  rw [actsFrom, if_neg (by simp [incomplete])]

/-- Checks that come to nothing, the first of them the `n`-th, and the pause after each. -/
def rounds (n : Nat) (tries : List Attempt) : List Act :=
  (tries.zipIdx n).flatMap fun (found, k) => [.check found, .sleep (pause k)]

/-- What follows on the checks that come to nothing. -/
def ending (results : List Attempt) : List Act :=
  if .missing [] ∈ results then [.check (.missing []), .leave (.ok ())] else []

theorem actsFrom_pause (n : Nat) (results : List Attempt) :
    actsFrom (pause n) results =
      rounds n (results.takeWhile (· ≠ .missing [])) ++ ending results := by
  induction results generalizing n with
  | nil => rfl
  | cons found rest ih =>
      by_cases complete : found = .missing []
      · subst complete
        rw [actsFrom_of_complete rest rfl]
        simp [rounds, ending]
      · have incomplete : found.isComplete = false :=
          Bool.eq_false_iff.mpr fun h => complete (found.isComplete_iff.mp h)
        have other : Attempt.missing [] ≠ found := fun h => complete h.symm
        rw [actsFrom_of_incomplete rest incomplete, doubled_pause, ih]
        simp [rounds, ending, complete, other]

theorem acts_eq (results : List Attempt) :
    acts results = rounds 0 (results.takeWhile (· ≠ .missing [])) ++ ending results :=
  actsFrom_pause 0 results

theorem mem_ending {act : Act} {results : List Attempt} (h : act ∈ ending results) :
    act = .check (.missing []) ∨ act = .leave (.ok ()) := by
  unfold ending at h
  split at h
  · simpa using h
  · cases h

theorem mem_rounds {act : Act} {n : Nat} {tries : List Attempt} (h : act ∈ rounds n tries) :
    (∃ found ∈ tries, act = .check found) ∨ ∃ k, act = .sleep (pause k) := by
  obtain ⟨⟨found, k⟩, there, which⟩ := List.mem_flatMap.mp h
  have tried := List.fst_mem_of_mem_zipIdx there
  simp only [List.mem_cons, List.not_mem_nil, or_false] at which
  rcases which with rfl | rfl
  · exact .inl ⟨found, tried, rfl⟩
  · exact .inr ⟨k, rfl⟩

theorem slept_append (first second : List Act) :
    slept (first ++ second) = slept first + slept second := by
  induction first with
  | nil => exact (Nat.zero_add _).symm
  | cons act rest ih =>
      show act.seconds + slept (rest ++ second) = act.seconds + slept rest + slept second
      rw [ih, Nat.add_assoc]

theorem slept_ending (results : List Attempt) : slept (ending results) = 0 := by
  unfold ending
  split <;> rfl

theorem slept_rounds (n : Nat) (tries : List Attempt) :
    slept (rounds n tries) = ((List.range' n tries.length).map interval).sum := by
  induction tries generalizing n with
  | nil => rfl
  | cons found rest ih =>
      have split : rounds n (found :: rest) =
          [.check found, .sleep (pause n)] ++ rounds (n + 1) rest := rfl
      have own : slept [.check found, .sleep (pause n)] = interval n := by
        simp [slept, Act.seconds, toNat_pause]
      rw [split, slept_append, own, ih, List.length_cons, List.range'_succ, List.map_cons,
        List.sum_cons]

/-! ## The acts on a clock -/

theorem runFrom_eq_observed (attempt : Nat → Attempt) (stop fuel n time : Nat) :
    runFrom attempt stop fuel n time (interval n) =
      observed stop time (actsFrom (pause n) ((List.range' n fuel).map attempt)) := by
  induction fuel generalizing n time with
  | zero => rfl
  | succ fuel ih =>
      rw [List.range'_succ, List.map_cons, runFrom]
      cases complete : (attempt n).isComplete with
      | true =>
          rw [actsFrom_of_complete _ complete]
          simp only [observed]
          rfl
      | false =>
          rw [actsFrom_of_incomplete _ complete, doubled_pause]
          simp only [observed, toNat_pause, ← ih]
          rfl

theorem run_eq_observed (attempt : Nat → Attempt) (stop : Nat) :
    run attempt stop = observed stop 0 (acts ((List.range (stop + 1)).map attempt)) := by
  rw [List.range_eq_range']
  exact runFrom_eq_observed attempt stop (stop + 1) 0 0

theorem isFirst_iff (attempt : Nat → Attempt) (n : Nat) :
    IsFirst attempt n ↔ attempt n = .missing [] ∧ ∀ m < n, attempt m ≠ .missing [] :=
  isFirst_iff_of_complete_iff fun m => (attempt m).isComplete_iff

/-- Whatever the checks find, the wait sleeps after each that comes to nothing, `10 * 2 ^ k` seconds
after the `k`-th but at most 60, so that doubling never overflows, and leaves without an error right
after the first that finds nothing missing.  Seen on a clock, these acts are the wait that runs. -/
theorem acts_eq_rounds_ending (results : List Attempt) :
    let tries := results.takeWhile (· ≠ .missing [])
    acts results = rounds 0 tries ++ ending results ∧
      (∀ k, (pause k).toNat = min (10 * 2 ^ k) 60) ∧
      slept (acts results) = ((List.range tries.length).map fun k => min (10 * 2 ^ k) 60).sum ∧
      (∀ e, .leave (.error e) ∉ acts results) ∧
      (∀ seconds, .sleep seconds ∈ acts results → 2 * seconds.toNat < 2 ^ 64) ∧
      ∀ (attempt : Nat → Attempt) (stop : Nat),
        run attempt stop = observed stop 0 (acts ((List.range (stop + 1)).map attempt)) ∧
          ∀ time, (run attempt stop).availableAt = some time ↔
            ∃ n, attempt n = .missing [] ∧ (∀ m < n, attempt m ≠ .missing []) ∧
              time = ((List.range n).map fun k => min (10 * 2 ^ k) 60).sum ∧ time < stop := by
  intro tries
  have course : acts results = rounds 0 tries ++ ending results := acts_eq results
  refine ⟨course, fun k => ?_, ?_, fun e left => ?_, fun seconds asleep => ?_, ?_⟩
  · rw [toNat_pause, interval_eq]
  · rw [course, slept_append, slept_rounds, slept_ending, Nat.add_zero, ← List.range_eq_range']
    exact congrArg List.sum (List.map_congr_left fun k _ => interval_eq k)
  · rw [course, List.mem_append] at left
    rcases left with trying | ended
    · rcases mem_rounds trying with ⟨_, _, same⟩ | ⟨_, same⟩ <;> cases same
    · rcases mem_ending ended with same | same <;> cases same
  · rw [course, List.mem_append] at asleep
    rcases asleep with trying | ended
    · rcases mem_rounds trying with ⟨_, _, same⟩ | ⟨k, same⟩
      · cases same
      · obtain rfl := Act.sleep.inj same
        exact doubling_pause_fits k
    · rcases mem_ending ended with same | same <;> cases same
  · intro attempt stop
    refine ⟨run_eq_observed attempt stop, fun time => ?_⟩
    simp only [availableAt_run_iff, isFirst_iff, instant_eq, and_assoc]

/-- Three checks come to nothing, for whatever reason, and the wait leaves after the fourth. -/
example : slept (acts [.failed, .missing ["Bucket"], .failed, .missing [], .failed]) = 70 := by
  decide

end Wait
end Crd
end CloudReconcile
