import CloudReconcile.Crd.Wait

/-!
# Waiting for what is needed

A kind counts as served only if its version is the one that the cluster recommends of the group.
The wait is over at the first attempt that finds all kinds served in this way, and at no other
moment; the times of the attempts do not depend on what they find.
-/

namespace CloudReconcile
namespace Crd

/-! ## What counts as served -/

/-- The operator's group serves the kind at the operator's version. -/
def IsServed (groups : List ServedGroup) (kind : String) : Prop :=
  ∃ g ∈ askedGroups groups, kind ∈ g.kindsAt apiVersion

/-- The group serves the kind at that version, and recommends it. -/
def IsOffered (groups : List ServedGroup) (kind : String) : Prop :=
  ∃ g ∈ askedGroups groups, g.recommended? = some apiVersion ∧ kind ∈ g.kindsAt apiVersion

instance (groups : List ServedGroup) (kind : String) : Decidable (IsServed groups kind) :=
  inferInstanceAs (Decidable (∃ g ∈ askedGroups groups, kind ∈ g.kindsAt apiVersion))

instance (groups : List ServedGroup) (kind : String) : Decidable (IsOffered groups kind) :=
  inferInstanceAs (Decidable (∃ g ∈ askedGroups groups,
    g.recommended? = some apiVersion ∧ kind ∈ g.kindsAt apiVersion))

theorem IsOffered.isServed {groups : List ServedGroup} {kind : String}
    (h : IsOffered groups kind) : IsServed groups kind := by
  obtain ⟨g, asked, -, there⟩ := h
  exact ⟨g, asked, there⟩

theorem ServedGroup.mem_servedKinds_iff (g : ServedGroup) (kind : String) :
    kind ∈ g.servedKinds ↔ g.recommended? = some apiVersion ∧ kind ∈ g.kindsAt apiVersion := by
  unfold servedKinds
  split
  · rename_i recommended
    simp [recommended]
  · rename_i other
    simp [other]

theorem mem_served_iff (groups : List ServedGroup) (kind : String) :
    kind ∈ (askedGroups groups).flatMap ServedGroup.servedKinds ↔ IsOffered groups kind := by
  simp only [List.mem_flatMap, ServedGroup.mem_servedKinds_iff, IsOffered]

theorem missingKinds_eq (groups : List ServedGroup) (needed : List String) :
    missingKinds groups needed = needed.filter fun kind => ¬ IsOffered groups kind := by
  refine List.filter_congr fun kind _ => ?_
  have same := mem_served_iff groups kind
  by_cases offered : IsOffered groups kind
  · simp only [List.contains_iff_mem.mpr (same.mpr offered), offered]
    rfl
  · have fresh := mt (fun there => same.mp (List.contains_iff_mem.mp there)) offered
    simp only [Bool.not_eq_true] at fresh
    simp only [fresh, offered]
    rfl

theorem missingKinds_eq_nil_iff (groups : List ServedGroup) (needed : List String) :
    missingKinds groups needed = [] ↔ ∀ kind ∈ needed, IsOffered groups kind := by
  simp [missingKinds_eq, List.filter_eq_nil_iff]

/-- If the group recommends the operator's version, serving is enough. -/
theorem isOffered_iff {groups : List ServedGroup}
    (recommended : ∀ g ∈ askedGroups groups, g.recommended? = some apiVersion) (kind : String) :
    IsOffered groups kind ↔ IsServed groups kind := by
  constructor
  · exact IsOffered.isServed
  · rintro ⟨g, asked, there⟩
    exact ⟨g, asked, recommended g asked, there⟩

/-- If it recommends another version, nothing that it serves counts. -/
theorem not_isOffered {groups : List ServedGroup}
    (other : ∀ g ∈ askedGroups groups, g.recommended? ≠ some apiVersion) (kind : String) :
    ¬ IsOffered groups kind := by
  rintro ⟨g, asked, recommended, -⟩
  exact other g asked recommended

/-- What a cluster that answers with these groups, or not at all, makes of an attempt. -/
def Attempt.ofAnswer (needed : List String) : Option (List ServedGroup) → Attempt
  | some groups => .ofGroups needed groups
  | none => .failed

/-- All that is needed is there. -/
def Suffices (needed : List String) (answer : Option (List ServedGroup)) : Prop :=
  ∃ groups, answer = some groups ∧
    (∀ g ∈ askedGroups groups, g.isDiscoverable = true) ∧
    ∀ kind ∈ needed, IsOffered groups kind

theorem Attempt.isComplete_missing (kinds : List String) :
    (Attempt.missing kinds).isComplete = true ↔ kinds = [] := by
  cases kinds <;> simp [isComplete]

theorem Attempt.isComplete_ofAnswer (needed : List String)
    (answer : Option (List ServedGroup)) :
    (Attempt.ofAnswer needed answer).isComplete = true ↔ Suffices needed answer := by
  cases answer with
  | none => simp [ofAnswer, isComplete, Suffices]
  | some groups =>
      rw [ofAnswer, ofGroups]
      by_cases discoverable : ∀ g ∈ askedGroups groups, g.isDiscoverable = true
      · rw [if_pos (List.all_eq_true.mpr discoverable), isComplete_missing,
          missingKinds_eq_nil_iff]
        constructor
        · intro offered
          exact ⟨groups, rfl, discoverable, offered⟩
        · rintro ⟨_, same, -, offered⟩
          exact Option.some.inj same ▸ offered
      · rw [if_neg (mt List.all_eq_true.mp discoverable)]
        refine iff_of_false Bool.false_ne_true ?_
        rintro ⟨_, same, looked, -⟩
        exact discoverable (Option.some.inj same ▸ looked)

namespace Wait

/-! ## When attempts are made -/

/-- The time between the `n`-th attempt and the next one. -/
def interval : Nat → Nat
  | 0 => firstInterval
  | n + 1 => nextInterval (interval n)

/-- When the `n`-th attempt is made. -/
def instant : Nat → Nat
  | 0 => 0
  | n + 1 => instant n + interval n

theorem interval_pos (n : Nat) : 0 < interval n := by
  induction n with
  | zero => decide
  | succ n ih =>
      have bound : 0 < maxInterval := by decide
      simp only [interval, nextInterval]
      omega

theorem le_instant (n : Nat) : n ≤ instant n := by
  induction n with
  | zero => exact Nat.le_refl 0
  | succ n ih =>
      have positive := interval_pos n
      simp only [instant]
      omega

theorem instant_le_instant {m n : Nat} (h : m ≤ n) : instant m ≤ instant n := by
  induction h with
  | refl => exact Nat.le_refl _
  | step h ih => exact Nat.le_trans ih (Nat.le_add_right _ _)

/-! ## When the wait is over -/

variable {attempt : Nat → Attempt} {stop : Nat}

/-- The wait goes on until this attempt, which finds everything. -/
structure IsFirst (attempt : Nat → Attempt) (n : Nat) : Prop where
  complete : (attempt n).isComplete = true
  before : ∀ m < n, (attempt m).isComplete = false

theorem runFrom_of_complete {fuel n : Nat} (complete : (attempt n).isComplete = true)
    (soon : instant n < stop) :
    runFrom attempt stop (fuel + 1) n (instant n) (interval n) =
      ⟨[instant n], some (instant n)⟩ := by
  have going : ¬ stop ≤ instant n := Nat.not_le.mpr soon
  rw [runFrom, if_neg going, if_pos complete]

theorem runFrom_of_incomplete {fuel n : Nat} (incomplete : (attempt n).isComplete = false)
    (soon : instant n < stop) :
    runFrom attempt stop (fuel + 1) n (instant n) (interval n) =
      let later := runFrom attempt stop fuel (n + 1) (instant (n + 1)) (interval (n + 1))
      { later with attempts := instant n :: later.attempts } := by
  have going : ¬ stop ≤ instant n := Nat.not_le.mpr soon
  rw [runFrom, if_neg going, if_neg (by simp [incomplete])]
  rfl

/-- The attempts before the first complete one are made and come to nothing. -/
theorem runFrom_of_first {n i fuel : Nat} (first : IsFirst (fun m => attempt (n + m)) i)
    (soon : instant (n + i) < stop) (enough : i < fuel) :
    runFrom attempt stop fuel n (instant n) (interval n) =
      ⟨(List.range' n (i + 1)).map instant, some (instant (n + i))⟩ := by
  induction i generalizing n fuel with
  | zero =>
      obtain ⟨fuel, rfl⟩ : ∃ more, fuel = more + 1 := ⟨fuel - 1, by omega⟩
      exact runFrom_of_complete first.complete soon
  | succ i ih =>
      obtain ⟨fuel, rfl⟩ : ∃ more, fuel = more + 1 := ⟨fuel - 1, by omega⟩
      have now : instant n < stop :=
        Nat.lt_of_le_of_lt (instant_le_instant (Nat.le_add_right n (i + 1))) soon
      have next : IsFirst (fun m => attempt (n + 1 + m)) i := by
        constructor
        · have complete := first.complete
          rwa [Nat.add_right_comm]
        · intro m before
          have incomplete := first.before (m + 1) (by omega)
          rwa [Nat.add_right_comm]
      have same : n + 1 + i = n + (i + 1) := by omega
      have later := ih next (by rwa [same]) (Nat.lt_of_succ_lt_succ enough)
      have incomplete : (attempt n).isComplete = false := first.before 0 (Nat.succ_pos i)
      rw [runFrom_of_incomplete incomplete now, later, same]
      rfl

theorem run_of_first {n : Nat} (first : IsFirst attempt n) (soon : instant n < stop) :
    run attempt stop = ⟨(List.range (n + 1)).map instant, some (instant n)⟩ := by
  have enough : n < stop + 1 := Nat.lt_succ_of_lt (Nat.lt_of_le_of_lt (le_instant n) soon)
  have shifted : IsFirst (fun m => attempt (0 + m)) n := by simpa using first
  have runs := runFrom_of_first shifted (by rwa [Nat.zero_add]) enough
  rwa [Nat.zero_add, ← List.range_eq_range'] at runs

/-- A wait that is over has found everything, and not before. -/
theorem first_of_runFrom {fuel n time : Nat}
    (ended : (runFrom attempt stop fuel n (instant n) (interval n)).availableAt = some time) :
    ∃ i, IsFirst (fun m => attempt (n + m)) i ∧ time = instant (n + i) ∧ time < stop := by
  induction fuel generalizing n with
  | zero => cases ended
  | succ fuel ih =>
      by_cases soon : instant n < stop
      · cases found : (attempt n).isComplete with
        | true =>
            rw [runFrom_of_complete found soon] at ended
            obtain rfl := Option.some.inj ended
            exact ⟨0, ⟨found, fun m before => absurd before (Nat.not_lt_zero m)⟩, rfl, soon⟩
        | false =>
            rw [runFrom_of_incomplete found soon] at ended
            obtain ⟨i, first, rfl, later⟩ := ih ended
            have same (m : Nat) : n + 1 + m = n + (m + 1) := by omega
            refine ⟨i + 1, ⟨?_, ?_⟩, congrArg instant (same i), later⟩
            · rw [← same i]
              exact first.complete
            · intro m before
              cases m with
              | zero => exact found
              | succ m =>
                  rw [← same m]
                  exact first.before m (Nat.lt_of_succ_lt_succ before)
      · rw [runFrom, if_pos (Nat.not_lt.mp soon)] at ended
        cases ended

theorem availableAt_run_iff {time : Nat} :
    (run attempt stop).availableAt = some time ↔
      ∃ n, IsFirst attempt n ∧ time = instant n ∧ time < stop := by
  constructor
  · intro ended
    obtain ⟨n, first, same, soon⟩ := first_of_runFrom (n := 0) ended
    simp only [Nat.zero_add] at first same
    exact ⟨n, first, same, soon⟩
  · rintro ⟨n, first, rfl, soon⟩
    rw [run_of_first first soon]

theorem isFirst_iff_of_complete_iff {good : Nat → Prop}
    (complete : ∀ m, (attempt m).isComplete = true ↔ good m) {n : Nat} :
    IsFirst attempt n ↔ good n ∧ ∀ m < n, ¬ good m := by
  constructor
  · rintro ⟨found, before⟩
    refine ⟨(complete n).mp found, fun m earlier enough => ?_⟩
    exact Bool.eq_false_iff.mp (before m earlier) ((complete m).mpr enough)
  · rintro ⟨enough, before⟩
    refine ⟨(complete n).mpr enough, fun m earlier => ?_⟩
    exact Bool.eq_false_iff.mpr fun found => before m earlier ((complete m).mp found)

theorem isFirst_ofAnswer_iff (needed : List String) (answers : Nat → Option (List ServedGroup))
    (n : Nat) :
    IsFirst (fun n => .ofAnswer needed (answers n)) n ↔
      Suffices needed (answers n) ∧ ∀ m < n, ¬ Suffices needed (answers m) :=
  isFirst_iff_of_complete_iff fun m => Attempt.isComplete_ofAnswer needed (answers m)

end Wait

/-- A kind is missing unless the operator's group serves it at the operator's version and recommends
that version; so exactly the kinds that are not served are missing as long as the group recommends
the version, and all of them once it recommends another one.  The wait is over at the first attempt
that finds all kinds recommended. -/
theorem missingKinds_eq_filter_isOffered (needed : List String) :
    (∀ groups, missingKinds groups needed = needed.filter fun kind => ¬ IsOffered groups kind) ∧
      (∀ groups, (∀ g ∈ askedGroups groups, g.recommended? = some apiVersion) →
        missingKinds groups needed = needed.filter fun kind => ¬ IsServed groups kind) ∧
      (∀ groups, (∀ g ∈ askedGroups groups, g.recommended? ≠ some apiVersion) →
        missingKinds groups needed = needed) ∧
      ∀ (answers : Nat → Option (List ServedGroup)) (stop time : Nat),
        (Wait.run (fun n => .ofAnswer needed (answers n)) stop).availableAt = some time ↔
          ∃ n, time = Wait.instant n ∧ time < stop ∧ Suffices needed (answers n) ∧
            ∀ m < n, ¬ Suffices needed (answers m) := by
  refine ⟨fun groups => missingKinds_eq groups needed, ?_, ?_, ?_⟩
  · intro groups recommended
    rw [missingKinds_eq]
    refine List.filter_congr fun kind _ => ?_
    exact decide_eq_decide.mpr (not_congr (isOffered_iff recommended kind))
  · intro groups other
    rw [missingKinds_eq, List.filter_eq_self]
    intro kind _
    exact decide_eq_true (not_isOffered other kind)
  · intro answers stop time
    rw [Wait.availableAt_run_iff]
    constructor
    · rintro ⟨n, first, same, soon⟩
      have found := (Wait.isFirst_ofAnswer_iff needed answers n).mp first
      exact ⟨n, same, soon, found.1, found.2⟩
    · rintro ⟨n, same, soon, enough, before⟩
      exact ⟨n, (Wait.isFirst_ofAnswer_iff needed answers n).mpr ⟨enough, before⟩, same, soon⟩

/-- A cluster that serves a kind at two versions and recommends the other one. -/
def upgraded : List ServedGroup :=
  [⟨apiGroup, some "v1", [⟨apiVersion, ["KeyValue"]⟩, ⟨"v1", ["KeyValue"]⟩]⟩]

/-- The kind is served, but it counts as missing, and the wait never ends. -/
theorem missingKinds_upgraded :
    IsServed upgraded "KeyValue" ∧ missingKinds upgraded ["KeyValue"] = ["KeyValue"] ∧
      (¬ ∀ groups needed, missingKinds groups needed =
        needed.filter fun kind => ¬ IsServed groups kind) ∧
      ∀ stop, (Wait.run (fun _ => .ofAnswer ["KeyValue"] (some upgraded)) stop).availableAt =
        none := by
  have served : IsServed upgraded "KeyValue" := by decide
  have missing : missingKinds upgraded ["KeyValue"] = ["KeyValue"] := by decide
  refine ⟨served, missing, ?_, ?_⟩
  · intro all
    have none_missing := all upgraded ["KeyValue"]
    rw [missing] at none_missing
    simp [served] at none_missing
  · intro stop
    refine Option.eq_none_iff_forall_ne_some.mpr fun time ended => ?_
    obtain ⟨n, first, -⟩ := Wait.availableAt_run_iff.mp ended
    obtain ⟨_, same, -, offered⟩ := (Attempt.isComplete_ofAnswer _ _).mp first.complete
    obtain rfl := Option.some.inj same
    have absent := missingKinds_eq_nil_iff upgraded ["KeyValue"]
    rw [missing] at absent
    exact List.cons_ne_nil _ _ (absent.mpr offered)

end Crd
end CloudReconcile
