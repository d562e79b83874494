import CloudReconcile.Status.Basic

/-!
# Conditions set one after the other

Conditions are kept like a map from types to conditions, in the order in which the types were first
mentioned.  The last condition that was set of a type is the one that counts, and it stands where
the first one of its type stood before.  A list that somebody else has filled may mention a type
again; the later entries stay as they are.
-/

namespace CloudReconcile
namespace Status

variable {ω : Type}

def types (s : Status ω) : List String := s.conditions.map (·.type)

def setAll (s : Status ω) (cs : List Condition) : Status ω := cs.foldl set s

theorem setAll_cons (s : Status ω) (c : Condition) (cs : List Condition) :
    s.setAll (c :: cs) = (s.set c).setAll cs := rfl

/-! ## One condition -/

theorem types_set (s : Status ω) (c : Condition) :
    (s.set c).types = if c.type ∈ s.types then s.types else s.types ++ [c.type] := by
  show (setIn c s.conditions).map (·.type) =
    if c.type ∈ s.conditions.map (·.type) then s.conditions.map (·.type)
    else s.conditions.map (·.type) ++ [c.type]
  induction s.conditions with
  | nil => simp [setIn]
  | cons d rest ih =>
      unfold setIn
      by_cases same : d.type = c.type
      · simp [same]
      · have other : c.type ≠ d.type := fun h => same h.symm
        simp only [if_neg same, List.map_cons, ih, List.mem_cons, other, false_or]
        split <;> rfl

theorem types_set_of_mem {s : Status ω} {c : Condition} (known : c.type ∈ s.types) :
    (s.set c).types = s.types := by
  rw [types_set, if_pos known]

theorem types_set_of_notMem {s : Status ω} {c : Condition} (fresh : c.type ∉ s.types) :
    (s.set c).types = s.types ++ [c.type] := by
  rw [types_set, if_neg fresh]

/-- Only the first entry of its type gives way to a condition. -/
theorem getElem?_set_of_ne {s : Status ω} {c : Condition} {i : Nat}
    (within : i < s.conditions.length) (other : s.types.idxOf c.type ≠ i) :
    (s.set c).conditions[i]? = s.conditions[i]? := by
  suffices ∀ (cs : List Condition) (i : Nat), i < cs.length →
      (cs.map (·.type)).idxOf c.type ≠ i → (setIn c cs)[i]? = cs[i]? from
    this s.conditions i within other
  intro cs
  induction cs with
  | nil => intro i within; cases within
  | cons d rest ih =>
      intro i within other
      unfold setIn
      rw [List.map_cons, List.idxOf_cons] at other
      by_cases same : d.type = c.type
      · have first : i ≠ 0 := by
          rintro rfl
          simp [same] at other
        obtain ⟨i, rfl⟩ := Nat.exists_eq_succ_of_ne_zero first
        rw [if_pos same]
        rfl
      · rw [if_neg same]
        cases i with
        | zero => rfl
        | succ i =>
            have differ : (d.type == c.type) = false := by simpa using same
            have later : (rest.map (·.type)).idxOf c.type ≠ i := by
              rintro rfl
              simp [differ] at other
            exact ih i (Nat.lt_of_succ_lt_succ within) later

/-- New types at the end do not move those that are there. -/
theorem idxOf_append_ne {known more : List String} {type : String} {i : Nat}
    (within : i < known.length) (other : known.idxOf type ≠ i) :
    (known ++ more).idxOf type ≠ i := by
  rw [List.idxOf_append]
  split
  · exact other
  · omega

theorem idxOf_types_set_ne {s : Status ω} {c : Condition} {type : String} {i : Nat}
    (within : i < s.conditions.length) (other : s.types.idxOf type ≠ i) :
    (s.set c).types.idxOf type ≠ i := by
  rw [types_set]
  split
  · exact other
  · exact idxOf_append_ne (by simpa [types] using within) other

theorem length_le_set (s : Status ω) (c : Condition) :
    s.conditions.length ≤ (s.set c).conditions.length := by
  show s.conditions.length ≤ (setIn c s.conditions).length
  induction s.conditions with
  | nil => exact Nat.zero_le _
  | cons d rest ih =>
      unfold setIn
      split
      · exact Nat.le_refl _
      · exact Nat.succ_le_succ ih

theorem nodup_types_set {s : Status ω} (unique : s.types.Nodup) (c : Condition) :
    (s.set c).types.Nodup := by
  rw [types_set]
  split
  · exact unique
  · rename_i fresh
    refine List.nodup_append.mpr ⟨unique, by simp, ?_⟩
    rintro type known _ added rfl
    exact fresh (List.mem_singleton.mp added ▸ known)

/-! ## One after the other -/

theorem condition?_setAll (s : Status ω) (cs : List Condition) (type : String) :
    (s.setAll cs).condition? type =
      (cs.filter (·.type = type)).getLast?.or (s.condition? type) := by
  induction cs generalizing s with
  | nil => rfl
  | cons c rest ih =>
      rw [setAll_cons, ih]
      by_cases same : c.type = type
      · subst same
        rw [condition?_set_self, List.filter_cons_of_pos (by simp), List.getLast?_cons]
        cases (rest.filter (·.type = c.type)).getLast? <;> rfl
      · rw [condition?_set_of_ne s same, List.filter_cons_of_neg (by simpa using same)]

theorem types_setAll (s : Status ω) (cs : List Condition) :
    (s.setAll cs).types =
      s.types ++ ((cs.map (·.type)).filter (· ∉ s.types)).eraseDups := by
  induction cs generalizing s with
  | nil => simp [setAll]
  | cons c rest ih =>
      rw [setAll_cons, ih, List.map_cons]
      by_cases known : c.type ∈ s.types
      · rw [types_set_of_mem known, List.filter_cons_of_neg (by simpa using known)]
      · rw [types_set_of_notMem known, List.filter_cons_of_pos (by simpa using known),
          List.eraseDups_cons, List.append_assoc, List.singleton_append, List.filter_filter]
        refine congrArg (fun later => s.types ++ c.type :: List.eraseDups later) ?_
        refine List.filter_congr fun type _ => ?_
        by_cases same : type = c.type <;> simp [same]

theorem getElem?_setAll_of_ne {s : Status ω} {cs : List Condition} {i : Nat}
    (within : i < s.conditions.length) (other : ∀ c ∈ cs, s.types.idxOf c.type ≠ i) :
    (s.setAll cs).conditions[i]? = s.conditions[i]? := by
  induction cs generalizing s with
  | nil => rfl
  | cons c rest ih =>
      have first := other c List.mem_cons_self
      rw [setAll_cons, ih (Nat.lt_of_lt_of_le within (length_le_set s c)),
        getElem?_set_of_ne within first]
      intro d later
      exact idxOf_types_set_ne within (other d (List.mem_cons_of_mem c later))

theorem nodup_types_setAll {s : Status ω} (unique : s.types.Nodup) (cs : List Condition) :
    (s.setAll cs).types.Nodup := by
  induction cs generalizing s with
  | nil => exact unique
  | cons c rest ih => exact ih (nodup_types_set unique c)

theorem atProvider_setAll (s : Status ω) (cs : List Condition) :
    (s.setAll cs).atProvider = s.atProvider := by
  induction cs generalizing s with
  | nil => rfl
  | cons c rest ih => exact ih (s.set c)

/-- After conditions have been set, the one that counts for a type is the last one set of it, or
else the first one that was there.  The types are those that were there, in their order, and then
each new one once, in the order of first mention.  Entries that are not the first of a type that was
set stay, as does the rest of the status. -/
theorem setAll_observations (s : Status ω) (cs : List Condition) :
    (∀ type, (s.setAll cs).condition? type =
      (cs.filter (·.type = type)).getLast?.or (s.conditions.find? (·.type = type))) ∧
    (s.setAll cs).types = s.types ++ ((cs.map (·.type)).filter (· ∉ s.types)).eraseDups ∧
    (∀ i < s.conditions.length, (∀ c ∈ cs, s.types.idxOf c.type ≠ i) →
      (s.setAll cs).conditions[i]? = s.conditions[i]?) ∧
    (s.types.Nodup → (s.setAll cs).types.Nodup) ∧
    (s.setAll cs).atProvider = s.atProvider :=
  ⟨condition?_setAll s cs, types_setAll s cs, fun _ within other =>
    getElem?_setAll_of_ne within other, fun unique => nodup_types_setAll unique cs,
    atProvider_setAll s cs⟩

/-- A type that is mentioned twice: its first entry gives way, its second one stays. -/
example : (Status.mk [.creating, .available] ()).setAll [.reconcileSuccess, .deleting] =
    ⟨[.deleting, .available, .reconcileSuccess], ()⟩ := by
  decide

end Status
end CloudReconcile
