import CloudReconcile.Json.Sorted
import CloudReconcile.Proofs.Json.Patching

/-!
# Patches and the order of members

Sorting keeps what every member is, and members in the order of their keys are determined by what
each of them is.  So an object is the same JSON as the patch that was merged into it, if the patch
names every member that the object had and the same holds of the members.
-/

namespace CloudReconcile
namespace Json
namespace Value

/-! ## Members in the order of their keys -/

theorem mem_insertMember {key : String} {value : Value} {members : List (String × Value)}
    {m : String × Value} (h : m ∈ insertMember key value members) : m.1 = key ∨ m ∈ members := by
  induction members with
  | nil => simp_all [insertMember]
  | cons first rest ih =>
      obtain ⟨k, v⟩ := first
      rw [insertMember] at h
      split at h
      · exact (List.mem_cons.mp h).imp (congrArg Prod.fst) id
      · split at h
        · exact (List.mem_cons.mp h).imp (congrArg Prod.fst) (List.mem_cons_of_mem _)
        · rcases List.mem_cons.mp h with rfl | h
          · exact .inr List.mem_cons_self
          · exact (ih h).imp id (List.mem_cons_of_mem _)

theorem pairwise_insertMember (key : String) (value : Value) {members : List (String × Value)}
    (h : members.Pairwise fun a b => a.1 < b.1) :
    (insertMember key value members).Pairwise fun a b => a.1 < b.1 := by
  induction members with
  | nil => simp [insertMember]
  | cons first rest ih =>
      obtain ⟨k, v⟩ := first
      obtain ⟨least, ordered⟩ := List.pairwise_cons.mp h
      rw [insertMember]
      split
      · rename_i before
        refine List.pairwise_cons.mpr ⟨fun m hm => ?_, h⟩
        rcases List.mem_cons.mp hm with rfl | hm
        · exact before
        · exact String.lt_trans before (least m hm)
      · split
        · rename_i same
          subst same
          exact List.pairwise_cons.mpr ⟨least, ordered⟩
        · rename_i not_before other
          refine List.pairwise_cons.mpr ⟨fun m hm => ?_, ih ordered⟩
          rcases mem_insertMember hm with same | hm
          · show k < m.1
            rw [same]
            refine Decidable.byContradiction fun not_after => other ?_
            exact String.le_antisymm (String.not_lt.mp not_after) (String.not_lt.mp not_before)
          · exact least m hm

theorem lookup_insertMember (key : String) (value : Value) {members : List (String × Value)}
    (h : members.Pairwise fun a b => a.1 < b.1) (k : String) :
    (insertMember key value members).lookup k =
      if k = key then some value else members.lookup k := by
  induction members with
  | nil => rw [insertMember, lookup_cons_eq_ite]
  | cons first rest ih =>
      obtain ⟨l, v⟩ := first
      rw [insertMember]
      split
      · rw [lookup_cons_eq_ite]
      · split
        · rename_i same
          subst same
          simp only [lookup_cons_eq_ite]
          split <;> rfl
        · rename_i other
          simp only [lookup_cons_eq_ite, ih (List.pairwise_cons.mp h).2]
          by_cases here : k = l
          · simp [here, Ne.symm other]
          · simp [here]

theorem pairwise_sortedMembers (members : List (String × Value)) :
    (sortedMembers members).Pairwise fun a b => a.1 < b.1 := by
  induction members with
  | nil => simp [sortedMembers]
  | cons first rest ih =>
      rw [sortedMembers]
      exact pairwise_insertMember _ _ ih

theorem lookup_sortedMembers (members : List (String × Value)) (key : String) :
    (sortedMembers members).lookup key = (members.lookup key).map sorted := by
  induction members with
  | nil => simp [sortedMembers]
  | cons first rest ih =>
      rw [sortedMembers, lookup_insertMember _ _ (pairwise_sortedMembers rest), ih,
        lookup_cons_eq_ite]
      split <;> rfl

theorem mem_iff_lookup {members : List (String × Value)} (distinct : (members.map (·.1)).Nodup)
    (m : String × Value) : m ∈ members ↔ members.lookup m.1 = some m.2 := by
  refine ⟨Record.lookup_of_mem distinct, fun h => ?_⟩
  obtain ⟨before, after, rfl, -⟩ := List.lookup_eq_some_iff.mp h
  exact List.mem_append_right _ List.mem_cons_self

/-- Members in the order of their keys are determined by what each of them is. -/
theorem eq_of_lookup_eq {ms ns : List (String × Value)} (hm : ms.Pairwise fun a b => a.1 < b.1)
    (hn : ns.Pairwise fun a b => a.1 < b.1) (same : ∀ key, ms.lookup key = ns.lookup key) :
    ms = ns := by
  have distinct {xs : List (String × Value)} (h : xs.Pairwise fun a b => a.1 < b.1) :
      (xs.map (·.1)).Nodup := by
    refine List.pairwise_map.mpr (h.imp ?_)
    intro a b before same
    exact String.lt_irrefl b.1 (same ▸ before)
  have nodup {xs : List (String × Value)} (h : xs.Pairwise fun a b => a.1 < b.1) : xs.Nodup :=
    List.Pairwise.of_map _ (fun _ _ apart same => apart (congrArg Prod.fst same)) (distinct h)
  refine List.Perm.eq_of_pairwise (fun a b _ _ ab ba => ?_) hm hn
    ((List.perm_ext_iff_of_nodup (nodup hm) (nodup hn)).mpr fun m => ?_)
  · exact (String.lt_irrefl _ (String.lt_trans ab ba)).elim
  · rw [mem_iff_lookup (distinct hm), mem_iff_lookup (distinct hn), same]

/-- Objects are the same JSON if their members are. -/
theorem sorted_object_eq {ms ns : List (String × Value)}
    (same : ∀ key, (ms.lookup key).map sorted = (ns.lookup key).map sorted) :
    (object ms).sorted = (object ns).sorted := by
  have members : sortedMembers ms = sortedMembers ns :=
    eq_of_lookup_eq (pairwise_sortedMembers ms) (pairwise_sortedMembers ns) fun key => by
      rw [lookup_sortedMembers, lookup_sortedMembers, same]
  rw [sorted, sorted, members]

/-- Values that are the same JSON have the same members. -/
theorem lookup_members_of_sorted_eq {v w : Value} (same : v.sorted = w.sorted) (key : String) :
    (v.members.lookup key).map sorted = (w.members.lookup key).map sorted := by
  rw [← lookup_sortedMembers, ← lookup_sortedMembers, ← members_sorted, ← members_sorted, same]

theorem sorted_getD_null (v : Option Value) :
    (v.getD .null).sorted = (v.map sorted).getD .null := by
  cases v <;> simp

theorem sorted_member_of_sorted_eq {v w : Value} (same : v.sorted = w.sorted) (key : String) :
    ((v.members.lookup key).getD .null).sorted = ((w.members.lookup key).getD .null).sorted := by
  rw [sorted_getD_null, sorted_getD_null, lookup_members_of_sorted_eq same]

theorem keys_subset_of_sorted_eq {v w : Value} (same : v.sorted = w.sorted) :
    v.members.map (·.1) ⊆ w.members.map (·.1) := by
  intro key there
  refine Decidable.byContradiction fun missing => ?_
  have looked := lookup_members_of_sorted_eq same key
  rw [Record.lookup_eq_none_of_notMem missing, Option.map_none, Option.map_eq_none_iff,
    List.lookup_eq_none_iff] at looked
  obtain ⟨m, hm, rfl⟩ := List.mem_map.mp there
  simpa using looked m hm

/-! ## Patches -/

/-- A patch takes the place of what it names: merged into an object of which it names every member,
it leaves itself. -/
theorem sorted_patched {target : Value} {changes : List (String × Value)}
    (distinct : (changes.map (·.1)).Nodup)
    (names : target.members.map (·.1) ⊆ changes.map (·.1))
    (whole : ∀ change ∈ changes, change.2 ≠ .null ∧
      (patched ((target.members.lookup change.1).getD .null) change.2).sorted =
        change.2.sorted) :
    (target.patched (.object changes)).sorted = (object changes).sorted := by
  rw [patched]
  refine sorted_object_eq fun key => ?_
  rw [lookup_patchedMembers distinct]
  cases named : changes.lookup key with
  | none =>
      have unnamed : key ∉ target.members.map (·.1) := fun there => by
        obtain ⟨m, hm, rfl⟩ := List.mem_map.mp (names there)
        rw [Record.lookup_of_mem distinct hm] at named
        cases named
      rw [Record.lookup_eq_none_of_notMem unnamed]
  | some v =>
      obtain ⟨given, same⟩ := whole (key, v) ((mem_iff_lookup distinct _).mpr named)
      cases v with
      | null => exact absurd rfl given
      | _ => exact congrArg some same

/-- Plain values replace whatever was there. -/
theorem sorted_patched_of_isPlain {target : Value} {changes : List (String × Value)}
    (distinct : (changes.map (·.1)).Nodup) (plain : ∀ change ∈ changes, change.2.isPlain)
    (names : target.members.map (·.1) ⊆ changes.map (·.1)) :
    (target.patched (.object changes)).sorted = (object changes).sorted := by
  refine sorted_patched distinct names fun change there => ⟨?_, ?_⟩
  · intro null
    exact absurd (plain change there) (by simp [null, isPlain])
  · rw [patched_of_isPlain (plain change there)]

end Value
end Json
end CloudReconcile
