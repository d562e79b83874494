import CloudReconcile.Json.MergePatch
import CloudReconcile.Proofs.Json.RoundTrip

/-!
# What a patched object spells

A patch never takes away a member that it does not name.  So an object that spells a record's value
spells the next one after a patch with what the record writes of it, as long as the record writes
whole values and nothing that was written before is left out.
-/

namespace CloudReconcile
namespace Json
namespace Value

/-! ## Members of a patched object -/

/-- A patch with such a value puts it in the place of whatever was there. -/
def isPlain : Value → Bool
  | .null | .object _ => false
  | _ => true

theorem patched_of_isPlain {v : Value} (h : v.isPlain) (target : Value) : target.patched v = v := by
  cases v <;> first | exact absurd h Bool.false_ne_true | rfl

theorem map_fst_setMember (key : String) (value : Value) (members : List (String × Value)) :
    (setMember key value members).map (·.1) =
      if key ∈ members.map (·.1) then members.map (·.1) else members.map (·.1) ++ [key] := by
  induction members with
  | nil => rfl
  | cons member rest ih =>
      obtain ⟨k, v⟩ := member
      rw [setMember]
      by_cases eq : key = k
      · simp [eq]
      · rw [if_neg eq, List.map_cons, ih]
        by_cases there : key ∈ rest.map (·.1) <;> simp [eq, there]

theorem nodup_setMember {key : String} {value : Value} {members : List (String × Value)}
    (distinct : (members.map (·.1)).Nodup) : ((setMember key value members).map (·.1)).Nodup := by
  rw [map_fst_setMember]
  split
  · exact distinct
  · rename_i fresh
    rw [List.nodup_append]
    refine ⟨distinct, by simp, ?_⟩
    rintro a there b single rfl
    exact fresh (List.mem_singleton.mp single ▸ there)

theorem nodup_eraseMember {key : String} {members : List (String × Value)}
    (distinct : (members.map (·.1)).Nodup) : ((eraseMember key members).map (·.1)).Nodup :=
  distinct.sublist (List.filter_sublist.map _)

theorem nodup_patchedMembers {members : List (String × Value)}
    (distinct : (members.map (·.1)).Nodup) (changes : List (String × Value)) :
    ((patchedMembers members changes).map (·.1)).Nodup := by
  induction changes generalizing members with
  | nil => simpa [patchedMembers] using distinct
  | cons change rest ih =>
      obtain ⟨key, patch⟩ := change
      cases patch with
      | null =>
          rw [patchedMembers]
          exact ih (nodup_eraseMember distinct)
      | _ =>
          rw [patchedMembers]
          · exact ih (nodup_setMember distinct)
          · exact fun null => by cases null

theorem lookup_patchedMembers {changes : List (String × Value)}
    (distinct : (changes.map (·.1)).Nodup) (members : List (String × Value)) (k : String) :
    (patchedMembers members changes).lookup k =
      match changes.lookup k with
      | none => members.lookup k
      | some .null => none
      | some patch => some (patched ((members.lookup k).getD .null) patch) := by
  induction changes generalizing members with
  | nil => simp [patchedMembers]
  | cons change rest ih =>
      obtain ⟨key, patch⟩ := change
      rw [List.map_cons, List.nodup_cons] at distinct
      by_cases here : k = key
      · subst here
        have later := lookup_patchedMembers_of_unnamed rest
          fun c hc same => distinct.1 (List.mem_map.mpr ⟨c, hc, same⟩)
        cases patch <;>
          simp [patchedMembers, later, lookup_eraseMember, lookup_setMember]
      · cases patch <;>
          simp [patchedMembers, ih distinct.2, lookup_cons_eq_ite, lookup_eraseMember,
            lookup_setMember, here]

end Value

namespace Record

variable {ρ α : Type}

/-- After a patch with what the record writes of `s`, an object that spelt `r` spells `s`. -/
theorem Spelt.patched {record : Record ρ α} {get : ρ → α} (h : record.Faithful get)
    (distinct : record.keys.Nodup) {r s : ρ} {ms : List (String × Value)}
    (spelt : record.Spelt r ms)
    (plain : ∀ m ∈ record.write s, m.2.isPlain)
    (grows : (record.write r).map (·.1) ⊆ (record.write s).map (·.1)) :
    record.Spelt s (Value.patchedMembers ms (record.write s)) := by
  have named := distinct.sublist (h.written s)
  refine ⟨Value.nodup_patchedMembers spelt.1 _, fun key known => ?_⟩
  rw [Value.lookup_patchedMembers named]
  cases now : (record.write s).lookup key with
  | none =>
      have before : key ∉ (record.write r).map (·.1) := fun there => by
        obtain ⟨m, hm, rfl⟩ := List.mem_map.mp (grows there)
        rw [lookup_of_mem named hm] at now
        cases now
      rw [spelt.2 key known]
      exact lookup_eq_none_of_notMem before
  | some v =>
      obtain ⟨before, after, split, _⟩ := List.lookup_eq_some_iff.mp now
      have whole : v.isPlain := plain (key, v) (by simp [split])
      have placed := Value.patched_of_isPlain whole ((ms.lookup key).getD .null)
      cases v with
      | null => exact absurd whole Bool.false_ne_true
      | _ => exact congrArg some placed

end Record
end Json
end CloudReconcile
