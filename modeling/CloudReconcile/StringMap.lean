/-!
# Maps from strings to strings

A map is the list of its entries in the order of their keys, so equal maps are equal lists.  The
order is that of the code points.
-/

namespace CloudReconcile

/-- A finite map from strings to strings. -/
structure StringMap where
  entries : List (String × String)
  sorted : entries.Pairwise fun a b => a.1 < b.1
deriving DecidableEq

namespace StringMap

def empty : StringMap := ⟨[], .nil⟩

instance : Inhabited StringMap := ⟨empty⟩

/-- Put an entry in its place; an entry of the same key gives way. -/
def insertEntry (key value : String) : List (String × String) → List (String × String)
  | [] => [(key, value)]
  | (k, v) :: rest =>
    if key < k then (key, value) :: (k, v) :: rest
    else if key = k then (key, value) :: rest
    else (k, v) :: insertEntry key value rest

theorem fst_of_mem_insertEntry {key value : String} {entries : List (String × String)}
    {e : String × String} (h : e ∈ insertEntry key value entries) :
    e.1 = key ∨ e ∈ entries := by
  induction entries with
  | nil => simp_all [insertEntry]
  | cons entry rest ih =>
    obtain ⟨k, v⟩ := entry
    rw [insertEntry] at h
    split at h
    · rcases List.mem_cons.1 h with rfl | h
      · exact .inl rfl
      · exact .inr h
    · split at h
      · rcases List.mem_cons.1 h with rfl | h
        · exact .inl rfl
        · exact .inr (List.mem_cons_of_mem _ h)
      · rcases List.mem_cons.1 h with rfl | h
        · exact .inr List.mem_cons_self
        · exact (ih h).imp id (List.mem_cons_of_mem _)

theorem sorted_insertEntry (key value : String) {entries : List (String × String)}
    (h : entries.Pairwise fun a b => a.1 < b.1) :
    (insertEntry key value entries).Pairwise fun a b => a.1 < b.1 := by
  induction entries with
  | nil => simp [insertEntry]
  | cons entry rest ih =>
    obtain ⟨k, v⟩ := entry
    obtain ⟨first, rest_sorted⟩ := List.pairwise_cons.1 h
    rw [insertEntry]
    split
    · rename_i lt
      refine List.pairwise_cons.2 ⟨fun e he => ?_, h⟩
      rcases List.mem_cons.1 he with rfl | he
      · exact lt
      · exact String.lt_trans lt (first e he)
    · split
      · rename_i eq
        subst eq
        exact List.pairwise_cons.2 ⟨first, rest_sorted⟩
      · rename_i not_lt ne
        refine List.pairwise_cons.2 ⟨fun e he => ?_, ih rest_sorted⟩
        rcases fst_of_mem_insertEntry he with eq | he
        · rw [eq]
          refine Decidable.byContradiction fun not_gt => ne ?_
          exact String.le_antisymm (String.not_lt.1 not_gt) (String.not_lt.1 not_lt)
        · exact first e he

def insert (m : StringMap) (key value : String) : StringMap :=
  ⟨insertEntry key value m.entries, sorted_insertEntry key value m.sorted⟩

def get? (m : StringMap) (key : String) : Option String :=
  m.entries.lookup key

/-- The map of a list of entries; of two entries with one key the later counts. -/
def ofList (entries : List (String × String)) : StringMap :=
  entries.foldl (fun m e => m.insert e.1 e.2) empty

theorem insertEntry_of_forall_lt {key : String} (value : String) {entries : List (String × String)}
    (last : ∀ e ∈ entries, e.1 < key) :
    insertEntry key value entries = entries ++ [(key, value)] := by
  induction entries with
  | nil => rfl
  | cons entry rest ih =>
      obtain ⟨k, v⟩ := entry
      have before : k < key := last (k, v) List.mem_cons_self
      have not_after : ¬ key < k := fun after => String.lt_irrefl k (String.lt_trans before after)
      have ne : key ≠ k := fun eq => String.lt_irrefl k (eq ▸ before)
      rw [insertEntry, if_neg not_after, if_neg ne,
        ih fun e he => last e (List.mem_cons_of_mem _ he)]
      rfl

theorem entries_foldl_insert (m : StringMap) (entries : List (String × String))
    (sorted : (m.entries ++ entries).Pairwise fun a b => a.1 < b.1) :
    (entries.foldl (fun m e => m.insert e.1 e.2) m).entries = m.entries ++ entries := by
  induction entries generalizing m with
  | nil => simp
  | cons entry rest ih =>
      have last : ∀ e ∈ m.entries, e.1 < entry.1 := fun e he =>
        (List.pairwise_append.mp sorted).2.2 e he entry List.mem_cons_self
      have placed : (m.insert entry.1 entry.2).entries = m.entries ++ [entry] :=
        insertEntry_of_forall_lt entry.2 last
      rw [List.foldl_cons, ih _ (by rw [placed]; simpa using sorted), placed]
      simp

theorem ofList_entries (m : StringMap) : ofList m.entries = m := by
  have same : (ofList m.entries).entries = m.entries :=
    entries_foldl_insert empty m.entries m.sorted
  cases h : ofList m.entries
  cases m
  simp_all

def toList (m : StringMap) : List (String × String) := m.entries

end StringMap

end CloudReconcile
