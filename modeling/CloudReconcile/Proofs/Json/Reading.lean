import CloudReconcile.Json.Record

/-!
# Reading what was written

A value that was not read from a text has no faults in it, so a record is read from an object by
looking up its members, in whatever order they come and whatever else the object holds.  Codecs that
give back what they wrote are put together from smaller ones the way records are.
-/

namespace CloudReconcile
namespace Json

/-! ## Values without faults -/

mutual

theorem Tree.skipFault_ofValue : ∀ v : Value, (Tree.ofValue v).skipFault = none
  | .null | .bool _ | .number _ | .string _ => rfl
  | .array items => Items.skipFault_ofValues items
  | .object members => Members.skipFault_ofPairs members

theorem Items.skipFault_ofValues : ∀ vs : List Value, (Items.ofValues vs).skipFault = none
  | [] => rfl
  | v :: vs => by
    rw [Items.ofValues, Items.skipFault, Tree.skipFault_ofValue v, Items.skipFault_ofValues vs]
    rfl

theorem Members.skipFault_ofPairs : ∀ ms : List (String × Value),
    (Members.ofPairs ms).skipFault = none
  | [] => rfl
  | (_, v) :: ms => by
    rw [Members.ofPairs, Members.skipFault, Tree.skipFault_ofValue v, Members.skipFault_ofPairs ms]
    rfl

end

/-- The codec gives back what it wrote, and never writes `null`. -/
structure Codec.Lawful {α : Type} (codec : Codec α) : Prop where
  read_write : ∀ a, codec.read (.ofValue (codec.write a)) = .ok a
  write_ne_null : ∀ a, codec.write a ≠ .null

namespace Codec

/-! ## Single values, lists and maps -/

theorem string_lawful : string.Lawful := ⟨fun _ => rfl, fun _ h => by cases h⟩

theorem bool_lawful : bool.Lawful := ⟨fun _ => rfl, fun _ h => by cases h⟩

theorem choice_lawful {α : Type} {names : List (String × α)} {name : α → String}
    (found : ∀ a, names.lookup (name a) = some a) : (choice names name).Lawful where
  read_write a := by
    show named? names (name a) _ = _
    rw [named?, found]
  write_ne_null _ h := by cases h

theorem nullable_read_ofValue {α : Type} (codec : Codec α) {v : Value} (h : v ≠ .null) :
    codec.nullable.read (.ofValue v) = (codec.read (.ofValue v)).map some := by
  cases v <;> first | rfl | exact absurd rfl h

theorem Lawful.nullable_read_write {α : Type} {codec : Codec α} (h : codec.Lawful) (a : α) :
    codec.nullable.read (.ofValue (codec.write a)) = .ok (some a) := by
  rw [nullable_read_ofValue codec (h.write_ne_null a), h.read_write]
  rfl

theorem Lawful.list {α : Type} {codec : Codec α} (h : codec.Lawful) : codec.list.Lawful where
  read_write xs := by
    show readItems codec.read (Items.ofValues (xs.map codec.write)) = .ok xs
    induction xs with
    | nil => rfl
    | cons x xs ih =>
        rw [List.map_cons, Items.ofValues, readItems, h.read_write, ih]
        rfl
  write_ne_null _ h := by cases h

theorem readEntries_ofPairs (entries before : List (String × String)) :
    readEntries before (Members.ofPairs (entries.map fun e => (e.1, .string e.2))) =
      .ok (StringMap.ofList (before.reverse ++ entries)) := by
  induction entries generalizing before with
  | nil => simp [Members.ofPairs, readEntries]
  | cons e entries ih =>
      show readEntries ((e.1, e.2) :: before) _ = _
      rw [ih]
      simp

theorem stringMap_lawful : stringMap.Lawful where
  read_write m := by
    show readEntries [] (Members.ofPairs (m.entries.map fun e => (e.1, .string e.2))) = .ok m
    rw [readEntries_ofPairs]
    exact congrArg Except.ok m.ofList_entries
  write_ne_null _ h := by cases h

end Codec

namespace Record

variable {ρ α β : Type}

def keys (record : Record ρ α) : List String := record.known.map (·.key)

/-- Members under these keys spell a value: each is readable, and together they give it. -/
structure Reads (record : Record ρ α) (members : String → Option Value) (a : α) : Prop where
  checked : ∀ k ∈ record.known, ∀ v, members k.key = some v → k.check (.ofValue v) = .ok ()
  built : ∀ found : String → Option Tree,
    (∀ key ∈ record.keys, found key = (members key).map .ofValue) →
      record.build .keyed found = .ok a

@[simp] theorem keys_both (f : Record ρ (α → β)) (x : Record ρ α) :
    (both f x).keys = f.keys ++ x.keys := List.map_append

theorem Reads.nothing {members : String → Option Value} (a : α) :
    (nothing (ρ := ρ) a).Reads members a :=
  ⟨fun _ h => (List.not_mem_nil h).elim, fun _ _ => rfl⟩

theorem Reads.both {f : Record ρ (α → β)} {x : Record ρ α} {members : String → Option Value}
    {g : α → β} {a : α} (hf : f.Reads members g) (hx : x.Reads members a) :
    (Record.both f x).Reads members (g a) where
  checked k hk v hv := by
    rcases List.mem_append.mp hk with hk | hk
    · exact hf.checked k hk v hv
    · exact hx.checked k hk v hv
  built found agree := by
    rw [keys_both] at agree
    have left := hf.built found fun key h => agree key (List.mem_append_left _ h)
    have right := hx.built found fun key h => agree key (List.mem_append_right _ h)
    show (do let g ← f.build .keyed found; let a ← x.build .keyed found; return g a) = _
    rw [left, right]
    rfl

theorem Reads.member {key : String} {read : Tree → Except Problem α} {absent : Form → Option α}
    {write : ρ → Option Value} {members : String → Option Value} {a : α}
    (spelt : match members key with
      | some v => read (.ofValue v) = .ok a
      | none => absent .keyed = some a) :
    (Record.member key read absent write).Reads members a where
  checked k hk v hv := by
    obtain rfl := List.mem_singleton.mp hk
    rw [hv] at spelt
    show (read (.ofValue v)).map _ = _
    rw [spelt]
    rfl
  built found agree := by
    have here := agree key (List.mem_singleton.mpr rfl)
    cases h : members key with
    | none =>
        rw [h] at here spelt
        simp only [Option.map_none] at here
        simp only [Record.member, here, spelt]
    | some v =>
        rw [h] at here spelt
        simp only [Option.map_some] at here
        simp only [Record.member, here, spelt]
        rfl

/-! ## Objects as their members -/

theorem lookup_of_mem {ms : List (String × Value)} (distinct : (ms.map (·.1)).Nodup)
    {m : String × Value} (h : m ∈ ms) : ms.lookup m.1 = some m.2 := by
  induction ms with
  | nil => exact (List.not_mem_nil h).elim
  | cons first rest ih =>
      rw [List.map_cons, List.nodup_cons] at distinct
      rw [Value.lookup_cons_eq_ite]
      rcases List.mem_cons.mp h with rfl | h
      · exact if_pos rfl
      · have ne : m.1 ≠ first.1 := fun eq => distinct.1 (eq ▸ List.mem_map_of_mem h)
        rw [if_neg ne, ih distinct.2 h]

theorem lookup_eq_none_of_notMem {β : Type} {key : String} {ms : List (String × β)}
    (h : key ∉ ms.map (·.1)) : ms.lookup key = none := by
  rw [List.lookup_eq_none_iff]
  intro m hm
  simp only [bne_iff_ne, ne_eq]
  exact fun eq => h (eq ▸ List.mem_map_of_mem hm)

/-- Collecting members that are all readable finds those that are known, wherever they stand. -/
theorem gather_ofPairs (repeats : Bool) {known : List Known} {ms : List (String × Value)}
    (distinct : (ms.map (·.1)).Nodup)
    (checked : ∀ m ∈ ms, ∀ k ∈ known, k.key = m.1 → k.check (.ofValue m.2) = .ok ())
    (found : List (String × Tree)) (fresh : ∀ m ∈ ms, m.1 ∉ found.map (·.1)) :
    ∃ all, gather repeats known found (Members.ofPairs ms) = .ok (all, 0) ∧
      ∀ key ∈ known.map (·.key),
        all.lookup key = (found.lookup key).or ((ms.lookup key).map .ofValue) := by
  induction ms generalizing found with
  | nil => exact ⟨found, rfl, fun key _ => by simp⟩
  | cons first rest ih =>
      obtain ⟨key, v⟩ := first
      rw [List.map_cons, List.nodup_cons] at distinct
      have deeper := fun m (h : m ∈ rest) => checked m (List.mem_cons_of_mem _ h)
      rw [Members.ofPairs, gather]
      cases known_key : known.find? (fun k => k.key = key) with
      | none =>
          obtain ⟨all, gathered, all_lookup⟩ := ih distinct.2 deeper found
            fun m h => fresh m (List.mem_cons_of_mem _ h)
          simp only [Tree.skipFault_ofValue, gathered]
          refine ⟨all, rfl, fun other h => ?_⟩
          have ne : other ≠ key := by
            rintro rfl
            obtain ⟨k, hk, same⟩ := List.mem_map.mp h
            exact absurd same (by simpa using List.find?_eq_none.mp known_key k hk)
          rw [all_lookup other h, Value.lookup_cons_eq_ite, if_neg ne]
      | some k =>
          have same : k.key = key := by simpa using List.find?_some known_key
          have there := List.mem_of_find?_eq_some known_key
          have ok := checked (key, v) List.mem_cons_self k there same
          have unseen : (found.any fun e => decide (e.1 = key)) = false := by
            rw [List.any_eq_false]
            intro e he
            simp only [decide_eq_true_eq]
            exact fun eq => fresh (key, v) List.mem_cons_self (List.mem_map.mpr ⟨e, he, eq⟩)
          obtain ⟨all, gathered, all_lookup⟩ := ih distinct.2 deeper ((key, .ofValue v) :: found)
            fun m h => by
              rw [List.map_cons, List.mem_cons, not_or]
              exact ⟨fun eq => distinct.1 (eq ▸ List.mem_map_of_mem h),
                fresh m (List.mem_cons_of_mem _ h)⟩
          simp only [unseen, Bool.and_false, Bool.false_eq_true, if_false, ok, gathered]
          refine ⟨all, rfl, fun other h => ?_⟩
          rw [all_lookup other h, Value.lookup_cons_eq_ite]
          by_cases eq : other = key
          · subst eq
            have none_found := lookup_eq_none_of_notMem (fresh (other, v) List.mem_cons_self)
            simp [none_found]
          · have ne : (other == key) = false := beq_eq_false_iff_ne.mpr eq
            rw [if_neg eq, List.lookup_cons, ne]

theorem Reads.read_object {record : Record ρ α} {style : Style} {ms : List (String × Value)}
    {a : α} (distinct : (ms.map (·.1)).Nodup) (h : record.Reads (fun key => ms.lookup key) a) :
    record.read style (.ofValue (.object ms)) = .ok a := by
  obtain ⟨all, gathered, all_lookup⟩ := gather_ofPairs style.repeats distinct
    (fun m hm k hk same => h.checked k hk m.2 (by rw [same, lookup_of_mem distinct hm])) []
    fun m _ => List.not_mem_nil
  rw [Tree.ofValue, read, gathered]
  show record.assemble style .keyed all 0 = .ok a
  rw [assemble, h.built _ fun key hk => by rw [all_lookup key hk]; rfl]

end Record
end Json
end CloudReconcile
