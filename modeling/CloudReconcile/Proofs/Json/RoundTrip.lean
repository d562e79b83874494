import CloudReconcile.Field
import CloudReconcile.Proofs.Json.Reading

/-!
# Records that give back what they wrote

A record is faithful if reading the members that it wrote gives the value again.  That needs no more
of the object than the members that the record knows, so it also holds of an object in another order
and with members of others in it.
-/

namespace CloudReconcile
namespace Json
namespace Record

variable {ρ α β : Type}

/-- The record writes only members that it knows, in their order, and reads from them what `get`
tells about the value they were written from. -/
structure Faithful (record : Record ρ α) (get : ρ → α) : Prop where
  written : ∀ r, ((record.write r).map (·.1)).Sublist record.keys
  reads : record.keys.Nodup → ∀ r members,
    (∀ key ∈ record.keys, members key = (record.write r).lookup key) →
      record.Reads members (get r)

namespace Faithful

theorem pure (a : α) : (Record.nothing (ρ := ρ) a).Faithful fun _ => a :=
  ⟨fun _ => List.Sublist.refl _, fun _ _ _ _ => .nothing a⟩

/-- Two parts of a record do not get into each other's way, for their keys differ. -/
theorem both {f : Record ρ (α → β)} {x : Record ρ α} {g : ρ → α → β} {h : ρ → α}
    (hf : f.Faithful g) (hx : x.Faithful h) :
    (Record.both f x).Faithful fun r => g r (h r) where
  written r := by
    show ((f.write r ++ x.write r).map (·.1)).Sublist _
    rw [List.map_append, keys_both]
    exact (hf.written r).append (hx.written r)
  reads distinct r members agree := by
    rw [keys_both] at distinct agree
    obtain ⟨left, right, apart⟩ := List.nodup_append.mp distinct
    have split : ∀ key, (f.write r ++ x.write r).lookup key =
        ((f.write r).lookup key).or ((x.write r).lookup key) := fun key => List.lookup_append
    refine .both (hf.reads left r members fun key hk => ?_)
      (hx.reads right r members fun key hk => ?_)
    · have other : (x.write r).lookup key = none := lookup_eq_none_of_notMem fun there =>
        apart key hk key ((hx.written r).subset there) rfl
      rw [agree key (List.mem_append_left _ hk)]
      show (f.write r ++ x.write r).lookup key = _
      rw [split, other, Option.or_none]
    · have other : (f.write r).lookup key = none := lookup_eq_none_of_notMem fun there =>
        apart key ((hf.written r).subset there) key hk rfl
      rw [agree key (List.mem_append_right _ hk)]
      show (f.write r ++ x.write r).lookup key = _
      rw [split, other, Option.none_or]

theorem seq {f : Record ρ (α → β)} {x : Record ρ α} {g : ρ → α → β} {h : ρ → α}
    (hf : f.Faithful g) (hx : x.Faithful h) : (f <*> x).Faithful fun r => g r (h r) :=
  hf.both hx

theorem map {f : α → β} {x : Record ρ α} {h : ρ → α} (hx : x.Faithful h) :
    (f <$> x).Faithful fun r => f (h r) :=
  (pure f).both hx

theorem member {key : String} {read : Tree → Except Problem α} {absent : Form → Option α}
    {write : ρ → Option Value} {get : ρ → α}
    (same : ∀ r, match write r with
      | some v => read (.ofValue v) = .ok (get r)
      | none => absent .keyed = some (get r)) :
    (Record.member key read absent write).Faithful get where
  written r := by
    show (((write r).map fun v => (key, v)).toList.map (·.1)).Sublist [key]
    cases write r with
    | none => exact List.nil_sublist _
    | some v => exact List.Sublist.refl _
  reads _ r members agree := by
    have here : members key = write r := by
      rw [agree key (List.mem_singleton.mpr rfl)]
      show (((write r).map fun v => (key, v)).toList).lookup key = write r
      cases write r <;> simp
    refine .member ?_
    rw [here]
    exact same r

theorem required {key : String} {codec : Codec α} {get : ρ → α} (h : codec.Lawful) :
    (Record.required key codec get).Faithful get :=
  member fun r => h.read_write (get r)

theorem defaulted {key : String} {codec : Codec α} {value : α} {get : ρ → α} (h : codec.Lawful) :
    (Record.defaulted key codec value get).Faithful get :=
  member fun r => h.read_write (get r)

theorem optional {key : String} {codec : Codec α} {get : ρ → Option α} (h : codec.Lawful) :
    (Record.optional key codec get).Faithful get :=
  member fun r => by
    cases get r with
    | none => rfl
    | some a => exact h.nullable_read_write a

theorem placed {key : String} {codec : Codec α} {get : ρ → Option α} (h : codec.Lawful) :
    (Record.placed key codec get).Faithful get :=
  member fun r => by
    cases get r with
    | none => rfl
    | some a => exact h.nullable_read_write a

theorem listed {key : String} {codec : Codec α} {get : ρ → List α} (h : codec.Lawful) :
    (Record.listed key codec get).Faithful get :=
  member fun r => by
    cases get r with
    | nil => rfl
    | cons a rest => exact h.list.read_write (a :: rest)

end Faithful

/-- An object that holds what a record writes of a value, as far as the record knows its members. -/
def Spelt (record : Record ρ α) (r : ρ) (ms : List (String × Value)) : Prop :=
  (ms.map (·.1)).Nodup ∧ ∀ key ∈ record.keys, ms.lookup key = (record.write r).lookup key

theorem Faithful.spelt_write {record : Record ρ α} {get : ρ → α} (h : record.Faithful get)
    (distinct : record.keys.Nodup) (r : ρ) : record.Spelt r (record.write r) :=
  ⟨distinct.sublist (h.written r), fun _ _ => rfl⟩

theorem Faithful.read_spelt {record : Record ρ α} {get : ρ → α} (h : record.Faithful get)
    (distinct : record.keys.Nodup) {r : ρ} {ms : List (String × Value)} (spelt : record.Spelt r ms)
    (style : Style) : record.read style (.ofValue (.object ms)) = .ok (get r) :=
  (h.reads distinct r _ spelt.2).read_object spelt.1

theorem Faithful.codec_lawful {record : Record α α} {get : α → α} (h : record.Faithful get)
    (whole : ∀ a, get a = a) (distinct : record.keys.Nodup) (style : Style) :
    (record.codec style).Lawful where
  read_write a := by
    show record.read style (.ofValue (.object (record.write a))) = .ok a
    rw [h.read_spelt distinct (h.spelt_write distinct a) style, whole]
  write_ne_null _ h := by cases h

end Record
end Json

end CloudReconcile
