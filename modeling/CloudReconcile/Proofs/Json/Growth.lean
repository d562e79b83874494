import CloudReconcile.Json.Growth
import CloudReconcile.Proofs.Json.Outline
import CloudReconcile.Proofs.Json.Reading
import CloudReconcile.Proofs.Json.Text

/-!
# Reading objects that grow

A record is read from the members of an object that it knows, one by one, and the other members have
to be free of faults.  So when an object grows by members that may join it, a record can be read
from it as before, and what is read differs only where a member joined.
-/

namespace CloudReconcile
namespace Json

/-! ## What grows -/

section Growing

variable {may : String → Tree → Prop} {into : String → Tree → Tree → Prop}
variable {es es' : List (String × Tree)}

theorem Grows.mem (h : Grows may into es es') {e : String × Tree} (there : e ∈ es') :
    (∃ t, (e.1, t) ∈ es ∧ (e.2.outline = t.outline ∨ into e.1 t e.2)) ∨ may e.1 e.2 := by
  induction h with
  | done => cases there
  | keep same rest ih =>
      rcases List.mem_cons.mp there with rfl | there
      · exact .inl ⟨_, List.mem_cons_self, .inl same⟩
      · exact (ih there).imp (fun ⟨t, old, what⟩ => ⟨t, List.mem_cons_of_mem _ old, what⟩) id
  | become other rest ih =>
      rcases List.mem_cons.mp there with rfl | there
      · exact .inl ⟨_, List.mem_cons_self, .inr other⟩
      · exact (ih there).imp (fun ⟨t, old, what⟩ => ⟨t, List.mem_cons_of_mem _ old, what⟩) id
  | join allowed rest ih =>
      rcases List.mem_cons.mp there with rfl | there
      · exact .inr allowed
      · exact ih there

theorem Grows.keys (h : Grows may into es es') : es.map (·.1) ⊆ es'.map (·.1) := by
  induction h with
  | done => exact List.Subset.refl _
  | keep _ _ ih => exact List.cons_subset_cons _ ih
  | become _ _ ih => exact List.cons_subset_cons _ ih
  | join _ _ ih => exact List.subset_cons_of_subset _ ih

/-- What becomes of the member of a key. -/
inductive Fate (may : String → Tree → Prop) (into : String → Tree → Tree → Prop) (key : String) :
    Option Tree → Option Tree → Prop where
  | missing : Fate may into key none none
  | kept {t t' : Tree} (same : t'.outline = t.outline) : Fate may into key (some t) (some t')
  | became {t t' : Tree} (other : into key t t') : Fate may into key (some t) (some t')
  | joined {t : Tree} (allowed : may key t) : Fate may into key none (some t)

theorem Fate.mono {may' : String → Tree → Prop} {key : String} {t t' : Option Tree}
    (h : Fate may into key t t') (weaker : ∀ t, may key t → may' key t) :
    Fate may' into key t t' := by
  cases h with
  | missing => exact .missing
  | kept same => exact .kept same
  | became other => exact .became other
  | joined allowed => exact .joined (weaker _ allowed)

theorem Grows.fate (h : Grows may into es es') {key : String}
    (once : (es'.map (·.1)).count key ≤ 1) :
    Fate may into key (es.lookup key) (es'.lookup key) := by
  induction h with
  | done => exact .missing
  | @keep es es' key' _ _ same _ ih =>
      rw [List.map_cons, List.count_cons] at once
      rw [List.lookup_cons, List.lookup_cons]
      cases key == key' with
      | true => exact .kept same
      | false => exact ih (by omega)
  | @become es es' key' _ _ other _ ih =>
      rw [List.map_cons, List.count_cons] at once
      rw [List.lookup_cons, List.lookup_cons]
      cases here : key == key' with
      | true => exact .became (beq_iff_eq.mp here ▸ other)
      | false => exact ih (by omega)
  | @join es es' key' _ allowed rest ih =>
      rw [List.map_cons, List.count_cons] at once
      rw [List.lookup_cons]
      cases here : key == key' with
      | false => exact ih (by omega)
      | true =>
          obtain rfl := beq_iff_eq.mp here
          have fresh : key ∉ es'.map (·.1) := List.count_eq_zero.mp (by simp at once; omega)
          rw [List.lookup_eq_none_iff.mpr fun e there => ?_]
          · exact .joined allowed
          · simp only [bne_iff_ne, ne_eq]
            exact fun eq => fresh (rest.keys (eq ▸ List.mem_map_of_mem there))

end Growing

namespace Record

/-! ## Reading an object by its members -/

def keysOf (known : List Known) : List String := known.map (·.key)

/-- The member can be read as it is known, or skipped if it is not. -/
def Fits (known : List Known) (key : String) (t : Tree) : Prop :=
  match known.find? fun k => k.key = key with
  | none => t.skipFault = none
  | some k => k.check t = .ok ()

structure Readable (known : List Known) (es : List (String × Tree)) : Prop where
  fits : ∀ e ∈ es, Fits known e.1 e.2
  once : ((es.map (·.1)).filter (· ∈ keysOf known)).Nodup

variable {known : List Known} {es : List (String × Tree)}

theorem find?_eq_none_iff {key : String} :
    known.find? (fun k => k.key = key) = none ↔ key ∉ keysOf known := by
  simp [keysOf, List.find?_eq_none]

theorem mem_keysOf_of_find? {key : String} {k : Known}
    (h : known.find? (fun k => k.key = key) = some k) : key ∈ keysOf known :=
  Decidable.byContradiction fun missing => by
    rw [find?_eq_none_iff.mpr missing] at h
    cases h

theorem readable_cons_of_unknown {key : String} (t : Tree)
    (what : known.find? (fun k => k.key = key) = none) :
    Readable known ((key, t) :: es) ↔ t.skipFault = none ∧ Readable known es := by
  have fits : Fits known key t ↔ t.skipFault = none := by simp only [Fits, what]
  have others : (((key, t) :: es).map (·.1)).filter (· ∈ keysOf known) =
      (es.map (·.1)).filter (· ∈ keysOf known) := by
    rw [List.map_cons, List.filter_cons_of_neg (by simpa using find?_eq_none_iff.mp what)]
  constructor
  · intro h
    exact ⟨fits.mp (h.fits _ List.mem_cons_self),
      fun e there => h.fits e (List.mem_cons_of_mem _ there), others ▸ h.once⟩
  · rintro ⟨skipped, h⟩
    refine ⟨fun e there => ?_, others ▸ h.once⟩
    rcases List.mem_cons.mp there with rfl | there
    · exact fits.mpr skipped
    · exact h.fits e there

theorem readable_cons_of_known {key : String} {k : Known} (t : Tree)
    (what : known.find? (fun k => k.key = key) = some k) :
    Readable known ((key, t) :: es) ↔
      k.check t = .ok () ∧ key ∉ es.map (·.1) ∧ Readable known es := by
  have there := mem_keysOf_of_find? what
  have fits : Fits known key t ↔ k.check t = .ok () := by simp only [Fits, what]
  have others : (((key, t) :: es).map (·.1)).filter (· ∈ keysOf known) =
      key :: (es.map (·.1)).filter (· ∈ keysOf known) := by
    rw [List.map_cons, List.filter_cons_of_pos (by simpa using there)]
  have fresh : key ∉ (es.map (·.1)).filter (· ∈ keysOf known) ↔ key ∉ es.map (·.1) := by
    simp [there]
  constructor
  · intro h
    have once := h.once
    rw [others, List.nodup_cons] at once
    exact ⟨fits.mp (h.fits _ List.mem_cons_self), fresh.mp once.1,
      fun e there => h.fits e (List.mem_cons_of_mem _ there), once.2⟩
  · rintro ⟨checked, new, h⟩
    refine ⟨fun e there => ?_, others ▸ List.nodup_cons.mpr ⟨fresh.mpr new, h.once⟩⟩
    rcases List.mem_cons.mp there with rfl | there
    · exact fits.mpr checked
    · exact h.fits e there

/-- No later member has a key that was found before, be it just before. -/
theorem fresh_cons_iff {key : String} {t : Tree} {found : List (String × Tree)}
    (there : key ∈ keysOf known) :
    (∀ e ∈ es, e.1 ∈ keysOf known → e.1 ∉ ((key, t) :: found).map (·.1)) ↔
      key ∉ es.map (·.1) ∧ ∀ e ∈ es, e.1 ∈ keysOf known → e.1 ∉ found.map (·.1) := by
  simp only [List.map_cons, List.mem_cons, not_or]
  constructor
  · intro h
    refine ⟨fun again => ?_, fun e old what => (h e old what).2⟩
    obtain ⟨e, old, rfl⟩ := List.mem_map.mp again
    exact (h e old there).1 rfl
  · rintro ⟨new, h⟩ e old what
    exact ⟨fun eq => new (eq ▸ List.mem_map_of_mem old), h e old what⟩

/-- The members that are known, the last one first, as they are gathered. -/
def seen (known : List Known) (es : List (String × Tree)) : List (String × Tree) :=
  (es.filter (·.1 ∈ keysOf known)).reverse

/-- All members are gathered just when each of them can be read or skipped and none comes twice. -/
theorem gather_eq_ok_iff (known : List Known) : ∀ (members : Members)
    {es : List (String × Tree)} (_ : members.entries? = some es) (found all : List (String × Tree)),
    (∃ stop, gather false known found members = .ok (all, stop)) ↔
      Readable known es ∧ (∀ e ∈ es, e.1 ∈ keysOf known → e.1 ∉ found.map (·.1)) ∧
        all = seen known es ++ found
  | .done _, _, entries, found, all => by
    obtain rfl := Option.some.inj entries
    constructor
    · rintro ⟨stop, gathered⟩
      obtain ⟨rfl, -⟩ := Prod.mk.inj (Except.ok.inj gathered)
      exact ⟨⟨fun e there => (List.not_mem_nil there).elim, .nil⟩,
        fun e there => (List.not_mem_nil there).elim, rfl⟩
    · rintro ⟨-, -, rfl⟩
      exact ⟨_, rfl⟩
  | .member (.error _) .., _, entries, _, _ | .broken _, _, entries, _, _ => by cases entries
  | .member (.ok key) _ t rest, _, entries, found, all => by
    obtain ⟨es, deeper, rfl⟩ := Option.map_eq_some_iff.mp entries
    rw [gather]
    cases what : known.find? fun k => k.key = key with
    | none =>
        have unknown := find?_eq_none_iff.mp what
        have ih := gather_eq_ok_iff known rest deeper found all
        have same : seen known ((key, t) :: es) = seen known es := by
          rw [seen, List.filter_cons_of_neg (by simpa using unknown)]
          rfl
        rw [readable_cons_of_unknown t what, same, List.forall_mem_cons]
        cases faulty : t.skipFault with
        | some fault => simp
        | none =>
            dsimp only
            rw [ih]
            simp [unknown]
    | some k =>
        have there := mem_keysOf_of_find? what
        have ih := gather_eq_ok_iff known rest deeper ((key, t) :: found) all
        have same : seen known ((key, t) :: es) = seen known es ++ [(key, t)] := by
          rw [seen, List.filter_cons_of_pos (by simpa using there), List.reverse_cons]
          rfl
        rw [readable_cons_of_known t what, same, List.forall_mem_cons, List.append_assoc]
        have any_iff : (found.any fun e => e.1 = key) = true ↔ key ∈ found.map (·.1) := by
          simp [List.any_eq_true]
        simp only [Bool.not_false, Bool.true_and]
        by_cases twice : key ∈ found.map (·.1)
        · rw [if_pos (any_iff.mpr twice)]
          simp [there, twice]
        · rw [if_neg (mt any_iff.mp twice)]
          cases checked : k.check t with
          | error problem => simp
          | ok u =>
              dsimp only
              rw [ih]
              rw [fresh_cons_iff there]
              constructor
              · rintro ⟨readable, ⟨new, fresh⟩, rfl⟩
                exact ⟨⟨rfl, new, readable⟩, ⟨fun _ => twice, fresh⟩, rfl⟩
              · rintro ⟨⟨-, new, readable⟩, ⟨-, fresh⟩, rfl⟩
                exact ⟨readable, ⟨new, fresh⟩, rfl⟩

theorem lookup_seen (h : Readable known es) {key : String} (there : key ∈ keysOf known) :
    (seen known es).lookup key = es.lookup key := by
  induction es with
  | nil => rfl
  | cons e es ih =>
      obtain ⟨first, t⟩ := e
      rw [List.lookup_cons]
      cases what : known.find? fun k => k.key = first with
      | none =>
          obtain ⟨-, deeper⟩ := (readable_cons_of_unknown t what).mp h
          have ne : key ≠ first := fun eq => find?_eq_none_iff.mp what (eq ▸ there)
          rw [seen, List.filter_cons_of_neg (by simpa using find?_eq_none_iff.mp what),
            beq_eq_false_iff_ne.mpr ne]
          exact ih deeper
      | some k =>
          obtain ⟨-, new, deeper⟩ := (readable_cons_of_known t what).mp h
          rw [seen, List.filter_cons_of_pos (by simpa using mem_keysOf_of_find? what),
            List.reverse_cons, List.lookup_append]
          change ((seen known es).lookup key).or _ = _
          rw [ih deeper]
          by_cases eq : key = first
          · subst eq
            rw [lookup_eq_none_of_notMem new]
            simp
          · rw [beq_eq_false_iff_ne.mpr eq]
            simp [List.lookup_cons, beq_eq_false_iff_ne.mpr eq]

theorem isSome_lookup_seen {e : String × Tree} (there : e ∈ es) (what : e.1 ∈ keysOf known) :
    ((seen known es).lookup e.1).isSome := by
  have kept : e ∈ seen known es := List.mem_reverse.mpr
    (List.mem_filter.mpr ⟨there, by simpa using what⟩)
  rw [Option.isSome_iff_ne_none]
  intro missing
  simpa using List.lookup_eq_none_iff.mp missing e kept

variable {ρ α β : Type}

/-- A record that allows no member twice is read from an object just when its members are readable
and the known ones make up a value. -/
theorem read_eq_ok_iff {record : Record ρ α} {style : Style} (single : style.repeats = false)
    {t : Tree} (holds : t.Holds es) {a : α} :
    record.read style t = .ok a ↔
      Readable record.known es ∧ record.build .keyed ((seen record.known es).lookup ·) = .ok a := by
  obtain ⟨members, start, rfl, entries⟩ := holds
  have gathered := fun all => gather_eq_ok_iff record.known members entries [] all
  have assembled (all : List (String × Tree)) (stop : Nat) :=
    record.assemble_alike style .keyed all stop
  simp only [List.map_nil, List.not_mem_nil, not_false_eq_true, implies_true, true_and,
    List.append_nil] at gathered
  simp only [read, single]
  constructor
  · intro done
    split at done
    · rename_i found stop gathers
      obtain ⟨readable, rfl⟩ := (gathered found).mp ⟨stop, gathers⟩
      exact ⟨readable, Alike.ok (assembled _ stop).symm done⟩
    · cases done
  · rintro ⟨readable, built⟩
    obtain ⟨stop, gathers⟩ := (gathered _).mpr ⟨readable, rfl⟩
    rw [gathers]
    exact (assembled _ stop).ok built

/-! ## Putting records together from other members -/

/-- What is put together from the one members can be put together from the others as well, and comes
out as the relation says. -/
def Retells (record : Record ρ α) (found found' : String → Option Tree) (R : α → α → Prop) : Prop :=
  ∀ a, record.build .keyed found = .ok a → ∃ a', record.build .keyed found' = .ok a' ∧ R a a'

section Retelling

variable {found found' : String → Option Tree} {Rx : α → α → Prop} {R : β → β → Prop}

theorem Retells.seq {f : Record ρ (α → β)} {x : Record ρ α}
    (hf : f.Retells found found' fun g g' => ∀ a a', Rx a a' → R (g a) (g' a'))
    (hx : x.Retells found found' Rx) : (f <*> x).Retells found found' R := by
  intro b built
  change (do let g ← f.build .keyed found; let a ← x.build .keyed found; return g a) = _ at built
  show ∃ b', (do let g ← f.build .keyed found'; let a ← x.build .keyed found'; return g a) = _ ∧ _
  cases one : f.build .keyed found with
  | error lack => rw [one] at built; cases built
  | ok g =>
      cases other : x.build .keyed found with
      | error lack => rw [one, other] at built; cases built
      | ok a =>
          rw [one, other] at built
          obtain rfl := Except.ok.inj built
          obtain ⟨g', again, alike⟩ := hf g one
          obtain ⟨a', too, same⟩ := hx a other
          rw [again, too]
          exact ⟨_, rfl, alike a a' same⟩

theorem Retells.map {f : α → β} {x : Record ρ α} (alike : ∀ a a', Rx a a' → R (f a) (f a'))
    (hx : x.Retells found found' Rx) : (f <$> x).Retells found found' R :=
  .seq (f := Record.nothing f) (fun _ built => ⟨f, rfl, Except.ok.inj built ▸ alike⟩) hx

end Retelling

/-- The member shows a value, or that there is none. -/
def Shows (codec : Codec α) (t : Option Tree) (o : Option α) : Prop :=
  match t with
  | none => o = none
  | some t => codec.nullable.read t = .ok o

theorem build_optional_iff {key : String} {codec : Codec α} {get : ρ → Option α}
    {found : String → Option Tree} {o : Option α} :
    (Record.optional key codec get).build .keyed found = .ok o ↔ Shows codec (found key) o := by
  simp only [optional, member, Shows]
  cases found key with
  | none => simp [eq_comm]
  | some t =>
      show (codec.nullable.read t).mapError _ = .ok o ↔ codec.nullable.read t = .ok o
      cases codec.nullable.read t with
      | ok o' => constructor <;> (intro same; cases same; rfl)
      | error problem => constructor <;> (intro same; cases same)

end Record

/-! ## Reading what has grown -/

open Record (Fits Readable keysOf seen)

theorem Record.Fits.of_outline {known : List Known} {key : String} {t t' : Tree}
    (checks : ∀ k ∈ known, ∀ t, Alike (k.check t.outline) (k.check t))
    (same : t'.outline = t.outline) (fits : Fits known key t) : Fits known key t' := by
  unfold Fits at *
  cases what : known.find? fun k => k.key = key with
  | none =>
      simp only [what] at fits ⊢
      rw [← Option.not_isSome_iff_eq_none, ← t'.skipFault_outline, same, t.skipFault_outline, fits]
      exact Bool.false_ne_true
  | some k =>
      rw [what] at fits
      have check := checks k (List.mem_of_find?_eq_some what)
      exact Alike.ok ((check t').symm.trans (same ▸ check t)) fits

/-- The codec reads by the outline, and takes neither `null` nor what is broken for a value. -/
structure Codec.Proper {α : Type} (codec : Codec α) : Prop where
  byOutline : codec.ByOutline
  null : ∀ span a, codec.read (.null span) ≠ .ok a
  broken : ∀ faults a, codec.read (.broken faults) ≠ .ok a

theorem Codec.string_proper : string.Proper :=
  ⟨string_byOutline, fun _ _ read => (by cases read), fun _ _ read => (by cases read)⟩

theorem Codec.bool_proper : bool.Proper :=
  ⟨bool_byOutline, fun _ _ read => (by cases read), fun _ _ read => (by cases read)⟩

/-- A value for a spare member is one for a member that may be missing. -/
theorem Codec.Proper.nullable_read {α : Type} {codec : Codec α} (h : codec.Proper) {key : String}
    {t : Tree} (checked : (Known.ofCodec key codec).check t = .ok ()) :
    ∃ a, codec.nullable.read t = .ok (some a) := by
  change (codec.read t).map _ = _ at checked
  cases read : codec.read t with
  | error problem => rw [read] at checked; cases checked
  | ok a =>
      refine ⟨a, ?_⟩
      cases t with
      | null span => exact absurd read (h.null span a)
      | broken faults => exact absurd read (h.broken faults a)
      | _ => exact congrArg (Except.map some) read

theorem Codec.Proper.fits {α : Type} {codec : Codec α} (h : codec.Proper) {known : List Known}
    {key : String} (what : known.find? (fun k => k.key = key) =
      some ⟨key, fun tree => (codec.nullable.read tree).map fun _ => ()⟩) (t : Tree)
    (checked : (Known.ofCodec key codec).check t = .ok ()) : Fits known key t := by
  obtain ⟨a, read⟩ := h.nullable_read checked
  rw [Fits, what]
  dsimp only
  rw [read]
  rfl

/-- A value that was there stays, and one that was not comes if a member does. -/
def Joined {α : Type} (t t' : Option Tree) (o o' : Option α) : Prop :=
  o' = o ∧ t'.isSome = t.isSome ∨ o = none ∧ o'.isSome

section Growing

variable {known spare : List Known} {new : String → Tree → Prop}
variable {into : String → Tree → Tree → Prop} {es es' : List (String × Tree)}

/-- Whatever has grown is as readable as before, if what joins is readable. -/
theorem Grown.readable (h : Grown (keysOf known) spare new into es es')
    (checks : ∀ k ∈ known, ∀ t, Alike (k.check t.outline) (k.check t))
    (spare_fits : ∀ s ∈ spare, ∀ t, s.check t = .ok () → Fits known s.key t)
    (new_fits : ∀ key t, new key t → Fits known key t)
    (into_fits : ∀ key t t', into key t t' → Fits known key t → Fits known key t')
    (readable : Readable known es) : Readable known es' where
  fits e there := by
    rcases h.grows.mem there with ⟨t, old, same | other⟩ | ⟨-, unknown | spared | fresh⟩
    · exact Fits.of_outline checks same (readable.fits _ old)
    · exact into_fits _ _ _ other (readable.fits _ old)
    · rw [Fits, Record.find?_eq_none_iff.mpr unknown.1]
      exact unknown.2
    · obtain ⟨s, spared, same, checked⟩ := spared
      exact same ▸ spare_fits s spared _ checked
    · exact new_fits _ _ fresh
  once := h.once

/-- Of the members that are read, only a spare or a new one joins. -/
theorem Grown.fate (h : Grown (keysOf known) spare new into es es') (readable : Readable known es)
    (readable' : Readable known es') {key : String} (there : key ∈ keysOf known) :
    Fate (fun key t => Spare spare key t ∨ new key t) into key ((seen known es).lookup key)
      ((seen known es').lookup key) := by
  have once : (es'.map (·.1)).count key ≤ 1 := by
    have single := List.nodup_iff_count.mp h.once key
    rwa [List.count_filter (by simpa using there)] at single
  rw [Record.lookup_seen readable there, Record.lookup_seen readable' there]
  exact (h.grows.fate once).mono fun t allowed =>
    allowed.2.elim (fun unknown => absurd there unknown.1) id

variable {ρ α : Type} {codec : Codec α} {get : ρ → Option α} {key : String}
variable {may : String → Tree → Prop} {found found' : String → Option Tree}

/-- A member that none can join or become is read as it was. -/
theorem Fate.retells_own (fate : Fate may into key (found key) (found' key)) (h : codec.ByOutline)
    (closed : ∀ t, ¬ may key t) (fixed : ∀ t t', ¬ into key t t') :
    (Record.optional key codec get).Retells found found' Eq := by
  intro o built
  refine ⟨o, Record.build_optional_iff.mpr ?_, rfl⟩
  have shows := Record.build_optional_iff.mp built
  generalize found key = t at fate shows
  generalize found' key = t' at fate ⊢
  cases fate with
  | missing => exact shows
  | kept same => exact h.nullable.read_eq same shows
  | became other => exact absurd other (fixed _ _)
  | joined allowed => exact absurd allowed (closed _)

/-- A member that can only join is read as it was, or it is new. -/
theorem Fate.retells_spare (fate : Fate may into key (found key) (found' key))
    (h : codec.ByOutline) (joins : ∀ t, may key t → ∃ a, codec.nullable.read t = .ok (some a))
    (fixed : ∀ t t', ¬ into key t t') :
    (Record.optional key codec get).Retells found found' (Joined (found key) (found' key)) := by
  intro o built
  simp only [Record.build_optional_iff] at built ⊢
  generalize found key = t at fate built
  generalize found' key = t' at fate ⊢
  cases fate with
  | missing => exact ⟨o, built, .inl ⟨rfl, rfl⟩⟩
  | kept same => exact ⟨o, h.nullable.read_eq same built, .inl ⟨rfl, rfl⟩⟩
  | became other => exact absurd other (fixed _ _)
  | joined allowed =>
      obtain ⟨a, read⟩ := joins _ allowed
      exact ⟨some a, read, .inr ⟨built, rfl⟩⟩

/-- A member that is neither spare nor new is read as it was. -/
theorem Grown.retells_own (h : Grown (keysOf known) spare new into es es')
    (readable : Readable known es) (readable' : Readable known es') (byOutline : codec.ByOutline)
    (there : key ∈ keysOf known)
    (apart : key ∉ keysOf spare) (closed : ∀ t, ¬ new key t) (fixed : ∀ t t', ¬ into key t t') :
    (Record.optional key codec get).Retells ((seen known es).lookup ·) ((seen known es').lookup ·)
      Eq :=
  (h.fate readable readable' there).retells_own byOutline
    (fun t allowed => allowed.elim
      (fun ⟨_, spared, same, _⟩ => apart (same ▸ List.mem_map_of_mem spared)) (closed t)) fixed

/-- A spare member is read as it was, or it is new. -/
theorem Grown.retells_spare (h : Grown (keysOf known) spare new into es es')
    (readable : Readable known es) (readable' : Readable known es') (proper : codec.Proper)
    (there : key ∈ keysOf known)
    (typed : ∀ s ∈ spare, s.key = key → s = Known.ofCodec key codec) (closed : ∀ t, ¬ new key t)
    (fixed : ∀ t t', ¬ into key t t') :
    (Record.optional key codec get).Retells ((seen known es).lookup ·) ((seen known es').lookup ·)
      (Joined ((seen known es).lookup key) ((seen known es').lookup key)) :=
  (h.fate readable readable' there).retells_spare proper.byOutline
    (fun t allowed => by
      rcases allowed with ⟨s, spared, same, checked⟩ | fresh
      · exact proper.nullable_read (typed s spared same ▸ checked)
      · exact absurd fresh (closed t)) fixed

/-- Members that are readable, before they were enriched and after. -/
structure Record.Reread (known spare : List Known) (es es' : List (String × Tree)) : Prop where
  enriched : Enriched (keysOf known) spare es es'
  before : Readable known es
  after : Readable known es'

theorem Record.Reread.retells_own (h : Record.Reread known spare es es')
    (byOutline : codec.ByOutline) (there : key ∈ keysOf known) (apart : key ∉ keysOf spare) :
    (Record.optional key codec get).Retells ((seen known es).lookup ·) ((seen known es').lookup ·)
      Eq :=
  h.enriched.retells_own h.before h.after byOutline there apart (fun _ => id) fun _ _ => id

theorem Record.Reread.retells_spare (h : Record.Reread known spare es es') (proper : codec.Proper)
    (there : key ∈ keysOf known) (typed : ∀ s ∈ spare, s.key = key → s = Known.ofCodec key codec) :
    (Record.optional key codec get).Retells ((seen known es).lookup ·) ((seen known es').lookup ·)
      (Joined ((seen known es).lookup key) ((seen known es').lookup key)) :=
  h.enriched.retells_spare h.before h.after proper there typed (fun _ => id) fun _ _ => id

/-- A record is read from an object that was enriched as its members say. -/
theorem Record.ByOutline.read_enriched {record : Record ρ α} (h : record.ByOutline)
    (style : Record.Style) (single : style.repeats = false) {t t' : Tree} (holds : t.Holds es)
    (holds' : t'.Holds es') (enriched : Enriched (keysOf record.known) spare es es')
    (spare_fits : ∀ s ∈ spare, ∀ t, s.check t = .ok () → Fits record.known s.key t)
    {R : α → α → Prop} (retells : Record.Reread record.known spare es es' →
      record.Retells ((seen record.known es).lookup ·) ((seen record.known es').lookup ·) R)
    {a : α} (read : record.read style t = .ok a) :
    ∃ a', record.read style t' = .ok a' ∧ R a a' := by
  obtain ⟨before, built⟩ := (Record.read_eq_ok_iff single holds).mp read
  have after := enriched.readable h.checks spare_fits (fun _ _ => False.elim)
    (fun _ _ _ => False.elim) before
  obtain ⟨a', again, same⟩ := retells ⟨enriched, before, after⟩ a built
  exact ⟨a', (Record.read_eq_ok_iff single holds').mpr ⟨after, again⟩, same⟩

end Growing

/-! ## Texts of objects that grow -/

open Record (outlined)

/-- The members of an object as they are in its tree. -/
def entriesOf (members : List (String × Value)) : List (String × Tree) :=
  members.map fun m => (m.1, .ofValue m.2)

theorem Members.entries?_ofPairs (members : List (String × Value)) :
    (Members.ofPairs members).entries? = some (entriesOf members) := by
  induction members with
  | nil => rfl
  | cons m rest ih =>
      rw [ofPairs, entries?, ih]
      rfl

theorem Members.entries?_outline : ∀ members : Members,
    members.outline.entries? = members.entries?.map outlined
  | .done _ | .broken _ | .member (.error _) .. => rfl
  | .member (.ok key) _ value rest => by
    rw [outline, entries?, entries?, entries?_outline rest]
    cases rest.entries? <;> rfl

theorem Tree.holds_of_outline {t : Tree} {members : List (String × Value)}
    (same : t.outline = (Tree.ofValue (.object members)).outline) :
    ∃ es, t.Holds es ∧ outlined es = outlined (entriesOf members) := by
  cases t with
  | object ms start =>
      have inner : ms.outline = (Members.ofPairs members).outline := (Tree.object.inj same).1
      have entries := congrArg Members.entries? inner
      rw [Members.entries?_outline, Members.entries?_outline, Members.entries?_ofPairs] at entries
      obtain ⟨es, found, alike⟩ := Option.map_eq_some_iff.mp entries
      exact ⟨es, ⟨ms, start, rfl, found⟩, alike⟩
  | string s => cases s <;> cases same
  | _ => cases same

theorem map_fst_of_outlined_eq {es fs : List (String × Tree)} (same : outlined fs = outlined es) :
    fs.map (·.1) = es.map (·.1) := by
  have keys := congrArg (List.map Prod.fst) same
  simpa only [outlined, List.map_map, Function.comp_def] using keys

theorem Grows.of_outlined {may may' : String → Tree → Prop} {es es' fs fs' : List (String × Tree)}
    (h : Grows may (fun _ _ _ => False) es es') (same : outlined fs = outlined es)
    (same' : outlined fs' = outlined es')
    (allow : ∀ key t t', t'.outline = t.outline → may key t → may' key t') :
    Grows may' (fun _ _ _ => False) fs fs' := by
  induction h generalizing fs fs' with
  | done =>
      obtain rfl := List.map_eq_nil_iff.mp same
      obtain rfl := List.map_eq_nil_iff.mp same'
      exact .done
  | keep kept _ ih =>
      obtain ⟨⟨key, t⟩, fs, rfl, head, tail⟩ := List.map_eq_cons_iff.mp same
      obtain ⟨⟨key', t'⟩, fs', rfl, head', tail'⟩ := List.map_eq_cons_iff.mp same'
      obtain ⟨rfl, old⟩ := Prod.mk.inj head
      obtain ⟨rfl, new⟩ := Prod.mk.inj head'
      exact .keep (new.trans (kept.trans old.symm)) (ih tail tail')
  | become never => exact never.elim
  | join allowed _ ih =>
      obtain ⟨⟨key', t'⟩, fs', rfl, head', tail'⟩ := List.map_eq_cons_iff.mp same'
      obtain ⟨rfl, new⟩ := Prod.mk.inj head'
      exact .join (allow _ _ _ new allowed) (ih same tail')

theorem Enriched.of_outlined {known : List String} {spare : List Known}
    {es es' fs fs' : List (String × Tree)}
    (checks : ∀ s ∈ spare, ∀ t, Alike (s.check t.outline) (s.check t))
    (h : Enriched known spare es es') (same : outlined fs = outlined es)
    (same' : outlined fs' = outlined es') : Enriched known spare fs fs' where
  grows := h.grows.of_outlined same same' fun key t t' alike => by
    rintro ⟨fresh, unknown | ⟨s, spared, named, checked⟩ | never⟩
    · refine ⟨map_fst_of_outlined_eq same ▸ fresh, .inl ⟨unknown.1, ?_⟩⟩
      rw [← Option.not_isSome_iff_eq_none, ← t'.skipFault_outline, alike, t.skipFault_outline,
        unknown.2]
      exact Bool.false_ne_true
    · exact ⟨map_fst_of_outlined_eq same ▸ fresh, .inr (.inl ⟨s, spared, named,
        Alike.ok ((checks s spared t').symm.trans (alike ▸ checks s spared t)) checked⟩)⟩
    · exact never.elim
  once := map_fst_of_outlined_eq same' ▸ h.once

/-- When an object is enriched, so is what is read from its text. -/
theorem Enriched.texts {known : List String} {spare : List Known}
    {members members' : List (String × Value)}
    (checks : ∀ s ∈ spare, ∀ t, Alike (s.check t.outline) (s.check t))
    (h : Enriched known spare (entriesOf members) (entriesOf members')) :
    ∃ es es', (Document.ofBytes (Text.bytes (Value.object members).text)).tree.Holds es ∧
      (Document.ofBytes (Text.bytes (Value.object members').text)).tree.Holds es' ∧
      (Document.ofBytes (Text.bytes (Value.object members').text)).trailing = none ∧
      Enriched known spare es es' := by
  obtain ⟨es, holds, same⟩ :=
    Tree.holds_of_outline (Document.ofBytes_text (.object members)).1
  obtain ⟨es', holds', same'⟩ :=
    Tree.holds_of_outline (Document.ofBytes_text (.object members')).1
  exact ⟨es, es', holds, holds', (Document.ofBytes_text _).2, h.of_outlined checks same same'⟩

end Json
end CloudReconcile
