import CloudReconcile.Field
import CloudReconcile.Json.Outline

/-!
# Reading by the outline

A codec that asks for no numbers reads the same from two trees of one outline.  Codecs of that kind
are put together from smaller ones the way records are.
-/

namespace CloudReconcile
namespace Json

/-- Two readings have the same result, or both fail. -/
def Alike {ε ε' α : Type} (x : Except ε α) (y : Except ε' α) : Prop := x.toOption = y.toOption

namespace Alike

variable {ε ε' α β : Type} {x : Except ε α} {y : Except ε' α}

theorem refl (x : Except ε α) : Alike x x := rfl

theorem failed (e : ε) (e' : ε') : Alike (.error e : Except ε α) (.error e' : Except ε' α) := rfl

theorem map (h : Alike x y) (f : α → β) : Alike (x.map f) (y.map f) := by
  cases x <;> cases y <;> simp_all [Alike, Except.toOption, Except.map]

theorem bind (h : Alike x y) {f : α → Except ε β} {g : α → Except ε' β}
    (next : ∀ a, Alike (f a) (g a)) : Alike (x >>= f) (y >>= g) := by
  cases x <;> cases y <;>
    simp_all [Alike, Except.toOption, Bind.bind, Except.bind]

theorem ok {a : α} (h : Alike x y) (read : y = .ok a) : x = .ok a := by
  cases x <;> simp_all [Alike, Except.toOption]

end Alike

/-- What is read depends on the outline only. -/
def Codec.ByOutline {α : Type} (codec : Codec α) : Prop :=
  ∀ t, Alike (codec.read t.outline) (codec.read t)

namespace Codec

variable {α : Type} {codec : Codec α}

theorem ByOutline.read_eq (h : codec.ByOutline) {t t' : Tree} (same : t'.outline = t.outline)
    {a : α} (read : codec.read t = .ok a) : codec.read t' = .ok a :=
  Alike.ok ((h t').symm.trans (same ▸ h t)) read

theorem words_byOutline (expected : String) : (words expected).ByOutline
  | .string (.ok _) _ | .string (.error _) _ | .null _ | .bool .. | .number .. | .array .. |
    .object .. | .broken _ => rfl

theorem string_byOutline : string.ByOutline := words_byOutline _

theorem bool_byOutline : bool.ByOutline
  | .bool .. => rfl
  | .null _ | .number .. | .string (.ok _) _ | .string (.error _) _ | .array .. | .object .. |
    .broken _ => rfl

theorem unit_byOutline : unit.ByOutline
  | .null _ => rfl
  | .bool .. | .number .. | .string (.ok _) _ | .string (.error _) _ | .array .. | .object .. |
    .broken _ => rfl

/-- Whatever is wrong, it is the same to a codec that reads by the outline. -/
theorem ByOutline.broken (h : codec.ByOutline) (faults faults' : Faults) :
    Alike (codec.read (.broken faults)) (codec.read (.broken faults')) :=
  (h (.broken faults)).symm.trans (h (.broken faults'))

theorem ByOutline.nullable (h : codec.ByOutline) : codec.nullable.ByOutline
  | .null _ => rfl
  | .broken _ => (h.broken _ _).map some
  | .bool b span => (h (.bool b span)).map some
  | .number n span => (h (.number n span)).map some
  | .string (.ok s) span => (h (.string (.ok s) span)).map some
  | .string (.error e) span => (h (.string (.error e) span)).map some
  | .array items start => (h (.array items start)).map some
  | .object members start => (h (.object members start)).map some

theorem named?_alike (names : List (String × α)) (name : String) (offset offset' : Nat) :
    Alike (named? names name offset) (named? names name offset') := by
  unfold named?
  cases names.lookup name <;> rfl

theorem choice_byOutline (names : List (String × α)) (name : α → String) :
    (choice names name).ByOutline
  | .string (.ok s) _ => named?_alike names s _ _
  | .string (.error _) _ => rfl
  | .object members _ => by
    cases members with
    | done stop => rfl
    | broken faults => rfl
    | member key places value rest =>
      cases key with
      | error fault => rfl
      | ok key =>
        refine (named?_alike names key _ _).bind fun a => (unit_byOutline value).bind fun _ => ?_
        cases rest with
        | done stop => rfl
        | broken faults => rfl
        | member key places value rest => cases key <;> rfl
  | .broken _ | .null _ | .bool .. | .number .. | .array .. => rfl

theorem readItems_outline (h : codec.ByOutline) : ∀ items : Items,
    Alike (readItems codec.read items.outline) (readItems codec.read items)
  | .done _ | .broken _ => rfl
  | .item _ tree rest => (h tree).bind fun _ => (readItems_outline h rest).bind fun _ => rfl

theorem ByOutline.list (h : codec.ByOutline) : codec.list.ByOutline
  | .array items _ => readItems_outline h items
  | .null _ | .bool .. | .number .. | .string (.ok _) _ | .string (.error _) _ | .object .. |
    .broken _ => rfl

theorem readEntries_outline : ∀ (entries : List (String × String)) (members : Members),
    Alike (readEntries entries members.outline) (readEntries entries members)
  | _, .done _ | _, .broken _ | _, .member (.error _) .. => rfl
  | entries, .member (.ok key) _ tree rest => by
    have same := string_byOutline tree
    rw [Members.outline, readEntries, readEntries]
    cases read : string.read tree with
    | ok value =>
      rw [same.ok read]
      exact readEntries_outline _ rest
    | error problem =>
      rw [read] at same
      cases again : string.read tree.outline with
      | ok value => rw [again] at same; cases same
      | error problem => rfl

theorem stringMap_byOutline : stringMap.ByOutline
  | .object members _ => readEntries_outline [] members
  | .null _ | .bool .. | .number .. | .string (.ok _) _ | .string (.error _) _ | .array .. |
    .broken _ => rfl

end Codec

/-! ## What is skipped -/

mutual

theorem Tree.skipFault_outline : ∀ t : Tree, t.outline.skipFault.isSome = t.skipFault.isSome
  | .null _ | .bool .. | .number .. | .string (.ok _) _ | .string (.error _) _ | .broken _ => rfl
  | .array items _ => Items.skipFault_outline items
  | .object members _ => Members.skipFault_outline members

theorem Items.skipFault_outline : ∀ items : Items,
    items.outline.skipFault.isSome = items.skipFault.isSome
  | .done _ | .broken _ => rfl
  | .item _ value rest => by
    have value := Tree.skipFault_outline value
    have rest := Items.skipFault_outline rest
    simp_all [Items.outline, Items.skipFault]

theorem Members.skipFault_outline : ∀ members : Members,
    members.outline.skipFault.isSome = members.skipFault.isSome
  | .done _ | .broken _ => rfl
  | .member key _ value rest => by
    have value := Tree.skipFault_outline value
    have rest := Members.skipFault_outline rest
    cases key <;> simp_all [Members.outline, Members.skipFault]

end

/-! ## Records -/

namespace Record

variable {ρ α β : Type}

def outlined (found : List (String × Tree)) : List (String × Tree) :=
  found.map fun e => (e.1, e.2.outline)

/-- The record checks its members and is put together from them by their outlines. -/
structure ByOutline (record : Record ρ α) : Prop where
  checks : ∀ k ∈ record.known, ∀ t, Alike (k.check t.outline) (k.check t)
  builds : ∀ form found, Alike (record.build form fun key => (found key).map Tree.outline)
    (record.build form found)

namespace ByOutline

theorem pure (a : α) : (Record.nothing (ρ := ρ) a).ByOutline :=
  ⟨fun _ h => (List.not_mem_nil h).elim, fun _ _ => rfl⟩

theorem both {f : Record ρ (α → β)} {x : Record ρ α} (hf : f.ByOutline) (hx : x.ByOutline) :
    (Record.both f x).ByOutline where
  checks k there := (List.mem_append.mp there).elim (hf.checks k) (hx.checks k)
  builds form found :=
    (hf.builds form found).bind fun _ => (hx.builds form found).bind fun _ => rfl

theorem seq {f : Record ρ (α → β)} {x : Record ρ α} (hf : f.ByOutline) (hx : x.ByOutline) :
    (f <*> x).ByOutline := hf.both hx

theorem map {f : α → β} {x : Record ρ α} (hx : x.ByOutline) : (f <$> x).ByOutline :=
  (pure f).both hx

theorem member {key : String} {read : Tree → Except Problem α} {absent : Form → Option α}
    {write : ρ → Option Value} (h : ∀ t, Alike (read t.outline) (read t)) :
    (Record.member key read absent write).ByOutline where
  checks k there t := by
    obtain rfl := List.mem_singleton.mp there
    exact (h t).map _
  builds form found := by
    simp only [Record.member]
    cases found key with
    | none => rfl
    | some t =>
        have same := h t
        simp only [Option.map_some]
        show (Except.mapError _ (read t.outline)).toOption = (Except.mapError _ (read t)).toOption
        cases here : read t with
        | ok a => rw [same.ok here]
        | error problem =>
            cases there : read t.outline with
            | ok a => rw [here, there] at same; cases same
            | error problem => rfl

theorem required {key : String} {codec : Codec α} {get : ρ → α} (h : codec.ByOutline) :
    (Record.required key codec get).ByOutline := member h

theorem optional {key : String} {codec : Codec α} {get : ρ → Option α} (h : codec.ByOutline) :
    (Record.optional key codec get).ByOutline := member h.nullable

theorem placed {key : String} {codec : Codec α} {get : ρ → Option α} (h : codec.ByOutline) :
    (Record.placed key codec get).ByOutline := member h.nullable

theorem defaulted {key : String} {codec : Codec α} {value : α} {get : ρ → α}
    (h : codec.ByOutline) : (Record.defaulted key codec value get).ByOutline := member h

theorem listed {key : String} {codec : Codec α} {get : ρ → List α} (h : codec.ByOutline) :
    (Record.listed key codec get).ByOutline := member h.list

theorem field {key : String} {codec : Codec α} {get : ρ → Field α} (h : codec.ByOutline) :
    (Field.member key codec get).ByOutline :=
  member fun t => (h.nullable t).bind fun wish => by cases wish <;> rfl

end ByOutline

theorem lookup_outlined (found : List (String × Tree)) (key : String) :
    (outlined found).lookup key = (found.lookup key).map Tree.outline := by
  induction found with
  | nil => rfl
  | cons e found ih =>
      rw [outlined, List.map_cons, List.lookup_cons, List.lookup_cons]
      split
      · rfl
      · exact ih

theorem assemble_alike (record : Record ρ α) (style : Style) (form : Form)
    (found : List (String × Tree)) (stop : Nat) :
    Alike (record.assemble style form found stop) (record.build form (found.lookup ·)) := by
  unfold assemble
  split
  · rename_i built
    rw [built]
    exact .refl _
  · rename_i built
    rw [built]
    exact .failed _ _
  · rename_i built
    rw [built]
    cases form <;> exact .failed _ _

theorem any_outlined (found : List (String × Tree)) (key : String) :
    ((outlined found).any fun e => e.1 = key) = found.any fun e => e.1 = key := by
  rw [outlined, List.any_map]
  rfl

variable {known : List Known}

theorem gather_outline (checks : ∀ k ∈ known, ∀ t, Alike (k.check t.outline) (k.check t))
    (repeats : Bool) : ∀ (members : Members) (found : List (String × Tree)),
    (gather repeats known (outlined found) members.outline).toOption =
      (gather repeats known found members).toOption.map fun all => (outlined all.1, 0)
  | .done _, _ | .broken _, _ | .member (.error _) .., _ => rfl
  | .member (.ok key) _ tree rest, found => by
    rw [Members.outline, gather, gather]
    cases what : known.find? fun k => k.key = key with
    | none =>
        have same := tree.skipFault_outline
        cases here : tree.skipFault with
        | some fault =>
            obtain ⟨there, eq⟩ := Option.isSome_iff_exists.mp (same.trans (by rw [here]; rfl))
            rw [eq]
            rfl
        | none =>
            rw [here, Option.isSome_none, Option.isSome_eq_false_iff, Option.isNone_iff_eq_none]
              at same
            rw [same]
            exact gather_outline checks repeats rest found
    | some k =>
        have same := checks k (List.mem_of_find?_eq_some what) tree
        dsimp only
        rw [any_outlined]
        split
        · rfl
        · cases here : k.check tree with
          | ok u =>
              rw [same.ok here]
              exact gather_outline checks repeats rest ((key, tree) :: found)
          | error problem =>
              cases there : k.check tree.outline with
              | ok u => rw [here, there] at same; cases same
              | error problem => rfl

theorem gatherItems_outline : ∀ (known : List Known)
    (_ : ∀ k ∈ known, ∀ t, Alike (k.check t.outline) (k.check t)) (items : Items)
    (found : List (String × Tree)),
    (gatherItems (outlined found) known items.outline).toOption =
      (gatherItems found known items).toOption.map fun all => (outlined all.1, 0)
  | [], _, .done _, _ | [], _, .item .., _ | [], _, .broken _, _ => rfl
  | _ :: _, _, .done _, _ | _ :: _, _, .broken _, _ => rfl
  | k :: more, checks, .item _ tree rest, found => by
    have same := checks k List.mem_cons_self tree
    rw [Items.outline, gatherItems, gatherItems]
    cases here : k.check tree with
    | ok u =>
        rw [same.ok here]
        exact gatherItems_outline more (fun k there => checks k (List.mem_cons_of_mem _ there)) rest
          ((k.key, tree) :: found)
    | error problem =>
        cases there : k.check tree.outline with
        | ok u => rw [here, there] at same; cases same
        | error problem => rfl

theorem ByOutline.assemble {record : Record ρ α} (h : record.ByOutline) (style : Style)
    (form : Form) (found : List (String × Tree)) (stop stop' : Nat) :
    Alike (record.assemble style form (outlined found) stop)
      (record.assemble style form found stop') := by
  have built : Alike (record.build form ((outlined found).lookup ·))
      (record.build form (found.lookup ·)) := by
    simp only [lookup_outlined]
    exact h.builds form (found.lookup ·)
  exact ((assemble_alike ..).trans built).trans (assemble_alike ..).symm

/-- What is gathered decides what is read. -/
theorem ByOutline.gathered {record : Record ρ α} (h : record.ByOutline) (style : Style)
    (form : Form) {one other : Except Problem (List (String × Tree) × Nat)}
    (same : one.toOption = other.toOption.map fun all => (outlined all.1, 0)) :
    Alike
      (match one with
        | .ok (found, stop) => record.assemble style form found stop
        | .error problem => .error problem)
      (match other with
        | .ok (found, stop) => record.assemble style form found stop
        | .error problem => .error problem) := by
  cases one with
  | error problem =>
      cases other with
      | error problem => rfl
      | ok all => cases same
  | ok all =>
      cases other with
      | error problem => cases same
      | ok all =>
          cases same
          exact h.assemble style form _ _ _

theorem ByOutline.codec {record : Record α α} (h : record.ByOutline) (style : Style) :
    (record.codec style).ByOutline
  | .object members _ => h.gathered style .keyed (gather_outline h.checks style.repeats members [])
  | .array items start => by
    show Alike (record.read style (.array items.outline 0)) (record.read style (.array items start))
    by_cases positional : style.positional = true
    · simp only [read, positional, if_true]
      exact h.gathered style .positional (gatherItems_outline record.known h.checks items [])
    · simp only [read, positional]
      exact .failed _ _
  | .null _ | .bool .. | .number .. | .string (.ok _) _ | .string (.error _) _ | .broken _ => rfl

end Record

end Json
end CloudReconcile
