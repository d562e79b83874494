import CloudReconcile.Json.Document
import CloudReconcile.Json.Outline
import CloudReconcile.Proofs.Json.Numerals
import CloudReconcile.Proofs.Json.Strings

/-!
# Reading texts that were written

The text of a value is read as a tree with the outline of the value, and nothing is left of it.
-/

namespace CloudReconcile
namespace Json

open Text.Utf8 (encode encodeChar)

namespace Reader

/-! ## What the reader does at one byte -/

variable {b : UInt8} {rest : List UInt8}

theorem skipSpace_eq (solid : Cursor.isSpace b = false) (offset : Nat) :
    Cursor.skipSpace ⟨offset, b :: rest⟩ = ⟨offset, b :: rest⟩ := by
  simp [Cursor.skipSpace, Cursor.dropWhile, Cursor.drop, solid]

theorem value_scalar (fuel offset : Nat) (solid : Cursor.isSpace b = false) (array : b ≠ 0x5b)
    (object : b ≠ 0x7b) :
    value (fuel + 1) ⟨offset, b :: rest⟩ = scalar ⟨offset, b :: rest⟩ b := by
  rw [value]
  simp only [skipSpace_eq solid, Cursor.peek?, List.head?_cons, array, object, if_false]

theorem value_array (fuel offset : Nat) :
    value (fuel + 1) ⟨offset, 0x5b :: rest⟩ =
      (.array (items fuel true ⟨offset + 1, rest⟩).1 offset,
        (items fuel true ⟨offset + 1, rest⟩).2) := by
  rw [value]
  rfl

theorem value_object (fuel offset : Nat) :
    value (fuel + 1) ⟨offset, 0x7b :: rest⟩ =
      (.object (members fuel true ⟨offset + 1, rest⟩).1 offset,
        (members fuel true ⟨offset + 1, rest⟩).2) := by
  rw [value]
  rfl

theorem items_close (fuel offset : Nat) (first : Bool) :
    items (fuel + 1) first ⟨offset, 0x5d :: rest⟩ =
      (.done (offset + 1), some ⟨offset + 1, rest⟩) := by
  rw [items]
  rfl

theorem items_first (fuel offset : Nat) (solid : Cursor.isSpace b = false) (other : b ≠ 0x5d) :
    items (fuel + 1) true ⟨offset, b :: rest⟩ = item fuel ⟨offset, b :: rest⟩ := by
  rw [items]
  simp only [skipSpace_eq solid, Cursor.peek?, List.head?_cons, other, if_false, if_true]

theorem items_comma (fuel offset : Nat) (solid : Cursor.isSpace b = false) (other : b ≠ 0x5d) :
    items (fuel + 1) false ⟨offset, 0x2c :: b :: rest⟩ = item fuel ⟨offset + 1, b :: rest⟩ := by
  rw [items]
  have comma : Cursor.skipSpace ⟨offset, 0x2c :: b :: rest⟩ = ⟨offset, 0x2c :: b :: rest⟩ :=
    skipSpace_eq rfl offset
  simp only [comma, Cursor.peek?, Cursor.drop, List.head?_cons, List.drop_succ_cons, List.drop_zero,
    skipSpace_eq solid]
  simp [other]

theorem members_close (fuel offset : Nat) (first : Bool) :
    members (fuel + 1) first ⟨offset, 0x7d :: rest⟩ =
      (.done (offset + 1), some ⟨offset + 1, rest⟩) := by
  rw [members]
  rfl

theorem members_first (fuel offset : Nat) :
    members (fuel + 1) true ⟨offset, quote :: rest⟩ = member fuel ⟨offset, quote :: rest⟩ := by
  rw [members]
  rfl

theorem members_comma (fuel offset : Nat) :
    members (fuel + 1) false ⟨offset, 0x2c :: quote :: rest⟩ =
      member fuel ⟨offset + 1, quote :: rest⟩ := by
  rw [members]
  rfl

theorem item_eq {fuel : Nat} {c after : Cursor} {tree : Tree}
    (read : value fuel c = (tree, some after)) :
    item (fuel + 1) c =
      (.item c.offset tree (items fuel false after).1, (items fuel false after).2) := by
  rw [item, read]

theorem member_eq {fuel offset stop : Nat} {bytes behind : List UInt8} {key : String}
    {after : Cursor} {tree : Tree}
    (named : string ⟨offset + 1, bytes⟩ = .ok (.ok key, ⟨stop, 0x3a :: behind⟩))
    (read : value fuel ⟨stop + 1, behind⟩ = (tree, some after)) :
    ∃ places, member (fuel + 1) ⟨offset, quote :: bytes⟩ =
      (.member (.ok key) places tree (members fuel false after).1,
        (members fuel false after).2) := by
  have colon : Cursor.skipSpace ⟨stop, 0x3a :: behind⟩ = ⟨stop, 0x3a :: behind⟩ :=
    skipSpace_eq rfl stop
  refine ⟨⟨stop, stop, after.skipSpace.offset⟩, ?_⟩
  rw [member]
  simp only [Cursor.peek?, Cursor.drop, List.head?_cons, List.drop_succ_cons, List.drop_zero,
    if_true, named, colon, read]
  rfl

/-! ## Single values -/

theorem scalar_null (offset : Nat) :
    scalar ⟨offset, encode ['n', 'u', 'l', 'l'] ++ rest⟩ 0x6e =
      (.null ⟨offset, offset + 4⟩, some ⟨offset + 4, rest⟩) := rfl

theorem scalar_true (offset : Nat) :
    scalar ⟨offset, encode ['t', 'r', 'u', 'e'] ++ rest⟩ 0x74 =
      (.bool true ⟨offset, offset + 4⟩, some ⟨offset + 4, rest⟩) := rfl

theorem scalar_false (offset : Nat) :
    scalar ⟨offset, encode ['f', 'a', 'l', 's', 'e'] ++ rest⟩ 0x66 =
      (.bool false ⟨offset, offset + 5⟩, some ⟨offset + 5, rest⟩) := rfl

theorem encode_string (s : String) (rest : List UInt8) :
    encode (Writer.string s) ++ rest =
      quote :: (encode (s.toList.flatMap Writer.escape) ++ quote :: rest) := by
  have closing : encode ['"'] = [quote] := by decide
  show quote :: (encode (s.toList.flatMap Writer.escape ++ ['"']) ++ rest) = _
  rw [encode_append, closing, List.append_assoc]
  rfl

theorem scalar_string (s : String) (offset : Nat) (rest : List UInt8) :
    ∃ span stop, scalar ⟨offset, encode (Writer.string s) ++ rest⟩ quote =
      (.string (.ok s) span, some ⟨stop, rest⟩) := by
  obtain ⟨stop, read⟩ := string_text s (offset + 1) rest
  refine ⟨⟨offset, stop⟩, stop, ?_⟩
  rw [encode_string]
  simp only [scalar, Cursor.drop, List.drop_succ_cons, List.drop_zero, read]
  rfl

/-- A number begins with a minus or with a digit. -/
theorem IsNumeral.first {bs : List UInt8} (h : IsNumeral bs) :
    ∃ b ds, bs = b :: ds ∧ (b = 0x2d ∨ isDigit b = true) := by
  obtain ⟨sign, whole, fraction, exponent, rfl, rfl | rfl, isWhole, -⟩ := h
  · rcases isWhole with rfl | ⟨b, ds, rfl, -, all⟩
    · exact ⟨_, _, rfl, .inr rfl⟩
    · exact ⟨_, _, rfl, .inr (all b List.mem_cons_self)⟩
  · exact ⟨_, _, rfl, .inl rfl⟩

/-- No digit and no minus is this byte. -/
theorem ne_of_numeric {b c : UInt8} (numeric : b = 0x2d ∨ isDigit b = true)
    (other : c ≠ 0x2d ∧ isDigit c = false) : b ≠ c := by
  rintro rfl
  rcases numeric with minus | digit
  · exact other.1 minus
  · exact absurd (other.2.symm.trans digit) (by decide)

theorem scalar_number {ds : List UInt8} (h : IsNumeral (b :: ds)) (ends : EndsNumber rest)
    (numeric : b = 0x2d ∨ isDigit b = true) (offset : Nat) :
    ∃ n span stop,
      scalar ⟨offset, b :: (ds ++ rest)⟩ b = (.number n span, some ⟨stop, rest⟩) := by
  obtain ⟨n, stop, read⟩ := numeral_eq h ends offset
  rw [List.cons_append] at read
  have digit : (b = 0x2d || isDigit b) = true := by simpa using numeric
  simp only [scalar, ne_of_numeric numeric (c := 0x6e) (by decide),
    ne_of_numeric numeric (c := 0x74) (by decide), ne_of_numeric numeric (c := 0x66) (by decide),
    ne_of_numeric numeric (c := quote) (by decide), if_false, digit, if_true, read]
  exact ⟨_, _, _, rfl⟩

/-! ## Whole values -/

/-- A value, or what comes behind an item or a member, does not begin with space, and no item begins
as an array ends. -/
theorem value_begins (v : Value) (rest : List UInt8) :
    ∃ b bs, encode (Writer.value v) ++ rest = b :: bs ∧ Cursor.isSpace b = false ∧ b ≠ 0x5d := by
  cases v with
  | null => exact ⟨_, _, rfl, rfl, by decide⟩
  | bool b => cases b <;> exact ⟨_, _, rfl, rfl, by decide⟩
  | string s => exact ⟨_, _, encode_string s rest, rfl, by decide⟩
  | array items => cases items <;> exact ⟨_, _, rfl, rfl, by decide⟩
  | object members => cases members <;> exact ⟨_, _, rfl, rfl, by decide⟩
  | number n =>
      obtain ⟨b, ds, begins, numeric⟩ := (isNumeral_number n).first
      refine ⟨b, ds ++ rest, congrArg (· ++ rest) begins, ?_,
        ne_of_numeric numeric (by decide)⟩
      simp [Cursor.isSpace, ne_of_numeric numeric (c := 0x20) (by decide),
        ne_of_numeric numeric (c := 0x09) (by decide),
        ne_of_numeric numeric (c := 0x0a) (by decide),
        ne_of_numeric numeric (c := 0x0d) (by decide)]

theorem endsNumber_cons (ends : isDigit b = false ∧ b ≠ 0x2e ∧ b ≠ 0x65 ∧ b ≠ 0x45) :
    EndsNumber (b :: rest) := fun _ there => Option.some.inj there ▸ ends

theorem endsNumber_items (vs : List Value) (rest : List UInt8) :
    EndsNumber (encode (Writer.items vs) ++ rest) := by
  cases vs <;> exact endsNumber_cons (by decide)

theorem endsNumber_members (ms : List (String × Value)) (rest : List UInt8) :
    EndsNumber (encode (Writer.members ms) ++ rest) := by
  rcases ms with _ | ⟨⟨key, v⟩, ms⟩ <;> exact endsNumber_cons (by decide)

/-- Something of this outline is read, and this is left of the text. -/
def ReadsAs {α : Type} (outline : α → α) (parsed : Parsed α) (a : α) (rest : List UInt8) : Prop :=
  ∃ a' stop, parsed = (a', some ⟨stop, rest⟩) ∧ outline a' = outline a

theorem item_joined {fuel offset : Nat} {bytes behind rest : List UInt8} {t : Tree} {is : Items}
    (value : ReadsAs Tree.outline (value fuel ⟨offset, bytes⟩) t behind)
    (items : ∀ offset, ReadsAs Items.outline (items fuel false ⟨offset, behind⟩) is rest) :
    ReadsAs Items.outline (item (fuel + 1) ⟨offset, bytes⟩) (.item 0 t is) rest := by
  obtain ⟨t', middle, read, same⟩ := value
  obtain ⟨is', stop, more, alike⟩ := items middle
  refine ⟨.item offset t' is', stop, ?_, ?_⟩
  · rw [item_eq read, more]
  · rw [Items.outline, Items.outline, same, alike]

theorem member_joined {fuel offset : Nat} {key : String} {bytes behind rest : List UInt8} {t : Tree}
    {ms : Members}
    (value : ∀ offset, ReadsAs Tree.outline (value fuel ⟨offset, bytes⟩) t behind)
    (members : ∀ offset, ReadsAs Members.outline (members fuel false ⟨offset, behind⟩) ms rest) :
    ReadsAs Members.outline
      (member (fuel + 1) ⟨offset, encode (Writer.string key) ++ 0x3a :: bytes⟩)
      (.member (.ok key) .none t ms) rest := by
  obtain ⟨colon, named⟩ := string_text key (offset + 1) (0x3a :: bytes)
  obtain ⟨t', middle, read, same⟩ := value (colon + 1)
  obtain ⟨ms', stop, more, alike⟩ := members middle
  obtain ⟨places, done⟩ := member_eq named read
  refine ⟨.member (.ok key) places t' ms', stop, ?_, ?_⟩
  · rw [encode_string, done, more]
  · rw [Members.outline, Members.outline, same, alike]

theorem array_joined {fuel offset : Nat} {bytes rest : List UInt8} {is : Items}
    (items : ReadsAs Items.outline (items fuel true ⟨offset + 1, bytes⟩) is rest) :
    ReadsAs Tree.outline (value (fuel + 1) ⟨offset, 0x5b :: bytes⟩) (.array is 0) rest := by
  obtain ⟨is', stop, read, same⟩ := items
  refine ⟨.array is' offset, stop, ?_, ?_⟩
  · rw [value_array, read]
  · rw [Tree.outline, Tree.outline, same]

theorem object_joined {fuel offset : Nat} {bytes rest : List UInt8} {ms : Members}
    (members : ReadsAs Members.outline (members fuel true ⟨offset + 1, bytes⟩) ms rest) :
    ReadsAs Tree.outline (value (fuel + 1) ⟨offset, 0x7b :: bytes⟩) (.object ms 0) rest := by
  obtain ⟨ms', stop, read, same⟩ := members
  refine ⟨.object ms' offset, stop, ?_, ?_⟩
  · rw [value_object, read]
  · rw [Tree.outline, Tree.outline, same]

theorem length_value_pos (v : Value) : 0 < (Writer.value v).length := by
  refine List.length_pos_iff.mpr fun empty => ?_
  obtain ⟨b, bs, begins, -⟩ := value_begins v []
  rw [empty] at begins
  cases begins

/-- The bytes of two texts, one behind the other. -/
theorem encode_behind (s t : List Char) (rest : List UInt8) :
    encode (s ++ t) ++ rest = encode s ++ (encode t ++ rest) := by
  rw [encode_append, List.append_assoc]

theorem encode_member (key : String) (v : Value) (ms : List (String × Value)) (rest : List UInt8) :
    encode (Writer.string key ++ (':' :: (Writer.value v ++ Writer.members ms))) ++ rest =
      encode (Writer.string key) ++
        0x3a :: (encode (Writer.value v) ++ (encode (Writer.members ms) ++ rest)) := by
  rw [encode_behind]
  show _ ++ 0x3a :: (encode (Writer.value v ++ Writer.members ms) ++ rest) = _
  rw [encode_behind]

theorem value_number (n : Number) (fuel offset : Nat) {rest : List UInt8} (ends : EndsNumber rest) :
    ReadsAs Tree.outline (value (fuel + 1) ⟨offset, encode (Writer.number n) ++ rest⟩)
      (.number (.ok n) ⟨0, 0⟩) rest := by
  obtain ⟨b, ds, begins, numeric⟩ := (isNumeral_number n).first
  obtain ⟨m, span, stop, read⟩ :=
    scalar_number (begins ▸ isNumeral_number n) ends numeric offset
  have solid : Cursor.isSpace b = false := by
    obtain ⟨_, _, same, solid, -⟩ := value_begins (.number n) []
    rw [show encode (Writer.value (.number n)) = b :: ds from begins] at same
    exact (List.cons.inj same).1 ▸ solid
  refine ⟨.number m span, stop, ?_, rfl⟩
  rw [begins, List.cons_append, value_scalar fuel offset solid (ne_of_numeric numeric (by decide))
    (ne_of_numeric numeric (by decide)), read]

theorem value_string (s : String) (fuel offset : Nat) (rest : List UInt8) :
    ReadsAs Tree.outline (value (fuel + 1) ⟨offset, encode (Writer.string s) ++ rest⟩)
      (.string (.ok s) ⟨0, 0⟩) rest := by
  obtain ⟨span, stop, read⟩ := scalar_string s offset rest
  refine ⟨.string (.ok s) span, stop, ?_, rfl⟩
  rw [encode_string] at read ⊢
  rw [value_scalar fuel offset rfl (by decide) (by decide), read]

mutual

/-- With fuel for its text a value is read as itself, up to its outline. -/
theorem value_text : ∀ (v : Value) (fuel offset : Nat) (rest : List UInt8)
    (_ : 3 * (Writer.value v).length ≤ fuel) (_ : EndsNumber rest),
    ReadsAs Tree.outline (value fuel ⟨offset, encode (Writer.value v) ++ rest⟩) (.ofValue v) rest
  | v, 0, _, _, enough, _ => absurd enough (by have := length_value_pos v; omega)
  | .null, fuel + 1, offset, rest, _, _ =>
    ⟨_, _, (value_scalar fuel offset rfl (by decide) (by decide)).trans (scalar_null offset), rfl⟩
  | .bool true, fuel + 1, offset, rest, _, _ =>
    ⟨_, _, (value_scalar fuel offset rfl (by decide) (by decide)).trans (scalar_true offset), rfl⟩
  | .bool false, fuel + 1, offset, rest, _, _ =>
    ⟨_, _, (value_scalar fuel offset rfl (by decide) (by decide)).trans (scalar_false offset), rfl⟩
  | .number n, fuel + 1, offset, _, _, ends => value_number n fuel offset ends
  | .string s, fuel + 1, offset, rest, _, _ => value_string s fuel offset rest
  | .array [], 1, _, _, enough, _ | .object [], 1, _, _, enough, _ => absurd enough (by decide)
  | .array [], fuel + 2, offset, _, _, _ =>
    array_joined ⟨_, _, items_close fuel (offset + 1) true, rfl⟩
  | .object [], fuel + 2, offset, _, _, _ =>
    object_joined ⟨_, _, members_close fuel (offset + 1) true, rfl⟩
  | .array (v :: vs), fuel + 1, offset, rest, enough, _ => by
    simp only [Writer.value, List.length_cons, List.length_append] at enough
    obtain ⟨fuel, rfl⟩ : ∃ more, fuel = more + 2 := ⟨fuel - 2, by omega⟩
    obtain ⟨b, bs, begins, solid, other⟩ := value_begins v (encode (Writer.items vs) ++ rest)
    show ReadsAs _ (value (fuel + 3) ⟨offset, 0x5b :: (encode (_ ++ _) ++ rest)⟩) _ _
    refine array_joined ?_
    rw [encode_behind, begins, items_first _ _ solid other, ← begins]
    exact item_joined
      (value_text v fuel (offset + 1) _ (by omega) (endsNumber_items vs rest))
      fun offset => items_text vs fuel offset rest (by omega)
  | .object ((key, v) :: ms), fuel + 1, offset, rest, enough, _ => by
    simp only [Writer.value, List.length_cons, List.length_append] at enough
    obtain ⟨fuel, rfl⟩ : ∃ more, fuel = more + 2 := ⟨fuel - 2, by omega⟩
    show ReadsAs _ (value (fuel + 3) ⟨offset, 0x7b :: (encode (_ ++ ':' :: (_ ++ _)) ++ rest)⟩) _ _
    refine object_joined ?_
    rw [encode_member, encode_string, members_first, ← encode_string]
    exact member_joined
      (fun offset => value_text v fuel offset _ (by omega) (endsNumber_members ms rest))
      fun offset => members_text ms fuel offset rest (by omega)

theorem items_text : ∀ (vs : List Value) (fuel offset : Nat) (rest : List UInt8)
    (_ : 3 * (Writer.items vs).length ≤ fuel),
    ReadsAs Items.outline (items fuel false ⟨offset, encode (Writer.items vs) ++ rest⟩)
      (.ofValues vs) rest
  | [], 0, _, _, enough => absurd enough (by decide)
  | [], fuel + 1, offset, _, _ => ⟨_, _, items_close fuel offset false, rfl⟩
  | v :: vs, fuel, offset, rest, enough => by
    simp only [Writer.items, List.length_cons, List.length_append] at enough
    obtain ⟨fuel, rfl⟩ : ∃ more, fuel = more + 2 := ⟨fuel - 2, by omega⟩
    obtain ⟨b, bs, begins, solid, other⟩ := value_begins v (encode (Writer.items vs) ++ rest)
    show ReadsAs _ (items (fuel + 2) false ⟨offset, 0x2c :: (encode (_ ++ _) ++ rest)⟩) _ _
    rw [encode_behind, begins, items_comma _ _ solid other, ← begins]
    exact item_joined
      (value_text v fuel (offset + 1) _ (by omega) (endsNumber_items vs rest))
      fun offset => items_text vs fuel offset rest (by omega)

theorem members_text : ∀ (ms : List (String × Value)) (fuel offset : Nat) (rest : List UInt8)
    (_ : 3 * (Writer.members ms).length ≤ fuel),
    ReadsAs Members.outline (members fuel false ⟨offset, encode (Writer.members ms) ++ rest⟩)
      (.ofPairs ms) rest
  | [], 0, _, _, enough => absurd enough (by decide)
  | [], fuel + 1, offset, _, _ => ⟨_, _, members_close fuel offset false, rfl⟩
  | (key, v) :: ms, fuel, offset, rest, enough => by
    simp only [Writer.members, List.length_cons, List.length_append] at enough
    obtain ⟨fuel, rfl⟩ : ∃ more, fuel = more + 2 := ⟨fuel - 2, by omega⟩
    show ReadsAs _
      (members (fuel + 2) false ⟨offset, 0x2c :: (encode (_ ++ ':' :: (_ ++ _)) ++ rest)⟩) _ _
    rw [encode_member, encode_string, members_comma, ← encode_string]
    exact member_joined
      (fun offset => value_text v fuel offset _ (by omega) (endsNumber_members ms rest))
      fun offset => members_text ms fuel offset rest (by omega)

end

end Reader

/-! ## Whole texts -/

theorem length_le_encode (text : List Char) : text.length ≤ (encode text).length := by
  have one (c : Char) : 1 ≤ (encodeChar c).length := by
    unfold encodeChar
    dsimp only
    split
    · exact Nat.le_refl 1
    · split
      · exact Nat.le_succ 1
      · split <;> simp
  induction text with
  | nil => exact Nat.zero_le _
  | cons c text ih =>
      have longer := one c
      show text.length + 1 ≤ (encodeChar c ++ encode text).length
      rw [List.length_append]
      omega

/-- The text of a value is a whole document of the same outline. -/
theorem Document.ofBytes_text (v : Value) :
    (Document.ofBytes (Text.bytes v.text)).tree.outline = (Tree.ofValue v).outline ∧
      (Document.ofBytes (Text.bytes v.text)).trailing = none := by
  have bytes : Text.bytes v.text = encode (Writer.value v) :=
    congrArg encode String.toList_ofList
  have enough := length_le_encode (Writer.value v)
  obtain ⟨t, stop, read, same⟩ :=
    Reader.value_text v (3 * (encode (Writer.value v)).length + 3) 0 [] (by omega)
      fun b there => by cases there
  rw [List.append_nil] at read
  rw [bytes, Document.ofBytes, read]
  exact ⟨same, rfl⟩

end Json
end CloudReconcile
