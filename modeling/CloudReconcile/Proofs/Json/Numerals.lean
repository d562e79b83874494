import CloudReconcile.Json.Reader
import CloudReconcile.Json.Writer
import CloudReconcile.Proofs.Text.Utf8

/-!
# Reading numbers that were written

Every number is written as the grammar wants it, so it is read to its end.  Nothing is said about
the value that is read.
-/

namespace CloudReconcile
namespace Json

open Text.Utf8 (encode encodeChar)

namespace Reader

/-! ## The grammar of numbers -/

def AreDigits (bs : List UInt8) : Prop := ∀ b ∈ bs, isDigit b = true

/-- The digits before the point: a zero alone, or none in front. -/
def IsWhole (bs : List UInt8) : Prop :=
  bs = [0x30] ∨ ∃ b ds, bs = b :: ds ∧ b ≠ 0x30 ∧ AreDigits (b :: ds)

def IsFraction (bs : List UInt8) : Prop :=
  bs = [] ∨ ∃ b ds, bs = 0x2e :: b :: ds ∧ AreDigits (b :: ds)

def IsExponent (bs : List UInt8) : Prop :=
  bs = [] ∨ ∃ sign b ds, bs = 0x65 :: (sign ++ b :: ds) ∧
    (sign = [] ∨ sign = [0x2b] ∨ sign = [0x2d]) ∧ AreDigits (b :: ds)

def IsNumeral (bs : List UInt8) : Prop :=
  ∃ sign whole fraction exponent, bs = sign ++ (whole ++ (fraction ++ exponent)) ∧
    (sign = [] ∨ sign = [0x2d]) ∧ IsWhole whole ∧ IsFraction fraction ∧ IsExponent exponent

/-- Nothing that begins like this continues a number. -/
def EndsNumber (rest : List UInt8) : Prop :=
  ∀ b ∈ rest.head?, isDigit b = false ∧ b ≠ 0x2e ∧ b ≠ 0x65 ∧ b ≠ 0x45

/-! ## Reading by the grammar -/

theorem takeWhile_digits {ds rest : List UInt8} (digits : AreDigits ds)
    (ends : ∀ b ∈ rest.head?, isDigit b = false) : (ds ++ rest).takeWhile isDigit = ds := by
  rw [List.takeWhile_append_of_pos digits]
  cases rest with
  | nil => simp
  | cons b rest => rw [List.takeWhile_cons_of_neg (by simp [ends b rfl]), List.append_nil]

theorem digits_eq {b : UInt8} {ds rest : List UInt8} (all : AreDigits (b :: ds))
    (ends : ∀ b ∈ rest.head?, isDigit b = false) (offset : Nat) :
    ∃ v vs stop, digits ⟨offset, b :: (ds ++ rest)⟩ = (v :: vs, ⟨stop, rest⟩) := by
  refine ⟨b.toNat - 0x30, ds.map (·.toNat - 0x30), offset + (b :: ds).length, ?_⟩
  have taken : (b :: (ds ++ rest)).takeWhile isDigit = b :: ds := takeWhile_digits all ends
  simp only [digits, Cursor.dropWhile, Cursor.drop, taken, List.map_cons]
  rw [← List.cons_append, List.drop_left]

theorem whole_eq {bs rest : List UInt8} (h : IsWhole bs)
    (ends : ∀ b ∈ rest.head?, isDigit b = false) (offset : Nat) :
    ∃ ds stop, whole ⟨offset, bs ++ rest⟩ = .ok (ds, ⟨stop, rest⟩) := by
  rcases h with rfl | ⟨b, ds, rfl, positive, all⟩
  · have after : rest.head?.any isDigit = false := by
      cases rest with
      | nil => rfl
      | cons b rest => exact ends b rfl
    exact ⟨[0], offset + 1, by simp [whole, Cursor.peek?, Cursor.drop, after]⟩
  · obtain ⟨v, vs, stop, read⟩ := digits_eq all ends offset
    have first : isDigit b = true := all b List.mem_cons_self
    exact ⟨v :: vs, stop, by simp [whole, Cursor.peek?, positive, first, read]⟩

theorem fraction_eq {bs rest : List UInt8} (h : IsFraction bs)
    (ends : ∀ b ∈ rest.head?, isDigit b = false ∧ b ≠ 0x2e) (offset : Nat) :
    ∃ ds stop, fraction ⟨offset, bs ++ rest⟩ = .ok (ds, ⟨stop, rest⟩) := by
  rcases h with rfl | ⟨b, ds, rfl, all⟩
  · have other : rest.head? ≠ some 0x2e := fun eq => (ends _ eq).2 rfl
    exact ⟨none, offset, by simp [fraction, Cursor.peek?, other]⟩
  · obtain ⟨v, vs, stop, read⟩ := digits_eq all (fun b there => (ends b there).1) (offset + 1)
    exact ⟨some (v :: vs), stop, by simp [fraction, Cursor.peek?, Cursor.drop, read]⟩

theorem exponent_eq {bs rest : List UInt8} (h : IsExponent bs) (ends : EndsNumber rest)
    (offset : Nat) : ∃ e stop, exponent ⟨offset, bs ++ rest⟩ = .ok (e, ⟨stop, rest⟩) := by
  rcases h with rfl | ⟨sign, b, ds, rfl, signed, all⟩
  · have lower : rest.head? ≠ some 0x65 := fun eq => (ends _ eq).2.2.1 rfl
    have upper : rest.head? ≠ some 0x45 := fun eq => (ends _ eq).2.2.2 rfl
    exact ⟨none, offset, by simp [exponent, Cursor.peek?, lower, upper]⟩
  · have first : isDigit b = true := all b List.mem_cons_self
    have minus : b ≠ 0x2d := by rintro rfl; cases first
    have plus : b ≠ 0x2b := by rintro rfl; cases first
    have read := digits_eq all (fun b there => (ends b there).1)
    rcases signed with rfl | rfl | rfl
    · obtain ⟨v, vs, stop, read⟩ := read (offset + 1)
      exact ⟨some (false, v :: vs), stop,
        by simp [exponent, Cursor.peek?, Cursor.drop, minus, plus, read]⟩
    · obtain ⟨v, vs, stop, read⟩ := read (offset + 1 + 1)
      exact ⟨some (false, v :: vs), stop, by simp [exponent, Cursor.peek?, Cursor.drop, read]⟩
    · obtain ⟨v, vs, stop, read⟩ := read (offset + 1 + 1)
      exact ⟨some (true, v :: vs), stop, by simp [exponent, Cursor.peek?, Cursor.drop, read]⟩

/-- What begins with an exponent, or with what ends a number, is no digit and no point. -/
theorem ends_exponent {bs rest : List UInt8} (h : IsExponent bs) (ends : EndsNumber rest) :
    ∀ b ∈ (bs ++ rest).head?, isDigit b = false ∧ b ≠ 0x2e := by
  rcases h with rfl | ⟨sign, b, ds, rfl, -⟩
  · exact fun b there => ⟨(ends b there).1, (ends b there).2.1⟩
  · intro b there
    obtain rfl := Option.some.inj there
    decide

theorem ends_fraction {bs rest : List UInt8} (h : IsFraction bs)
    (ends : ∀ b ∈ rest.head?, isDigit b = false ∧ b ≠ 0x2e) :
    ∀ b ∈ (bs ++ rest).head?, isDigit b = false := by
  rcases h with rfl | ⟨b, ds, rfl, -⟩
  · exact fun b there => (ends b there).1
  · intro b there
    obtain rfl := Option.some.inj there
    rfl

theorem head?_whole {bs : List UInt8} (h : IsWhole bs) (rest : List UInt8) :
    (bs ++ rest).head? ≠ some 0x2d := by
  rcases h with rfl | ⟨b, ds, rfl, -, all⟩
  · simp
  · intro eq
    obtain rfl := Option.some.inj eq
    exact absurd (all _ List.mem_cons_self) (by decide)

/-- The parts behind the sign are read one after the other. -/
theorem parts_eq {ws fs es rest : List UInt8} (isWhole : IsWhole ws) (isFraction : IsFraction fs)
    (isExponent : IsExponent es) (ends : EndsNumber rest) (offset : Nat) (negative : Bool) :
    ∃ n stop, (do
        let (whole, c) ← whole ⟨offset, ws ++ (fs ++ (es ++ rest))⟩
        let (fraction, c) ← fraction c
        let (exponent, c) ← exponent c
        return (⟨negative, whole, fraction, exponent⟩, c) :
          Except (Fault × Fault) (Numeral × Cursor)) = .ok (n, ⟨stop, rest⟩) := by
  have behind := ends_exponent isExponent ends
  obtain ⟨whole, middle, wholly⟩ := whole_eq isWhole (ends_fraction isFraction behind) offset
  obtain ⟨fraction, late, fractional⟩ := fraction_eq isFraction behind middle
  obtain ⟨exponent, stop, exponential⟩ := exponent_eq isExponent ends late
  refine ⟨⟨negative, whole, fraction, exponent⟩, stop, ?_⟩
  rw [wholly]
  dsimp only [Bind.bind, Except.bind]
  rw [fractional]
  dsimp only
  rw [exponential]
  rfl

/-- A number is read to its end. -/
theorem numeral_eq {bs rest : List UInt8} (h : IsNumeral bs) (ends : EndsNumber rest)
    (offset : Nat) : ∃ n stop, numeral ⟨offset, bs ++ rest⟩ = .ok (n, ⟨stop, rest⟩) := by
  obtain ⟨sign, ws, fs, es, rfl, signed, isWhole, isFraction, isExponent⟩ := h
  rcases signed with rfl | rfl
  · have unsigned : (ws ++ (fs ++ (es ++ rest))).head? ≠ some 0x2d := head?_whole isWhole _
    obtain ⟨n, stop, read⟩ := parts_eq isWhole isFraction isExponent ends offset false
    refine ⟨n, stop, ?_⟩
    rw [← read]
    simp only [numeral, Cursor.peek?, List.nil_append, List.append_assoc, unsigned, decide_false,
      Bool.false_eq_true, if_false]
  · obtain ⟨n, stop, read⟩ := parts_eq isWhole isFraction isExponent ends (offset + 1) true
    refine ⟨n, stop, ?_⟩
    rw [← read]
    simp [numeral, Cursor.peek?, Cursor.drop]

/-! ## Numbers as they are written -/

open Decimal (digitChar intText)

def AreDigitChars (ds : List Char) : Prop := ∀ c ∈ ds, ∃ d, d < 10 ∧ c = digitChar d

theorem encodeChar_digitChar {d : Nat} (small : d < 10) :
    encodeChar (digitChar d) = [UInt8.ofNat (0x30 + d)] ∧ isDigit (UInt8.ofNat (0x30 + d)) = true ∧
      (0 < d → UInt8.ofNat (0x30 + d) ≠ 0x30) := by
  have all : ∀ d : Fin 10, encodeChar (digitChar d) = [UInt8.ofNat (0x30 + d)] ∧
      isDigit (UInt8.ofNat (0x30 + d.val)) = true ∧
      (0 < d.val → UInt8.ofNat (0x30 + d.val) ≠ 0x30) := by decide
  exact all ⟨d, small⟩

theorem areDigits_encode {ds : List Char} (h : AreDigitChars ds) : AreDigits (encode ds) := by
  intro b there
  obtain ⟨c, inside, there⟩ := List.mem_flatMap.mp there
  obtain ⟨d, small, rfl⟩ := h c inside
  obtain ⟨written, digit, -⟩ := encodeChar_digitChar small
  rw [written, List.mem_singleton] at there
  exact there ▸ digit

theorem encode_cons_digit {c : Char} {ds : List Char} (h : AreDigitChars (c :: ds)) :
    ∃ b, encode (c :: ds) = b :: encode ds ∧ AreDigits (b :: encode ds) := by
  obtain ⟨d, small, rfl⟩ := h c List.mem_cons_self
  have written : encode (digitChar d :: ds) = UInt8.ofNat (0x30 + d) :: encode ds :=
    congrArg (· ++ encode ds) (encodeChar_digitChar small).1
  exact ⟨_, written, written ▸ areDigits_encode h⟩

/-- The digits of a positive number begin with a positive one. -/
theorem digits_of_pos (n : Nat) (positive : 0 < n) :
    ∃ d ds, Decimal.digits n = digitChar d :: ds ∧ 0 < d ∧ d < 10 ∧ AreDigitChars ds := by
  induction n using Decimal.digits.induct with
  | case1 n small =>
      rw [Decimal.digits, if_pos small]
      exact ⟨n, [], rfl, positive, small, fun c there => (List.not_mem_nil there).elim⟩
  | case2 n large ih =>
      obtain ⟨d, ds, digits, first, small, all⟩ := ih (by omega)
      rw [Decimal.digits, if_neg large, digits]
      refine ⟨d, ds ++ [digitChar (n % 10)], rfl, first, small, fun c there => ?_⟩
      rcases List.mem_append.mp there with there | there
      · exact all c there
      · exact ⟨n % 10, Nat.mod_lt _ (by decide), List.mem_singleton.mp there⟩

theorem areDigitChars_digits (n : Nat) : AreDigitChars (Decimal.digits n) := by
  rcases Nat.eq_zero_or_pos n with rfl | positive
  · rw [Decimal.digits]
    exact fun c there => ⟨0, by decide, List.mem_singleton.mp there⟩
  · obtain ⟨d, ds, digits, -, small, all⟩ := digits_of_pos n positive
    rw [digits]
    exact List.forall_mem_cons.mpr ⟨⟨d, small, rfl⟩, all⟩

theorem isWhole_encode {d : Nat} {ds : List Char} (positive : 0 < d) (small : d < 10)
    (all : AreDigitChars ds) : IsWhole (encode (digitChar d :: ds)) := by
  obtain ⟨written, -, nonzero⟩ := encodeChar_digitChar small
  have eq : encode (digitChar d :: ds) = UInt8.ofNat (0x30 + d) :: encode ds :=
    congrArg (· ++ encode ds) written
  refine .inr ⟨_, _, eq, nonzero positive, eq ▸ areDigits_encode ?_⟩
  exact List.forall_mem_cons.mpr ⟨⟨d, small, rfl⟩, all⟩

theorem isWhole_digits (n : Nat) : IsWhole (encode (Decimal.digits n)) := by
  rcases Nat.eq_zero_or_pos n with rfl | positive
  · rw [Decimal.digits]
    exact .inl rfl
  · obtain ⟨d, ds, digits, first, small, all⟩ := digits_of_pos n positive
    rw [digits]
    exact isWhole_encode first small all

theorem isFraction_encode {c : Char} {ds : List Char} (all : AreDigitChars (c :: ds)) :
    IsFraction (encode ('.' :: c :: ds)) := by
  obtain ⟨b, written, digits⟩ := encode_cons_digit all
  exact .inr ⟨b, encode ds, congrArg (0x2e :: ·) written, digits⟩

/-- A number is the sign, the whole part, the fraction and the exponent in this order. -/
theorem isNumeral_encode {sign whole fraction exponent : List Char}
    (signed : sign = [] ∨ sign = ['-']) (isWhole : IsWhole (encode whole))
    (isFraction : IsFraction (encode fraction)) (isExponent : IsExponent (encode exponent)) :
    IsNumeral (encode (sign ++ (whole ++ (fraction ++ exponent)))) := by
  refine ⟨encode sign, _, _, _, ?_, ?_, isWhole, isFraction, isExponent⟩
  · simp only [encode, List.flatMap_append]
  · rcases signed with rfl | rfl
    · exact .inl rfl
    · exact .inr rfl

theorem isFraction_nil : IsFraction (encode []) := .inl rfl

theorem isExponent_nil : IsExponent (encode []) := .inl rfl

theorem intText_toList (n : Int) :
    (intText n).toList = (if n < 0 then ['-'] else []) ++ Decimal.digits n.natAbs := by
  unfold intText
  split <;> simp [Decimal.natText]

theorem isNumeral_integer (n : Int) : IsNumeral (encode (Writer.number (.integer n))) := by
  have signed : (if n < 0 then ['-'] else []) = [] ∨ (if n < 0 then ['-'] else []) = ['-'] := by
    split <;> simp
  have numeral := isNumeral_encode signed (isWhole_digits n.natAbs) isFraction_nil isExponent_nil
  rwa [List.append_nil, List.append_nil, ← intText_toList] at numeral

/-- A number without its sign. -/
structure HasParts (text : List Char) (whole fraction exponent : List Char) : Prop where
  parts : text = whole ++ (fraction ++ exponent)
  whole : IsWhole (encode whole)
  fraction : IsFraction (encode fraction)
  exponent : IsExponent (encode exponent)

theorem areDigitChars_zeros (n : Nat) : AreDigitChars (List.replicate n '0') := fun c there =>
  ⟨0, by decide, (List.mem_replicate.mp there).2⟩

theorem AreDigitChars.append {ds es : List Char} (hd : AreDigitChars ds) (he : AreDigitChars es) :
    AreDigitChars (ds ++ es) := fun c there =>
  (List.mem_append.mp there).elim (hd c) (he c)

section Digits

variable {d : Nat} {ds : List Char}

open Decimal (Layout)

theorem hasParts_position (positive : 0 < d) (small : d < 10) (all : AreDigitChars ds)
    (place : Int) :
    ∃ whole fraction,
      HasParts (Layout.position true (digitChar d :: ds) place) whole fraction [] := by
  have first : AreDigitChars (digitChar d :: ds) :=
    List.forall_mem_cons.mpr ⟨⟨d, small, rfl⟩, all⟩
  have zero : IsWhole (encode ['0']) := .inl rfl
  unfold Layout.position
  split
  · -- The number is below one.
    have digits := (areDigitChars_zeros (-place).toNat).append first
    cases zeros : List.replicate (-place).toNat '0' ++ digitChar d :: ds with
    | nil => simp at zeros
    | cons c tail =>
        rw [zeros] at digits
        refine ⟨['0'], '.' :: c :: tail, ?_, zero, isFraction_encode digits, isExponent_nil⟩
        simp [zeros]
  · split
    · -- The point stands behind all digits.
      let zeros := List.replicate (place.toNat - (digitChar d :: ds).length) '0'
      refine ⟨digitChar d :: (ds ++ zeros), ['.', '0'], ?_,
        isWhole_encode positive small (all.append (areDigitChars_zeros _)),
        isFraction_encode (areDigitChars_zeros 1), isExponent_nil⟩
      simp [zeros]
    · rename_i inside short
      obtain ⟨n, count⟩ : ∃ n, place.toNat = n + 1 := ⟨place.toNat - 1, by omega⟩
      rw [count] at short ⊢
      have later : AreDigitChars (ds.drop n) := fun c there => all c (List.mem_of_mem_drop there)
      cases behind : ds.drop n with
      | nil =>
          have := List.drop_eq_nil_iff.mp behind
          simp only [List.length_cons] at short
          omega
      | cons c tail =>
          rw [behind] at later
          refine ⟨digitChar d :: ds.take n, '.' :: c :: tail, ?_,
            isWhole_encode positive small fun c there => all c (List.mem_of_mem_take there),
            isFraction_encode later, isExponent_nil⟩
          simp [behind]

theorem isExponent_encode (place : Int) :
    IsExponent (encode ('e' :: ((if 0 < place then ['+'] else []) ++
      (intText (place - 1)).toList))) := by
  have digits := areDigitChars_digits (place - 1).natAbs
  cases written : Decimal.digits (place - 1).natAbs with
  | nil =>
      rcases Nat.eq_zero_or_pos (place - 1).natAbs with zero | positive
      · rw [zero, Decimal.digits] at written
        cases written
      · obtain ⟨d, ds, digits, -⟩ := digits_of_pos _ positive
        rw [digits] at written
        cases written
  | cons c tail =>
      rw [written] at digits
      obtain ⟨b, bytes, all⟩ := encode_cons_digit digits
      rw [intText_toList, written]
      by_cases sign : 0 < place
      · rw [if_pos sign, if_neg (by omega)]
        exact .inr ⟨[0x2b], b, _, congrArg (0x65 :: 0x2b :: ·) bytes, .inr (.inl rfl), all⟩
      · rw [if_neg sign, if_pos (by omega)]
        exact .inr ⟨[0x2d], b, _, congrArg (0x65 :: 0x2d :: ·) bytes, .inr (.inr rfl), all⟩

theorem hasParts_exponential (positive : 0 < d) (small : d < 10) (all : AreDigitChars ds)
    (place : Int) :
    ∃ fraction exponent,
      HasParts (Layout.exponential (digitChar d :: ds) place) [digitChar d] fraction exponent := by
  have whole : IsWhole (encode [digitChar d]) :=
    isWhole_encode positive small fun c there => (List.not_mem_nil there).elim
  cases ds with
  | nil =>
      exact ⟨[], _, by simp [Layout.exponential], whole, isFraction_nil, isExponent_encode place⟩
  | cons c tail =>
      exact ⟨'.' :: c :: tail, _, by simp [Layout.exponential], whole, isFraction_encode all,
        isExponent_encode place⟩

end Digits

theorem hasParts_render (s : Decimal.Scientific) :
    ∃ whole fraction exponent,
      HasParts (Decimal.Layout.json.render s) whole fraction exponent := by
  unfold Decimal.Layout.render
  split
  · exact ⟨['0'], ['.', '0'], [], rfl, .inl rfl, isFraction_encode (areDigitChars_zeros 1),
      isExponent_nil⟩
  · rename_i nonzero
    obtain ⟨d, ds, digits, positive, small, all⟩ :=
      digits_of_pos s.significand (Nat.pos_of_ne_zero nonzero)
    rw [digits]
    dsimp only [Decimal.Layout.json]
    split
    · obtain ⟨whole, fraction, parts⟩ := hasParts_position positive small all _
      exact ⟨whole, fraction, [], parts⟩
    · obtain ⟨fraction, exponent, parts⟩ := hasParts_exponential positive small all _
      exact ⟨_, fraction, exponent, parts⟩

/-- Every number is written as the grammar wants it. -/
theorem isNumeral_number (n : Number) : IsNumeral (encode (Writer.number n)) := by
  cases n with
  | integer n => exact isNumeral_integer n
  | float negative magnitude =>
      obtain ⟨whole, fraction, exponent, parts⟩ := hasParts_render magnitude.shortest
      have signed : (if negative then ['-'] else []) = [] ∨
          (if negative then ['-'] else []) = ['-'] := by cases negative <;> simp
      have numeral := isNumeral_encode signed parts.whole parts.fraction parts.exponent
      rwa [← parts.parts] at numeral

end Reader
end Json
end CloudReconcile
