import CloudReconcile.Text.Number
import Mathlib.Algebra.Ring.Nat

/-!
# Which texts are numbers

A text is read as a number of 64 bits just if it is one or more decimal digits, with or without a
plus sign before them, and the number that they stand for fits.  Zeros before other digits do not
count.
-/

namespace CloudReconcile
namespace Text

/-- The number that decimal digits stand for, by their places. -/
def decimalValue : List Char → Nat
  | [] => 0
  | c :: rest => (c.toNat - 0x30) * 10 ^ rest.length + decimalValue rest

/-- One or more decimal digits, perhaps behind a plus sign, that stand for the number. -/
def Denotes (text : String) (n : Nat) : Prop :=
  ∃ digits : List Char, digits ≠ [] ∧ (∀ c ∈ digits, c.isDigit = true) ∧
    (text.toList = digits ∨ text.toList = '+' :: digits) ∧ decimalValue digits = n

theorem addDigit_eq_ok_iff {n m : Nat} {c : Char} :
    addDigit n c = .ok m ↔
      c.isDigit = true ∧ m = n * 10 + (c.toNat - 0x30) ∧ m < 2 ^ 64 := by
  unfold addDigit
  cases digit : c.isDigit with
  | false => simp
  | true =>
      have size : Nat.pow 2 64 = 2 ^ 64 := rfl
      by_cases fits : n * 10 + (c.toNat - 0x30) < 2 ^ 64
      · simp only [Bool.not_true, Bool.false_eq_true, if_false, size, if_pos fits, true_and,
          Except.ok.injEq]
        omega
      · simp only [Bool.not_true, Bool.false_eq_true, if_false, size, if_neg fits, true_and,
          reduceCtorEq, false_iff]
        omega

/-- What is left of a number never makes it smaller, so a number that fits has fitted all along. -/
theorem foldlM_addDigit_eq_ok_iff {n m : Nat} (fits : n < 2 ^ 64) (digits : List Char) :
    digits.foldlM addDigit n = .ok m ↔
      (∀ c ∈ digits, c.isDigit = true) ∧
        n * 10 ^ digits.length + decimalValue digits = m ∧ m < 2 ^ 64 := by
  induction digits generalizing n with
  | nil =>
      have same : ([].foldlM addDigit n = .ok m) ↔ n = m := Except.ok.injEq n m ▸ Iff.rfl
      rw [same]
      simp [decimalValue]
      omega
  | cons c rest ih =>
      have places : n * 10 ^ (rest.length + 1) + (c.toNat - 0x30) * 10 ^ rest.length =
          (n * 10 + (c.toNat - 0x30)) * 10 ^ rest.length := by
        rw [Nat.pow_succ', ← Nat.mul_assoc, ← Nat.add_mul]
      simp only [List.foldlM_cons, decimalValue, List.length_cons, List.forall_mem_cons,
        ← Nat.add_assoc, places]
      cases first : addDigit n c with
      | ok next =>
          obtain ⟨digit, rfl, small⟩ := addDigit_eq_ok_iff.mp first
          show rest.foldlM addDigit _ = .ok m ↔ _
          rw [ih small]
          simp [digit]
      | error e =>
          refine iff_of_false (by simp [bind, Except.bind]) ?_
          rintro ⟨⟨digit, -⟩, total, small⟩
          have grows : n * 10 + (c.toNat - 0x30) ≤
              (n * 10 + (c.toNat - 0x30)) * 10 ^ rest.length :=
            Nat.le_mul_of_pos_right _ (Nat.pow_pos (by omega))
          have read : addDigit n c = .ok (n * 10 + (c.toNat - 0x30)) :=
            addDigit_eq_ok_iff.mpr ⟨digit, rfl, by omega⟩
          rw [read] at first
          cases first

/-- Digits from the start. -/
theorem digits_eq_ok_iff {n : Nat} (digits : List Char) :
    digits.foldlM addDigit 0 = .ok n ↔
      (∀ c ∈ digits, c.isDigit = true) ∧ decimalValue digits = n ∧ n < 2 ^ 64 := by
  rw [foldlM_addDigit_eq_ok_iff (by omega), Nat.zero_mul, Nat.zero_add]

theorem denotes_of_plus {text : String} {n : Nat} {digits : List Char}
    (written : text.toList = '+' :: digits) :
    Denotes text n ↔
      digits ≠ [] ∧ (∀ c ∈ digits, c.isDigit = true) ∧ decimalValue digits = n := by
  constructor
  · rintro ⟨read, nonempty, all, spelt | spelt, value⟩
    · have plus : '+'.isDigit = true := all '+' (by rw [← spelt, written]; exact List.mem_cons_self)
      cases plus
    · obtain rfl : digits = read := (List.cons.inj (written.symm.trans spelt)).2
      exact ⟨nonempty, all, value⟩
  · rintro ⟨nonempty, all, value⟩
    exact ⟨digits, nonempty, all, .inr written, value⟩

theorem denotes_of_plain {text : String} {n : Nat}
    (plain : ∀ digits, text.toList ≠ '+' :: digits) :
    Denotes text n ↔
      text.toList ≠ [] ∧ (∀ c ∈ text.toList, c.isDigit = true) ∧
        decimalValue text.toList = n := by
  constructor
  · rintro ⟨digits, nonempty, all, rfl | spelt, value⟩
    · exact ⟨nonempty, all, value⟩
    · exact absurd spelt (plain digits)
  · rintro ⟨nonempty, all, value⟩
    exact ⟨text.toList, nonempty, all, .inl rfl, value⟩

/-- A text is read as a number just if it denotes one of 64 bits. -/
theorem number_eq_ok_iff {text : String} {n : Nat} :
    number text = .ok n ↔ Denotes text n ∧ n < 2 ^ 64 := by
  unfold number
  split
  · rename_i blank
    simp [denotes_of_plain, blank]
  · rename_i sign
    simp [denotes_of_plus sign]
  · rename_i nonempty written
    rw [digits_eq_ok_iff, denotes_of_plus written, and_iff_right nonempty, and_assoc]
  · rename_i nonempty _ plain
    rw [digits_eq_ok_iff, denotes_of_plain plain, and_iff_right nonempty, and_assoc]

/-- Zeros in front do not count, and there is one sign at most. -/
example : number "+007" = .ok 7 ∧ number "++7" = .error .invalidDigit := by decide

end Text
end CloudReconcile
