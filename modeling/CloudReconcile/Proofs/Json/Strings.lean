import CloudReconcile.Json.Reader
import CloudReconcile.Json.Writer
import CloudReconcile.Proofs.Text.Utf8

/-!
# Reading strings that were written

A character is written as itself or as an escape, and either way it is read as its own bytes.
-/

namespace CloudReconcile
namespace Json

open Text (hexDigit hexValue?)
open Text.Utf8 (encode encodeChar)

namespace Reader

/-- The byte stands for itself in a string. -/
def IsPlain (b : UInt8) : Prop := b ≠ quote ∧ b ≠ backslash ∧ ¬ b < 0x20

theorem skipString_plain {bs : List UInt8} (plain : ∀ b ∈ bs, IsPlain b) (offset : Nat)
    (rest : List UInt8) :
    skipString offset (bs ++ rest) = skipString (offset + bs.length) rest := by
  induction bs generalizing offset with
  | nil => rfl
  | cons b bs ih =>
      obtain ⟨⟨quoted, escaped, control⟩, plain⟩ := List.forall_mem_cons.mp plain
      rw [List.cons_append, skipString.eq_def]
      simp only [quoted, escaped, control, if_false]
      rw [ih plain, List.length_cons]
      congr 1
      omega

theorem readString_plain {bs : List UInt8} (plain : ∀ b ∈ bs, IsPlain b) (offset : Nat)
    (content rest : List UInt8) :
    readString offset content (bs ++ rest) =
      readString (offset + bs.length) (bs.reverse ++ content) rest := by
  induction bs generalizing offset content with
  | nil => rfl
  | cons b bs ih =>
      obtain ⟨⟨quoted, escaped, control⟩, plain⟩ := List.forall_mem_cons.mp plain
      rw [List.cons_append, readString.eq_def]
      simp only [quoted, escaped, control, if_false]
      rw [ih plain, List.length_cons, List.reverse_cons, List.append_assoc]
      congr 1
      omega

theorem isPlain_ofNat {n : Nat} (byte : n < 0x100) (quoted : n ≠ 0x22) (escaped : n ≠ 0x5c)
    (control : ¬ n < 0x20) : IsPlain (UInt8.ofNat n) := by
  have same : (UInt8.ofNat n).toNat = n := Text.Utf8.toNat_ofNat byte
  refine ⟨fun eq => quoted ?_, fun eq => escaped ?_, fun lt => control ?_⟩
  · rw [← same, eq]
    rfl
  · rw [← same, eq]
    rfl
  · rw [← same]
    exact UInt8.lt_iff_toNat_lt.mp lt

/-- A character that is not escaped is written in bytes that stand for themselves. -/
theorem isPlain_of_mem_encodeChar {c : Char} (quoted : c ≠ '"') (escaped : c ≠ '\\')
    (control : ¬ c.toNat < 0x20) {b : UInt8} (there : b ∈ encodeChar c) : IsPlain b := by
  have valid := Text.Utf8.valid_toNat c
  unfold encodeChar at there
  by_cases one : c.toNat < 0x80
  · simp only [one, if_true, List.mem_singleton] at there
    subst there
    refine isPlain_ofNat (by omega) (fun eq => quoted ?_) (fun eq => escaped ?_) control
    · rw [← Char.ofNat_toNat c, eq]
    · rw [← Char.ofNat_toNat c, eq]
  · have high {n : Nat} (low : 0x80 ≤ n) (byte : n < 0x100) : IsPlain (UInt8.ofNat n) :=
      isPlain_ofNat byte (by omega) (by omega) (by omega)
    simp only [one, if_false] at there
    split at there
    · simp only [List.mem_cons, List.not_mem_nil, or_false] at there
      rcases there with rfl | rfl <;> exact high (by omega) (by omega)
    · split at there
      · simp only [List.mem_cons, List.not_mem_nil, or_false] at there
        rcases there with rfl | rfl | rfl <;> exact high (by omega) (by omega)
      · simp only [List.mem_cons, List.not_mem_nil, or_false] at there
        rcases there with rfl | rfl | rfl | rfl <;> exact high (by omega) (by omega)

/-! ## One character -/

/-- How the bytes of a character may be written in a string. -/
inductive Spelling : List UInt8 → List UInt8 → Prop where
  | plain {bs : List UInt8} (plain : ∀ b ∈ bs, IsPlain b) : Spelling bs bs
  | letter {e byte : UInt8} (letter : e ≠ 0x75) (simple : simpleEscape? e = some byte) :
    Spelling [backslash, e] [byte]
  | hex {h l : UInt8} {n : Nat} (quad : hexQuad? 0x30 0x30 h l = some n) (ascii : n < 0x80) :
    Spelling [backslash, 0x75, 0x30, 0x30, h, l] (encodeChar (Char.ofNat n))

theorem Spelling.skipString {written bytes : List UInt8} (h : Spelling written bytes)
    (offset : Nat) (rest : List UInt8) :
    ∃ stop, skipString offset (written ++ rest) = Reader.skipString stop rest := by
  cases h with
  | plain plain => exact ⟨_, skipString_plain plain offset rest⟩
  | @letter e byte letter simple =>
      refine ⟨offset + 2, ?_⟩
      rw [List.cons_append, List.cons_append, skipString.eq_def]
      simp [backslash, quote, letter, simple]
  | @hex h l n quad ascii =>
      refine ⟨offset + 6, ?_⟩
      simp only [List.cons_append, List.nil_append]
      rw [skipString.eq_def]
      simp [backslash, quote, quad]

theorem Spelling.readString {written bytes : List UInt8} (h : Spelling written bytes)
    (offset : Nat) (content rest : List UInt8) :
    ∃ stop, readString offset content (written ++ rest) =
      Reader.readString stop (bytes.reverse ++ content) rest := by
  cases h with
  | plain plain => exact ⟨_, readString_plain plain offset content rest⟩
  | @letter e byte letter simple =>
      refine ⟨offset + 2, ?_⟩
      rw [List.cons_append, List.cons_append, readString.eq_def]
      simp [backslash, quote, letter, simple]
  | @hex h l n quad ascii =>
      have leading : isLeading n = false := by simp [isLeading]; omega
      have trailing : isTrailing n = false := by simp [isTrailing]; omega
      refine ⟨offset + 6, ?_⟩
      simp only [List.cons_append, List.nil_append]
      rw [readString.eq_def]
      simp [backslash, quote, quad, leading, trailing]

theorem hexDigit_byte (n : Nat) (small : n < 16) :
    encodeChar (hexDigit n) = [UInt8.ofNat (hexDigit n).toNat] ∧
      hexValue? (UInt8.ofNat (hexDigit n).toNat).toNat = some n := by
  have all : ∀ n : Fin 16, encodeChar (hexDigit n) = [UInt8.ofNat (hexDigit n).toNat] ∧
      hexValue? (UInt8.ofNat (hexDigit n).toNat).toNat = some n.val := by decide
  exact all ⟨n, small⟩

theorem spelling_control {c : Char} (control : c.toNat < 0x20) :
    Spelling (encode ['\\', 'u', '0', '0', hexDigit (c.toNat / 16), hexDigit (c.toNat % 16)])
      (encodeChar c) := by
  obtain ⟨high, highValue⟩ := hexDigit_byte (c.toNat / 16) (by omega)
  obtain ⟨low, lowValue⟩ := hexDigit_byte (c.toNat % 16) (by omega)
  have quad : hexQuad? 0x30 0x30 (UInt8.ofNat (hexDigit (c.toNat / 16)).toNat)
      (UInt8.ofNat (hexDigit (c.toNat % 16)).toNat) = some c.toNat := by
    rw [hexQuad?, highValue, lowValue]
    show some (((0 * 16 + 0) * 16 + c.toNat / 16) * 16 + c.toNat % 16) = _
    congr 1
    omega
  have spelling := Spelling.hex quad (by omega)
  rw [Char.ofNat_toNat] at spelling
  simp only [encode, List.flatMap_cons, List.flatMap_nil, high, low]
  exact spelling

theorem spelling_code {c : Char} {n : Nat} (code : c.toNat = n) {written : List UInt8}
    (h : Spelling written (encodeChar (Char.ofNat n))) : Spelling written (encodeChar c) := by
  rwa [← code, Char.ofNat_toNat] at h

/-- However a character is written, it spells its own bytes. -/
theorem spelling_escape (c : Char) : Spelling (encode (Writer.escape c)) (encodeChar c) := by
  unfold Writer.escape
  split
  · rename_i quoted
    subst quoted
    exact .letter (e := 0x22) (by decide) rfl
  split
  · rename_i escaped
    subst escaped
    exact .letter (e := 0x5c) (by decide) rfl
  split
  · rename_i code
    exact spelling_code code (.letter (e := 0x62) (by decide) rfl)
  split
  · rename_i code
    exact spelling_code code (.letter (e := 0x74) (by decide) rfl)
  split
  · rename_i code
    exact spelling_code code (.letter (e := 0x6e) (by decide) rfl)
  split
  · rename_i code
    exact spelling_code code (.letter (e := 0x66) (by decide) rfl)
  split
  · rename_i code
    exact spelling_code code (.letter (e := 0x72) (by decide) rfl)
  split
  · rename_i control
    exact spelling_control control
  · rename_i quoted escaped _ _ _ _ _ control
    have whole : encode [c] = encodeChar c := List.append_nil _
    rw [whole]
    exact .plain fun b there => isPlain_of_mem_encodeChar quoted escaped control there

/-! ## Whole strings -/

theorem encode_append (s t : List Char) : encode (s ++ t) = encode s ++ encode t :=
  List.flatMap_append

theorem skipString_text (text : List Char) (offset : Nat) (rest : List UInt8) :
    ∃ stop, skipString offset (encode (text.flatMap Writer.escape) ++ quote :: rest) =
      .ok ⟨stop, rest⟩ := by
  induction text generalizing offset with
  | nil =>
      refine ⟨offset + 1, ?_⟩
      show skipString offset (quote :: rest) = _
      rw [skipString.eq_def]
      rfl
  | cons c text ih =>
      obtain ⟨middle, read⟩ := (spelling_escape c).skipString offset
        (encode (text.flatMap Writer.escape) ++ quote :: rest)
      obtain ⟨stop, done⟩ := ih middle
      refine ⟨stop, ?_⟩
      rw [List.flatMap_cons, encode_append, List.append_assoc, read, done]

theorem readString_text (text : List Char) (offset : Nat) (content rest : List UInt8) :
    readString offset content (encode (text.flatMap Writer.escape) ++ quote :: rest) =
      .ok (content.reverse ++ encode text) := by
  induction text generalizing offset content with
  | nil =>
      show readString offset content (quote :: rest) = .ok (content.reverse ++ [])
      rw [readString.eq_def, List.append_nil]
      rfl
  | cons c text ih =>
      obtain ⟨middle, read⟩ := (spelling_escape c).readString offset content
        (encode (text.flatMap Writer.escape) ++ quote :: rest)
      rw [List.flatMap_cons, encode_append, List.append_assoc, read, ih, List.reverse_append,
        List.reverse_reverse, List.append_assoc]
      rfl

/-- A string whose opening quote has been read is read to its closing quote, as what was written. -/
theorem string_text (s : String) (offset : Nat) (rest : List UInt8) :
    ∃ stop, string ⟨offset, encode (s.toList.flatMap Writer.escape) ++ quote :: rest⟩ =
      .ok (.ok s, ⟨stop, rest⟩) := by
  obtain ⟨stop, skipped⟩ := skipString_text s.toList offset rest
  have read : content ⟨offset, encode (s.toList.flatMap Writer.escape) ++ quote :: rest⟩ =
      .ok s := by
    have bind_ok (bytes : List UInt8) (f : List UInt8 → Except Fault String) :
        (.ok bytes >>= f) = f bytes := rfl
    rw [content, readString_text]
    show ((.ok (encode s.toList) : Except Fault _) >>= _) = _
    rw [bind_ok, Text.Utf8.decode?_encode]
    exact congrArg Except.ok String.ofList_toList
  refine ⟨stop, ?_⟩
  rw [string, read]
  dsimp only
  rw [skipped]

end Reader
end Json
end CloudReconcile
