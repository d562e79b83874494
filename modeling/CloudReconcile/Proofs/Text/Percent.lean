import CloudReconcile.Proofs.Text.Utf8
import CloudReconcile.Text.Form

/-!
# Reading percent-encoded texts back

A text that is percent-encoded or form-encoded can be read back byte by byte, as long as the percent
sign itself never stands for itself.  So different texts are encoded differently, and no text brings
a character into its encoded form that must not stand there.
-/

namespace CloudReconcile
namespace Text

/-! ## Hexadecimal digits -/

theorem hexValue?_hexDigitUpper {n : Nat} (h : n < 16) :
    hexValue? (hexDigitUpper n).toNat = some n := by
  revert n
  decide

/-- What percent-encoding writes besides characters that stand for themselves. -/
def Percent.escapes : List Char := '%' :: (List.range 16).map hexDigitUpper

theorem Percent.encodeByte_subset (b : UInt8) : encodeByte b ⊆ escapes := by
  have bound : b.toNat < 256 := b.toNat_lt
  have digit {n : Nat} (h : n < 16) : hexDigitUpper n ∈ escapes :=
    List.mem_cons_of_mem _ (List.mem_map_of_mem (List.mem_range.mpr h))
  intro c there
  simp only [encodeByte, List.mem_cons, List.not_mem_nil, or_false] at there
  rcases there with rfl | rfl | rfl
  · exact List.mem_cons_self
  · exact digit (by omega)
  · exact digit (by omega)

namespace Percent

variable {set : Set}

theorem decode_encodeByte (b : UInt8) (rest : List Char) :
    decode (encodeByte b ++ rest) = b :: decode rest := by
  have bound : b.toNat < 256 := b.toNat_lt
  have whole : b.toNat / 16 * 16 + b.toNat % 16 = b.toNat := by omega
  show decode ('%' :: _ :: _ :: rest) = _
  rw [decode, hexValue?_hexDigitUpper (by omega), hexValue?_hexDigitUpper (by omega)]
  simp only [whole, UInt8.ofNat_toNat]

theorem decode_encodeBytes (bs : List UInt8) (rest : List Char) :
    decode (bs.flatMap encodeByte ++ rest) = bs ++ decode rest := by
  induction bs with
  | nil => rfl
  | cons b bs ih => rw [List.flatMap_cons, List.append_assoc, decode_encodeByte, ih]; rfl

theorem decode_cons {c : Char} (h : c ≠ '%') (rest : List Char) :
    decode (c :: rest) = Utf8.encodeChar c ++ decode rest := by
  rw [decode]
  rintro a b more rfl
  exact absurd rfl h

/-- A percent sign that must not stand for itself can be told from one that begins a byte. -/
theorem decode_encodeChar (percent : '%' ∈ set) (c : Char) (rest : List Char) :
    decode (encodeChar set c ++ rest) = Utf8.encodeChar c ++ decode rest := by
  unfold encodeChar
  split
  · rename_i plain
    refine decode_cons ?_ rest
    rintro rfl
    simp [isPlain, percent] at plain
  · exact decode_encodeBytes _ rest

theorem decode_encode (percent : '%' ∈ set) (text : List Char) :
    decode (encode set text) = Utf8.encode text := by
  induction text with
  | nil => rfl
  | cons c text ih =>
      rw [encode, List.flatMap_cons, decode_encodeChar percent, Utf8.encode, List.flatMap_cons]
      exact congrArg _ ih

theorem encode_injective (percent : '%' ∈ set) : Function.Injective (encode set) := by
  intro s t same
  have read := congrArg decode same
  rw [decode_encode percent, decode_encode percent] at read
  exact Utf8.encode_injective read

theorem notMem_encode {c : Char} (coded : c ∈ set) (other : c ∉ escapes) (text : List Char) :
    c ∉ encode set text := by
  intro there
  obtain ⟨d, -, there⟩ := List.mem_flatMap.mp there
  unfold encodeChar at there
  split at there
  · rename_i plain
    obtain rfl := List.mem_singleton.mp there
    simp [isPlain, coded] at plain
  · obtain ⟨b, -, there⟩ := List.mem_flatMap.mp there
    exact other (encodeByte_subset b there)

end Percent

namespace Form

/-- The bytes of a form-encoded text. -/
def decode (text : List Char) : List UInt8 :=
  Percent.decode (text.map fun c => if c = '+' then ' ' else c)

theorem map_of_notMem_plus {text : List Char} (h : '+' ∉ text) :
    (text.map fun c => if c = '+' then ' ' else c) = text := by
  refine (List.map_congr_left fun c there => if_neg ?_).trans (List.map_id' text)
  rintro rfl
  exact h there

theorem decode_encodeChar (c : Char) (rest : List Char) :
    decode (encodeChar c ++ rest) = Utf8.encodeChar c ++ decode rest := by
  unfold decode encodeChar
  rw [List.map_append]
  split
  · rename_i plain
    have other {d : Char} (h : isPlain d = false) : c ≠ d := by
      rintro rfl
      rw [plain] at h
      cases h
    rw [map_of_notMem_plus (by simpa using (other (by decide : isPlain '+' = false)).symm)]
    exact Percent.decode_cons (other (by decide)) _
  · split
    · rename_i blank
      rw [blank]
      exact Percent.decode_cons (by decide) _
    · have coded : '+' ∉ (Utf8.encodeChar c).flatMap Percent.encodeByte := by
        intro there
        obtain ⟨b, -, there⟩ := List.mem_flatMap.mp there
        exact absurd (Percent.encodeByte_subset b there) (by decide)
      rw [map_of_notMem_plus coded]
      exact Percent.decode_encodeBytes _ _

theorem decode_encode (text : List Char) : decode (encode text) = Utf8.encode text := by
  induction text with
  | nil => rfl
  | cons c text ih =>
      rw [encode, List.flatMap_cons, decode_encodeChar, Utf8.encode, List.flatMap_cons]
      exact congrArg _ ih

theorem encode_injective : Function.Injective encode := by
  intro s t same
  have read := congrArg decode same
  rw [decode_encode, decode_encode] at read
  exact Utf8.encode_injective read

end Form
end Text
end CloudReconcile
