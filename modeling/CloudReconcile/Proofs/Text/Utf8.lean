import CloudReconcile.Text.Utf8

/-!
# Reading UTF-8 back

What a text is written as is read as that text, so different texts are written differently.
-/

namespace CloudReconcile
namespace Text
namespace Utf8

theorem toNat_ofNat {n : Nat} (h : n < 0x100) : (UInt8.ofNat n).toNat = n := by
  rw [UInt8.toNat_ofNat']
  exact Nat.mod_eq_of_lt h

/-- Surrogates are no characters, and neither is anything beyond U+10FFFF. -/
theorem valid_toNat (c : Char) : c.toNat < 0xd800 ∨ 0xdfff < c.toNat ∧ c.toNat < 0x110000 :=
  c.valid

/-- A lead byte and the byte behind it give the first bits of a character. -/
theorem next_of_window {lead tail count low high : Nat} (rest : List UInt8)
    (wide : 0x80 ≤ lead) (byte : lead < 0x100) (short : tail < 0x40)
    (bounds : window (UInt8.ofNat lead) = some (count, low, high)) (above : low ≤ 0x80 + tail)
    (below : 0x80 + tail ≤ high) :
    next (UInt8.ofNat lead :: UInt8.ofNat (0x80 + tail) :: rest) =
      tails (count - 1)
        (lead % (if count = 1 then 0x20 else if count = 2 then 0x10 else 8) * 0x40 + tail)
        rest := by
  have first : (UInt8.ofNat lead).toNat = lead := toNat_ofNat byte
  have second : (UInt8.ofNat (0x80 + tail)).toNat = 0x80 + tail := toNat_ofNat (by omega)
  have bits : (0x80 + tail) % 0x40 = tail := by omega
  rw [next, first, if_neg (by omega)]
  simp only [bounds, second, bits, above, below, decide_true, Bool.and_self, if_true]

theorem tails_cons (count value tail : Nat) (rest : List UInt8) (h : tail < 0x40) :
    tails (count + 1) value (UInt8.ofNat (0x80 + tail) :: rest) =
      tails count (value * 0x40 + tail) rest := by
  have byte : (UInt8.ofNat (0x80 + tail)).toNat = 0x80 + tail := toNat_ofNat (by omega)
  rw [tails, isTail, byte, if_pos (by simp; omega)]
  congr 2
  omega

theorem window_two {lead : Nat} (low : 0xc2 ≤ lead) (high : lead ≤ 0xdf) :
    window (UInt8.ofNat lead) = some (1, 0x80, 0xbf) := by
  unfold window
  rw [toNat_ofNat (by omega), if_pos (by simp; omega)]

/-- The bounds of the second byte of a character of three bytes. -/
theorem window_three (n : Nat) (low : 0x800 ≤ n) (high : n < 0x10000)
    (valid : n < 0xd800 ∨ 0xdfff < n) :
    ∃ least most, window (UInt8.ofNat (0xe0 + n / 0x1000)) = some (2, least, most) ∧
      least ≤ 0x80 + n / 0x40 % 0x40 ∧ 0x80 + n / 0x40 % 0x40 ≤ most := by
  unfold window
  rw [toNat_ofNat (by omega)]
  by_cases first : n / 0x1000 = 0
  · exact ⟨0xa0, 0xbf, by simp [first], by omega, by omega⟩
  · by_cases surrogates : n / 0x1000 = 13
    · exact ⟨0x80, 0x9f, by simp [surrogates], by omega, by omega⟩
    · refine ⟨0x80, 0xbf, ?_, by omega, by omega⟩
      rw [if_neg (by simp; omega), if_neg (by omega), if_neg (by omega), if_pos (by simp; omega)]

/-- The bounds of the second byte of a character of four bytes. -/
theorem window_four (n : Nat) (low : 0x10000 ≤ n) (high : n < 0x110000) :
    ∃ least most, window (UInt8.ofNat (0xf0 + n / 0x40000)) = some (3, least, most) ∧
      least ≤ 0x80 + n / 0x1000 % 0x40 ∧ 0x80 + n / 0x1000 % 0x40 ≤ most := by
  unfold window
  rw [toNat_ofNat (by omega)]
  by_cases first : n / 0x40000 = 0
  · exact ⟨0x90, 0xbf, by simp [first], by omega, by omega⟩
  · by_cases last : n / 0x40000 = 4
    · exact ⟨0x80, 0x8f, by simp [last], by omega, by omega⟩
    · refine ⟨0x80, 0xbf, ?_, by omega, by omega⟩
      rw [if_neg (by simp; omega), if_neg (by omega), if_neg (by omega), if_neg (by simp; omega),
        if_neg (by omega), if_pos (by simp; omega)]

/-- The first character is read off what begins with it. -/
theorem next_encodeChar (c : Char) (rest : List UInt8) :
    next (encodeChar c ++ rest) = .char c rest := by
  have valid := valid_toNat c
  -- All the bits together are the number of the character again.
  have gathered {value : Nat} (same : value = c.toNat) :
      Front.char (Char.ofNat value) rest = .char c rest := by
    rw [same, Char.ofNat_toNat]
  unfold encodeChar
  by_cases one : c.toNat < 0x80
  · have byte : (UInt8.ofNat c.toNat).toNat = c.toNat := toNat_ofNat (by omega)
    rw [if_pos one]
    show next (_ :: rest) = _
    rw [next, byte, if_pos one]
    exact gathered rfl
  rw [if_neg one]
  by_cases two : c.toNat < 0x800
  · rw [if_pos two]
    show next (_ :: _ :: rest) = _
    rw [next_of_window rest (by omega) (by omega) (by omega) (window_two (by omega) (by omega))
      (by omega) (by omega)]
    exact gathered (by simp; omega)
  rw [if_neg two]
  by_cases three : c.toNat < 0x10000
  · obtain ⟨least, most, bounds, above, below⟩ := window_three c.toNat (by omega) three (by omega)
    rw [if_pos three]
    show next (_ :: _ :: _ :: rest) = _
    rw [next_of_window _ (by omega) (by omega) (by omega) bounds above below,
      tails_cons _ _ _ _ (by omega)]
    exact gathered (by simp; omega)
  · obtain ⟨least, most, bounds, above, below⟩ := window_four c.toNat (by omega) (by omega)
    rw [if_neg three]
    show next (_ :: _ :: _ :: _ :: rest) = _
    rw [next_of_window _ (by omega) (by omega) (by omega) bounds above below,
      tails_cons _ _ _ _ (by omega), tails_cons _ _ _ _ (by omega)]
    exact gathered (by simp; omega)

theorem decode?_encode (text : List Char) : decode? (encode text) = some text := by
  induction text with
  | nil =>
      rw [decode?]
      rfl
  | cons c text ih =>
      have front : next (encode (c :: text)) = .char c (encode text) := next_encodeChar c _
      rw [decode?]
      split
      · rename_i done
        rw [front] at done
        cases done
      · rename_i first rest read
        rw [front] at read
        cases read
        rw [ih]
        rfl
      · rename_i rest stray
        rw [front] at stray
        cases stray

theorem encode_injective : Function.Injective encode := by
  intro s t same
  have read := congrArg decode? same
  rw [decode?_encode, decode?_encode] at read
  exact Option.some.inj read

end Utf8
end Text
end CloudReconcile
