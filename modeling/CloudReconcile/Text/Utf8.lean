/-!
# UTF-8

`next` takes one character off a list of bytes, or one maximal ill-formed piece of it.  Strict
reading refuses the second, lenient reading writes U+FFFD for it.
-/

namespace CloudReconcile
namespace Text
namespace Utf8

def encodeChar (c : Char) : List UInt8 :=
  let n := c.toNat
  if n < 0x80 then [UInt8.ofNat n]
  else if n < 0x800 then [UInt8.ofNat (0xc0 + n / 0x40), UInt8.ofNat (0x80 + n % 0x40)]
  else if n < 0x10000 then
    [UInt8.ofNat (0xe0 + n / 0x1000), UInt8.ofNat (0x80 + n / 0x40 % 0x40),
      UInt8.ofNat (0x80 + n % 0x40)]
  else
    [UInt8.ofNat (0xf0 + n / 0x40000), UInt8.ofNat (0x80 + n / 0x1000 % 0x40),
      UInt8.ofNat (0x80 + n / 0x40 % 0x40), UInt8.ofNat (0x80 + n % 0x40)]

def encode (text : List Char) : List UInt8 :=
  text.flatMap encodeChar

def isTail (b : UInt8) : Bool :=
  0x80 ≤ b.toNat && b.toNat ≤ 0xbf

/-- For the first byte of a character of several bytes: how many bytes follow, and the bounds of
the first of them. -/
def window (b : UInt8) : Option (Nat × Nat × Nat) :=
  let n := b.toNat
  if 0xc2 ≤ n && n ≤ 0xdf then some (1, 0x80, 0xbf)
  else if n = 0xe0 then some (2, 0xa0, 0xbf)
  else if n = 0xed then some (2, 0x80, 0x9f)
  else if 0xe1 ≤ n && n ≤ 0xef then some (2, 0x80, 0xbf)
  else if n = 0xf0 then some (3, 0x90, 0xbf)
  else if 0xf1 ≤ n && n ≤ 0xf3 then some (3, 0x80, 0xbf)
  else if n = 0xf4 then some (3, 0x80, 0x8f)
  else none

inductive Front where
  | done
  | char (c : Char) (rest : List UInt8)
  /-- A maximal piece that is no character. -/
  | stray (rest : List UInt8)
deriving DecidableEq

/-- Take up to `count` continuation bytes; `value` holds the bits so far. -/
def tails : Nat → Nat → List UInt8 → Front
  | 0, value, rest => .char (Char.ofNat value) rest
  | _ + 1, _, [] => .stray []
  | count + 1, value, b :: rest =>
    if isTail b then tails count (value * 0x40 + b.toNat % 0x40) rest else .stray (b :: rest)

/-- One character, or one ill-formed piece. -/
def next : List UInt8 → Front
  | [] => .done
  | b :: rest =>
    if b.toNat < 0x80 then .char (Char.ofNat b.toNat) rest
    else match window b with
      | none => .stray rest
      | some (count, low, high) =>
        match rest with
        | [] => .stray []
        | b1 :: rest1 =>
          if low ≤ b1.toNat && b1.toNat ≤ high then
            tails (count - 1)
              (b.toNat % (if count = 1 then 0x20 else if count = 2 then 0x10 else 8) * 0x40
                + b1.toNat % 0x40) rest1
          else .stray rest

def Front.rest : Front → List UInt8
  | .done => []
  | .char _ rest => rest
  | .stray rest => rest

theorem length_rest_tails (count value : Nat) (bytes : List UInt8) :
    (tails count value bytes).rest.length ≤ bytes.length := by
  induction count generalizing value bytes with
  | zero => simp [tails, Front.rest]
  | succ count ih =>
    cases bytes with
    | nil => simp [tails, Front.rest]
    | cons b rest =>
      rw [tails]
      split
      · exact Nat.le_succ_of_le (ih _ _)
      · simp [Front.rest]

theorem length_rest_next (b : UInt8) (rest : List UInt8) :
    (next (b :: rest)).rest.length ≤ rest.length := by
  rw [next]
  split
  · simp [Front.rest]
  · split
    · simp [Front.rest]
    · split
      · simp [Front.rest]
      · rename_i b1 rest1 _
        split
        · exact Nat.le_succ_of_le (length_rest_tails _ _ _)
        · simp [Front.rest]

/-- A front that is not the end is shorter than the bytes it was taken from. -/
theorem length_rest_lt {bytes : List UInt8} (h : next bytes ≠ .done) :
    (next bytes).rest.length < bytes.length := by
  cases bytes with
  | nil => simp [next] at h
  | cons b rest => exact Nat.lt_succ_of_le (length_rest_next b rest)

/-- The text that the bytes spell, if they are well formed. -/
def decode? (bytes : List UInt8) : Option (List Char) :=
  match _h : next bytes with
  | .done => some []
  | .char c rest => (decode? rest).map (c :: ·)
  | .stray _ => none
termination_by bytes.length
decreasing_by
  have := length_rest_lt (by simp [_h] : next bytes ≠ .done)
  simpa [_h, Front.rest] using this

def validLength (bytes : List UInt8) : Nat :=
  match _h : next bytes with
  | .done => 0
  | .char _ rest => bytes.length - rest.length + validLength rest
  | .stray _ => 0
termination_by bytes.length
decreasing_by
  have := length_rest_lt (by simp [_h] : next bytes ≠ .done)
  simpa [_h, Front.rest] using this

/-- The text that the bytes spell, with U+FFFD for every ill-formed piece. -/
def lossy (bytes : List UInt8) : List Char :=
  match _h : next bytes with
  | .done => []
  | .char c rest => c :: lossy rest
  | .stray rest => '\ufffd' :: lossy rest
termination_by bytes.length
decreasing_by
  all_goals
    have := length_rest_lt (by simp [_h] : next bytes ≠ .done)
    simpa [_h, Front.rest] using this

end Utf8

def bytes (text : String) : List UInt8 :=
  Utf8.encode text.toList

end Text
end CloudReconcile
