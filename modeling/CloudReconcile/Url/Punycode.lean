/-!
# Punycode

Labels of domain names in ASCII: the characters beyond ASCII are taken out and described behind
the rest, in the order of their code points, by their distances.
-/

namespace CloudReconcile
namespace Punycode

def digitChar (n : Nat) : Char :=
  if n < 26 then Char.ofNat (0x61 + n) else Char.ofNat (0x16 + n)

def digitValue? (c : Char) : Option Nat :=
  let n := c.toNat
  if 0x61 ≤ n ∧ n ≤ 0x7a then some (n - 0x61)
  else if 0x41 ≤ n ∧ n ≤ 0x5a then some (n - 0x41)
  else if 0x30 ≤ n ∧ n ≤ 0x39 then some (n - 0x16)
  else none

/-- The least digit that continues a number, at a place of weight `k`. -/
def threshold (k bias : Nat) : Nat :=
  if k ≤ bias then 1 else if bias + 26 ≤ k then 26 else k - bias

/-- The bias after a distance among `count` characters. -/
def adapt (delta count : Nat) (first : Bool) : Nat :=
  let delta := if first then delta / 700 else delta / 2
  let rec shrink : Nat → Nat → Nat → Nat
    | 0, delta, k => k + 36 * delta / (delta + 38)
    | fuel + 1, delta, k =>
      if 455 < delta then shrink fuel (delta / 35) (k + 36) else k + 36 * delta / (delta + 38)
  shrink 64 (delta + delta / count) 0

/-- A distance in digits. -/
def number (bias : Nat) : Nat → Nat → Nat → List Char
  | 0, _, _ => []
  | fuel + 1, k, q =>
    let t := threshold k bias
    if q < t then [digitChar q]
    else digitChar (t + (q - t) % (36 - t)) :: number bias fuel (k + 36) ((q - t) / (36 - t))

structure Writing where
  out : List Char
  delta : Nat
  bias : Nat
  handled : Nat

/-- Go over the whole label for the code point `n`; `basic` is the number of ASCII characters. -/
def pass (basic n : Nat) (w : Writing) (c : Char) : Writing :=
  if c.toNat < n then { w with delta := w.delta + 1 }
  else if c.toNat = n then
    { out := w.out ++ number w.bias (w.delta + 1) 36 w.delta
      delta := 0
      bias := adapt w.delta (w.handled + 1) (w.handled = basic)
      handled := w.handled + 1 }
  else w

/-- Describe the code points from `n` on that the label holds. -/
def describe (label : List Char) (basic : Nat) : Nat → Nat → Writing → Writing
  | 0, _, w => w
  | fuel + 1, n, w =>
    match (label.map Char.toNat).filter (n ≤ ·) with
    | [] => w
    | x :: xs =>
      let least := xs.foldl min x
      let w := { w with delta := w.delta + (least - n) * (w.handled + 1) }
      let w := label.foldl (pass basic least) w
      describe label basic fuel (least + 1) { w with delta := w.delta + 1 }

def encode (label : List Char) : List Char :=
  let basic := label.filter (·.toNat < 0x80)
  let start := if basic.isEmpty then [] else basic ++ ['-']
  (describe label basic.length (label.length + 1) 0x80 ⟨start, 0, 72, basic.length⟩).out

def limit : Nat := Nat.pow 2 32

/-- A distance from digits: its value and what follows. -/
def readNumber (bias : Nat) (weight i k : Nat) : List Char → Option (Nat × List Char)
  | [] => none
  | c :: rest => do
    let digit ← digitValue? c
    let i := i + digit * weight
    let t := threshold k bias
    if digit < t then return (i, rest)
    else if limit ≤ weight * (36 - t) then none
    else readNumber bias (weight * (36 - t)) i (k + 36) rest

/-- Put the described characters into the label. -/
def place : Nat → List Char → Nat → Nat → Nat → List Char → Option (List Char)
  | 0, _, _, _, _, _ => none
  | fuel + 1, out, n, i, bias, input =>
    if input.isEmpty then some out
    else do
      let (j, rest) ← readNumber bias 1 i 36 input
      let size := out.length + 1
      let n := n + j / size
      if 0x10ffff < n ∨ (0xd800 ≤ n ∧ n ≤ 0xdfff) then none
      else
        let spot := j % size
        place fuel (out.take spot ++ Char.ofNat n :: out.drop spot) n (spot + 1)
          (adapt (j - i) size (i = 0)) rest

/-- The label that an ASCII text describes; a hyphen stands only behind characters in ASCII. -/
def decode? (text : List Char) : Option (List Char) :=
  let tail := (text.reverse.takeWhile (· ≠ '-')).reverse
  if tail.length = text.length then place (text.length + 1) [] 0x80 0 72 tail
  else
    let basic := text.take (text.length - tail.length - 1)
    if basic.isEmpty || basic.any (0x80 ≤ ·.toNat) then none
    else place (text.length + 1) basic 0x80 0 72 tail

end Punycode
end CloudReconcile
