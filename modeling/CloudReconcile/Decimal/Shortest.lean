import CloudReconcile.Decimal.Binary64

/-!
# The fewest digits that read back

A binary number is written with the fewest decimal digits that round to it again; of those the
nearest to it.  `shortest` finds the digits, `Layout` decides how they are set out.
-/

namespace CloudReconcile
namespace Decimal

def digitChar (n : Nat) : Char := Char.ofNat (0x30 + n)

def digits (n : Nat) : List Char :=
  if n < 10 then [digitChar n] else digits (n / 10) ++ [digitChar (n % 10)]
termination_by n
decreasing_by omega

def natText (n : Nat) : String := String.ofList (digits n)

def intText (n : Int) : String :=
  if n < 0 then "-" ++ natText n.natAbs else natText n.natAbs

/-- The number `significand * 10 ^ exponent`. -/
structure Scientific where
  significand : Nat
  exponent : Int
deriving DecidableEq, Repr

namespace Binary64

/-- The reals that round to `x`, over the common denominator `2 ^ 1076`: low end, high end, and
whether the ends belong to them. -/
def interval (x : Binary64) : Nat × Nat × Bool :=
  let unit := Nat.pow 2 (x.exponent + 1074).toNat
  let middle := 4 * x.mantissa * unit
  let below := if x.mantissa = Nat.pow 2 52 ∧ minExponent < x.exponent then unit else 2 * unit
  (middle - below, middle + 2 * unit, x.mantissa % 2 = 0)

def holds (x : Binary64) (s : Scientific) : Bool :=
  let (low, high, closed) := x.interval
  let up := if 0 ≤ s.exponent then Nat.pow 10 s.exponent.toNat else 1
  let down := if 0 ≤ s.exponent then 1 else Nat.pow 10 (-s.exponent).toNat
  let value := s.significand * up * Nat.pow 2 1076
  if closed then low * down ≤ value && value ≤ high * down
  else low * down < value && value < high * down

/-- The least `k` with `x < 10 ^ k`, counted up from a lower bound. -/
def magnitudeFrom (num den : Nat) : Nat → Int → Int
  | 0, k => k
  | fuel + 1, k =>
    let up := if 0 ≤ k then Nat.pow 10 k.toNat else 1
    let down := if 0 ≤ k then 1 else Nat.pow 10 (-k).toNat
    if num * down < up * den then k else magnitudeFrom num den fuel (k + 1)

/-- The two neighbours of `x` on the grid of step `10 ^ exponent`, the nearer first. -/
def neighbours (x : Binary64) (exponent : Int) : List Scientific :=
  let (num, den) := x.fraction
  let n := if 0 ≤ exponent then num else num * Nat.pow 10 (-exponent).toNat
  let d := if 0 ≤ exponent then den * Nat.pow 10 exponent.toNat else den
  let floor : Scientific := ⟨n / d, exponent⟩
  let ceiling : Scientific := ⟨n / d + 1, exponent⟩
  if 2 * (n % d) < d ∨ (2 * (n % d) = d ∧ (n / d) % 2 = 0) then [floor, ceiling]
  else [ceiling, floor]

/-- Try 17 - `fuel` digits and more; `magnitude` is the number of digits before the point. -/
def shortestFrom (x : Binary64) (magnitude : Int) : Nat → Scientific
  | 0 => ⟨x.mantissa, x.exponent⟩
  | fuel + 1 =>
    let exponent := magnitude - (17 - fuel : Nat)
    match (x.neighbours exponent).find? x.holds with
    | some s => s
    | none => shortestFrom x magnitude fuel

def strip : Nat → Scientific → Scientific
  | 0, s => s
  | fuel + 1, s =>
    if s.significand ≠ 0 ∧ s.significand % 10 = 0 then
      strip fuel ⟨s.significand / 10, s.exponent + 1⟩
    else s

/-- The shortest decimal that reads back as `x`. -/
def shortest (x : Binary64) : Scientific :=
  if x.mantissa = 0 then ⟨0, 0⟩
  else
    let (num, den) := x.fraction
    let start : Int := ((num.log2 : Int) - den.log2 - 1) * 30103 / 100000 - 1
    strip 20 (shortestFrom x (magnitudeFrom num den 8 start) 17)

end Binary64

structure Layout where
  /-- A whole number keeps a fractional part `.0`. -/
  pointed : Bool
  /-- Numbers whose point stands at a place outside these bounds get an exponent. -/
  positional : Option (Int × Int)

namespace Layout

/-- Digits with a point behind the first `place` of them, padded with zeros. -/
def position (pointed : Bool) (ds : List Char) (place : Int) : List Char :=
  if place ≤ 0 then ['0', '.'] ++ List.replicate (-place).toNat '0' ++ ds
  else if ds.length ≤ place.toNat then
    ds ++ List.replicate (place.toNat - ds.length) '0' ++ (if pointed then ['.', '0'] else [])
  else ds.take place.toNat ++ ['.'] ++ ds.drop place.toNat

def exponential (ds : List Char) (place : Int) : List Char :=
  ds.take 1 ++ (if ds.length ≤ 1 then [] else '.' :: ds.drop 1) ++ ['e'] ++
    (if 0 < place then ['+'] else []) ++ (intText (place - 1)).toList

def render (layout : Layout) (s : Scientific) : List Char :=
  if s.significand = 0 then if layout.pointed then ['0', '.', '0'] else ['0']
  else
    let ds := digits s.significand
    let place : Int := ds.length + s.exponent
    match layout.positional with
    | none => position layout.pointed ds place
    | some (low, high) =>
      if low < place ∧ place ≤ high then position layout.pointed ds place
      else exponential ds place

/-- Durations are written out in full, and a whole number of seconds has no point. -/
def duration : Layout := ⟨false, none⟩

/-- JSON numbers that are not integers always have a point or an exponent; the point stands
within the first sixteen digits or behind at most four leading zeros. -/
def json : Layout := ⟨true, some (-5, 16)⟩

end Layout

def Binary64.text (layout : Layout) (x : Binary64) : List Char :=
  layout.render x.shortest

end Decimal
end CloudReconcile
