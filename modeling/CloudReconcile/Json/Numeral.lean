import CloudReconcile.Json.Fault
import CloudReconcile.Json.Value

/-!
# Numbers in a JSON text

A numeral is the digits of a number as written.  Integers of 64 bits are kept exactly; any other
number is evaluated in binary arithmetic: a significand of at most 64 bits, scaled by a power of
ten that is rounded first.
-/

namespace CloudReconcile
namespace Json

open Decimal (Binary64)

/-- A number as written. -/
structure Numeral where
  negative : Bool
  whole : List Nat
  /-- The digits behind the point, if there is one. -/
  fraction : Option (List Nat)
  /-- Whether the exponent is negative, and its digits. -/
  exponent : Option (Bool × List Nat)
deriving DecidableEq, Repr

namespace Numeral

def limit : Nat := Nat.pow 2 64

def ofDigits (ds : List Nat) : Nat := ds.foldl (fun n d => n * 10 + d) 0

/-- Take digits before the point into a significand; the second number counts those that no
longer fit. -/
def takeWhole (significand : Nat) : List Nat → Nat × Nat
  | [] => (significand, 0)
  | d :: ds =>
    if significand * 10 + d < limit then takeWhole (significand * 10 + d) ds
    else (significand, ds.length + 1)

/-- Take digits behind the point into a significand; the second number counts those taken. -/
def takeFraction (significand taken : Nat) : List Nat → Nat × Nat
  | [] => (significand, taken)
  | d :: ds =>
    if significand * 10 + d < limit then takeFraction (significand * 10 + d) (taken + 1) ds
    else (significand, taken)

def powerLimit : Nat := 308

/-- Scale by a power of ten; too large a result is `none`. -/
def scale : Nat → Binary64 → Int → Option Binary64
  | 0, _, _ => some Binary64.zero
  | fuel + 1, x, exponent =>
    if exponent.natAbs ≤ powerLimit then
      (Binary64.ofFraction (Nat.pow 10 exponent.natAbs) 1).bind fun power =>
        if 0 ≤ exponent then x.mul power else x.div power
    else if x.mantissa = 0 then some x
    else if 0 ≤ exponent then none
    else
      (Binary64.ofFraction (Nat.pow 10 powerLimit) 1).bind fun power =>
        (x.div power).bind fun y => scale fuel y (exponent + powerLimit)

def magnitude (significand : Nat) (exponent : Int) : Option Binary64 :=
  (Binary64.ofFraction significand 1).bind fun x => scale 4 x exponent

/-- What the numeral stands for; a number out of range is `none`. -/
def value (n : Numeral) : Option Number :=
  let (whole, dropped) := takeWhole 0 n.whole
  match n.fraction, n.exponent with
  | none, none =>
    if dropped = 0 then
      if n.negative then
        if whole = 0 ∨ Nat.pow 2 63 < whole then
          (magnitude whole 0).map (Number.float true)
        else some (.integer (-whole))
      else some (.integer whole)
    else (magnitude whole dropped).map (Number.float n.negative)
  | _, _ =>
    let (significand, taken) := takeFraction whole 0 (n.fraction.getD [])
    let written : Int := match n.exponent with
      | none => 0
      | some (true, ds) => -ofDigits ds
      | some (false, ds) => ofDigits ds
    (magnitude significand (dropped - taken + written)).map (Number.float n.negative)

/-- Exponents stay below; no number whose exponent reaches it is in range. -/
def exponentLimit : Nat := Nat.pow 2 31

/-- How many digits follow the one that takes an exponent to its limit; `exponent` is that of the
digits before. -/
def unread (exponent : Nat) : List Nat → Nat
  | [] => 0
  | d :: ds =>
    if exponentLimit ≤ exponent * 10 + d then ds.length else unread (exponent * 10 + d) ds

/-- How many digits at the end of a numeral out of range are not needed to see that. -/
def spare (n : Numeral) : Nat :=
  match n.exponent with
  | some (false, ds) => unread 0 ds
  | _ => 0

end Numeral

end Json
end CloudReconcile
