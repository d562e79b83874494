/-!
# Numbers of 64 bits

A number is written with decimal digits, and a plus sign may stand before them.  The first thing
that is wrong, from left to right, decides what is reported.
-/

namespace CloudReconcile

inductive NumberError where
  | empty
  | invalidDigit
  | tooLarge
deriving DecidableEq, Repr

namespace NumberError

def message : NumberError → String
  | .empty => "cannot parse integer from empty string"
  | .invalidDigit => "invalid digit found in string"
  | .tooLarge => "number too large to fit in target type"

end NumberError

namespace Text

def addDigit (n : Nat) (c : Char) : Except NumberError Nat :=
  if !c.isDigit then .error .invalidDigit
  else
    let n := n * 10 + (c.toNat - 0x30)
    if n < Nat.pow 2 64 then .ok n else .error .tooLarge

/-- A number of 64 bits; a plus sign may stand before it. -/
def number (text : String) : Except NumberError Nat :=
  match text.toList with
  | [] => .error .empty
  | ['+'] => .error .invalidDigit
  | '+' :: digits => digits.foldlM addDigit 0
  | digits => digits.foldlM addDigit 0

end Text
end CloudReconcile
