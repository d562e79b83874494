import CloudReconcile.Decimal.Shortest

/-!
# What can be wrong with a JSON text

A fault is a place where the text stops being JSON; a mismatch is JSON of the wrong shape.  Either
is reported with the line and column at which reading stopped.
-/

namespace CloudReconcile
namespace Json

open Decimal (natText intText)

inductive FaultKind where
  | endInValue
  | endInList
  | endInObject
  | endInString
  | expectedColon
  | expectedListCommaOrEnd
  | expectedObjectCommaOrEnd
  | expectedLiteral
  | expectedValue
  | invalidEscape
  | invalidNumber
  | numberOutOfRange
  | invalidUnicode
  | controlInString
  | keyNotString
  | loneSurrogate
  | trailingComma
  | trailingCharacters
  | brokenSurrogatePair
  | nestedTooDeeply
deriving DecidableEq, Repr

namespace FaultKind

def isEnd : FaultKind → Bool
  | .endInValue | .endInList | .endInObject | .endInString => true
  | _ => false

def message : FaultKind → String
  | .endInValue => "EOF while parsing a value"
  | .endInList => "EOF while parsing a list"
  | .endInObject => "EOF while parsing an object"
  | .endInString => "EOF while parsing a string"
  | .expectedColon => "expected `:`"
  | .expectedListCommaOrEnd => "expected `,` or `]`"
  | .expectedObjectCommaOrEnd => "expected `,` or `\x7d`"
  | .expectedLiteral => "expected ident"
  | .expectedValue => "expected value"
  | .invalidEscape => "invalid escape"
  | .invalidNumber => "invalid number"
  | .numberOutOfRange => "number out of range"
  | .invalidUnicode => "invalid unicode code point"
  | .controlInString => "control character (\\u0000-\\u001F) found while parsing a string"
  | .keyNotString => "key must be a string"
  | .loneSurrogate => "lone leading surrogate in hex escape"
  | .trailingComma => "trailing comma"
  | .trailingCharacters => "trailing characters"
  | .brokenSurrogatePair => "unexpected end of hex escape"
  | .nestedTooDeeply => "recursion limit exceeded"

end FaultKind

structure Fault where
  kind : FaultKind
  offset : Nat
deriving DecidableEq, Repr

inductive Mismatch where
  | invalidType (found expected : String)
  | invalidValue (found expected : String)
  /-- An array with too few items for the record it stands for. -/
  | invalidLength (length : Nat) (expected : String)
  | missingField (key : String)
  | duplicateField (key : String)
  | unknownVariant (name : String) (expected : List String)
  /-- A refusal in the words of the type itself. -/
  | refused (reason : String)
deriving DecidableEq, Repr

namespace Mismatch

def ticked (name : String) : String := "`" ++ name ++ "`"

def oneOf : List String → String
  | [] => "there are no variants"
  | [a] => "expected " ++ ticked a
  | [a, b] => "expected " ++ ticked a ++ " or " ++ ticked b
  | names => "expected one of " ++ String.intercalate ", " (names.map ticked)

def message : Mismatch → String
  | .invalidType found expected => "invalid type: " ++ found ++ ", expected " ++ expected
  | .invalidValue found expected => "invalid value: " ++ found ++ ", expected " ++ expected
  | .invalidLength length expected =>
    "invalid length " ++ natText length ++ ", expected " ++ expected
  | .missingField key => "missing field " ++ ticked key
  | .duplicateField key => "duplicate field " ++ ticked key
  | .unknownVariant name expected =>
    "unknown variant " ++ ticked name ++ ", " ++ oneOf expected
  | .refused reason => reason

end Mismatch

inductive Problem where
  | fault (fault : Fault)
  | mismatch (mismatch : Mismatch) (offset : Nat)
deriving DecidableEq, Repr

/-- Line and column after `offset` bytes, both as numbers for people: lines count from one, and
the column is the number of bytes since the line began. -/
def position (bytes : List UInt8) (offset : Nat) : Nat × Nat :=
  let before := bytes.take offset
  let newline : UInt8 := 10
  (1 + before.count newline, (before.reverse.takeWhile (· ≠ newline)).length)

namespace Problem

def message : Problem → String
  | .fault f => f.kind.message
  | .mismatch m _ => m.message

def offset : Problem → Nat
  | .fault f => f.offset
  | .mismatch _ offset => offset

def located (bytes : List UInt8) (p : Problem) : String :=
  let (line, column) := position bytes p.offset
  p.message ++ " at line " ++ natText line ++ " column " ++ natText column

end Problem

end Json
end CloudReconcile
