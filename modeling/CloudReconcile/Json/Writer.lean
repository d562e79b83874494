import CloudReconcile.Json.Value
import CloudReconcile.Text.Hex

/-!
# Compact JSON text

A value without any space between its parts.  Characters stand for themselves except the quote,
the backslash and the controls below U+0020.
-/

namespace CloudReconcile
namespace Json

open Text (hexDigit)

namespace Writer

def escape (c : Char) : List Char :=
  if c = '"' then ['\\', '"']
  else if c = '\\' then ['\\', '\\']
  else if c.toNat = 0x08 then ['\\', 'b']
  else if c.toNat = 0x09 then ['\\', 't']
  else if c.toNat = 0x0a then ['\\', 'n']
  else if c.toNat = 0x0c then ['\\', 'f']
  else if c.toNat = 0x0d then ['\\', 'r']
  else if c.toNat < 0x20 then
    ['\\', 'u', '0', '0', hexDigit (c.toNat / 16), hexDigit (c.toNat % 16)]
  else [c]

def string (s : String) : List Char :=
  '"' :: (s.toList.flatMap escape ++ ['"'])

def number : Number → List Char
  | .integer n => (Decimal.intText n).toList
  | .float negative magnitude =>
    (if negative then ['-'] else []) ++ magnitude.text Decimal.Layout.json

mutual

def value : Value → List Char
  | .null => ['n', 'u', 'l', 'l']
  | .bool true => ['t', 'r', 'u', 'e']
  | .bool false => ['f', 'a', 'l', 's', 'e']
  | .number n => number n
  | .string s => string s
  | .array [] => ['[', ']']
  | .array (x :: xs) => '[' :: (value x ++ items xs)
  | .object [] => ['\x7b', '\x7d']
  | .object ((k, x) :: xs) => '\x7b' :: (string k ++ (':' :: (value x ++ members xs)))

/-- The items behind the first one, and the closing bracket. -/
def items : List Value → List Char
  | [] => [']']
  | x :: xs => ',' :: (value x ++ items xs)

def members : List (String × Value) → List Char
  | [] => ['\x7d']
  | (k, x) :: xs => ',' :: (string k ++ (':' :: (value x ++ members xs)))

end

end Writer

def Value.text (v : Value) : String :=
  String.ofList (Writer.value v)

end Json
end CloudReconcile
