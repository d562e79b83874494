import CloudReconcile.Json.Writer

/-!
# YAML text

JSON values in block style.  Members stand one below the other; the items of a list stand below
its key without being set in.  Strings stand for themselves where nothing else could be meant, and
between single quotes elsewhere.
-/

namespace CloudReconcile
namespace Yaml

open Json (Value)

def indicators : List Char :=
  ['-', '?', ':', ',', '[', ']', '\x7b', '\x7d', '#', '&', '*', '!', '|', '>', '\'', '"', '%',
   '@', '\x60']

def words : List String :=
  ["", "~", "null", "Null", "NULL", "true", "True", "TRUE", "false", "False", "FALSE"]

def isNumeric (text : List Char) : Bool :=
  match text with
  | [] => false
  | c :: rest =>
    if c = '+' || c = '-' || c = '.' then rest.head?.any Char.isDigit else c.isDigit

/-- Some colon or hash ends what stands before it. -/
def isSplit : List Char → Bool
  | ':' :: ' ' :: _ => true
  | [':'] => true
  | ' ' :: '#' :: _ => true
  | _ :: rest => isSplit rest
  | [] => false

/-- The string can stand for itself. -/
def isPlain (s : String) : Bool :=
  let text := s.toList
  !words.contains s && !isNumeric text && !isSplit text &&
    !text.head?.any (fun c => indicators.contains c || c = ' ') &&
    text.getLast? ≠ some ' ' && text.all (fun c => 0x20 ≤ c.toNat)

def quoted (s : String) : List Char :=
  '\'' :: (s.toList.flatMap (fun c => if c = '\'' then ['\'', '\''] else [c]) ++ ['\''])

def string (s : String) : List Char := if isPlain s then s.toList else quoted s

def indent (depth : Nat) : List Char := List.replicate depth ' '

mutual

/-- What follows a key and its colon: a scalar on the same line, or lines of their own. -/
def value (depth : Nat) : Value → List Char
  | .null => [' ', 'n', 'u', 'l', 'l', '\n']
  | .bool b => ' ' :: ((if b then "true" else "false").toList ++ ['\n'])
  | .number n => ' ' :: (Json.Writer.number n ++ ['\n'])
  | .string s => ' ' :: (string s ++ ['\n'])
  | .array [] => [' ', '[', ']', '\n']
  | .array (x :: xs) => '\n' :: items depth (x :: xs)
  | .object [] => [' ', '\x7b', '\x7d', '\n']
  | .object (m :: ms) => '\n' :: members (depth + 2) (m :: ms)

def items (depth : Nat) : List Value → List Char
  | [] => []
  | .object ((k, v) :: rest) :: xs =>
    indent depth ++ ['-', ' '] ++ string k ++ [':'] ++ value (depth + 2) v ++
      members (depth + 2) rest ++ items depth xs
  | x :: xs => indent depth ++ ['-'] ++ value (depth + 2) x ++ items depth xs

def members (depth : Nat) : List (String × Value) → List Char
  | [] => []
  | (k, v) :: rest => indent depth ++ string k ++ [':'] ++ value depth v ++ members depth rest

end

def text (v : Value) : String :=
  match v with
  | .object (m :: ms) => String.ofList (members 0 (m :: ms))
  | v => String.ofList ((value 0 v).drop 1)

end Yaml
end CloudReconcile
