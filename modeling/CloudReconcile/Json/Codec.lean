import CloudReconcile.Json.Tree
import CloudReconcile.StringMap
import CloudReconcile.Text.Quoted

/-!
# Typed values in JSON

A codec writes a value of some type and reads it from the tree of a text.  Reading goes from left
to right and stops at the first problem.
-/

namespace CloudReconcile
namespace Json

/-- How values of a type are written and read. -/
structure Codec (α : Type) where
  write : α → Value
  read : Tree → Except Problem α

namespace Tree

def refuse (expected : String) : Tree → Problem
  | .null span => .mismatch (.invalidType "null" expected) span.stop
  | .bool b span =>
    .mismatch (.invalidType ("boolean `" ++ (if b then "true" else "false") ++ "`") expected)
      span.stop
  | .number (.ok (.integer n)) span =>
    .mismatch (.invalidType ("integer `" ++ Decimal.intText n ++ "`") expected) span.stop
  | .number (.ok (.float negative x)) span =>
    .mismatch (.invalidType ("floating point `" ++ (if negative then "-" else "") ++
      String.ofList (x.text Decimal.Layout.json) ++ "`") expected) span.stop
  | .number (.error fault) _ => .fault fault
  | .string (.ok s) span =>
    .mismatch (.invalidType ("string " ++ Text.quoted s) expected) span.stop
  | .string (.error fault) _ => .fault fault
  | .array _ start => .mismatch (.invalidType "sequence" expected) start
  | .object _ start => .mismatch (.invalidType "map" expected) start
  | .broken faults => .fault faults.used

end Tree

namespace Codec

/-! ## Single values -/

def words (expected : String) : Codec String where
  write := .string
  read
    | .string (.ok s) _ => .ok s
    | tree => .error (tree.refuse expected)

def string : Codec String := words "a string"

def bool : Codec Bool where
  write := .bool
  read
    | .bool b _ => .ok b
    | tree => .error (tree.refuse "a boolean")

def unit : Codec Unit where
  write _ := .null
  read
    | .null _ => .ok ()
    | tree => .error (tree.refuse "unit")

def int64 : Codec Int where
  write n := .number (.integer n)
  read
    | .number (.ok (.integer n)) span =>
      if n < Nat.pow 2 63 then .ok n
      else .error (.mismatch
        (.invalidValue ("integer `" ++ Decimal.intText n ++ "`") "i64") span.stop)
    | tree => .error (tree.refuse "i64")

def nullable {α : Type} (codec : Codec α) : Codec (Option α) where
  write
    | none => .null
    | some a => codec.write a
  read
    | .null _ => .ok none
    | .broken faults => (codec.read (.broken faults.orNull)).map some
    | tree => (codec.read tree).map some

/-- A type with other names for its values. -/
def refine {α β : Type} (codec : Codec α) (write : β → α)
    (read : α → Except String β) : Codec β where
  write b := codec.write (write b)
  read tree := do
    let a ← codec.read tree
    match read a with
    | .ok b => return b
    | .error reason =>
      let offset := match tree with
        | .string _ span => span.stop
        | _ => 0
      throw (.mismatch (.refused reason) offset)

/-! ## Names of a fixed choice -/

def named? {α : Type} (names : List (String × α)) (name : String) (offset : Nat) :
    Except Problem α :=
  match names.lookup name with
  | some a => .ok a
  | none => .error (.mismatch (.unknownVariant name (names.map (·.1))) offset)

/-- One of several names, written as a string or as an object whose only member has that name and
says nothing. -/
def readNamed {α : Type} (names : List (String × α)) : Tree → Except Problem α
  | .string (.ok name) span => named? names name span.stop
  | .string (.error fault) _ => .error (.fault fault)
  | .object members _ =>
    match members with
    | .done stop => .error (.fault ⟨.keyNotString, stop⟩)
    | .broken faults => .error (.fault faults.used)
    | .member (.error fault) _ _ _ => .error (.fault fault)
    | .member (.ok name) places value rest => do
      let a ← named? names name places.key
      let _ ← unit.read value
      match rest with
      | .done _ => return a
      | .member .. => throw (.fault ⟨.expectedValue, places.next⟩)
      | .broken faults =>
        throw (.fault (if faults.used.kind = .endInObject then faults.used
          else ⟨.expectedValue, places.next⟩))
  | .broken faults => .error (.fault faults.named)
  | .null span | .bool _ span | .number _ span =>
    .error (.fault ⟨.expectedValue, span.start + 1⟩)
  | .array _ start => .error (.fault ⟨.expectedValue, start + 1⟩)

def choice {α : Type} (names : List (String × α)) (name : α → String) : Codec α where
  write a := .string (name a)
  read := readNamed names

/-! ## Lists and maps -/

def readItems {α : Type} (read : Tree → Except Problem α) : Items → Except Problem (List α)
  | .done _ => .ok []
  | .broken faults => .error (.fault faults.used)
  | .item _ tree rest => do
    let a ← read tree
    let more ← readItems read rest
    return a :: more

def list {α : Type} (codec : Codec α) : Codec (List α) where
  write xs := .array (xs.map codec.write)
  read
    | .array items _ => readItems codec.read items
    | tree => .error (tree.refuse "a sequence")

def readEntries (entries : List (String × String)) : Members → Except Problem StringMap
  | .done _ => .ok (StringMap.ofList entries.reverse)
  | .broken faults => .error (.fault faults.used)
  | .member (.error fault) _ _ _ => .error (.fault fault)
  | .member (.ok key) _ tree rest =>
    match string.read tree with
    | .ok value => readEntries ((key, value) :: entries) rest
    | .error problem => .error problem

/-- Maps from strings to strings; of two members with one key the later counts. -/
def stringMap : Codec StringMap where
  write m := .object (m.toList.map fun e => (e.1, .string e.2))
  read
    | .object members _ => readEntries [] members
    | tree => .error (tree.refuse "a map")

/-! ## Values of any shape -/

mutual

/-- Any value, nested at most `levels` deep; the members of objects come in the order of their
keys. -/
def readAny (levels : Nat) : Tree → Except Problem Value
  | .null _ => .ok .null
  | .bool b _ => .ok (.bool b)
  | .number (.ok n) _ => .ok (.number n)
  | .number (.error fault) _ => .error (.fault fault)
  | .string (.ok s) _ => .ok (.string s)
  | .string (.error fault) _ => .error (.fault fault)
  | .array items start =>
    if levels = 0 then .error (.fault ⟨.nestedTooDeeply, start + 1⟩)
    else (readAnyItems (levels - 1) items).map .array
  | .object members start =>
    if levels = 0 then .error (.fault ⟨.nestedTooDeeply, start + 1⟩)
    else (readAnyMembers (levels - 1) [] members).map .object
  | .broken faults => .error (.fault faults.used)

def readAnyItems (levels : Nat) : Items → Except Problem (List Value)
  | .done _ => .ok []
  | .broken faults => .error (.fault faults.used)
  | .item _ tree rest => do
    let v ← readAny levels tree
    let more ← readAnyItems levels rest
    return v :: more

def readAnyMembers (levels : Nat) (before : List (String × Value)) :
    Members → Except Problem (List (String × Value))
  | .done _ => .ok before
  | .broken faults => .error (.fault faults.used)
  | .member (.error fault) _ _ _ => .error (.fault fault)
  | .member (.ok key) _ tree rest => do
    let v ← readAny levels tree
    readAnyMembers levels (Value.insertMember key v before) rest

end

def any (levels : Nat) : Codec Value where
  write := id
  read := readAny levels

end Codec

end Json
end CloudReconcile
