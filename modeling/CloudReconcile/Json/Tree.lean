import CloudReconcile.Json.Value
import CloudReconcile.Json.Fault

/-!
# JSON text as far as it can be read

A tree is the outcome of reading a text that may stop being JSON anywhere.  What breaks is a leaf
of the tree, so a reader of typed values decides in which order problems count: it meets a fault
only when it gets there.  Some faults depend on the use: a number out of range or a string with a
lone surrogate is fine as long as the value is skipped.  Offsets count the bytes read so far.
-/

namespace CloudReconcile
namespace Json

structure Span where
  start : Nat
  stop : Nat
deriving DecidableEq, Repr

/-- What is wrong where no value can be read, by what was wanted there. -/
structure Faults where
  used : Fault
  skipped : Fault
  named : Fault
  /-- The text begins like `null`, so where there may be none it counts as a value. -/
  nullish : Bool
deriving DecidableEq, Repr

namespace Faults

def always (fault : Fault) : Faults := ⟨fault, fault, fault, false⟩

/-- What is wrong where a value or `null` is read. -/
def orNull (faults : Faults) : Faults :=
  if faults.nullish then always faults.used else faults

end Faults

/-- Where the parts of a member lie. -/
structure Places where
  key : Nat
  /-- Where its colon stands, or where a brace in its place ends. -/
  colon : Nat
  next : Nat
deriving DecidableEq, Repr

namespace Places

def none : Places := ⟨0, 0, 0⟩

end Places

mutual

inductive Tree where
  | null (span : Span)
  | bool (b : Bool) (span : Span)
  | number (n : Except Fault Number) (span : Span)
  | string (s : Except Fault String) (span : Span)
  | array (items : Items) (start : Nat)
  | object (members : Members) (start : Nat)
  | broken (faults : Faults)

inductive Items where
  | done (stop : Nat)
  | item (start : Nat) (value : Tree) (rest : Items)
  | broken (faults : Faults)

inductive Members where
  | done (stop : Nat)
  | member (key : Except Fault String) (places : Places) (value : Tree) (rest : Members)
  | broken (faults : Faults)

end

mutual

/-- The fault met when the value is skipped. -/
def Tree.skipFault : Tree → Option Fault
  | .array items _ => items.skipFault
  | .object members _ => members.skipFault
  | .broken faults => some faults.skipped
  | _ => none

def Items.skipFault : Items → Option Fault
  | .done _ => none
  | .item _ value rest => value.skipFault <|> rest.skipFault
  | .broken faults => some faults.skipped

def Members.skipFault : Members → Option Fault
  | .done _ => none
  | .member _ _ value rest => value.skipFault <|> rest.skipFault
  | .broken faults => some faults.skipped

end

mutual

def Tree.ofValue : Value → Tree
  | .null => .null ⟨0, 0⟩
  | .bool b => .bool b ⟨0, 0⟩
  | .number n => .number (.ok n) ⟨0, 0⟩
  | .string s => .string (.ok s) ⟨0, 0⟩
  | .array items => .array (Items.ofValues items) 0
  | .object members => .object (Members.ofPairs members) 0

def Items.ofValues : List Value → Items
  | [] => .done 0
  | v :: vs => .item 0 (Tree.ofValue v) (Items.ofValues vs)

def Members.ofPairs : List (String × Value) → Members
  | [] => .done 0
  | (key, v) :: rest => .member (.ok key) .none (Tree.ofValue v) (Members.ofPairs rest)

end

end Json
end CloudReconcile
