import CloudReconcile.Json.Codec

/-!
# Records in JSON

A record is a list of members in the order of its declaration.  It is written as an object.  It is
read from an object, whose members may come in any order and may hold more than the record knows,
or from an array that holds the members in their order.  `Record ρ α` writes a `ρ` and reads an
`α`; the two are the same type once all members are put together.
-/

namespace CloudReconcile
namespace Json

/-- What a record was read from. -/
inductive Form where
  | keyed
  | positional
deriving DecidableEq, Repr

inductive Lack where
  | missing (key : String)
  | problem (problem : Problem)
deriving DecidableEq

structure Known where
  key : String
  check : Tree → Except Problem Unit

/-- Some members of a record. -/
structure Record (ρ α : Type) where
  known : List Known
  write : ρ → List (String × Value)
  build : Form → (String → Option Tree) → Except Lack α

namespace Record

/-! ## Putting records together -/

def nothing {ρ α : Type} (a : α) : Record ρ α where
  known := []
  write _ := []
  build _ _ := .ok a

def both {ρ α β : Type} (f : Record ρ (α → β)) (x : Record ρ α) : Record ρ β where
  known := f.known ++ x.known
  write r := f.write r ++ x.write r
  build form found := do
    let g ← f.build form found
    let a ← x.build form found
    return g a

instance {ρ : Type} : Applicative (Record ρ) where
  pure := nothing
  seq f x := both f (x ())

/-- One member: how it is read, what it is when it is missing, and how it is written. -/
def member {ρ α : Type} (key : String) (read : Tree → Except Problem α)
    (absent : Form → Option α) (write : ρ → Option Value) : Record ρ α where
  known := [⟨key, fun tree => (read tree).map fun _ => ()⟩]
  write r := ((write r).map fun v => (key, v)).toList
  build form found :=
    match found key with
    | some tree => (read tree).mapError .problem
    | none =>
      match absent form with
      | some a => .ok a
      | none => .error (.missing key)

def required {ρ α : Type} (key : String) (codec : Codec α) (get : ρ → α) : Record ρ α :=
  member key codec.read (fun _ => none) (fun r => some (codec.write (get r)))

/-- A member that is left out when there is no value; `null` says the same. -/
def optional {ρ α : Type} (key : String) (codec : Codec α) (get : ρ → Option α) :
    Record ρ (Option α) :=
  member key codec.nullable.read (fun _ => some none) (fun r => (get r).map codec.write)

/-- Like `optional`, but an array must hold it. -/
def placed {ρ α : Type} (key : String) (codec : Codec α) (get : ρ → Option α) :
    Record ρ (Option α) :=
  member key codec.nullable.read
    (fun form => if form = .keyed then some none else none)
    (fun r => (get r).map codec.write)

def defaulted {ρ α : Type} (key : String) (codec : Codec α) (value : α) (get : ρ → α) :
    Record ρ α :=
  member key codec.read (fun _ => some value) (fun r => some (codec.write (get r)))

/-- A list that is left out when it is empty. -/
def listed {ρ α : Type} (key : String) (codec : Codec α) (get : ρ → List α) :
    Record ρ (List α) :=
  member key codec.list.read (fun _ => some []) fun r =>
    match get r with
    | [] => none
    | xs => some (codec.list.write xs)

/-! ## Reading -/

/-- How a record may be written. -/
structure Style where
  expected : String
  /-- An array of the members will do. -/
  positional : Bool
  /-- A member may come twice; the later one counts. -/
  repeats : Bool

def Style.struct (name : String) : Style := ⟨"struct " ++ name, true, false⟩

def Style.elements (style : Style) (count : Nat) : String :=
  style.expected ++ " with " ++ Decimal.natText count ++
    (if count = 1 then " element" else " elements")

/-- Collect the known members of an object, the last one first, and where the object ends. -/
def gather (repeats : Bool) (known : List Known) (found : List (String × Tree)) :
    Members → Except Problem (List (String × Tree) × Nat)
  | .done stop => .ok (found, stop)
  | .broken faults => .error (.fault faults.used)
  | .member (.error fault) _ _ _ => .error (.fault fault)
  | .member (.ok key) places tree rest =>
    match known.find? (fun k => k.key = key) with
    | none =>
      match tree.skipFault with
      | some fault => .error (.fault fault)
      | none => gather repeats known found rest
    | some k =>
      if !repeats && found.any (fun e => e.1 = key) then
        .error (.mismatch (.duplicateField key) places.colon)
      else
        match k.check tree with
        | .error problem => .error problem
        | .ok () => gather repeats known ((key, tree) :: found) rest

def gatherItems (found : List (String × Tree)) :
    List Known → Items → Except Problem (List (String × Tree) × Nat)
  | [], .done stop => .ok (found, stop)
  | [], .item start _ _ => .error (.fault ⟨.trailingCharacters, start + 1⟩)
  | [], .broken faults =>
    .error (.fault (if faults.used.kind = .endInList ∨ faults.used.kind = .trailingComma
      then faults.used else ⟨.trailingCharacters, faults.used.offset⟩))
  | _ :: _, .done stop => .ok (found, stop)
  | _ :: _, .broken faults => .error (.fault faults.used)
  | k :: more, .item _ tree rest =>
    match k.check tree with
    | .error problem => .error problem
    | .ok () => gatherItems ((k.key, tree) :: found) more rest

/-- Put the record together from what was found. -/
def assemble {ρ α : Type} (record : Record ρ α) (style : Style) (form : Form)
    (found : List (String × Tree)) (stop : Nat) : Except Problem α :=
  match record.build form (fun key => found.lookup key) with
  | .ok a => .ok a
  | .error (.problem problem) => .error problem
  | .error (.missing key) =>
    match form with
    | .keyed => .error (.mismatch (.missingField key) stop)
    | .positional =>
      let place := record.known.findIdx (fun k => k.key = key)
      .error (.mismatch (.invalidLength place (style.elements record.known.length)) stop)

def read {ρ α : Type} (record : Record ρ α) (style : Style) (tree : Tree) :
    Except Problem α :=
  match tree with
  | .object members _ =>
    match gather style.repeats record.known [] members with
    | .ok (found, stop) => record.assemble style .keyed found stop
    | .error problem => .error problem
  | .array items start =>
    if style.positional then
      match gatherItems [] record.known items with
      | .ok (found, stop) => record.assemble style .positional found stop
      | .error problem => .error problem
    else .error ((Tree.array items start).refuse style.expected)
  | tree => .error (tree.refuse style.expected)

def codec {α : Type} (record : Record α α) (style : Style) : Codec α where
  write a := .object (record.write a)
  read := record.read style

end Record

end Json
end CloudReconcile
