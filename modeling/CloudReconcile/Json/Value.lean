import CloudReconcile.Decimal.Shortest

/-!
# JSON values

An object is the list of its members in the order in which they are written.  Equality of values
is decidable; `Value.same_iff` is the reason.
-/

namespace CloudReconcile
namespace Json

open Decimal (Binary64)

/-- A number: an integer, or a binary number given by its sign and magnitude. -/
inductive Number where
  | integer (n : Int)
  | float (negative : Bool) (magnitude : Binary64)
deriving DecidableEq, Repr

inductive Value where
  | null
  | bool (b : Bool)
  | number (n : Number)
  | string (s : String)
  | array (items : List Value)
  | object (members : List (String × Value))

instance : Inhabited Value := ⟨.null⟩

namespace Value

def nat (n : Nat) : Value := .number (.integer n)

mutual

def same : Value → Value → Bool
  | .null, .null => true
  | .bool a, .bool b => a = b
  | .number a, .number b => a = b
  | .string a, .string b => a = b
  | .array xs, .array ys => sameItems xs ys
  | .object xs, .object ys => sameMembers xs ys
  | _, _ => false

def sameItems : List Value → List Value → Bool
  | [], [] => true
  | x :: xs, y :: ys => same x y && sameItems xs ys
  | _, _ => false

def sameMembers : List (String × Value) → List (String × Value) → Bool
  | [], [] => true
  | (k, x) :: xs, (l, y) :: ys => k = l && same x y && sameMembers xs ys
  | _, _ => false

end

mutual

theorem same_iff : ∀ v w : Value, same v w = true ↔ v = w
  | .null, w => by cases w <;> simp [same]
  | .bool a, w => by cases w <;> simp [same]
  | .number a, w => by cases w <;> simp [same]
  | .string a, w => by cases w <;> simp [same]
  | .array xs, w => by
    cases w with
    | array ys => simp [same, sameItems_iff xs ys]
    | _ => simp [same]
  | .object xs, w => by
    cases w with
    | object ys => simp [same, sameMembers_iff xs ys]
    | _ => simp [same]

theorem sameItems_iff : ∀ xs ys : List Value, sameItems xs ys = true ↔ xs = ys
  | [], ys => by cases ys <;> simp [sameItems]
  | x :: xs, ys => by
    cases ys with
    | nil => simp [sameItems]
    | cons y ys => simp [sameItems, same_iff x y, sameItems_iff xs ys]

theorem sameMembers_iff : ∀ xs ys : List (String × Value), sameMembers xs ys = true ↔ xs = ys
  | [], ys => by cases ys <;> simp [sameMembers]
  | (k, x) :: xs, ys => by
    cases ys with
    | nil => simp [sameMembers]
    | cons y ys =>
      obtain ⟨l, y⟩ := y
      simp [sameMembers, same_iff x y, sameMembers_iff xs ys]

end

instance : DecidableEq Value := fun v w =>
  decidable_of_iff (same v w = true) (same_iff v w)

def member? (v : Value) (key : String) : Option Value :=
  match v with
  | .object members => members.lookup key
  | _ => none

/-! ## Members in the order of their keys -/

/-- Put a member in its place among members in the order of their keys. -/
def insertMember (key : String) (value : Value) :
    List (String × Value) → List (String × Value)
  | [] => [(key, value)]
  | (k, v) :: rest =>
    if key < k then (key, value) :: (k, v) :: rest
    else if key = k then (key, value) :: rest
    else (k, v) :: insertMember key value rest

/-! ## Members by their keys -/

theorem lookup_cons_eq_ite (key : String) (value : Value) (k : String)
    (members : List (String × Value)) :
    ((key, value) :: members).lookup k = if k = key then some value else members.lookup k := by
  by_cases h : k = key
  · simp [h]
  · have : (k == key) = false := beq_eq_false_iff_ne.2 h
    simp [List.lookup_cons, this, h]

/-- Give a member a value where it stands; a new member comes last. -/
def setMember (key : String) (value : Value) : List (String × Value) → List (String × Value)
  | [] => [(key, value)]
  | (k, v) :: rest =>
    if key = k then (key, value) :: rest else (k, v) :: setMember key value rest

theorem lookup_setMember (key : String) (value : Value) (k : String)
    (members : List (String × Value)) :
    (setMember key value members).lookup k = if k = key then some value else members.lookup k := by
  induction members with
  | nil => rw [setMember, lookup_cons_eq_ite]
  | cons member rest ih =>
    obtain ⟨l, v⟩ := member
    rw [setMember]
    split
    · rename_i eq
      subst eq
      simp only [lookup_cons_eq_ite]
      split <;> rfl
    · rename_i ne
      simp only [lookup_cons_eq_ite, ih]
      by_cases h : k = l
      · simp [h, Ne.symm ne]
      · simp [h]

def eraseMember (key : String) (members : List (String × Value)) : List (String × Value) :=
  members.filter fun m => m.1 ≠ key

theorem lookup_eraseMember (key k : String) (members : List (String × Value)) :
    (eraseMember key members).lookup k = if k = key then none else members.lookup k := by
  induction members with
  | nil => simp [eraseMember]
  | cons member rest ih =>
    obtain ⟨l, v⟩ := member
    simp only [eraseMember] at ih
    by_cases erased : l = key
    · simp only [eraseMember, List.filter_cons, erased, ne_eq, not_true_eq_false, decide_false,
        Bool.false_eq_true, if_false, lookup_cons_eq_ite, ih]
      split <;> rfl
    · simp only [eraseMember, List.filter_cons, erased, ne_eq, not_false_eq_true, decide_true,
        if_true, lookup_cons_eq_ite, ih]
      by_cases h : k = l
      · simp [h, erased]
      · simp [h]

/-- The members of an object; any other value has none. -/
def members : Value → List (String × Value)
  | .object members => members
  | _ => []

end Value

end Json
end CloudReconcile
