import CloudReconcile.Json.Tree

/-!
# Outlines

What a reader makes of a text does not depend on where its parts lie.  The outline of a tree is the
tree without that.  Nothing is said either about what is wrong with a part, only that something is,
nor about the value of a number.
-/

namespace CloudReconcile
namespace Json

/-- Something is wrong. -/
def Fault.any : Fault := ⟨.endInValue, 0⟩

def Faults.any : Faults := .always .any

mutual

def Tree.outline : Tree → Tree
  | .null _ => .null ⟨0, 0⟩
  | .bool b _ => .bool b ⟨0, 0⟩
  | .number _ _ => .number (.ok (.integer 0)) ⟨0, 0⟩
  | .string (.ok s) _ => .string (.ok s) ⟨0, 0⟩
  | .string (.error _) _ => .string (.error .any) ⟨0, 0⟩
  | .array items _ => .array items.outline 0
  | .object members _ => .object members.outline 0
  | .broken _ => .broken .any

def Items.outline : Items → Items
  | .done _ => .done 0
  | .item _ value rest => .item 0 value.outline rest.outline
  | .broken _ => .broken .any

def Members.outline : Members → Members
  | .done _ => .done 0
  | .member (.ok key) _ value rest => .member (.ok key) .none value.outline rest.outline
  | .member (.error _) _ value rest => .member (.error .any) .none value.outline rest.outline
  | .broken _ => .broken .any

end

/-- The members of an object that has an end, if all of their keys can be read. -/
def Members.entries? : Members → Option (List (String × Tree))
  | .done _ => some []
  | .member (.ok key) _ value rest => rest.entries?.map ((key, value) :: ·)
  | .member (.error _) .. => none
  | .broken _ => none

/-- The first member of a key. -/
def Members.lookup (key : String) : Members → Option Tree
  | .member (.ok k) _ value rest => if key = k then some value else rest.lookup key
  | .member (.error _) _ _ rest => rest.lookup key
  | .done _ | .broken _ => none

def Tree.member? (t : Tree) (key : String) : Option Tree :=
  match t with
  | .object members _ => members.lookup key
  | _ => none

theorem Members.lookup_outline (key : String) : ∀ members : Members,
    members.outline.lookup key = (members.lookup key).map Tree.outline
  | .done _ | .broken _ => rfl
  | .member (.error _) _ _ rest => lookup_outline key rest
  | .member (.ok k) _ value rest => by
    rw [outline, lookup, lookup]
    split
    · rfl
    · exact lookup_outline key rest

theorem Tree.member?_outline (t : Tree) (key : String) :
    t.outline.member? key = (t.member? key).map outline := by
  cases t with
  | object members start => exact members.lookup_outline key
  | string s span => cases s <;> rfl
  | _ => rfl

theorem Members.lookup_ofPairs (key : String) (ms : List (String × Value)) :
    (Members.ofPairs ms).lookup key = (ms.lookup key).map Tree.ofValue := by
  induction ms with
  | nil => rfl
  | cons m ms ih =>
      rw [Members.ofPairs, lookup, Value.lookup_cons_eq_ite]
      split
      · rfl
      · exact ih

theorem Tree.member?_ofValue (v : Value) (key : String) :
    (Tree.ofValue v).member? key = (v.member? key).map Tree.ofValue := by
  cases v with
  | object ms => exact Members.lookup_ofPairs key ms
  | _ => rfl

end Json
end CloudReconcile
