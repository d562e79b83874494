import CloudReconcile.Json.Value

/-!
# The same JSON

Objects have no order among their members.  Two values are the same JSON if they are equal once the
members of all their objects are put in the order of their keys.
-/

namespace CloudReconcile
namespace Json
namespace Value

mutual

/-- The value with the members of every object in the order of their keys; of two members with one
key the first counts, as it does when a member is looked up. -/
def sorted : Value → Value
  | .array items => .array (sortedItems items)
  | .object members => .object (sortedMembers members)
  | v => v

def sortedItems : List Value → List Value
  | [] => []
  | v :: vs => sorted v :: sortedItems vs

def sortedMembers : List (String × Value) → List (String × Value)
  | [] => []
  | (key, v) :: rest => insertMember key (sorted v) (sortedMembers rest)

end

@[simp] theorem sorted_null : sorted .null = .null := by rw [sorted] <;> simp

theorem members_sorted (v : Value) : v.sorted.members = sortedMembers v.members := by
  cases v <;> simp [sorted, members, sortedMembers]

end Value
end Json
end CloudReconcile
