import CloudReconcile.Json.Value

/-!
# Merge patches

A merge patch is a JSON value that tells how another one changes.  An object changes the members
that it names: `null` takes a member away, an object is merged into the member, and any other value
takes its place.  Members that it does not name stay as they are.
-/

namespace CloudReconcile
namespace Json
namespace Value

mutual

def patched (target : Value) : Value → Value
  | .object changes => .object (patchedMembers target.members changes)
  | patch => patch

def patchedMembers (members : List (String × Value)) :
    List (String × Value) → List (String × Value)
  | [] => members
  | (key, .null) :: rest => patchedMembers (eraseMember key members) rest
  | (key, patch) :: rest =>
    patchedMembers
      (setMember key (patched ((members.lookup key).getD .null) patch) members) rest

end

theorem lookup_patchedMembers_of_unnamed {k : String} (changes : List (String × Value))
    (unnamed : ∀ change ∈ changes, change.1 ≠ k) (members : List (String × Value)) :
    (patchedMembers members changes).lookup k = members.lookup k := by
  induction changes generalizing members with
  | nil => rw [patchedMembers]
  | cons change rest ih =>
    obtain ⟨key, patch⟩ := change
    have other : k ≠ key := (unnamed _ List.mem_cons_self).symm
    have ih := ih fun c hc => unnamed c (List.mem_cons_of_mem _ hc)
    cases patch <;>
      simp [patchedMembers, ih, lookup_setMember, lookup_eraseMember, other]

end Value
end Json
end CloudReconcile
