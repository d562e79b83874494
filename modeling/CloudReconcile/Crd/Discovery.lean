import CloudReconcile.Declaration
import CloudReconcile.Http.Target

/-!
# What a cluster serves

A cluster serves groups of kinds in several versions, one of which it recommends: the preferred
one, or else the most stable and then the newest.
-/

namespace CloudReconcile
namespace Crd

structure ServedVersion where
  name : String
  kinds : List String
deriving DecidableEq, Repr

/-- The version can be asked for: its name can stand in a path. -/
def ServedVersion.isAddressable (v : ServedVersion) : Bool :=
  let path := "/apis/" ++ apiGroup ++ "/" ++ v.name
  Http.OriginForm.parse? path = some ⟨path, none⟩

structure ServedGroup where
  name : String
  preferred : Option String
  versions : List ServedVersion
deriving DecidableEq, Repr

/-- The group can be looked into.  Each of its versions is asked for, and it must have one. -/
def ServedGroup.isDiscoverable (g : ServedGroup) : Bool :=
  !g.versions.isEmpty && g.versions.all ServedVersion.isAddressable

inductive Stability where
  | other
  | alpha
  | beta
  | stable
deriving DecidableEq, Repr

namespace Stability

def rank : Stability → Nat
  | .other => 0
  | .alpha => 1
  | .beta => 2
  | .stable => 3

end Stability

/-- The meaning of a version's name. -/
structure VersionRank where
  stability : Stability
  major : Nat
  minor : Option Nat
  name : String
deriving DecidableEq, Repr

namespace VersionRank

/-- A number of 32 bits; a plus sign may stand before it. -/
def number? (text : List Char) : Option Nat :=
  let digits := if text.head? = some '+' then text.drop 1 else text
  if digits.isEmpty ∨ !digits.all Char.isDigit then none
  else
    let n := digits.foldl (fun n c => n * 10 + (c.toNat - 0x30)) 0
    if n < Nat.pow 2 32 then some n else none

/-- A stage of development with its number, which may be missing. -/
def stage? (stability : Stability) (word : String) (major : Nat) (rest : List Char) :
    Option VersionRank :=
  let word := word.toList
  if word.isPrefixOf rest then
    match rest.drop word.length with
    | [] => some ⟨stability, major, none, ""⟩
    | digits => (number? digits).map fun minor => ⟨stability, major, some minor, ""⟩
  else none

def conformant? (name : String) : Option VersionRank :=
  match name.toList with
  | 'v' :: rest => do
    let digits := rest.takeWhile Char.isDigit
    let major ← number? digits
    match rest.drop digits.length with
    | [] => some ⟨.stable, major, none, ""⟩
    | tail =>
      (stage? .alpha "alpha" major tail).or (stage? .beta "beta" major tail)
  | _ => none

def ofName (name : String) : VersionRank :=
  (conformant? name).getD ⟨.other, 0, none, name⟩

def minorRank : Option Nat → Nat
  | none => 0
  | some n => n + 1

/-- The first version comes before the second one: it is more stable, or newer.  Names without a
meaning come in the order of the alphabet. -/
def precedes (a b : VersionRank) : Bool :=
  if a.stability ≠ b.stability then b.stability.rank < a.stability.rank
  else if a.major ≠ b.major then b.major < a.major
  else if a.minor ≠ b.minor then minorRank b.minor < minorRank a.minor
  else a.name < b.name

end VersionRank

namespace ServedGroup

def latest? (g : ServedGroup) : Option String :=
  (g.versions.foldl (fun best v =>
    match best with
    | none => some v.name
    | some b =>
      if (VersionRank.ofName v.name).precedes (.ofName b) then some v.name else some b) none)

def recommended? (g : ServedGroup) : Option String := g.preferred.or g.latest?

/-- The kinds that a version serves; the first one of that name counts. -/
def kindsAt (g : ServedGroup) (version : String) : List String :=
  ((g.versions.find? fun v => v.name = version).map ServedVersion.kinds).getD []

/-- The kinds that the recommended version serves, if it is the one that the operator uses. -/
def servedKinds (g : ServedGroup) : List String :=
  if g.recommended? = some apiVersion then g.kindsAt apiVersion else []

end ServedGroup

def askedGroups (groups : List ServedGroup) : List ServedGroup :=
  groups.filter fun g => g.name = apiGroup

/-- The kinds among those that are needed which the cluster does not serve yet. -/
def missingKinds (groups : List ServedGroup) (needed : List String) : List String :=
  let served := (askedGroups groups).flatMap ServedGroup.servedKinds
  needed.filter fun kind => !served.contains kind

end Crd
end CloudReconcile
