import CloudReconcile.Json.Outline
import CloudReconcile.Json.Record

/-!
# Objects that grow

An object grows when members are added to it anywhere among those that it has.  What may be added is
said in terms of the reader: members that it does not know, and some that it does.
-/

namespace CloudReconcile
namespace Json

/-- A member with a value of its own, so `null` is none. -/
def Known.ofCodec {α : Type} (key : String) (codec : Codec α) : Known :=
  ⟨key, fun t => (codec.read t).map fun _ => ()⟩

/-- The later members are the earlier ones and some more.  `may` says which may join them, and
`into` which members may become which. -/
inductive Grows (may : String → Tree → Prop) (into : String → Tree → Tree → Prop) :
    List (String × Tree) → List (String × Tree) → Prop where
  | done : Grows may into [] []
  | keep {es es' : List (String × Tree)} {key : String} {t t' : Tree}
      (same : t'.outline = t.outline) (rest : Grows may into es es') :
      Grows may into ((key, t) :: es) ((key, t') :: es')
  | become {es es' : List (String × Tree)} {key : String} {t t' : Tree} (other : into key t t')
      (rest : Grows may into es es') : Grows may into ((key, t) :: es) ((key, t') :: es')
  | join {es es' : List (String × Tree)} {key : String} {t : Tree} (allowed : may key t)
      (rest : Grows may into es es') : Grows may into es ((key, t) :: es')

/-- Members that a reader does not know may be anything that can be skipped. -/
def Ignored (known : List String) (key : String) (t : Tree) : Prop :=
  key ∉ known ∧ t.skipFault = none

def Spare (spare : List Known) (key : String) (t : Tree) : Prop :=
  ∃ s ∈ spare, s.key = key ∧ s.check t = .ok ()

/-- The members `es` grow to `es'` for a reader that knows the members `known`.  New members have
new keys, and no known one comes twice. -/
structure Grown (known : List String) (spare : List Known) (new : String → Tree → Prop)
    (into : String → Tree → Tree → Prop) (es es' : List (String × Tree)) : Prop where
  grows : Grows
    (fun key t => key ∉ es.map (·.1) ∧
      (Ignored known key t ∨ Spare spare key t ∨ new key t)) into es es'
  once : ((es'.map (·.1)).filter (· ∈ known)).Nodup

/-- The members grow, but only by what is spare and what is not known. -/
def Enriched (known : List String) (spare : List Known) (es es' : List (String × Tree)) : Prop :=
  Grown known spare (fun _ _ => False) (fun _ _ _ => False) es es'

/-- The tree is an object with these members and nothing else. -/
def Tree.Holds (t : Tree) (es : List (String × Tree)) : Prop :=
  ∃ members start, t = .object members start ∧ members.entries? = some es

end Json
end CloudReconcile
