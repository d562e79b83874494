import CloudReconcile.Status.Condition

/-!
# Status of a resource

The conditions of a resource and what the provider reports about its remote object.
-/

namespace CloudReconcile

/-- Conditions in the order of their first mention, and what the provider reports. -/
structure Status (ω : Type) where
  conditions : List Condition
  atProvider : ω
deriving DecidableEq, Repr

namespace Status

variable {ω : Type}

def blank (atProvider : ω) : Status ω := ⟨[], atProvider⟩

/-- Put a condition in the place of the first one of its type, else at the end. -/
def setIn (c : Condition) : List Condition → List Condition
  | [] => [c]
  | d :: rest => if d.type = c.type then c :: rest else d :: setIn c rest

def set (s : Status ω) (c : Condition) : Status ω :=
  { s with conditions := setIn c s.conditions }

def condition? (s : Status ω) (type : String) : Option Condition :=
  s.conditions.find? fun c => c.type = type

theorem set_ne_nil (s : Status ω) (c : Condition) : (s.set c).conditions ≠ [] := by
  show setIn c s.conditions ≠ []
  cases s.conditions with
  | nil => exact List.cons_ne_nil _ _
  | cons d rest =>
      unfold setIn
      split <;> exact List.cons_ne_nil _ _

theorem condition?_set_self (s : Status ω) (c : Condition) :
    (s.set c).condition? c.type = some c := by
  show (setIn c s.conditions).find? _ = _
  induction s.conditions with
  | nil => simp [setIn]
  | cons d rest ih =>
      unfold setIn
      split <;> simp [*]

theorem condition?_set_of_ne (s : Status ω) {c : Condition} {type : String} (h : c.type ≠ type) :
    (s.set c).condition? type = s.condition? type := by
  show (setIn c s.conditions).find? _ = s.conditions.find? _
  induction s.conditions with
  | nil => simp [setIn, h]
  | cons d rest ih =>
      unfold setIn
      split
      · rename_i same
        simp [same, h]
      · simp only [List.find?_cons, ih]

theorem set_of_condition? {s : Status ω} {c : Condition} (h : s.condition? c.type = some c) :
    s.set c = s := by
  suffices ∀ cs : List Condition, cs.find? (fun d => d.type = c.type) = some c → setIn c cs = cs by
    rw [set, this _ h]
  intro cs found
  induction cs with
  | nil => cases found
  | cons d rest ih =>
      unfold setIn
      split
      · rename_i same
        simp only [List.find?_cons, same, decide_true] at found
        rw [Option.some.inj found]
      · rename_i other
        simp only [List.find?_cons, other, decide_false] at found
        rw [ih found]

/-- A choice of conditions with none of that type among them does not see it being set. -/
theorem filter_setIn {c : Condition} {chosen : Condition → Bool}
    (other : ∀ d : Condition, d.type = c.type → chosen d = false) (cs : List Condition) :
    (setIn c cs).filter chosen = cs.filter chosen := by
  induction cs with
  | nil => simp [setIn, other c rfl]
  | cons d rest ih =>
      unfold setIn
      split
      · rename_i same
        simp [other c rfl, other d same]
      · simp only [List.filter_cons, ih]

def isAvailable (s : Status ω) : Bool :=
  (s.condition? Condition.ready).any fun c => c.isTrue && c.reason = "Available"

/-- A slot of a report: the first value that is seen stays. -/
def fill {α : Type} (slot seen : Option α) : Option α := slot.or seen

def record (codec : Json.Codec ω) (blank : ω) : Json.Record (Status ω) (Status ω) :=
  Status.mk <$> Json.Record.listed "conditions" Condition.codec (·.conditions)
    <*> Json.Record.defaulted "atProvider" codec blank (·.atProvider)

def codec (observation : Json.Codec ω) (blank : ω) : Json.Codec (Status ω) :=
  (record observation blank).codec (.struct "ManagedStatus")

end Status

end CloudReconcile
