import CloudReconcile.Json.Record

/-!
# Wishes of a declaration

A declaration can say nothing about a property, ask for it to be absent, or give it a value.  Only
where it says nothing does the remote system decide.
-/

namespace CloudReconcile

/-- What a declaration says about one property. -/
inductive Field (α : Type) where
  | unset
  | empty
  | set (value : α)
deriving DecidableEq, Repr

namespace Field

instance {α : Type} : Inhabited (Field α) := ⟨.unset⟩

def isUnset {α : Type} : Field α → Bool
  | .unset => true
  | _ => false

def toOption {α : Type} : Field α → Option α
  | .set a => some a
  | _ => none

/-- Take over an observed value where the declaration says nothing. -/
def lateInit {α : Type} (f : Field α) (observed : Option α) : Field α :=
  match f, observed with
  | .unset, some a => .set a
  | f, _ => f

/-- What the property becomes when the wish is granted. -/
def project {α : Type} (f : Field α) (remote : Option α) : Option α :=
  match f with
  | .unset => remote
  | .empty => none
  | .set a => some a

/-! ## Taking over and granting -/

@[simp] theorem lateInit_none {α : Type} (f : Field α) : f.lateInit none = f := by
  cases f <;> rfl

@[simp] theorem lateInit_lateInit {α : Type} (f : Field α) (o : Option α) :
    (f.lateInit o).lateInit o = f.lateInit o := by
  cases f <;> cases o <;> rfl

@[simp] theorem project_project {α : Type} (f : Field α) (o : Option α) :
    f.project (f.project o) = f.project o := by
  cases f <;> rfl

@[simp] theorem lateInit_project {α : Type} (f : Field α) (o : Option α) :
    (f.lateInit o).lateInit ((f.lateInit o).project o) = f.lateInit o := by
  cases f <;> cases o <;> rfl

@[simp] theorem lateInit_granted {α : Type} (f : Field α) (o : Option α) :
    f.lateInit ((f.lateInit o).project o) = f.lateInit o := by
  cases f <;> cases o <;> rfl

/-- Once the observed value has been taken over, what the wish makes of it does not depend on it. -/
theorem project_lateInit_eq {α : Type} (f : Field α) (o : Option α) :
    (f.lateInit o).project o = (f.lateInit o).project none := by
  cases f <;> cases o <;> rfl

/-- What is taken over is there already, so granting it changes no more than granting the wish. -/
theorem project_lateInit {α : Type} (f : Field α) (o : Option α) :
    (f.lateInit o).project o = f.project o := by
  cases f <;> cases o <;> rfl

/-- Another value where there is one. -/
def replace {α : Type} (f : Field α) (value : α) : Field α :=
  match f with
  | .set _ => .set value
  | f => f

def write {α : Type} (codec : Json.Codec α) (f : Field α) : Json.Value :=
  codec.nullable.write f.toOption

/-- A wish that is written down: `null` asks for absence. -/
def read {α : Type} (codec : Json.Codec α) (tree : Json.Tree) :
    Except Json.Problem (Field α) := do
  match ← codec.nullable.read tree with
  | some a => return .set a
  | none => return .empty

/-- A property of a record; where the declaration says nothing there is no member. -/
def member {ρ α : Type} (key : String) (codec : Json.Codec α) (get : ρ → Field α) :
    Json.Record ρ (Field α) :=
  Json.Record.member key (read codec) (fun _ => some .unset) fun r =>
    if (get r).isUnset then none else some ((get r).write codec)

end Field

end CloudReconcile
