import CloudReconcile.Remote.Call

/-!
# Remote objects in memory

A remote system that keeps its objects by identity.  It counts its calls, can be told to fail, and
can stamp each object that is put.
-/

namespace CloudReconcile

/-- A remote system in memory. -/
structure Memory (K : Kind) where
  objects : K.Identity → Option K.Remote
  /-- The failure of every call of a sort. -/
  failures : Operation → Option RemoteError
  calls : Operation → Nat
  writes : Nat
  /-- What happens to an object that is put, given the number of writes. -/
  stamp : K.Remote → Nat → K.Remote

namespace Memory

variable {K : Kind}

def empty : Memory K :=
  { objects := fun _ => none, failures := fun _ => none, calls := fun _ => 0, writes := 0
    stamp := fun r _ => r }

def insert (m : Memory K) (id : K.Identity) (r : K.Remote) : Memory K :=
  { m with objects := fun id' => if id' = id then some r else m.objects id' }

def erase (m : Memory K) (id : K.Identity) : Memory K :=
  { m with objects := fun id' => if id' = id then none else m.objects id' }

def fail (m : Memory K) (operation : Operation) (e : RemoteError) : Memory K :=
  { m with failures := fun o => if o = operation then some e else m.failures o }

def clear (m : Memory K) (operation : Operation) : Memory K :=
  { m with failures := fun o => if o = operation then none else m.failures o }

def count (m : Memory K) (operation : Operation) : Memory K :=
  { m with calls := fun o => if o = operation then m.calls o + 1 else m.calls o }

def missing (id : K.Identity) : RemoteError := .notFound (K.describe id)

/-- Put the object that the parameters ask for, starting from the one that is there. -/
def put (m : Memory K) (params : K.Params) : K.Remote × Memory K :=
  let id := K.identity params
  let writes := m.writes + 1
  let next := m.stamp (K.project params ((m.objects id).getD K.blank)) writes
  (next, { m.insert id next with writes })

/-- No call is told to fail, and objects are kept as they are put. -/
structure IsPlain (m : Memory K) : Prop where
  failures : ∀ operation, m.failures operation = none
  stamp : ∀ r n, m.stamp r n = r

/-- What a call does when nothing makes it fail. -/
def perform : Adapter K (Memory K)
  | .get id, m =>
    match m.objects id with
    | some r => (.ok r, m)
    | none => (.error (missing id), m)
  | .put params, m =>
    let (r, m) := m.put params
    (.ok r, m)
  | .delete id, m =>
    match m.objects id with
    | some _ => (.ok (), m.erase id)
    | none => (.error (missing id), m)

def answer : Adapter K (Memory K) := fun c m =>
  let m := m.count c.operation
  match m.failures c.operation with
  | some e => (.error e, m)
  | none => perform c m

/-- The failures of single calls, given how many of each sort there were before. -/
abbrev Pattern := (Operation → Nat) → Operation → Option RemoteError

/-- A memory whose calls fail by a pattern. -/
def failing (pattern : Pattern) : Adapter K (Memory K) := fun c m =>
  answer c { m with failures := pattern m.calls }

/-- Put the same parameters so many times: what is answered, and the memory in the end. -/
def puts (pattern : Pattern) (params : K.Params) :
    Nat → Memory K → List (Except RemoteError K.Remote) × Memory K
  | 0, m => ([], m)
  | n + 1, m =>
    let (answer, m) := failing pattern (.put params) m
    let (answers, final) := puts pattern params n m
    (answer :: answers, final)

/-- The objects that were answered, in order. -/
def written (answers : List (Except RemoteError K.Remote)) : List K.Remote :=
  answers.filterMap Except.toOption

end Memory

end CloudReconcile
