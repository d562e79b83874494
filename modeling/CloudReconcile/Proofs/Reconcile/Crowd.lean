import CloudReconcile.Proofs.Kinds.Laws
import CloudReconcile.Proofs.Remote.Memory
import CloudReconcile.Reconcile.Crowd

/-!
# Declarations of different objects do not meet

A plain memory answers a call from the object that the call is about, and changes no other object.
So it is as good as a remote system of one object for each declaration, as long as no two of them
address the same one.
-/

namespace CloudReconcile

variable {K : Kind}

namespace Memory

/-- A remote system of one object. -/
def cell : Adapter K (Option K.Remote)
  | .get id, r => (r.elim (.error (missing id)) .ok, r)
  | .put p, r =>
    let next := K.project p (r.getD K.blank)
    (.ok next, some next)
  | .delete id, r => (r.elim (.error (missing id)) fun _ => .ok (), none)

/-- Two plain memories, the second as the first but for the object of an identity. -/
structure Replaced (m : Memory K) (id : K.Identity) (r : Option K.Remote) (now : Memory K) :
    Prop where
  plain : now.IsPlain
  there : now.objects id = r
  elsewhere : ∀ other, other ≠ id → now.objects other = m.objects other

theorem Replaced.trans {m middle now : Memory K} {id : K.Identity} {r r' : Option K.Remote}
    (first : m.Replaced id r middle) (second : middle.Replaced id r' now) :
    m.Replaced id r' now where
  plain := second.plain
  there := second.there
  elsewhere other ne := (second.elsewhere other ne).trans (first.elsewhere other ne)

theorem IsPlain.replaced {m : Memory K} (h : m.IsPlain) (id : K.Identity) :
    m.Replaced id (m.objects id) m := ⟨h, rfl, fun _ _ => rfl⟩

/-- A plain memory does with the object that a call is about what a remote system of that one
object does, and nothing with the others. -/
theorem IsPlain.answer_eq {m : Memory K} (h : m.IsPlain) (c : Call K) :
    ∃ now, answer c m = ((cell c (m.objects c.identity)).1, now) ∧
      m.Replaced c.identity (cell c (m.objects c.identity)).2 now := by
  cases c with
  | get id =>
      exact ⟨_, h.answer_get id, ⟨h.failures, h.stamp⟩, rfl, fun _ _ => rfl⟩
  | put p =>
      obtain ⟨now, answered, plain, granted⟩ := h.answer_put p
      refine ⟨now, answered, plain, ?_, fun other ne => ?_⟩
      · exact (congrFun granted _).trans (granted_identity _ p)
      · exact (congrFun granted other).trans (if_neg ne)
  | delete id =>
      obtain ⟨now, answered, plain, left⟩ := h.answer_delete id
      exact ⟨now, answered, plain, (congrFun left id).trans (if_pos rfl),
        fun other ne => (congrFun left other).trans (if_neg ne)⟩

end Memory

namespace Errand

variable {σ : Type}

/-- Every call is about the object that the declaration asks for. -/
theorem call_identity (e : Errand) (d : Declaration K) : (e.step d).call.identity = d.identity := by
  cases e <;> rfl

/-- A declaration asks for the same object after a step. -/
theorem identity_next (lawful : K.Lawful) (e : Errand) (d : Declaration K)
    (answer : (e.step d).call.Result) : ((e.step d).next answer).1.identity = d.identity := by
  cases e with
  | observe =>
      cases answer with
      | ok r => exact lawful.identity_lateInit d.params r
      | error e => rfl
  | create => rfl
  | update => rfl
  | delete => cases answer <;> rfl

theorem identity_run (lawful : K.Lawful) (adapter : Adapter K σ) (e : Errand)
    (s : Declaration K × σ) : (e.run adapter s).2.1.identity = s.1.identity :=
  identity_next lawful e s.1 _

theorem run_of_answer {adapter : Adapter K σ} {e : Errand} {d : Declaration K} {s now : σ}
    {answer : (e.step d).call.Result} (h : adapter (e.step d).call s = (answer, now)) :
    e.run adapter (d, s) =
      (⟨_, answer, ((e.step d).next answer).2⟩, ((e.step d).next answer).1, now) := by
  simp only [run, h]

/-- At a plain memory an errand goes as it goes with the one object that the declaration asks
for. -/
theorem run_plain {m : Memory K} (h : m.IsPlain) (e : Errand) (d : Declaration K) :
    let alone := e.run Memory.cell (d, m.objects d.identity)
    ∃ now, e.run Memory.answer (d, m) = (alone.1, alone.2.1, now) ∧
      m.Replaced d.identity alone.2.2 now := by
  obtain ⟨now, answered, replaced⟩ := h.answer_eq (e.step d).call
  rw [call_identity] at answered replaced
  exact ⟨now, run_of_answer answered, replaced⟩

theorem runAll_plain (lawful : K.Lawful) {m : Memory K} (h : m.IsPlain) (errands : List Errand)
    (d : Declaration K) :
    let alone := runAll Memory.cell errands (d, m.objects d.identity)
    ∃ now, runAll Memory.answer errands (d, m) = (alone.1, alone.2.1, now) ∧
      alone.2.1.identity = d.identity ∧ m.Replaced d.identity alone.2.2 now := by
  induction errands generalizing d m with
  | nil => exact ⟨m, rfl, rfl, h.replaced _⟩
  | cons e rest ih =>
      obtain ⟨middle, first, replaced⟩ := run_plain h e d
      have same := identity_run lawful Memory.cell e (d, m.objects d.identity)
      have later := ih replaced.plain (e.run Memory.cell (d, m.objects d.identity)).2.1
      rw [same, replaced.there] at later
      obtain ⟨now, later, kept, further⟩ := later
      refine ⟨now, ?_, kept, replaced.trans further⟩
      simp only [runAll, first, later]

end Errand

namespace Crowd

variable {ι : Type} [DecidableEq ι]

theorem own_cons_self {α : Type} (i : ι) (a : α) (rest : List (ι × α)) :
    own i ((i, a) :: rest) = a :: own i rest := by simp [own]

theorem own_cons_of_ne {α : Type} {i j : ι} (ne : j ≠ i) (a : α) (rest : List (ι × α)) :
    own j ((i, a) :: rest) = own j rest := by simp [own, ne.symm]

/-- No two declarations ask for the same object. -/
def Apart {σ : Type} (c : Crowd ι K σ) : Prop :=
  ∀ i j, (c.declarations i).identity = (c.declarations j).identity → i = j

/-- What a declaration has to do with: itself and its object. -/
def share (c : Crowd ι K (Memory K)) (i : ι) : Declaration K × Option K.Remote :=
  (c.declarations i, c.remote.objects (c.declarations i).identity)

variable {c : Crowd ι K (Memory K)}

/-- A turn moves the share of one declaration, and leaves the others and all other objects. -/
theorem turn_plain (lawful : K.Lawful) (apart : c.Apart) (plain : c.remote.IsPlain) (i : ι)
    (e : Errand) :
    let next := c.turn Memory.answer i e
    next.1 = (e.run Memory.cell (c.share i)).1 ∧
      (∀ j, (next.2.declarations j).identity = (c.declarations j).identity) ∧
      next.2.share i = (e.run Memory.cell (c.share i)).2 ∧
      (∀ j, j ≠ i → next.2.share j = c.share j) ∧
      c.remote.Replaced (c.declarations i).identity (e.run Memory.cell (c.share i)).2.2
        next.2.remote := by
  obtain ⟨now, ran, replaced⟩ := Errand.run_plain plain e (c.declarations i)
  have same := Errand.identity_run lawful Memory.cell e (c.share i)
  have turned : c.turn Memory.answer i e =
      ((e.run Memory.cell (c.share i)).1,
        ⟨fun j => if j = i then (e.run Memory.cell (c.share i)).2.1 else c.declarations j,
          now⟩) := by
    simp only [turn, ran]
    rfl
  rw [turned]
  refine ⟨rfl, fun j => ?_, ?_, fun j ne => ?_, replaced⟩
  · show (if j = i then _ else _ : Declaration K).identity = _
    split
    · rename_i eq
      rw [eq, same, share]
    · rfl
  · rw [share]
    simp only [if_true, same]
    rw [show now.objects (c.share i).1.identity = _ from replaced.there]
    rfl
  · have elsewhere : (c.declarations j).identity ≠ (c.declarations i).identity :=
      fun eq => ne (apart j i eq)
    simp only [share, if_neg ne, replaced.elsewhere _ elsewhere]

/-- In a run every share is moved by the errands of its own declaration, one after the other. -/
theorem run_plain (lawful : K.Lawful) (apart : c.Apart) (plain : c.remote.IsPlain)
    (turns : List (ι × Errand)) :
    let ran := c.run Memory.answer turns
    (∀ i, own i ran.1 = (Errand.runAll Memory.cell (own i turns) (c.share i)).1 ∧
        ran.2.share i = (Errand.runAll Memory.cell (own i turns) (c.share i)).2) ∧
      (∀ i report, (i, report) ∈ ran.1 →
        report.call.identity = (c.declarations i).identity) ∧
      ∀ id, (∀ turn ∈ turns, (c.declarations turn.1).identity ≠ id) →
        ran.2.remote.objects id = c.remote.objects id := by
  induction turns generalizing c with
  | nil => exact ⟨fun _ => ⟨rfl, rfl⟩, nofun, fun _ _ => rfl⟩
  | cons head rest ih =>
      obtain ⟨i, e⟩ := head
      obtain ⟨told, same, moved, others, replaced⟩ := turn_plain lawful apart plain i e
      obtain ⟨shares, calls, untouched⟩ :=
        ih (fun j l eq => apart j l (by rwa [same, same] at eq)) replaced.plain
      refine ⟨fun j => ?_, fun j report mem => ?_, fun id unasked => ?_⟩
      · obtain ⟨reports, final⟩ := shares j
        by_cases eq : j = i
        · subst eq
          rw [moved] at reports final
          simp only [run, own_cons_self, Errand.runAll]
          exact ⟨by rw [reports, told], final⟩
        · rw [others j eq] at reports final
          simp only [run, own_cons_of_ne eq]
          exact ⟨reports, final⟩
      · rcases List.mem_cons.mp mem with eq | later
        · obtain ⟨rfl, rfl⟩ := Prod.mk.inj eq
          exact Errand.call_identity e (c.declarations j)
        · exact (calls j report later).trans (same j)
      · have later := untouched id fun turn mem eq =>
          unasked turn (List.mem_cons_of_mem _ mem) ((same turn.1).symm.trans eq)
        exact later.trans (replaced.elsewhere id (unasked (i, e) List.mem_cons_self).symm)

/-- What the errands of one declaration come to when it has the memory for itself. -/
def alone (turns : List (ι × Errand)) (i : ι) (c : Crowd ι K (Memory K)) :
    List (Report K) × Declaration K × Memory K :=
  Errand.runAll Memory.answer (own i turns) (c.declarations i, c.remote)

/-- What a declaration sees of a run is what it sees when it has the memory for itself. -/
structure AsAlone (c : Crowd ι K (Memory K)) (turns : List (ι × Errand)) (i : ι) : Prop where
  reports : own i (c.run Memory.answer turns).1 = (c.alone turns i).1
  declaration : (c.run Memory.answer turns).2.declarations i = (c.alone turns i).2.1
  identity : (c.alone turns i).2.1.identity = (c.declarations i).identity
  object : (c.run Memory.answer turns).2.remote.objects (c.declarations i).identity =
    (c.alone turns i).2.2.objects (c.declarations i).identity
  /-- Alone it puts nothing in another place. -/
  elsewhere : ∀ id, id ≠ (c.declarations i).identity →
    (c.alone turns i).2.2.objects id = c.remote.objects id

/-- Declarations of different objects do not disturb each other.  In whatever order they take their
turns, each of them gets the answers, ends as the declaration and leaves the object that it would
alone; every call is about the declaration's own object, and all other objects stay. -/
theorem run_asAlone {k : KindName} (c : Crowd ι k.kind (Memory k.kind)) (apart : c.Apart)
    (plain : c.remote.IsPlain) (turns : List (ι × Errand)) :
    (∀ i, c.AsAlone turns i) ∧
      (∀ i report, (i, report) ∈ (c.run Memory.answer turns).1 →
        report.call.identity = (c.declarations i).identity) ∧
      ∀ id, (∀ turn ∈ turns, (c.declarations turn.1).identity ≠ id) →
        (c.run Memory.answer turns).2.remote.objects id = c.remote.objects id := by
  obtain ⟨shares, calls, untouched⟩ := run_plain k.lawful apart plain turns
  refine ⟨fun i => ?_, calls, untouched⟩
  obtain ⟨reports, final⟩ := shares i
  obtain ⟨now, alone, identity, replaced⟩ :=
    Errand.runAll_plain k.lawful plain (own i turns) (c.declarations i)
  have declaration := congrArg (·.1) final
  have object := congrArg (·.2) final
  simp only [share] at reports declaration object
  have same := (congrArg Declaration.identity declaration).trans identity
  rw [same] at object
  constructor
  · rw [reports, Crowd.alone, alone]
  · rw [declaration, Crowd.alone, alone]
  · rw [Crowd.alone, alone, identity]
  · rw [object, Crowd.alone, alone, replaced.there]
  · intro id ne
    rw [Crowd.alone, alone]
    exact replaced.elsewhere id ne

/-- Two pairs with one key, told apart by their labels. -/
def labelled : Crowd Bool KindName.keyValue.kind (Memory KindName.keyValue.kind) where
  declarations nightly := .ofSpec
    ⟨⟨"store", "greeting", if nightly then "nightly" else "", "hello", .unset, .empty, .unset⟩,
      .delete⟩ none
  remote := .empty

/-- One pair is written and seen, whatever becomes of the other in the meantime. -/
theorem run_asAlone_labelled :
    let turns := [(true, Errand.create), (false, .create), (false, .delete), (true, .observe)]
    let ran := labelled.run Memory.answer turns
    labelled.Apart ∧ labelled.remote.IsPlain ∧
      (own true ran.1).map (·.outcome) = [.ok none, .ok (some ⟨true, true, false⟩)] ∧
      (ran.2.remote.objects (labelled.declarations true).identity).isSome = true ∧
      ran.2.remote.objects (labelled.declarations false).identity = none := by
  intro turns ran
  have apart : labelled.Apart := by unfold Apart; decide
  have plain : labelled.remote.IsPlain := ⟨fun _ => rfl, fun _ _ => rfl⟩
  have kept := (run_asAlone (k := .keyValue) labelled apart plain turns).1
  refine ⟨apart, plain, ?_, ?_, ?_⟩
  · rw [(kept true).reports]
    rfl
  · rw [(kept true).object]
    rfl
  · rw [(kept false).object]
    rfl

end Crowd
end CloudReconcile
