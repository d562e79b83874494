import CloudReconcile.Operator.Lifetime
import CloudReconcile.Proofs.Operator.Conduct
import CloudReconcile.Remote.Memory

/-!
# Custody of the remote object

The finalizer is the operator's promise to look after the remote object.  Objects are put only under
that promise, deleted only when the declaration itself is being deleted and says so, and the promise
is given up only in a round that has seen the object gone, or for a declaration that leaves its
object in place.  So no declaration with the promise disappears before its object.
-/

namespace CloudReconcile

theorem mem_of_split {α : Type} {all before later : List α} {e : α}
    (split : all = before ++ e :: later) : e ∈ all := by
  rw [split]
  exact List.mem_append_right _ List.mem_cons_self

theorem mem_before {α : Type} {first second before later : List α} {e x : α}
    (split : first ++ second = before ++ e :: later) (he : e ∉ first) (hx : x ∈ first) :
    x ∈ before := by
  rcases List.append_eq_append_iff.mp split with ⟨more, rfl, -⟩ | ⟨more, rfl, rest⟩
  · exact List.mem_append_left _ hx
  · cases more with
    | nil => simpa using hx
    | cons y more =>
        obtain ⟨rfl, -⟩ := List.cons.inj rest
        exact (he (List.mem_append_right _ List.mem_cons_self)).elim

/-- What a round may do, given the declaration that was read and the object it asks for. -/
structure Round.Careful {K : Kind} (round : Round K) (id : K.Identity) : Prop where
  /-- Objects are deleted only for a declaration that is being deleted under the promise, and that
  wants its object deleted. -/
  deletes : ∀ i result, Effect.call (.delete i) result ∈ round.effects →
    i = id ∧ round.declaration.metadata.IsGuarded ∧
      round.declaration.metadata.isDeleted = true ∧
      round.declaration.spec.deletionPolicy = .delete
  /-- Objects are put only for a declaration that is not being deleted, under the promise. -/
  puts : ∀ params result, Effect.call (.put params) result ∈ round.effects →
    K.identity params = id ∧ round.declaration.metadata.IsGuarded ∧
      round.declaration.metadata.isDeleted = false
  /-- The promise is given up only after the object is gone, or without having called anybody for a
  declaration that leaves its object in place. -/
  releases : ∀ before about place accepted later,
    round.effects = before ++ .write (.finalizers about (.remove place)) accepted :: later →
      (∃ result, Effect.call (.delete id) result ∈ before ∧ Gone result) ∨
        round.declaration.spec.deletionPolicy = .orphan ∧
          ∀ c result, Effect.call c result ∉ round.effects
  /-- What is written back asks for the same object. -/
  replaces : ∀ d accepted, Effect.write (.replace d) accepted ∈ round.effects → d.identity = id

namespace Controller

variable {k : KindName} {s : Controller} {d : Declaration k.kind}

theorem careful_of_applies {effects : List (Effect k.kind)}
    (only : ∀ e ∈ effects, e.Applies d.identity) (guarded : d.metadata.IsGuarded)
    (alive : d.metadata.isDeleted = false) : (Round.mk d effects).Careful d.identity where
  deletes _ _ he := (only _ he).elim
  puts _ _ he := ⟨only _ he, guarded, alive⟩
  releases _ _ _ _ _ split := (only _ (mem_of_split split)).elim
  replaces _ _ he := only _ he

theorem careful_of_adding {effects : List (Effect k.kind)} (there : List String)
    (only : ∀ e ∈ effects, ∃ accepted, e = .write (.finalizers d (.add there)) accepted) :
    (Round.mk d effects).Careful d.identity where
  deletes _ _ he := by obtain ⟨_, eq⟩ := only _ he; cases eq
  puts _ _ he := by obtain ⟨_, eq⟩ := only _ he; cases eq
  releases _ _ _ _ _ split := by obtain ⟨_, eq⟩ := only _ (mem_of_split split); cases eq
  replaces _ _ he := by obtain ⟨_, eq⟩ := only _ he; cases eq

theorem careful_of_cleanup {first second : List (Effect k.kind)} (place : Nat)
    (guarded : d.metadata.IsGuarded) (deleted : d.metadata.isDeleted = true)
    {result : Except OperatorError Requeue} (cleaned : (s.cleanup d).Does first result)
    (only : ∀ e ∈ second, ∃ accepted, e = .write (.finalizers d (.remove place)) accepted)
    (released : second ≠ [] → ∃ requeue, result = .ok requeue) :
    (Round.mk d (first ++ second)).Careful d.identity := by
  have cleans : ∀ e ∈ first, e.Cleans d.identity :=
    fun e he => cleanup_only first result cleaned e he
  -- Every call is one of the cleanup, since the rest writes only.
  have calls : ∀ {c : Call k.kind} {answer}, Effect.call c answer ∈ first ++ second →
      Effect.call c answer ∈ first := by
    intro c answer he
    refine (List.mem_append.mp he).resolve_right fun later => ?_
    obtain ⟨_, eq⟩ := only _ later
    cases eq
  constructor
  · intro i answer he
    have he := calls he
    refine ⟨cleans _ he, guarded, deleted, cleanup_keeps cleaned ?_⟩
    rintro rfl
    exact List.not_mem_nil he
  · intro params answer he
    exact (cleans _ (calls he)).elim
  · intro before about place accepted later split
    have notFirst : Effect.write (.finalizers about (.remove place)) accepted ∉ first :=
      fun he => cleans _ he
    have there := (List.mem_append.mp (mem_of_split split)).resolve_left notFirst
    obtain ⟨requeue, rfl⟩ := released (List.ne_nil_of_mem there)
    rcases cleanup_succeeds cleaned with ⟨orphan, rfl⟩ | ⟨-, answer, called, gone⟩
    · exact .inr ⟨orphan, fun c answer he => List.not_mem_nil (calls he)⟩
    · exact .inl ⟨answer, mem_before split notFirst called, gone⟩
  · intro written accepted he
    rcases List.mem_append.mp he with he | he
    · exact (cleans _ he).elim
    · obtain ⟨_, eq⟩ := only _ he
      cases eq

/-- Whatever happens in a reconciliation, it is careful about the object of the declaration. -/
theorem reconcile_careful {effects : List (Effect k.kind)}
    {result : Except OperatorError Requeue} (h : (s.reconcile d).Does effects result) :
    (Round.mk d effects).Careful d.identity := by
  unfold reconcile at h
  cases found : finalizerPlace d with
  | none =>
      cases deleted : d.metadata.isDeleted with
      | true =>
          simp only [found, deleted] at h
          obtain ⟨rfl, -⟩ := h.of_done
          exact careful_of_adding [] fun e he => (List.not_mem_nil he).elim
      | false =>
          simp only [found, deleted] at h
          exact careful_of_adding d.metadata.finalizerList fun e he =>
            changeFinalizers_only.map _ effects result h e he
  | some place =>
      have guarded : d.metadata.IsGuarded := by
        refine Decidable.byContradiction fun absent => ?_
        rw [finalizerPlace_eq_none_iff.mpr absent] at found
        cases found
      cases deleted : d.metadata.isDeleted with
      | false =>
          simp only [found, deleted] at h
          have only := (Applying.apply_only k.lawful).map _ effects result h
          exact careful_of_applies only guarded deleted
      | true =>
          simp only [found, deleted] at h
          split at h
          · obtain ⟨rfl, -⟩ := h.of_done
            exact careful_of_adding [] fun e he => (List.not_mem_nil he).elim
          · obtain ⟨first, cleaned, second, rfl, does, h⟩ := h.of_bind
            cases cleaned with
            | error e =>
                obtain ⟨rfl, -⟩ := h.of_done
                exact careful_of_cleanup place guarded deleted does
                  (fun e he => (List.not_mem_nil he).elim) fun some => (some rfl).elim
            | ok requeue =>
                exact careful_of_cleanup place guarded deleted does
                  (fun e he => changeFinalizers_only.map _ second result h e he)
                  fun _ => ⟨requeue, rfl⟩

end Controller

namespace Stored

variable {K : Kind} {now : Stored K} {d : Declaration K}

theorem of_read (h : now.read = .ok d) : d.metadata = now.metadata ∧ d.spec = now.spec := by
  unfold read at h
  split at h
  · obtain rfl := Except.ok.inj h
    exact ⟨rfl, rfl⟩
  · cases status : K.status.read (.ofValue _) with
    | error problem =>
        rw [status] at h
        cases h
    | ok status' =>
        rw [status] at h
        obtain rfl := Except.ok.inj h
        exact ⟨rfl, rfl⟩

theorem isGuarded_accept {w : Write K} (guarded : now.metadata.IsGuarded)
    (keeps : ∀ about place, w ≠ .finalizers about (.remove place)) :
    (now.accept w).metadata.IsGuarded := by
  cases w with
  | replace d => exact guarded
  | status d status => exact guarded
  | publish d event => exact guarded
  | finalizers about change =>
      cases change with
      | add there => exact List.mem_append_left _ guarded
      | remove place => exact (keeps about place rfl).elim

theorem isGuarded_after {effects : List (Effect K)} (guarded : now.metadata.IsGuarded)
    (keeps : ∀ about place, Effect.write (.finalizers about (.remove place)) true ∉ effects) :
    (now.after effects).metadata.IsGuarded := by
  refine Stored.after_preserves (P := fun s => s.metadata.IsGuarded) (fun s w there h => ?_) guarded
  refine isGuarded_accept h ?_
  rintro about place rfl
  exact keeps about place there

theorem identity_after {effects : List (Effect K)} {id : K.Identity} (same : now.identity = id)
    (replaces : ∀ d accepted, Effect.write (.replace d) accepted ∈ effects → d.identity = id) :
    (now.after effects).identity = id := by
  refine Stored.after_preserves (P := fun s => s.identity = id) (fun s w there h => ?_) same
  cases w with
  | replace d => exact replaces d true there
  | status d status => exact h
  | finalizers about change => exact h
  | publish d event => exact h

end Stored

namespace Lifetime

variable {k : KindName} {s : Controller} {edit : Stored k.kind → Stored k.kind → Prop}
variable {start : Stored k.kind} {rounds : List (Round k.kind)} {final : Option (Stored k.kind)}

/-- A reconciliation of a kept declaration is careful about the object that it asks for, and leaves
it asking for that object. -/
theorem careful_of_reconciled {d : Declaration k.kind} {effects : List (Effect k.kind)}
    {result : Except OperatorError Requeue} (read : start.read = .ok d)
    (done : (s.reconcile d).Does effects result) :
    (Round.mk d effects).Careful start.identity ∧
      (start.after effects).identity = start.identity := by
  have careful := Controller.reconcile_careful done
  have same : d.identity = start.identity := by
    rw [Declaration.identity, Declaration.params, (Stored.of_read read).2, Stored.identity]
  rw [same] at careful
  exact ⟨careful, Stored.identity_after rfl careful.replaces⟩

theorem careful (life : Lifetime s edit (some start) rounds final)
    (fixed : ∀ now next, edit now next → next.identity = now.identity) :
    ∀ round ∈ rounds, round.Careful start.identity := by
  generalize from_ : some start = now at life
  induction life generalizing start with
  | still now => exact fun round there => (List.not_mem_nil there).elim
  | edited allowed rest ih =>
      obtain rfl := Option.some.inj from_
      rw [← fixed _ _ allowed]
      exact ih rfl
  | reconciled read done rest ih =>
      obtain rfl := Option.some.inj from_
      obtain ⟨first, same⟩ := careful_of_reconciled read done
      intro round there
      rcases List.mem_cons.mp there with rfl | there
      · exact first
      · rw [← same]
        exact ih rfl round there
  | dropped deleted free => exact fun round there => (List.not_mem_nil there).elim

/-- A promise is kept until a round has seen the object gone. -/
theorem gone_of_dropped (life : Lifetime s edit (some start) rounds none)
    (fixed : ∀ now next, edit now next → next.identity = now.identity)
    (faithful : ∀ now next, edit now next → now.metadata.IsGuarded → next.metadata.IsGuarded)
    (guarded : start.metadata.IsGuarded)
    (wanted : ∀ round ∈ rounds, round.declaration.spec.deletionPolicy = .delete) :
    ∃ round ∈ rounds, ∃ result,
      Effect.call (.delete start.identity) result ∈ round.effects ∧ Gone result := by
  generalize from_ : some start = now at life
  generalize to_ : none = final at life
  induction life generalizing start with
  | still now => cases from_.trans to_.symm
  | edited allowed rest ih =>
      obtain rfl := Option.some.inj from_
      rw [← fixed _ _ allowed]
      exact ih (faithful _ _ allowed guarded) wanted rfl to_
  | @reconciled now d effects result rounds final read done rest ih =>
      obtain rfl := Option.some.inj from_
      obtain ⟨careful, same⟩ := careful_of_reconciled read done
      by_cases kept : ∀ about place,
          Effect.write (.finalizers about (.remove place)) true ∉ effects
      · rw [← same]
        obtain ⟨round, there, gone⟩ := ih (Stored.isGuarded_after guarded kept)
          (fun round there => wanted round (List.mem_cons_of_mem _ there)) rfl to_
        exact ⟨round, List.mem_cons_of_mem _ there, gone⟩
      · -- The promise was given up in this round, so the object was seen gone in this round.
        simp only [Classical.not_forall, Classical.not_not] at kept
        obtain ⟨about, place, there⟩ := kept
        obtain ⟨before, later, rfl⟩ := List.append_of_mem there
        refine ⟨_, List.mem_cons_self, ?_⟩
        rcases careful.releases before about place true later rfl with
          ⟨answer, called, gone⟩ | ⟨orphan, -⟩
        · exact ⟨answer, List.mem_append_left _ called, gone⟩
        · rw [wanted _ List.mem_cons_self] at orphan
          cases orphan
  | dropped deleted free =>
      obtain rfl := Option.some.inj from_
      rw [Metadata.IsGuarded, free] at guarded
      exact (List.not_mem_nil guarded).elim

/-- Others may do to a declaration what they like, as long as it goes on asking for the same object.
Every round is careful about that object; and if others leave the promise alone and always want the
object deleted, then the declaration disappears only after a round that has seen the object gone. -/
theorem forall_careful_and_exists_gone (life : Lifetime s edit (some start) rounds final)
    (fixed : ∀ now next, edit now next → next.identity = now.identity) :
    (∀ round ∈ rounds, round.Careful start.identity) ∧
      ((∀ now next, edit now next → now.metadata.IsGuarded → next.metadata.IsGuarded) →
        start.metadata.IsGuarded →
        (∀ round ∈ rounds, round.declaration.spec.deletionPolicy = .delete) →
        final = none →
        ∃ round ∈ rounds, ∃ result,
          Effect.call (.delete start.identity) result ∈ round.effects ∧ Gone result) := by
  refine ⟨life.careful fixed, ?_⟩
  rintro faithful guarded wanted rfl
  exact life.gone_of_dropped fixed faithful guarded wanted

def departing : Stored KindName.keyValue.kind where
  metadata :=
    { Metadata.blank with
      name := some "greeting", finalizers := some [finalizerName]
      deletionTimestamp := some ⟨2024, 1, 1, 0, 0, 0⟩ }
  spec := ⟨⟨"store", "greeting", "", "hello", .unset, .unset, .unset⟩, .delete⟩
  status := none

theorem forall_careful_and_exists_gone_departing :
    ∃ rounds, Lifetime ⟨.keyValue, 60, 10⟩ (fun now next => next = now) (some departing) rounds
        none ∧
      rounds ≠ [] ∧ (∀ round ∈ rounds, round.Careful departing.identity) ∧
      ∃ round ∈ rounds, ∃ result,
        Effect.call (.delete departing.identity) result ∈ round.effects ∧ Gone result := by
  let d : Declaration KindName.keyValue.kind := ⟨departing.metadata, departing.spec, none⟩
  let s : Controller := ⟨.keyValue, 60, 10⟩
  let seen := (s.reconcile d).trace Memory.answer (fun _ m => (true, m)) Memory.empty
  have life : Lifetime s (fun now next => next = now) (some departing) [⟨d, seen.2⟩] none :=
    .reconciled rfl ((s.reconcile d).does_trace _ _ _) (.dropped (by decide) (by decide))
  obtain ⟨careful, gone⟩ :=
    forall_careful_and_exists_gone life fun now next same => congrArg Stored.identity same
  refine ⟨_, life, List.cons_ne_nil _ _, careful, gone ?_ (by decide) ?_ rfl⟩
  · rintro now next rfl guarded
    exact guarded
  · intro round there
    rw [List.mem_singleton.mp there]
    rfl

end Lifetime
end CloudReconcile
