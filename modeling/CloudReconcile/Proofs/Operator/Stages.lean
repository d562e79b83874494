import CloudReconcile.Proofs.Operator.Evidence
import CloudReconcile.Proofs.Remote.Reply

/-!
# Stages of a round

A round of a declaration with the finalizer makes its calls one after the other, each in a phase of
its own.  What the gateway responds to a call decides whether the stage succeeds, and that decides
what the call answers.
-/

namespace CloudReconcile

/-! ## Calls of a session -/

namespace Session

variable {K : Kind} {g : Gateway} {wire : Wire} {s : Session K} {c : Call K}

/-- The response to a call that begins now: none if the request cannot be made, gets no response or
gets it too late. -/
def received (s : Session K) (g : Gateway) (wire : Wire) (c : Call K) : Option Http.Response :=
  if s.isCancelled then none
  else
    match g.requested c with
    | .error _ => none
    | .ok request =>
      let (delay, reply) := wire s.sent request
      if (s.tick.ending s.now delay).1 = .completed then reply.toOption else none

/-- A call answers what follows from the response, and fails on the way if there is none. -/
theorem answer_of_received (portable : K.Portable) (g : Gateway) (wire : Wire) (c : Call K)
    (s : Session K) :
    match s.received g wire c with
    | some response => (answer g wire c s).1 = Gateway.result c (.ok response)
    | none => ∃ e, (answer g wire c s).1 = c.failed e ∧ e.isTransport = true := by
  unfold received answer
  by_cases stopped : s.isCancelled = true
  · simp only [if_pos stopped]
    exact ⟨_, rfl, rfl⟩
  · simp only [if_neg stopped, Gateway.answer_eq portable]
    cases made : g.requested c with
    | error e =>
        by_cases ended : (s.tick.ending s.now 0).1 = .completed
        · rw [ended]
          exact ⟨e, rfl, Gateway.requested_isTransport portable made⟩
        · exact s.tick.answer_of_ne_completed ended _
    | ok request =>
        simp only [transport, Nat.zero_add]
        by_cases ended : (s.tick.ending s.now (wire s.sent request).1).1 = .completed
        · rw [if_pos ended, ended]
          cases (wire s.sent request).2 with
          | error reason => exact ⟨.transport reason, rfl, rfl⟩
          | ok response => rfl
        · rw [if_neg ended]
          exact s.tick.answer_of_ne_completed ended _

end Session

/-! ## Stages of a round -/

/-- The phase that a round is in, the call that it makes then, and the session by then. -/
structure Stage (K : Kind) where
  phase : Phase
  call : Call K
  here : Session K

namespace Stage

variable {K : Kind} (g : Gateway) (wire : Wire) (stage : Stage K)

def response? : Option Http.Response := stage.here.received g wire stage.call

def answer : stage.call.Result := (Session.answer g wire stage.call stage.here).1

def effect : Effect K := .call stage.call (stage.answer g wire)

/-- The gateway grants the call, or says to somebody who looks for an object or wants it gone that
there is none. -/
def Succeeds : Prop :=
  ∃ r, stage.response? g wire = some r ∧
    (r.Grants stage.call ∨ r.status = 404 ∧ stage.call.operation ≠ .put)

/-- The gateway does not refuse the call for good, as far as one can see. -/
def MayClearUp : Prop := ∀ r, stage.response? g wire = some r → r.MayClearUp

variable {g wire stage}

theorem answer_of_succeeds (portable : K.Portable) (h : stage.Succeeds g wire) :
    (∃ a, stage.answer g wire = .ok a) ∨
      stage.call.operation ≠ .put ∧
        ∃ e, stage.answer g wire = stage.call.failed e ∧ e.isNotFound = true := by
  obtain ⟨r, responded, right⟩ := h
  have answered := Session.answer_of_received portable g wire stage.call stage.here
  rw [show stage.here.received g wire stage.call = some r from responded] at answered
  by_cases granted : r.Grants stage.call
  · obtain ⟨a, done⟩ := Gateway.result_of_grants granted
    exact .inl ⟨a, answered.trans done⟩
  · obtain ⟨missing, other⟩ := right.resolve_left granted
    obtain ⟨e, failed, named, -⟩ := Gateway.result_of_not_grants granted
    exact .inr ⟨other, e, answered.trans failed, named.mpr missing⟩

theorem answer_of_not_succeeds (portable : K.Portable) (h : ¬ stage.Succeeds g wire) :
    ∃ e, stage.answer g wire = stage.call.failed e ∧
      (e.isTransport = true ↔ stage.MayClearUp g wire) ∧
      (stage.call.operation ≠ .put → e.isNotFound = false) := by
  have answered := Session.answer_of_received portable g wire stage.call stage.here
  unfold MayClearUp
  cases responded : stage.response? g wire with
  | none =>
      rw [show stage.here.received g wire stage.call = none from responded] at answered
      obtain ⟨e, failed, transport⟩ := answered
      exact ⟨e, failed, iff_of_true transport (fun r some => by cases some),
        fun _ => RemoteError.isNotFound_of_isTransport transport⟩
  | some r =>
      rw [show stage.here.received g wire stage.call = some r from responded] at answered
      have refused : ¬ r.Grants stage.call := fun granted => h ⟨r, responded, .inl granted⟩
      obtain ⟨e, failed, named, transport⟩ := Gateway.result_of_not_grants refused
      refine ⟨e, answered.trans failed, by simpa using transport, fun other => ?_⟩
      refine Bool.eq_false_iff.mpr fun missing => ?_
      exact h ⟨r, responded, .inr ⟨named.mp missing, other⟩⟩

end Stage

namespace Session

variable {k : KindName} {g : Gateway} {wire : Wire} {here : Session k.kind}

/-- The stages of a round of a declaration with the finalizer, in order. -/
def stages (here : Session k.kind) (g : Gateway) (wire : Wire) (api : Api k.kind)
    (d : Declaration k.kind) : List (Stage k.kind) :=
  if d.metadata.isDeleted then
    if d.metadata.name ≠ none ∧ d.spec.deletionPolicy = .delete then
      [⟨.delete, .delete d.identity, here⟩]
    else []
  else
    ⟨.get, .get d.identity, here⟩ ::
      match here.evidence g wire d.identity with
      | .absent => [⟨.create, .put d.params, here.turn g wire api d⟩]
      | .present r =>
        let params := k.kind.lateInit d.params r
        if (Drift.check k.kind params r).upToDate then []
        else [⟨.update, .put params, here.turn g wire api d⟩]
      | .nothing => []

/-- No phase comes twice. -/
theorem nodup_stages (here : Session k.kind) (g : Gateway) (wire : Wire) (api : Api k.kind)
    (d : Declaration k.kind) : ((here.stages g wire api d).map (·.phase)).Nodup := by
  unfold stages
  split
  · split <;> simp
  · cases here.evidence g wire d.identity with
    | nothing => simp
    | absent => simp
    | present r =>
        dsimp only
        split <;> simp

/-- A look succeeds just if it proves something. -/
theorem succeeds_get_iff (portable : k.kind.Portable) (id : k.kind.Identity) :
    (⟨.get, .get id, here⟩ : Stage k.kind).Succeeds g wire ↔
      here.evidence g wire id ≠ .nothing := by
  have fits := fits_answer_get g wire here id
  constructor
  · intro succeeds nothing
    rw [nothing] at fits
    obtain ⟨e, answered, other⟩ := fits
    obtain ⟨a, found⟩ | ⟨-, e', missed, missing⟩ := Stage.answer_of_succeeds portable succeeds
    · cases answered.symm.trans found
    · obtain rfl := Except.error.inj (answered.symm.trans missed)
      exact Bool.false_ne_true (other.symm.trans missing)
  · intro proved
    refine Classical.byContradiction fun failed => ?_
    obtain ⟨e, answered, -, other⟩ := Stage.answer_of_not_succeeds portable failed
    cases evidence : here.evidence g wire id with
    | nothing => exact proved evidence
    | present r =>
        rw [evidence] at fits
        cases answered.symm.trans fits
    | absent =>
        rw [evidence] at fits
        obtain ⟨what, missed⟩ := fits
        obtain rfl := Except.error.inj (answered.symm.trans missed)
        cases other nofun

theorem evidence_of_missing (portable : k.kind.Portable) {id : k.kind.Identity} {r : Http.Response}
    (responded : here.received g wire (.get id) = some r) (missing : r.status = 404) :
    here.evidence g wire id = .absent := by
  have answered := answer_of_received portable g wire (.get id) here
  rw [responded] at answered
  have refused : ¬ r.Grants (.get id : Call k.kind) := fun granted => by
    have success := granted.1
    omega
  obtain ⟨e, failed, named, -⟩ := Gateway.result_of_not_grants refused
  have fits := fits_answer_get g wire here id
  rw [answered.trans failed] at fits
  cases evidence : here.evidence g wire id with
  | absent => rfl
  | present r =>
      rw [evidence] at fits
      cases fits
  | nothing =>
      rw [evidence] at fits
      obtain ⟨e', same, other⟩ := fits
      obtain rfl := Except.error.inj same
      cases other.symm.trans (named.mpr missing)

end Session

end CloudReconcile
