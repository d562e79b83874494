import CloudReconcile.Operator.Session
import CloudReconcile.Proofs.Kinds.Portable
import CloudReconcile.Proofs.Operator.Conduct
import CloudReconcile.Proofs.Remote.Gateway

/-!
# Objects are put on evidence only

However a gateway behaves and whenever a reconciliation is cancelled: applying a declaration looks
at its object once at most, and puts it once at most.  It puts the object only if the look has
proved that there is none, or that there is one with something else in it than the declaration
wants.  Whatever else comes back, or does not come back, proves nothing and leads to no write.
-/

namespace CloudReconcile

namespace Session

variable {K : Kind} {g : Gateway} {wire : Wire} {api : Api K} {s : Session K} {id : K.Identity}

/-- What a look that begins now proves about an object: nothing unless there is a reply in time. -/
def evidence (s : Session K) (g : Gateway) (wire : Wire) (id : K.Identity) : Evidence K :=
  if s.isCancelled then .nothing
  else
    match g.request K .get id none with
    | .error _ => .nothing
    | .ok request =>
      let (delay, reply) := wire s.sent request
      if (s.tick.ending s.now delay).1 = .completed then .ofReply reply else .nothing

def looks (s : Session K) (g : Gateway) (id : K.Identity) : List Http.Request :=
  if s.isCancelled then [] else (g.request K .get id none).toOption.toList

def puts (s : Session K) (g : Gateway) (params : K.Params) (body : String) : List Http.Request :=
  if s.isCancelled then []
  else (g.request K .put (K.identity params) (some body)).toOption.toList

/-! ## Calls -/

/-- A call that does not complete fails, and not because the object is missing. -/
theorem error_of_not_completed (t : Tick) {α : Type} {ending : Ending} (h : ending ≠ .completed)
    (result : Except RemoteError α) :
    ∃ e, t.answer ending result = .error e ∧ e.isNotFound = false := by
  obtain ⟨e, failed, transport⟩ := t.answer_of_ne_completed h result
  exact ⟨e, failed, RemoteError.isNotFound_of_isTransport transport⟩

theorem answer_of_cancelled (h : s.isCancelled = true) (c : Call K) :
    answer g wire c s = (.error Tick.cancelError, { s with tick := s.tick.after .cancelled }) := by
  rw [answer, if_pos h]

theorem sent_answer_get (g : Gateway) (wire : Wire) (s : Session K) (id : K.Identity) :
    (answer g wire (.get id) s).2.sent = s.sent ++ s.looks g id := by
  cases h : s.isCancelled with
  | true => simp [answer_of_cancelled h, looks, h]
  | false =>
      cases request : g.request K .get id none <;>
        simp [answer, looks, h, Gateway.answer, Gateway.send, request, transport, Except.toOption]

theorem sent_answer_put (g : Gateway) (wire : Wire) (s : Session K) {params : K.Params}
    {body : String} (payload : Gateway.payload K params = .ok body) :
    (answer g wire (.put params) s).2.sent = s.sent ++ s.puts g params body := by
  cases h : s.isCancelled with
  | true => simp [answer_of_cancelled h, puts, h]
  | false =>
      cases request : g.request K .put (K.identity params) (some body) <;>
        simp [answer, puts, h, Gateway.answer, Gateway.send, payload, request, transport,
          Except.toOption]

theorem fits_answer_get (g : Gateway) (wire : Wire) (s : Session K) (id : K.Identity) :
    (s.evidence g wire id).Fits (answer g wire (.get id) s).1 := by
  unfold evidence
  cases h : s.isCancelled with
  | true =>
      rw [answer_of_cancelled h]
      exact ⟨_, rfl, rfl⟩
  | false =>
      cases request : g.request K .get id none with
      | error e =>
          simp only [answer, h, Bool.false_eq_true, if_false, Gateway.answer, Gateway.send, request]
          by_cases ended : (s.tick.ending s.now 0).1 = .completed
          · rw [ended]
            exact ⟨e, rfl, Gateway.request_error request⟩
          · exact error_of_not_completed s.tick ended _
      | ok r =>
          simp only [answer, h, Bool.false_eq_true, if_false, Gateway.answer, Gateway.send, request,
            transport, Nat.zero_add]
          by_cases ended : (s.tick.ending s.now (wire s.sent r).1).1 = .completed
          · rw [if_pos ended, ended]
            exact Gateway.evidence_fits _ _
          · rw [if_neg ended]
            exact error_of_not_completed s.tick ended _

/-- Where a look has proved something, a request to put the object can be made. -/
theorem puts_of_evidence {params : K.Params} (h : s.evidence g wire (K.identity params) ≠ .nothing)
    (later : Session K) (body : String) :
    (later.puts g params body).length = (if later.isCancelled then 0 else 1) ∧
      ∀ r ∈ later.puts g params body,
        r.method = .put ∧ r.body = body ∧ g.Addresses (K.identity params) r := by
  unfold puts
  cases later.isCancelled with
  | true => exact ⟨rfl, fun r there => (List.not_mem_nil there).elim⟩
  | false =>
      cases asked : g.request K .get (K.identity params) none with
      | error e => simp [evidence, asked] at h
      | ok r =>
          have made := Gateway.request_eq g .put (K.identity params) (some body)
          rw [asked] at made
          rw [made]
          refine ⟨rfl, fun r' there => ?_⟩
          rw [List.mem_singleton.mp there]
          exact ⟨rfl, rfl, (Gateway.request_addresses made).2⟩

theorem looks_once (s : Session K) (g : Gateway) (id : K.Identity) :
    (s.looks g id).length ≤ 1 ∧ ∀ r ∈ s.looks g id, r.method = .get ∧ g.Addresses id r := by
  unfold looks
  split
  · exact ⟨Nat.zero_le 1, fun r there => (List.not_mem_nil there).elim⟩
  · cases asked : g.request K .get id none with
    | error e => exact ⟨Nat.zero_le 1, fun r there => (List.not_mem_nil there).elim⟩
    | ok r =>
        refine ⟨Nat.le_refl 1, fun r' there => ?_⟩
        rw [List.mem_singleton.mp there]
        exact Gateway.request_addresses asked

end Session

/-! ## A whole tick -/

namespace Session

variable {k : KindName} {a : Applying k.kind} {g : Gateway} {wire : Wire} {api : Api k.kind}
variable {here : Session k.kind} {d : Declaration k.kind}

/-- When the turn to put the object comes: after the look, and after it was written what the
declaration took over. -/
def turn (here : Session k.kind) (g : Gateway) (wire : Wire) (api : Api k.kind)
    (d : Declaration k.kind) : Session k.kind :=
  let looked := (answer g wire (.get d.identity) here).2
  match here.evidence g wire d.identity with
  | .present r =>
    if k.kind.lateInit d.params r ≠ d.params ∧ d.metadata.nameText ≠ "" then
      (take api (.replace (Step.found d r).1) looked).2
    else looked
  | _ => looked

theorem sent_turn (here : Session k.kind) (g : Gateway) (wire : Wire) (api : Api k.kind)
    (d : Declaration k.kind) :
    (here.turn g wire api d).sent = here.sent ++ here.looks g d.identity := by
  rw [← sent_answer_get g wire]
  unfold turn
  cases here.evidence g wire d.identity with
  | absent => rfl
  | nothing => rfl
  | present r =>
      dsimp only
      split <;> rfl

theorem turn_of_absent (h : here.evidence g wire d.identity = .absent) :
    here.turn g wire api d = (answer g wire (.get d.identity) here).2 := by
  rw [turn, h]

theorem runs_observe (api : Api k.kind) (serves : a.refusal = none)
    {result : Except RemoteError k.kind.Remote} {outcome : Outcome k.kind Observation}
    (answered : (answer g wire (.get d.identity) here).1 = result)
    (turned : (Step.observe d).next result = outcome) :
    (a.step d (Step.observe d)).Runs (answer g wire) (take api) here outcome
      (answer g wire (.get d.identity) here).2 [.call (.get d.identity) result] := by
  subst answered turned
  exact Applying.runs_step serves (Step.observe d) rfl

theorem runs_putting (serves : a.refusal = none) (about working : Declaration k.kind)
    (phase : Phase) (event : Event) (requeue : Requeue) {body : String}
    (payload : Gateway.payload k.kind working.params = .ok body) :
    ∃ outcome final effects, (a.putting about working phase event requeue).Runs
        (answer g wire) (take api) here (working, outcome) final effects ∧
      final.sent = here.sent ++ here.puts g working.params body ∧
      (outcome = .ok requeue ∧ Effect.reasons effects = [event.reason] ∨
        ∃ e, outcome = .error (.remote phase k.kind.name e) ∧ Effect.reasons effects = []) := by
  have sent := sent_answer_put g wire here payload
  cases answered : answer g wire (.put working.params) here with
  | mk result after =>
      rw [answered] at sent
      cases result with
      | error e =>
          exact ⟨_, after, _, Applying.runs_putting_failed serves phase event requeue answered,
            sent, .inr ⟨e, rfl, rfl⟩⟩
      | ok r =>
          exact ⟨_, _, _, Applying.runs_putting_done serves phase event requeue answered, sent,
            .inl ⟨rfl, rfl⟩⟩

theorem runs_persistLateInit (api : Api k.kind) {r : k.kind.Remote}
    (found : here.evidence g wire d.identity = .present r) :
    ∃ effects, (Applying.persistLateInit (Step.found d r).1 (Step.found d r).2).Runs
        (answer g wire) (take api) (answer g wire (.get d.identity) here).2 ()
        (here.turn g wire api d) effects := by
  simp only [turn, found]
  unfold Applying.persistLateInit
  by_cases same : k.kind.lateInit d.params r = d.params
  · rw [if_neg (by simp [Step.found, same]), if_neg (by simp [same])]
    exact ⟨[], .done ()⟩
  · rw [if_pos (by simp [Step.found, same])]
    by_cases named : d.metadata.nameText = ""
    · have unnamed : (Step.found d r).1.metadata.nameText = "" := named
      rw [if_neg (by simp [named])]
      exact ⟨_, ((Persist.runs_unnamed unnamed _).map _).map _⟩
    · have named' : (Step.found d r).1.metadata.nameText ≠ "" := named
      rw [if_pos ⟨same, named⟩]
      exact ⟨_, ((Persist.runs_named named' _).map _).map _⟩

/-! What a round runs through up to its conclusion, by what the look proves. -/

theorem runs_converge_of_nothing (api : Api k.kind) (serves : a.refusal = none)
    (proved : here.evidence g wire d.identity = .nothing) :
    ∃ e, e.isNotFound = false ∧ (answer g wire (.get d.identity) here).1 = .error e ∧
      (a.converge d).Runs (answer g wire) (take api) here (d, .error (.remote .get k.kind.name e))
        (answer g wire (.get d.identity) here).2 [.call (.get d.identity) (.error e)] := by
  have fits := fits_answer_get g wire here d.identity
  rw [proved] at fits
  obtain ⟨e, answered, other⟩ := fits
  have observed := runs_observe api serves answered (Step.observe_failed d other)
  exact ⟨e, other, answered, observed.bind (.done _)⟩

theorem runs_converge_of_absent (api : Api k.kind) (serves : a.refusal = none)
    (proved : here.evidence g wire d.identity = .absent) :
    ∃ what, (answer g wire (.get d.identity) here).1 = .error (.notFound what) ∧
      ∀ {outcome final effects}, (a.createMissing d).Runs (answer g wire) (take api)
          (here.turn g wire api d) outcome final effects →
        (a.converge d).Runs (answer g wire) (take api) here outcome final
          (.call (.get d.identity) (.error (.notFound what)) :: effects) := by
  have fits := fits_answer_get g wire here d.identity
  rw [proved] at fits
  obtain ⟨what, answered⟩ := fits
  have observed := runs_observe api serves answered rfl
  rw [turn_of_absent proved]
  exact ⟨what, answered, fun put => observed.bind (.bind (.done ()) put)⟩

theorem runs_converge_of_present (api : Api k.kind) (serves : a.refusal = none) {r : k.kind.Remote}
    (proved : here.evidence g wire d.identity = .present r) :
    (answer g wire (.get d.identity) here).1 = .ok r ∧
      ∃ written, (∀ e ∈ written, e.Silent) ∧
        ∀ {outcome final effects}, (a.updateDrifted (Step.found d r).1 (Step.found d r).2).Runs
            (answer g wire) (take api) (here.turn g wire api d) outcome final effects →
          (a.converge d).Runs (answer g wire) (take api) here outcome final
            (.call (.get d.identity) (.ok r) :: (written ++ effects)) := by
  have answered : (answer g wire (.get d.identity) here).1 = .ok r := by
    have fits := fits_answer_get g wire here d.identity
    rwa [proved] at fits
  have observed := runs_observe api serves answered rfl
  obtain ⟨written, persisted⟩ := runs_persistLateInit api proved
  exact ⟨answered, written, Applying.persistLateInit_silent written _ persisted.does,
    fun put => observed.bind (persisted.bind put)⟩

/-- The conclusion of a tick sends nothing.  It publishes a failure, and nothing about a success. -/
theorem runs_apply {working : Declaration k.kind} {outcome : Except ManagedError Requeue}
    {there : Session k.kind} {effects : List (Effect k.kind)}
    (converged : (a.converge d).Runs (answer g wire) (take api) here (working, outcome) there
      effects) :
    ∃ result final later, (a.apply d).Runs (answer g wire) (take api) here result final
        (effects ++ later) ∧ final.sent = there.sent ∧
      (∀ requeue, outcome = .ok requeue → Effect.reasons later = []) ∧
      ∀ e, outcome = .error e →
        Effect.reasons later = [Applying.failureReason e] ∧ result = .error (.managed e) := by
  have concluded : (Applying.conclude d working outcome).Runs (answer g wire) (take api) there
      _ _ _ := .of_trace _
  refine ⟨_, _, _, converged.bind concluded, ?_, ?_, ?_⟩
  · exact (Applying.conclude_quiet d working outcome).view_eq concluded (·.sent) fun _ _ => rfl
  · rintro requeue rfl
    exact Applying.reasons_of_conclude_ok concluded.does
  · rintro e rfl
    exact Applying.reasons_of_conclude_error concluded.does

/-- The object is put in a phase when its turn comes, unless the tick is cancelled by then, and an
event tells how that went. -/
structure PutsIn (phase : Phase) (success : Event) (params : k.kind.Params) (turn : Session k.kind)
    (puts : List Http.Request) (reasons : List String) (result : Except OperatorError Requeue) :
    Prop where
  once : puts.length = if turn.isCancelled then 0 else 1
  body : ∀ request ∈ puts, Gateway.payload k.kind params = .ok request.body
  told : reasons = [success.reason] ∨
    ∃ e, result = .error (.managed (.remote phase k.kind.name e)) ∧
      reasons = [Applying.failureReason (.remote phase k.kind.name e)]

theorem PutsIn.at_most_once {phase : Phase} {success : Event} {params : k.kind.Params}
    {turn : Session k.kind} {puts : List Http.Request} {reasons : List String}
    {result : Except OperatorError Requeue}
    (h : PutsIn phase success params turn puts reasons result) : puts.length ≤ 1 := by
  rw [h.once]
  split <;> decide

theorem runs_apply_putting (serves : a.refusal = none) (portable : k.kind.Portable)
    (about working : Declaration k.kind) (phase : Phase) (event : Event) (requeue : Requeue)
    {there : Session k.kind} {id : k.kind.Identity}
    (same : k.kind.identity working.params = id) (proved : here.evidence g wire id ≠ .nothing)
    (before : List (Effect k.kind)) (silent : Effect.reasons before = [])
    (converged : ∀ {outcome final effects},
      (a.putting about working phase event requeue).Runs (answer g wire) (take api) there
        (working, outcome) final effects →
      (a.converge d).Runs (answer g wire) (take api) here (working, outcome) final
        (before ++ effects)) :
    ∃ result final effects puts, (a.apply d).Runs (answer g wire) (take api) here result final
        effects ∧
      final.sent = there.sent ++ puts ∧
      (∀ r ∈ puts, r.method = .put ∧ g.Addresses id r) ∧
      PutsIn phase event working.params there puts (Effect.reasons effects) result := by
  subst same
  obtain ⟨v, encoded, -⟩ := portable (k.kind.project working.params k.kind.blank)
  have payload : Gateway.payload k.kind working.params = .ok v.text := by
    rw [Gateway.payload, encoded]
  obtain ⟨outcome, after, effects, put, sent, told⟩ :=
    runs_putting (g := g) serves about working phase event requeue payload
  obtain ⟨result, final, later, applied, same, quiet, failed⟩ := runs_apply (converged put)
  obtain ⟨once, all⟩ := puts_of_evidence proved there v.text
  refine ⟨result, final, _, _, applied, same.trans sent, fun r h => ⟨(all r h).1, (all r h).2.2⟩,
    once, fun r h => ?_, ?_⟩
  · rw [(all r h).2.1, payload]
  · rw [Effect.reasons_append, Effect.reasons_append, silent]
    rcases told with ⟨success, told⟩ | ⟨e, failure, told⟩
    · rw [told, quiet requeue success]
      exact .inl rfl
    · rw [told, (failed _ failure).1, (failed _ failure).2]
      exact .inr ⟨e, rfl, rfl⟩

theorem runs_apply_of_nothing (api : Api k.kind) (serves : a.refusal = none)
    (proved : here.evidence g wire d.identity = .nothing) :
    ∃ result final effects, (a.apply d).Runs (answer g wire) (take api) here result final effects ∧
      final.sent = here.sent ++ here.looks g d.identity ∧
      ∃ e, e.isNotFound = false ∧ result = .error (.managed (.remote .get k.kind.name e)) ∧
        Effect.reasons effects = [Applying.failureReason (.remote .get k.kind.name e)] := by
  obtain ⟨e, other, -, converged⟩ := runs_converge_of_nothing api serves proved
  obtain ⟨result, final, later, applied, same, -, failed⟩ := runs_apply converged
  obtain ⟨told, eq⟩ := failed _ rfl
  refine ⟨result, final, _, applied, same.trans (sent_answer_get g wire here _), e, other, eq, ?_⟩
  rw [Effect.reasons_append, told]
  rfl

theorem runs_apply_of_absent (api : Api k.kind) (serves : a.refusal = none)
    (portable : k.kind.Portable) (proved : here.evidence g wire d.identity = .absent) :
    ∃ result final effects puts, (a.apply d).Runs (answer g wire) (take api) here result final
        effects ∧
      final.sent = here.sent ++ here.looks g d.identity ++ puts ∧
      (∀ r ∈ puts, r.method = .put ∧ g.Addresses d.identity r) ∧
      PutsIn .create (Applying.created k.kind) d.params (here.turn g wire api d) puts
        (Effect.reasons effects) result := by
  obtain ⟨what, -, converged⟩ := runs_converge_of_absent api serves proved
  rw [← sent_turn here g wire api d]
  exact runs_apply_putting serves portable d (d.withCondition .creating) .create
    (Applying.created k.kind) (some Applying.createRequeue) rfl
    (fun nothing => by rw [proved] at nothing; cases nothing)
    [.call (.get d.identity) (.error (.notFound what))] rfl converged

theorem runs_apply_of_present (api : Api k.kind) (serves : a.refusal = none)
    (portable : k.kind.Portable) {r : k.kind.Remote}
    (proved : here.evidence g wire d.identity = .present r) :
    ∃ result final effects puts, (a.apply d).Runs (answer g wire) (take api) here result final
        effects ∧
      final.sent = here.sent ++ here.looks g d.identity ++ puts ∧
      (∀ r ∈ puts, r.method = .put ∧ g.Addresses d.identity r) ∧
      if (Drift.check k.kind (k.kind.lateInit d.params r) r).upToDate then
        puts = [] ∧ Effect.reasons effects = []
      else
        PutsIn .update (Applying.updated k.kind) (k.kind.lateInit d.params r)
          (here.turn g wire api d) puts (Effect.reasons effects) result := by
  obtain ⟨-, written, silent, converged⟩ := runs_converge_of_present api serves proved
  rw [← sent_turn here g wire api d]
  have same : (Step.found d r).2.upToDate =
      (Drift.check k.kind (k.kind.lateInit d.params r) r).upToDate := rfl
  simp only [Applying.updateDrifted, same] at converged
  have untold : Effect.reasons written = [] := Effect.reasons_of_silent silent
  replace untold : Effect.reasons (.call (.get d.identity) (.ok r) :: written) = [] := untold
  cases good : (Drift.check k.kind (k.kind.lateInit d.params r) r).upToDate with
  | true =>
      rw [good, if_pos rfl] at converged
      obtain ⟨result, final, later, applied, still, quiet, -⟩ := runs_apply (converged (.done _))
      refine ⟨result, final, _, [], applied, ?_, fun r there => (List.not_mem_nil there).elim, ?_⟩
      · rw [still, List.append_nil]
      · rw [if_pos rfl, Effect.reasons_append, List.append_nil, untold, quiet _ rfl]
        exact ⟨rfl, rfl⟩
  | false =>
      rw [good] at converged
      exact runs_apply_putting serves portable (Step.found d r).1 (Step.found d r).1 .update
        (Applying.updated k.kind) (some a.pollInterval) (k.lawful.identity_lateInit d.params r)
        (fun nothing => by rw [proved] at nothing; cases nothing)
        (.call (.get d.identity) (.ok r) :: written) untold converged

/-- What applying a declaration does on some evidence, given the turn to put the object: the
requests to put it, the reasons of the events, and the result. -/
def Follows (d : Declaration k.kind) (turn : Session k.kind) (puts : List Http.Request)
    (reasons : List String) (result : Except OperatorError Requeue) : Evidence k.kind → Prop
  | .absent => PutsIn .create (Applying.created k.kind) d.params turn puts reasons result
  | .present r =>
    let params := k.kind.lateInit d.params r
    if (Drift.check k.kind params r).upToDate then puts = [] ∧ reasons = []
    else PutsIn .update (Applying.updated k.kind) params turn puts reasons result
  | .nothing =>
    puts = [] ∧ ∃ e, e.isNotFound = false ∧
      result = .error (.managed (.remote .get k.kind.name e)) ∧
      reasons = [Applying.failureReason (.remote .get k.kind.name e)]

/-- Applying a declaration sends one GET at most and then one PUT at most, all to the address of its
object.  The PUT creates the object just if the look proved that there is none, and updates it just
if the look proved that it is not as the declaration wants it, both unless the tick is cancelled
meanwhile. -/
theorem apply_follows_evidence {s : Controller} (managed : k ∈ KindName.managed)
    (serves : k = s.client) (d : Declaration k.kind) (g : Gateway) (wire : Wire) (api : Api k.kind)
    (tick : Tick) (now : Nat) :
    let here : Session k.kind := .start tick now
    let run := (s.apply d).trace (answer g wire) (take api) here
    ∃ gets puts, run.1.2.sent = gets ++ puts ∧
      (gets.length ≤ 1 ∧ ∀ r ∈ gets, r.method = .get ∧ g.Addresses d.identity r) ∧
      (puts.length ≤ 1 ∧ ∀ r ∈ puts, r.method = .put ∧ g.Addresses d.identity r) ∧
      Follows d (here.turn g wire api d) puts (Effect.reasons run.2) run.1.1
        (here.evidence g wire d.identity) := by
  intro here run
  have portable := KindName.portable managed
  obtain ⟨once, looking⟩ := here.looks_once g d.identity
  cases proved : here.evidence g wire d.identity with
  | nothing =>
      obtain ⟨result, final, effects, applied, sent, failed⟩ :=
        runs_apply_of_nothing api (Controller.refusal_eq_none serves) proved
      rw [show run = _ from applied]
      refine ⟨_, [], ?_, ⟨once, looking⟩, ⟨Nat.zero_le 1, ?_⟩, rfl, failed⟩
      · rw [sent, List.append_nil]
        rfl
      · exact fun r there => (List.not_mem_nil there).elim
  | absent =>
      obtain ⟨result, final, effects, puts, applied, sent, putting, done⟩ :=
        runs_apply_of_absent api (Controller.refusal_eq_none serves) portable proved
      rw [show run = _ from applied]
      exact ⟨_, puts, sent, ⟨once, looking⟩, ⟨done.at_most_once, putting⟩, done⟩
  | present r =>
      obtain ⟨result, final, effects, puts, applied, sent, putting, done⟩ :=
        runs_apply_of_present api (Controller.refusal_eq_none serves) portable proved
      rw [show run = _ from applied]
      refine ⟨_, puts, sent, ⟨once, looking⟩, ⟨?_, putting⟩, done⟩
      split at done
      · rw [done.1]
        exact Nat.zero_le 1
      · exact done.at_most_once

def nearby : Gateway :=
  ⟨⟨['h', 't', 't', 'p'], [], some (.name ['g']), none, .segments [[]], none, none⟩, none⟩

/-- A gateway without any objects takes a little time to say so. -/
def barren : Wire := fun _ _ => (7, .ok ⟨404, []⟩)

def unmet : Declaration KindName.keyValue.kind :=
  .ofSpec ⟨⟨"store", "greeting", "", "hello", .unset, .empty, .unset⟩, .delete⟩ none

theorem apply_follows_evidence_unmet :
    (start (.ofTimeout (.ofSeconds 5)) 0).evidence nearby barren unmet.identity = .absent ∧
      ∃ gets puts, ((Controller.apply ⟨.keyValue, 60, 10⟩ unmet).trace (answer nearby barren)
          (take fun _ _ => (1, true)) (start (.ofTimeout (.ofSeconds 5)) 0)).1.2.sent =
            gets ++ puts ∧
        gets.length ≤ 1 ∧ puts.length = 1 ∧
        ∀ r ∈ puts, r.method = .put ∧ nearby.Addresses unmet.identity r := by
  have absent : (start (.ofTimeout (.ofSeconds 5)) 0).evidence nearby barren unmet.identity =
      .absent := rfl
  obtain ⟨gets, puts, sent, looking, putting, done⟩ :=
    apply_follows_evidence (k := .keyValue) (s := ⟨.keyValue, 60, 10⟩) (by decide) rfl unmet nearby
      barren (fun _ _ => (1, true)) (.ofTimeout (.ofSeconds 5)) 0
  rw [absent] at done
  exact ⟨absent, gets, puts, sent, looking.1, done.once, putting.2⟩

end Session
end CloudReconcile
