import CloudReconcile.Operator.Trial
import CloudReconcile.Proofs.Kinds.Retaking
import CloudReconcile.Proofs.Operator.Conduct

/-!
# What a round does to the remote system

A round looks at the object, and then puts parameters or leaves it at that.  The declaration and the
look decide which; what the cluster makes of the writes in between has no say in it.
-/

namespace CloudReconcile

/-- What is put after a look by somebody who aims at these parameters, if anything. -/
def Kind.demand (K : Kind) (aim : K.Params) : Except RemoteError K.Remote → Option K.Params
  | .ok r => if (Drift.check K aim r).upToDate then none else some aim
  | .error e => if e.isNotFound then some aim else none

/-- Put what is demanded: the calls for it, and what they make of the remote system. -/
def granting {K : Kind} {σ : Type} (remote : Adapter K σ) (demand : Option K.Params) (here : σ) :
    List (Effect K) × σ :=
  match demand with
  | none => ([], here)
  | some params =>
    let (result, now) := remote (.put params) here
    ([.call (.put params) result], now)

/-- The calls of a round, and what they make of the remote system. -/
def dealings {K : Kind} {σ : Type} (remote : Adapter K σ) (d : Declaration K) (here : σ) :
    List (Effect K) × σ :=
  let (seen, now) := remote (.get d.identity) here
  let (puts, final) := granting remote (K.demand (K.aim d.params seen.toOption) seen) now
  (.call (.get d.identity) seen :: puts, final)

namespace Program

section Deals

variable {K : Kind} {α β σ : Type} {remote : Adapter K σ} {here now there : σ}

/-- Whatever the cluster accepts, the program has that result, makes those calls and leaves that
remote system. -/
def Deals (remote : Adapter K σ) (p : Program K α) (here : σ) (a : α) (calls : List (Effect K))
    (there : σ) : Prop :=
  ∀ (verdict : Verdict K) (t : Trial K σ), t.remote = here →
    ∃ final effects, p.Runs (Trial.adapter remote) (Trial.cluster verdict) t a final effects ∧
      Effect.calls effects = calls ∧ final.remote = there

namespace Deals

theorem done (a : α) : Deals remote (.done a) here a [] here := by
  rintro verdict t rfl
  exact ⟨t, [], .done a, rfl, rfl⟩

theorem bind {p : Program K α} {f : α → Program K β} {a : α} {b : β}
    {before later : List (Effect K)} (first : Deals remote p here a before now)
    (second : Deals remote (f a) now b later there) :
    Deals remote (p >>= f) here b (before ++ later) there := by
  intro verdict t at_here
  obtain ⟨middle, earlier, ran, made, left⟩ := first verdict t at_here
  obtain ⟨final, rest, ran', made', left'⟩ := second verdict middle left
  exact ⟨final, earlier ++ rest, ran.bind ran', by rw [Effect.calls_append, made, made'], left'⟩

end Deals

/-- A quiet program leaves the remote system alone. -/
theorem Quiet.remote_eq {p : Program K α} (quiet : p.Quiet) {verdict : Verdict K}
    {t final : Trial K σ} {a : α} {effects : List (Effect K)}
    (h : p.Runs (Trial.adapter remote) (Trial.cluster verdict) t a final effects) :
    Effect.calls effects = [] ∧ final.remote = t.remote :=
  ⟨quiet.calls_eq h.does, quiet.view_eq h (·.remote) fun _ _ => rfl⟩

theorem Quiet.deals {p : Program K Unit} (quiet : p.Quiet) : Deals remote p here () [] here := by
  rintro verdict t rfl
  exact ⟨_, _, .of_trace p, quiet.remote_eq (.of_trace p)⟩

end Deals

end Program

open Program (Deals Quiet)

namespace Applying

variable {K : Kind} {σ : Type} {a : Applying K} {remote : Adapter K σ} {here now : σ}
variable {d : Declaration K}

theorem deals_step {α : Type} (serves : a.refusal = none) (step : Step K α)
    {result : step.call.Result} (answered : remote step.call here = (result, now)) :
    Deals remote (a.step d step) here (step.next result) [.call step.call result] now := by
  rintro verdict t rfl
  exact ⟨_, _, runs_step serves step (Trial.adapter_of_answer answered), rfl, rfl⟩

theorem deals_observe (serves : a.refusal = none) {seen : Except RemoteError K.Remote}
    {outcome : Outcome K Observation} (looked : remote (.get d.identity) here = (seen, now))
    (turned : (Step.observe d).next seen = outcome) :
    Deals remote (a.step d (Step.observe d)) here outcome [.call (.get d.identity) seen] now := by
  subst turned
  exact deals_step serves (Step.observe d) looked

theorem deals_putting (remote : Adapter K σ) (serves : a.refusal = none)
    (about working : Declaration K) (phase : Phase) (event : Event) (requeue : Requeue)
    (here : σ) :
    ∃ outcome, Deals remote (a.putting about working phase event requeue) here outcome
      (granting remote (some working.params) here).1
      (granting remote (some working.params) here).2 := by
  cases answered : remote (.put working.params) here with
  | mk result now =>
      have put := deals_step (d := about) serves (Step.put phase working) answered
      simp only [granting, answered]
      cases result with
      | error e => exact ⟨_, put.bind (.done _)⟩
      | ok r =>
          have told : (publish working event).Quiet := publish_only fun _ => rfl
          exact ⟨_, put.bind (told.deals.bind (.done _))⟩

theorem deals_updateDrifted (remote : Adapter K σ) (serves : a.refusal = none)
    (d : Declaration K) (o : Observation) (here : σ) :
    ∃ outcome, Deals remote (a.updateDrifted d o) here outcome
      (granting remote (if o.upToDate then none else some d.params) here).1
      (granting remote (if o.upToDate then none else some d.params) here).2 := by
  unfold updateDrifted
  split
  · exact ⟨_, .done _⟩
  · exact deals_putting remote serves d d .update (updated K) (some a.pollInterval) here

/-- Looking, creating and updating deal with the remote system as the look demands. -/
theorem deals_converge (lawful : K.Lawful) (remote : Adapter K σ) (serves : a.refusal = none)
    (d : Declaration K) (here : σ) :
    ∃ outcome, Deals remote (a.converge d) here outcome (dealings remote d here).1
      (dealings remote d here).2 := by
  cases looked : remote (.get d.identity) here with
  | mk seen now =>
      simp only [dealings, looked]
      cases seen with
      | ok r =>
          obtain ⟨outcome, updated⟩ := deals_updateDrifted remote serves (Step.found d r).1
            (Step.found d r).2 now
          have observed := deals_observe serves looked rfl
          exact ⟨outcome, observed.bind ((persistLateInit_quiet _ _).deals.bind updated)⟩
      | error e =>
          cases missing : e.isNotFound with
          | true =>
              obtain ⟨outcome, created⟩ := deals_putting remote serves d (d.withCondition .creating)
                .create (created K) (some createRequeue) now
              have observed := deals_observe serves looked (Step.observe_missing d missing)
              have aim : K.aim d.params (.error e : Except _ K.Remote).toOption =
                  d.params := lawful.aim_none d.params
              rw [aim, show K.demand _ (.error e) = some _ from if_pos missing]
              exact ⟨outcome, observed.bind (.bind (.done ()) created)⟩
          | false =>
              have observed := deals_observe serves looked (Step.observe_failed d missing)
              rw [show K.demand _ (.error e) = none from if_neg (by simp [missing])]
              exact ⟨_, observed.bind (.done _)⟩

end Applying

namespace Trial

variable {k : KindName} {σ : Type} {s : Controller} {t : Trial k.kind σ} {d : Declaration k.kind}

/-- A round does that to the remote system, whatever the cluster accepts. -/
theorem tick_dealings (remote : Adapter k.kind σ) (verdict : Verdict k.kind)
    (serves : k = s.client) (guarded : d.metadata.IsGuarded)
    (alive : d.metadata.isDeleted = false) (read : t.stored.read = .ok d) :
    Effect.calls (t.tick s remote verdict).1 = (dealings remote d t.remote).1 ∧
      (t.tick s remote verdict).2.remote = (dealings remote d t.remote).2 := by
  obtain ⟨⟨working, outcome⟩, converged⟩ := Applying.deals_converge k.lawful remote
    (Controller.refusal_eq_none serves) d t.remote
  obtain ⟨middle, before, converges, made, left⟩ := converged verdict t rfl
  obtain ⟨result, final, later, concludes⟩ : ∃ result final later,
      (Applying.conclude d working outcome).Runs (adapter remote) (cluster verdict) middle
        result final later := ⟨_, _, _, .of_trace _⟩
  have applies : (s.apply d).Runs (adapter remote) (cluster verdict) t result final
      (before ++ later) := converges.bind concludes
  obtain ⟨silent, same⟩ := (Applying.conclude_quiet d working outcome).remote_eq concludes
  rw [tick_eq read (Controller.reconcile_eq_apply s guarded alive ▸ applies.map _),
    Effect.calls_append, silent, List.append_nil]
  exact ⟨made, same.trans left⟩

end Trial
end CloudReconcile
