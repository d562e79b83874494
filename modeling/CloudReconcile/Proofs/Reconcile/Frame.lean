import CloudReconcile.Proofs.Operator.Conduct
import CloudReconcile.Proofs.Reconcile.Cancellation

/-!
# What steps leave alone

A step that gets no object for an answer changes nothing of its declaration but what it says about
being ready, and that does not depend on how the step turns out.  No step touches the metadata, what
is to happen in the end, or a condition about anything else.  A client for another kind makes no
call and changes nothing at all. -/

namespace CloudReconcile

variable {K : Kind} {σ : Type}

namespace Declaration

variable {d d' d'' : Declaration K}

/-- What every step leaves alone is the same in both declarations. -/
structure Keeps (d d' : Declaration K) : Prop where
  metadata : d'.metadata = d.metadata
  deletionPolicy : d'.spec.deletionPolicy = d.spec.deletionPolicy
  conditions : d'.statusOrBlank.conditions.filter (fun c => c.type ≠ Condition.ready) =
    d.statusOrBlank.conditions.filter fun c => c.type ≠ Condition.ready

theorem Keeps.trans (first : d.Keeps d') (second : d'.Keeps d'') : d.Keeps d'' where
  metadata := second.metadata.trans first.metadata
  deletionPolicy := second.deletionPolicy.trans first.deletionPolicy
  conditions := second.conditions.trans first.conditions

theorem SameButReady.keeps (h : d.SameButReady d') : d.Keeps d' :=
  ⟨h.metadata, congrArg Spec.deletionPolicy h.spec, h.conditions⟩

theorem Keeps.refl (d : Declaration K) : d.Keeps d := (SameButReady.refl d).keeps

/-- A declaration whose object was found has other parameters and another report, but tells the same
about everything except being ready. -/
theorem keeps_found (d : Declaration K) (r : K.Remote) : d.Keeps (Step.found d r).1 where
  metadata := rfl
  deletionPolicy := rfl
  conditions := (d.sameButReady_withCondition (c := .available) rfl).conditions

end Declaration

namespace Errand

theorem keeps_next (e : Errand) (d : Declaration K) (answer : (e.step d).call.Result) :
    d.Keeps ((e.step d).next answer).1 := by
  cases e with
  | observe =>
      cases answer with
      | ok r => exact d.keeps_found r
      | error cause => exact .refl d
  | create => exact (sameButReady_marked .create d).keeps
  | update => exact .refl d
  | delete => cases answer <;> exact (sameButReady_marked .delete d).keeps

theorem keeps_runAll (remote : Adapter K σ) (errands : List Errand) (d : Declaration K) (s : σ) :
    d.Keeps (runAll remote errands (d, s)).2.1 := by
  induction errands generalizing d s with
  | nil => exact .refl d
  | cons e rest ih => exact (e.keeps_next d _).trans (ih _ _)

variable {k : KindName}

/-- With a declaration of its own kind a client runs an errand as it is; one of another kind it
refuses, without a call or a write. -/
theorem trace_step (s : Controller) (remote : Adapter k.kind σ)
    (cluster : Write k.kind → σ → Bool × σ) (e : Errand) (d : Declaration k.kind) (here : σ) :
    (s.step d (e.step d)).trace remote cluster here =
      if k = s.client then
        let ran := e.run remote (d, here)
        (((ran.2.1, ran.1.outcome), ran.2.2), [.call ran.1.call ran.1.answer])
      else (((d, .error (.misuse s.client.text)), here), []) := by
  rw [Controller.step_eq_erased]
  by_cases serves : k = s.client
  · rw [if_pos serves, Step.erased_of_eq serves]
    rfl
  · rw [if_neg serves, Step.erased_of_ne serves]
    rfl

/-- Whatever the answer: a look that gets no object and an update leave the declaration as it is,
and creating and deleting change only what it says about being ready.  No errands touch the
metadata, what is to happen in the end, or other conditions.  A client does the same with
declarations of its kind and nothing with others, which it refuses naming its kind. -/
theorem step_frame (d : Declaration k.kind) (remote : Adapter k.kind σ) (here : σ) :
    (∀ cause, ((observe.step d).next (.error cause)).1 = d) ∧
      (∀ answer, ((update.step d).next answer).1 = d) ∧
      (∀ answer, ((create.step d).next answer).1 = d.withCondition .creating) ∧
      (∀ answer, ((delete.step d).next answer).1 = d.withCondition .deleting) ∧
      d.SameButReady (d.withCondition .creating) ∧ d.SameButReady (d.withCondition .deleting) ∧
      (∀ errands, d.Keeps (runAll remote errands (d, here)).2.1) ∧
      ∀ (s : Controller) (cluster : Write k.kind → σ → Bool × σ) (e : Errand),
        (s.step d (e.step d)).trace remote cluster here =
          if k = s.client then
            let ran := e.run remote (d, here)
            (((ran.2.1, ran.1.outcome), ran.2.2), [.call ran.1.call ran.1.answer])
          else (((d, .error (.misuse s.client.text)), here), []) := by
  have deleted (answer : Except RemoteError Unit) :
      ((delete.step d).next answer).1 = d.withCondition .deleting := by
    cases answer <;> rfl
  exact ⟨fun _ => rfl, fun _ => rfl, fun _ => rfl, deleted, sameButReady_marked .create d,
    sameButReady_marked .delete d, fun errands => keeps_runAll remote errands d here,
    fun s cluster e => trace_step s remote cluster e d here⟩

end Errand
end CloudReconcile
