import CloudReconcile.Reconcile.Step

/-!
# Declarations at one remote system

Several declarations share a remote system.  Each goes through steps of its own, a call is answered
before the next one is made, and apart from that the steps come in any order.  Nobody else looks at
a declaration while it takes a step, so a step may be taken to happen when its call is answered.
-/

namespace CloudReconcile

def Step.map {K : Kind} {α β : Type} (f : α → β) (step : Step K α) : Step K β where
  call := step.call
  next answer :=
    let (d, outcome) := step.next answer
    (d, outcome.map f)

/-- What is to be done with a declaration. -/
inductive Errand where
  | observe
  | create
  | update
  | delete
deriving DecidableEq, Repr

/-- The call of a step, its answer, and how the step turned out.  Only looks find something out. -/
structure Report (K : Kind) where
  call : Call K
  answer : call.Result
  outcome : Except ManagedError (Option Observation)

namespace Errand

variable {K : Kind} {σ : Type}

def step (d : Declaration K) : Errand → Step K (Option Observation)
  | .observe => (Step.observe d).map some
  | .create => (Step.create d).map fun _ => none
  | .update => (Step.update d).map fun _ => none
  | .delete => (Step.delete d).map fun _ => none

/-- Run an errand with a declaration at a remote system. -/
def run (adapter : Adapter K σ) (e : Errand) : Declaration K × σ → Report K × Declaration K × σ
  | (d, s) =>
    let step := e.step d
    let (answer, s) := adapter step.call s
    let (d, outcome) := step.next answer
    (⟨step.call, answer, outcome⟩, d, s)

def runAll (adapter : Adapter K σ) :
    List Errand → Declaration K × σ → List (Report K) × Declaration K × σ
  | [], s => ([], s)
  | e :: rest, s =>
    let (report, s) := e.run adapter s
    let (reports, final) := runAll adapter rest s
    (report :: reports, final)

end Errand

/-- Declarations and the remote system that they share. -/
structure Crowd (ι : Type) (K : Kind) (σ : Type) where
  declarations : ι → Declaration K
  remote : σ

namespace Crowd

variable {ι : Type} [DecidableEq ι] {K : Kind} {σ : Type}

/-- What of a list of things of many declarations is one declaration's. -/
def own {α : Type} (i : ι) (tagged : List (ι × α)) : List α :=
  (tagged.filter (·.1 = i)).map (·.2)

/-- It is the turn of a declaration to run an errand. -/
def turn (adapter : Adapter K σ) (i : ι) (e : Errand) (c : Crowd ι K σ) :
    Report K × Crowd ι K σ :=
  let (report, d, remote) := e.run adapter (c.declarations i, c.remote)
  (report, { declarations := fun j => if j = i then d else c.declarations j, remote })

/-- Every order of turns is one way to interleave the errands of the declarations. -/
def run (adapter : Adapter K σ) :
    List (ι × Errand) → Crowd ι K σ → List (ι × Report K) × Crowd ι K σ
  | [], c => ([], c)
  | (i, e) :: rest, c =>
    let (report, c) := c.turn adapter i e
    let (reports, final) := run adapter rest c
    ((i, report) :: reports, final)

end Crowd
end CloudReconcile
