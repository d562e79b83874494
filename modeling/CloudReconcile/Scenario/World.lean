import CloudReconcile.Operator.Controller
import CloudReconcile.Operator.Effect
import CloudReconcile.Scenario.Cluster
import CloudReconcile.Scenario.Site

/-!
# A controller at work

A world holds a declaration, its remote system and its cluster, and a list of what is going to
happen.  The controller reconciles the declaration at first, whenever it changes, and when a
reconciliation has asked for it.  Time counts in milliseconds, and nothing takes time but remote
calls.
-/

namespace CloudReconcile

/-- Something that happens while a controller is at work. -/
inductive Happening (K : Kind) where
  | remote (change : SiteChange K)
  | modified (d : Declaration K)
  | deleted

namespace Happening

variable {K : Kind}

/-- Happenings with the times at which they take effect.  They come one after the other, and a call
takes its time before it reaches the remote system; the delays are those of the beginning. -/
def settled (delay : Delays) (free : Nat) :
    List (Nat × Happening K) → List (Nat × Happening K)
  | [] => []
  | (start, happening) :: rest =>
    let time := max free start
    match happening with
    | .remote (.call c) =>
      let arrival := time + delay c.operation
      (arrival, happening) :: settled delay arrival rest
    | .remote (.delay operation milliseconds) =>
      (time, happening) :: settled (delay.set operation milliseconds) time rest
    | _ => (time, happening) :: settled delay time rest

end Happening

/-- What a controller works in. -/
structure World (K : Kind) where
  now : Nat
  site : Site K
  cluster : Cluster
  /-- What is going to happen, each at its time, in order. -/
  timeline : List (Nat × Happening K)
  latest : Option (Declaration K)
  /-- When the next reconciliation is due. -/
  due : Option Nat

namespace World

variable {K : Kind}

def happen (w : World K) (time : Nat) : Happening K → World K
  | .remote change => { w with site := w.site.change change }
  | .modified d => { w with latest := some d, due := some time }
  | .deleted => { w with latest := none, due := none }

def pass (w : World K) (time : Nat) : List (Nat × Happening K) → World K
  | [] => { w with now := time, timeline := [] }
  | (due, happening) :: rest =>
    if due ≤ time then pass (w.happen due happening) time rest
    else { w with now := time, timeline := (due, happening) :: rest }

def advance (w : World K) (time : Nat) : World K := w.pass time w.timeline

/-- Answer a call under a tick, which takes its time. -/
def answer : Adapter K (Tick × World K) := fun c (tick, w) =>
  let delay := w.site.delay c.operation
  let (ending, time) := tick.ending w.now delay
  let reached := tick.reaches w.now delay delay
  let w := w.advance time
  let (result, site) := Site.answer.under tick ending reached c w.site
  (result, tick.after ending, { w with site })

def take (write : Write K) : Tick × World K → Bool × Tick × World K := fun (tick, w) =>
  let (accepted, cluster) := w.cluster.take w.now write
  (accepted, tick, { w with cluster })

def exec {α : Type} (tick : Tick) (p : Program K α) (w : World K) : α × World K :=
  let ((a, _, w), _) := p.trace answer take (tick, w)
  (a, w)

end World

namespace World

variable {k : KindName}

/-- Reconcile the declaration now.  A change that was reported meanwhile comes before the wait that
the reconciliation asks for. -/
def reconcile (controller : Controller) (tick : Tick) (d : Declaration k.kind)
    (w : World k.kind) : World k.kind :=
  let (result, w) := exec tick (controller.reconcile d) { w with due := none }
  match w.due, w.latest with
  | none, some _ =>
    { w with due := (controller.requeueAfter result).map fun s => w.now + s * 1000 }
  | _, _ => w

/-- The next thing that happens before the end. -/
inductive Next (K : Kind) where
  | reconcile (time : Nat) (d : Declaration K)
  | happening (time : Nat)
  | nothing

def next (stop : Nat) (w : World k.kind) : Next k.kind :=
  let happening : Next k.kind := match w.timeline with
    | (time, _) :: _ => if time < stop then .happening time else .nothing
    | [] => .nothing
  match w.due, w.latest with
  | some due, some d =>
    let time := max due w.now
    if time < stop ∧ w.timeline.all (fun e => time ≤ e.1) then .reconcile time d
    else happening
  | _, _ => happening

/-- Let the controller work until it is told to stop. -/
def runFor (controller : Controller) (tick : Tick) (stop : Nat) :
    Nat → World k.kind → World k.kind
  | 0, w => w
  | fuel + 1, w =>
    match w.next stop with
    | .reconcile time d =>
      runFor controller tick stop fuel (reconcile controller tick d (w.advance time))
    | .happening time => runFor controller tick stop fuel (w.advance time)
    | .nothing => w

/-- Let the controller work for so many seconds.  In the end its remote calls are cancelled.  Each
round uses up a second or an entry of the timeline. -/
def run (controller : Controller) (timeout : Duration) (seconds : Nat) (w : World k.kind) :
    World k.kind :=
  let stop := seconds * 1000
  let w := { w with timeline := Happening.settled w.site.delay w.now w.timeline }
  w.runFor controller (Tick.cancelling timeout (some stop)) stop
    (2 * w.timeline.length + seconds + 2)

end World

end CloudReconcile
