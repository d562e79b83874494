import CloudReconcile.Tick.Span
import Mathlib.Data.List.Chain

/-!
# Deadlines

Each of the calls under one tick has the whole time of the tick for itself.  It ends when it is
done, when that time is over, or when the tick is cancelled, whichever comes first, and only in the
first case what it gives is answered.  Nothing is begun once the tick is cancelled.
-/

namespace CloudReconcile

namespace Span

variable {σ α : Type}

/-- The call would begin when the tick is cancelled already. -/
def IsLate (moment : Option Nat) (span : Span σ α) : Prop := ∃ m ∈ moment, m ≤ span.start

/-- The call is done before its time is over or the tick is cancelled.  It may take all its time. -/
def InTime (timeout : Duration) (moment : Option Nat) (span : Span σ α) : Prop :=
  span.call.delay ≤ timeout.milliseconds ∧ ∀ m ∈ moment, span.start + span.call.delay < m

/-- The first of the moments at which the call is done, its time is over, the tick is cancelled. -/
def earliest (timeout : Duration) (moment : Option Nat) (span : Span σ α) : Nat :=
  let own := min (span.start + span.call.delay) (span.start + timeout.milliseconds)
  moment.elim own (min own)

theorem earliest_of_free {timeout : Duration} {moment : Option Nat} {span : Span σ α}
    (free : ∀ m ∈ moment,
      min (span.start + span.call.delay) (span.start + timeout.milliseconds) ≤ m) :
    span.earliest timeout moment =
      min (span.start + span.call.delay) (span.start + timeout.milliseconds) := by
  cases moment with
  | none => rfl
  | some m => exact Nat.min_eq_left (free m rfl)

theorem earliest_of_first {timeout : Duration} {m : Nat} {span : Span σ α}
    (first : m ≤ min (span.start + span.call.delay) (span.start + timeout.milliseconds)) :
    span.earliest timeout (some m) = m := Nat.min_eq_right first

/-- If the tick is cancelled after the call began, it is not at the very moment when the call is
done or its time is over. -/
def IsApart (timeout : Duration) (moment : Option Nat) (span : Span σ α) : Prop :=
  ∀ m ∈ moment, span.start < m →
    m ≠ min (span.start + span.call.delay) (span.start + timeout.milliseconds)

instance (timeout : Duration) (moment : Option Nat) (span : Span σ α) :
    Decidable (span.IsApart timeout moment) :=
  inferInstanceAs (Decidable (∀ m ∈ moment, span.start < m →
    m ≠ min (span.start + span.call.delay) (span.start + timeout.milliseconds)))

/-- The second call begins when the first one has ended, with what that left behind. -/
def Precedes (first second : Span σ α) : Prop :=
  second.start = first.finish ∧ second.before = first.after

/-- How a call goes under a tick that is cancelled at some moment. -/
structure Obeys (timeout : Duration) (moment : Option Nat) (span : Span σ α) : Prop where
  late : span.IsLate moment → span.ending = .cancelled ∧ span.finish = span.start ∧
    span.after = span.before ∧ span.answer = .error (.transport "remote call cancelled")
  begun : ¬ span.IsLate moment →
    span.after = span.call.act span.before ∧ span.finish = span.earliest timeout moment
  completed : ¬ span.IsLate moment →
    (span.ending = .completed ↔ span.InTime timeout moment)
  own : span.ending = .completed → span.answer = span.call.result
  cancelled : ¬ span.IsLate moment → ¬ span.InTime timeout moment →
    (∃ m ∈ moment, m < span.start + timeout.milliseconds) →
      span.ending = .cancelled ∧ span.answer = .error (.transport "remote call cancelled")
  timedOut : ¬ span.IsLate moment → ¬ span.InTime timeout moment →
    (¬ ∃ m ∈ moment, m < span.start + timeout.milliseconds) →
      span.ending = .timedOut ∧ span.answer = .error (.transport
        ("remote call timed out after " ++ timeout.secondsText ++ "s"))

/-- An answer that is no failure on the way is what the call itself gave. -/
theorem Obeys.answer_eq {timeout : Duration} {moment : Option Nat} {span : Span σ α}
    (h : span.Obeys timeout moment)
    (other : ∀ e, span.answer = .error e → e.isTransport = false) :
    span.answer = span.call.result := by
  have transport (reason : String) : span.answer ≠ .error (.transport reason) := by
    intro answered
    cases other _ answered
  by_cases late : span.IsLate moment
  · exact absurd (h.late late).2.2.2 (transport _)
  · by_cases inTime : span.InTime timeout moment
    · exact h.own ((h.completed late).mpr inTime)
    · by_cases first : ∃ m ∈ moment, m < span.start + timeout.milliseconds
      · exact absurd (h.cancelled late inTime first).2 (transport _)
      · exact absurd (h.timedOut late inTime first).2 (transport _)

end Span

namespace Tick

variable {σ α : Type} {t : Tick} {start : Nat}

/-- The tick is known to be cancelled just if the moment for that has come. -/
def IsUpToDate (t : Tick) (time : Nat) : Prop :=
  t.cancelled = true ↔ ∃ m ∈ t.cancelledAt, m ≤ time

theorem isUpToDate_cancelling (timeout : Duration) (moment : Option Nat) :
    (cancelling timeout moment).IsUpToDate 0 := by
  simp [IsUpToDate, cancelling]

/-- For a tick that is up to date, the calls that it refuses are the ones that come too late. -/
theorem IsUpToDate.isCancelled_iff (h : t.IsUpToDate start) :
    t.isCancelled start = true ↔ ∃ m ∈ t.cancelledAt, m ≤ start := by
  have known : t.cancelled = true ↔ ∃ m ∈ t.cancelledAt, m ≤ start := h
  rw [isCancelled, Bool.or_eq_true, Option.any_eq_true, known]
  constructor
  · rintro (past | ⟨m, there, before⟩)
    · exact past
    · exact ⟨m, there, Nat.le_of_lt (by simpa using before)⟩
  · intro past
    exact .inl past

/-! ## One call

A call that is begun ends in one of three ways, each at a moment of its own. -/

theorem ending_of_inTime (begun : t.isCancelled start = false) {delay : Nat}
    (inTime : delay ≤ t.timeout.milliseconds) (free : ∀ m ∈ t.cancelledAt, start + delay ≤ m) :
    t.ending start delay = (.completed, start + delay) := by
  have own : t.uncancelled start delay = (.completed, start + delay) := by
    rw [uncancelled, if_pos (Nat.add_le_add_left inTime start)]
  rw [ending, begun, own]
  cases moment : t.cancelledAt with
  | none => rfl
  | some m =>
      have later : ¬ m < start + delay := Nat.not_lt.mpr (free m moment)
      simp [later]

theorem ending_of_interrupted (begun : t.isCancelled start = false) {delay m : Nat}
    (moment : t.cancelledAt = some m) (first : m < start + delay)
    (second : m < start + t.timeout.milliseconds) :
    t.ending start delay = (.cancelled, m) := by
  have before : m < (t.uncancelled start delay).2 := by
    unfold uncancelled
    dsimp only
    split
    · exact first
    · exact second
  rw [ending, begun]
  simp [moment, before]

theorem ending_of_overdue (begun : t.isCancelled start = false) {delay : Nat}
    (overdue : t.timeout.milliseconds < delay)
    (free : ∀ m ∈ t.cancelledAt, start + t.timeout.milliseconds ≤ m) :
    t.ending start delay = (.timedOut, start + t.timeout.milliseconds) := by
  have own : t.uncancelled start delay = (.timedOut, start + t.timeout.milliseconds) := by
    have late : ¬ start + delay ≤ start + t.timeout.milliseconds := by omega
    rw [uncancelled, if_neg late]
  rw [ending, begun, own]
  cases moment : t.cancelledAt with
  | none => rfl
  | some m =>
      have later : ¬ m < start + t.timeout.milliseconds := Nat.not_lt.mpr (free m moment)
      simp [later]

theorem span_of_begun (begun : t.isCancelled start = false) (s : σ) (call : Timed σ α)
    {ending : Ending} {finish : Nat} (ends : t.ending start call.delay = (ending, finish)) :
    t.span start s call =
      ⟨call, start, s, ending, finish, call.act s, t.answer ending call.result⟩ := by
  simp [span, ends, begun]

theorem span_of_isCancelled (late : t.isCancelled start = true) (s : σ) (call : Timed σ α) :
    t.span start s call = ⟨call, start, s, .cancelled, start, s, .error cancelError⟩ := by
  simp [span, ending_of_isCancelled late, late, answer]

/-- The ways in which a call goes if the tick is cancelled apart from its end. -/
inductive Goes (t : Tick) (start : Nat) (s : σ) (call : Timed σ α) : Span σ α → Prop where
  | late (past : ∃ m ∈ t.cancelledAt, m ≤ start) :
      Goes t start s call ⟨call, start, s, .cancelled, start, s, .error cancelError⟩
  | completed (begun : ∀ m ∈ t.cancelledAt, start < m)
      (inTime : call.delay ≤ t.timeout.milliseconds)
      (free : ∀ m ∈ t.cancelledAt, start + call.delay < m) :
      Goes t start s call
        ⟨call, start, s, .completed, start + call.delay, call.act s, call.result⟩
  | cancelled {m : Nat} (moment : t.cancelledAt = some m) (begun : start < m)
      (first : m < start + call.delay) (second : m < start + t.timeout.milliseconds) :
      Goes t start s call ⟨call, start, s, .cancelled, m, call.act s, .error cancelError⟩
  | timedOut (begun : ∀ m ∈ t.cancelledAt, start < m)
      (overdue : t.timeout.milliseconds < call.delay)
      (free : ∀ m ∈ t.cancelledAt, start + t.timeout.milliseconds < m) :
      Goes t start s call ⟨call, start, s, .timedOut, start + t.timeout.milliseconds,
        call.act s, .error t.timeoutError⟩

theorem IsUpToDate.goes (h : t.IsUpToDate start) (s : σ) (call : Timed σ α)
    (apart : (t.span start s call).IsApart t.timeout t.cancelledAt) :
    t.Goes start s call (t.span start s call) := by
  cases refused : t.isCancelled start with
  | true =>
      have past : ∃ m ∈ t.cancelledAt, m ≤ start := h.isCancelled_iff.mp refused
      rw [span_of_isCancelled refused]
      exact .late past
  | false =>
      have begun : ∀ m ∈ t.cancelledAt, start < m := by
        intro m there
        have waiting : ¬ ∃ m ∈ t.cancelledAt, m ≤ start := by
          rw [← h.isCancelled_iff, refused]
          exact Bool.false_ne_true
        exact Nat.lt_of_not_le fun past => waiting ⟨m, there, past⟩
      have apart : ∀ m ∈ t.cancelledAt,
          m ≠ min (start + call.delay) (start + t.timeout.milliseconds) :=
        fun m there => apart m there (begun m there)
      by_cases interrupted : ∃ m ∈ t.cancelledAt,
          m < start + call.delay ∧ m < start + t.timeout.milliseconds
      · obtain ⟨m, moment, first, second⟩ := interrupted
        rw [span_of_begun refused s call (ending_of_interrupted refused moment first second)]
        exact .cancelled moment (begun m moment) first second
      · -- The cancellation, if there is one, comes after the first end of the call's own.
        have later : ∀ m ∈ t.cancelledAt,
            min (start + call.delay) (start + t.timeout.milliseconds) < m := by
          intro m there
          have first : ¬ (m < start + call.delay ∧ m < start + t.timeout.milliseconds) :=
            fun both => interrupted ⟨m, there, both⟩
          have other := apart m there
          omega
        by_cases inTime : call.delay ≤ t.timeout.milliseconds
        · have free : ∀ m ∈ t.cancelledAt, start + call.delay < m := by
            intro m there
            have after := later m there
            omega
          rw [span_of_begun refused s call
            (ending_of_inTime refused inTime fun m there => Nat.le_of_lt (free m there))]
          exact .completed begun inTime free
        · have overdue : t.timeout.milliseconds < call.delay := Nat.lt_of_not_le inTime
          have free : ∀ m ∈ t.cancelledAt, start + t.timeout.milliseconds < m := by
            intro m there
            have after := later m there
            omega
          rw [span_of_begun refused s call
            (ending_of_overdue refused overdue fun m there => Nat.le_of_lt (free m there))]
          exact .timedOut begun overdue free

theorem IsUpToDate.of_later (h : t.IsUpToDate start) (begun : ∀ m ∈ t.cancelledAt, start < m)
    {finish : Nat} (free : ∀ m ∈ t.cancelledAt, finish < m) : t.IsUpToDate finish := by
  have waiting : ¬ t.cancelled = true := by
    intro cancelled
    obtain ⟨m, there, past⟩ := h.mp cancelled
    exact Nat.not_lt.mpr past (begun m there)
  refine iff_of_false waiting ?_
  rintro ⟨m, there, past⟩
  exact Nat.not_lt.mpr past (free m there)

/-- Whatever becomes of a call, the tick after it is up to date again. -/
theorem Goes.isUpToDate_after {s : σ} {call : Timed σ α} {span : Span σ α}
    (h : t.Goes start s call span) (known : t.IsUpToDate start) :
    (t.after span.ending).IsUpToDate span.finish := by
  cases h with
  | late past => exact iff_of_true rfl past
  | completed begun inTime free => exact known.of_later begun free
  | cancelled moment begun first second => exact iff_of_true rfl ⟨_, moment, Nat.le_refl _⟩
  | timedOut begun overdue free => exact known.of_later begun free

theorem Goes.obeys {s : σ} {call : Timed σ α} {span : Span σ α} (h : t.Goes start s call span) :
    span.Obeys t.timeout t.cancelledAt := by
  cases h with
  | late past =>
      exact {
        late := fun _ => ⟨rfl, rfl, rfl, rfl⟩
        begun := fun begun => absurd past begun
        completed := fun begun => absurd past begun
        own := nofun
        cancelled := fun begun => absurd past begun
        timedOut := fun begun => absurd past begun }
  | completed begun inTime free =>
      have own : min (start + call.delay) (start + t.timeout.milliseconds) =
          start + call.delay := by omega
      refine {
        late := fun ⟨m, there, past⟩ => absurd (begun m there) (Nat.not_lt.mpr past)
        begun := fun _ => ⟨rfl, ?_⟩
        completed := fun _ => iff_of_true rfl ⟨inTime, free⟩
        own := fun _ => rfl
        cancelled := fun _ other => absurd ⟨inTime, free⟩ other
        timedOut := fun _ other => absurd ⟨inTime, free⟩ other }
      have later : ∀ m ∈ t.cancelledAt,
          min (start + call.delay) (start + t.timeout.milliseconds) ≤ m := by
        intro m there
        have after := free m there
        omega
      refine own.symm.trans (Eq.symm ?_)
      exact Span.earliest_of_free later
  | @cancelled m moment begun first second =>
      rw [moment]
      refine {
        late := fun late => ?_
        begun := fun _ => ⟨rfl, ?_⟩
        completed := fun _ => iff_of_false nofun fun inTime => ?_
        own := nofun
        cancelled := fun _ _ _ => ⟨rfl, rfl⟩
        timedOut := fun _ _ free => absurd ⟨m, rfl, second⟩ free }
      · obtain ⟨m', there, past⟩ := late
        obtain rfl := Option.some.inj there
        exact absurd begun (Nat.not_lt.mpr past)
      · have earlier : m ≤ min (start + call.delay) (start + t.timeout.milliseconds) := by omega
        exact (Span.earliest_of_first earlier).symm
      · exact Nat.lt_asymm first (inTime.2 m rfl)
  | timedOut begun overdue free =>
      have own : min (start + call.delay) (start + t.timeout.milliseconds) =
          start + t.timeout.milliseconds := by omega
      refine {
        late := fun ⟨m, there, past⟩ => absurd (begun m there) (Nat.not_lt.mpr past)
        begun := fun _ => ⟨rfl, ?_⟩
        completed := fun _ => iff_of_false nofun fun inTime => Nat.not_le.mpr overdue inTime.1
        own := nofun
        cancelled := fun _ _ ⟨m, there, first⟩ => absurd first (Nat.lt_asymm (free m there))
        timedOut := fun _ _ _ => ⟨rfl, rfl⟩ }
      have later : ∀ m ∈ t.cancelledAt,
          min (start + call.delay) (start + t.timeout.milliseconds) ≤ m := by
        intro m there
        have after := free m there
        omega
      refine own.symm.trans (Eq.symm ?_)
      exact Span.earliest_of_free later

/-! ## Calls one after the other -/

theorem after_timeout (t : Tick) (ending : Ending) : (t.after ending).timeout = t.timeout := by
  unfold after
  split <;> rfl

theorem after_cancelledAt (t : Tick) (ending : Ending) :
    (t.after ending).cancelledAt = t.cancelledAt := by
  unfold after
  split <;> rfl

theorem obeys_of_mem_spans {s : σ} {calls : List (Timed σ α)} (h : t.IsUpToDate start)
    (apart : ∀ span ∈ t.spans start s calls, span.IsApart t.timeout t.cancelledAt) :
    ∀ span ∈ t.spans start s calls, span.Obeys t.timeout t.cancelledAt := by
  induction calls generalizing t start s with
  | nil => exact fun span there => (List.not_mem_nil there).elim
  | cons call rest ih =>
      have goes := h.goes s call (apart _ List.mem_cons_self)
      have known := goes.isUpToDate_after h
      have later := ih (s := (t.span start s call).after) known
      rw [after_timeout, after_cancelledAt] at later
      intro span there
      rcases List.mem_cons.mp there with rfl | there
      · exact goes.obeys
      · exact later (fun span there => apart span (List.mem_cons_of_mem _ there)) span there

/-- A tick that is cancelled refuses all calls, and no time passes. -/
theorem isLate_of_cancelled {s : σ} {calls : List (Timed σ α)} (cancelled : t.cancelled = true)
    (past : ∃ m ∈ t.cancelledAt, m ≤ start) :
    ∀ span ∈ t.spans start s calls, span.IsLate t.cancelledAt := by
  have refused : t.isCancelled start = true := by simp [isCancelled, cancelled]
  induction calls with
  | nil => exact fun span there => (List.not_mem_nil there).elim
  | cons call rest ih =>
      have first := span_of_isCancelled refused s call
      have same : t.after .cancelled = t := by
        simp [after, cancel, ← cancelled]
      intro span there
      rw [spans, first, same] at there
      rcases List.mem_cons.mp there with rfl | there
      · exact past
      · exact ih span there

theorem pairwise_cancelled {s : σ} {calls : List (Timed σ α)} (h : t.IsUpToDate start)
    (apart : ∀ span ∈ t.spans start s calls, span.IsApart t.timeout t.cancelledAt) :
    (t.spans start s calls).Pairwise fun earlier later =>
      earlier.ending = .cancelled → later.IsLate t.cancelledAt := by
  induction calls generalizing t start s with
  | nil => exact .nil
  | cons call rest ih =>
      have goes := h.goes s call (apart _ List.mem_cons_self)
      have known := goes.isUpToDate_after h
      have rests := ih (s := (t.span start s call).after) known
      rw [after_timeout, after_cancelledAt] at rests
      refine .cons (fun later there ended => ?_)
        (rests fun span there => apart span (List.mem_cons_of_mem _ there))
      have cancelled : (t.after (t.span start s call).ending).cancelled = true := by
        rw [ended]
        rfl
      have late := isLate_of_cancelled cancelled (known.mp cancelled) later there
      rwa [after_cancelledAt] at late

theorem isChain_spans (t : Tick) (start : Nat) (s : σ) (calls : List (Timed σ α)) :
    (t.spans start s calls).IsChain Span.Precedes := by
  induction calls generalizing t start s with
  | nil => exact .nil
  | cons call rest ih =>
      have later := ih (t.after (t.span start s call).ending) (t.span start s call).finish
        (t.span start s call).after
      cases rest with
      | nil => exact .singleton _
      | cons next rest => exact .cons_cons ⟨rfl, rfl⟩ later

/-- Calls are made one after the other under a tick whose cancellation does not fall on the very
moment when a call is done or its time is over.  Each begins when the one before it has ended, and
ends when it is done, when the whole time of the tick has passed since, or when the tick is
cancelled, whichever is first.  One that comes too late is not begun at all. -/
theorem spans_obey (timeout : Duration) (moment : Option Nat) (s : σ)
    (calls : List (Timed σ α))
    (apart : ∀ span ∈ (cancelling timeout moment).spans 0 s calls, span.IsApart timeout moment) :
    let spans := (cancelling timeout moment).spans 0 s calls
    spans.map (·.call) = calls ∧
      spans.map (·.answer) = (cancelling timeout moment).answers 0
        (calls.map fun call => (call.delay, call.result)) ∧
      (∀ first ∈ spans.head?, first.start = 0 ∧ first.before = s) ∧
      spans.IsChain Span.Precedes ∧
      (∀ span ∈ spans, span.Obeys timeout moment) ∧
      (∀ span ∈ spans, (∀ e, span.answer = .error e → e.isTransport = false) →
        span.answer = span.call.result) ∧
      spans.Pairwise fun earlier later =>
        earlier.ending = .cancelled → later.IsLate moment := by
  intro spans
  have known := isUpToDate_cancelling timeout moment
  have obey : ∀ span ∈ spans, span.Obeys timeout moment := obeys_of_mem_spans known apart
  refine ⟨map_call_spans .., map_answer_spans .., ?_, isChain_spans .., obey, ?_,
    pairwise_cancelled known apart⟩
  · intro first there
    cases calls with
    | nil => cases there
    | cons call rest =>
        obtain rfl := Option.some.inj there
        exact ⟨rfl, rfl⟩
  · intro span there other
    exact (obey span there).answer_eq other

/-- A call that notes that it was begun. -/
def noted (name : String) (delay : Nat) (result : Except RemoteError Nat) :
    Timed (List String) Nat := ⟨(· ++ [name]), delay, result⟩

/-- The first call takes all its time, the second one more than that, the third one is cancelled and
the last one is not begun, although it would be done at once. -/
theorem spans_obey_four :
    let calls := [noted "a" 5000 (.ok 1), noted "b" 6000 (.error (.notFound "kv")),
      noted "c" 4000 (.ok 3), noted "d" 0 (.ok 4)]
    let spans := (cancelling (.ofSeconds 5) (some 12000)).spans 0 [] calls
    (∀ span ∈ spans, span.IsApart (.ofSeconds 5) (some 12000)) ∧
      spans.map (·.call.delay) = [5000, 6000, 4000, 0] ∧
      spans.map (·.finish) = [5000, 10000, 12000, 12000] ∧
      spans.map (·.after) = [["a"], ["a", "b"], ["a", "b", "c"], ["a", "b", "c"]] ∧
      ∀ span ∈ spans, span.Obeys (.ofSeconds 5) (some 12000) := by
  intro calls spans
  have apart : ∀ span ∈ spans, span.IsApart (.ofSeconds 5) (some 12000) := by decide
  obtain ⟨-, -, -, -, obey, -⟩ :=
    spans_obey (.ofSeconds 5) (some 12000) ([] : List String) calls apart
  exact ⟨apart, rfl, rfl, rfl, obey⟩

end Tick
end CloudReconcile
