import CloudReconcile.Proofs.Text.Number
import CloudReconcile.Scenario.Site

/-!
# Which settings are accepted

The settings are accepted just if the address of the gateway can be read, or is left out in testing
mode, and each time is left out or is a positive number of seconds.  What is accepted is enough to
set up the remote system of every kind.
-/

namespace CloudReconcile
namespace Config

/-- A variable that stands for a number of seconds: for the usual one if it is missing, else for
the number that it denotes, which is positive and has 64 bits. -/
def IsSeconds (given : Option String) (usual n : Nat) : Prop :=
  match given with
  | none => n = usual
  | some text => Text.Denotes text n ∧ 1 ≤ n ∧ n < 2 ^ 64

/-- The address that a variable gives; it is left out in testing mode only. -/
def IsEndpoint (given : Option String) (testingMode : Bool) (endpoint : Option Url) : Prop :=
  match given with
  | none => testingMode = true ∧ endpoint = none
  | some text => ∃ url, Url.parse text = .ok url ∧ endpoint = some url

/-- Settings that say what the variables say. -/
structure IsReadFrom (lookup : String → Option String) (c : Config) : Prop where
  endpoint : IsEndpoint (lookup "PROVIDER_ENDPOINT") c.testingMode c.endpoint
  token : c.token = (lookup "PROVIDER_TOKEN").filter (· ≠ "")
  pollInterval : IsSeconds (lookup "POLL_INTERVAL_SECS") 60 c.pollInterval
  errorRequeue : IsSeconds (lookup "ERROR_REQUEUE_SECS") 60 c.errorRequeue
  callTimeout : IsSeconds (lookup "REMOTE_CALL_TIMEOUT_SECS") 30 c.callTimeout
  testingMode : c.testingMode = true ↔ lookup "TESTING_MODE" = some "true"

variable {lookup : String → Option String}

theorem IsSeconds.pos {given : Option String} {usual n : Nat} (h : IsSeconds given usual n)
    (positive : 0 < usual) : 0 < n := by
  cases given with
  | none =>
      obtain rfl : n = usual := h
      exact positive
  | some text => exact h.2.1

theorem bind_eq_ok_iff {ε α β : Type} {first : Except ε α} {next : α → Except ε β} {b : β} :
    first >>= next = .ok b ↔ ∃ a, first = .ok a ∧ next a = .ok b := by
  cases first <;> simp [bind, Except.bind]

theorem mapError_eq_ok_iff {ε ε' α : Type} {result : Except ε α} {f : ε → ε'} {a : α} :
    result.mapError f = .ok a ↔ result = .ok a := by
  cases result with
  | error e => exact iff_of_false (by rintro ⟨⟩) (by rintro ⟨⟩)
  | ok b =>
      show Except.ok b = Except.ok a ↔ _
      rw [Except.ok.injEq, Except.ok.injEq]

theorem map_eq_ok_iff {ε α β : Type} {result : Except ε α} {f : α → β} {b : β} :
    result.map f = .ok b ↔ ∃ a, result = .ok a ∧ f a = b := by
  cases result <;> simp [Except.map]

/-! ## One variable -/

theorem seconds_eq_ok_iff {name : String} {usual n : Nat} (positive : 0 < usual) :
    seconds lookup name usual = .ok n ↔ IsSeconds (lookup name) usual n := by
  unfold seconds IsSeconds
  cases lookup name with
  | none =>
      show (if usual = 0 then Except.error _ else .ok usual) = .ok n ↔ n = usual
      rw [if_neg (by omega), Except.ok.injEq]
      exact eq_comm
  | some text =>
      show (Text.number text).mapError _ >>=
        (fun n => if n = 0 then Except.error _ else .ok n) = .ok n ↔ _
      simp only [bind_eq_ok_iff, mapError_eq_ok_iff, Text.number_eq_ok_iff]
      constructor
      · rintro ⟨m, ⟨denotes, fits⟩, accepted⟩
        split at accepted
        · cases accepted
        · obtain rfl := Except.ok.inj accepted
          exact ⟨denotes, by omega, fits⟩
      · rintro ⟨denotes, positive, fits⟩
        exact ⟨n, ⟨denotes, fits⟩, if_neg (by omega)⟩

theorem endpointOf_eq_ok_iff {testingMode : Bool} {endpoint : Option Url} :
    endpointOf lookup testingMode = .ok endpoint ↔
      IsEndpoint (lookup "PROVIDER_ENDPOINT") testingMode endpoint := by
  unfold endpointOf IsEndpoint
  cases lookup "PROVIDER_ENDPOINT" with
  | none => cases testingMode <;> simp [eq_comm]
  | some text =>
      simp only [map_eq_ok_iff, mapError_eq_ok_iff]
      exact exists_congr fun url => and_congr_right fun _ => eq_comm

/-! ## All of them -/

theorem ofLookup_eq_ok_iff {c : Config} : ofLookup lookup = .ok c ↔ c.IsReadFrom lookup := by
  unfold ofLookup
  simp only [bind_eq_ok_iff, endpointOf_eq_ok_iff, seconds_eq_ok_iff (show 0 < 60 by decide),
    seconds_eq_ok_iff (show 0 < 30 by decide)]
  constructor
  · rintro ⟨endpoint, address, poll, polling, requeue, requeuing, timeout, limit, made⟩
    obtain rfl := Except.ok.inj made
    exact ⟨address, rfl, polling, requeuing, limit, decide_eq_true_iff⟩
  · rintro ⟨address, token, polling, requeuing, limit, mode⟩
    have testing : c.testingMode = decide (lookup "TESTING_MODE" = some "true") :=
      Bool.eq_iff_iff.mpr (mode.trans decide_eq_true_iff.symm)
    rw [testing] at address
    refine ⟨c.endpoint, address, c.pollInterval, polling, c.errorRequeue, requeuing,
      c.callTimeout, limit, ?_⟩
    show Except.ok _ = _
    rw [← testing, ← token]

/-! ## Accepting -/

theorem exists_isSeconds_iff (given : Option String) (usual : Nat) :
    (∃ n, IsSeconds given usual n) ↔
      ∀ text, given = some text → ∃ n, Text.Denotes text n ∧ 1 ≤ n ∧ n < 2 ^ 64 := by
  cases given with
  | none => exact iff_of_true ⟨usual, rfl⟩ (fun _ missing => by cases missing)
  | some text =>
      constructor
      · intro read _ same
        obtain rfl := Option.some.inj same
        exact read
      · intro read
        exact read text rfl

theorem exists_isEndpoint_iff (given : Option String) (testingMode : Bool) :
    (∃ endpoint, IsEndpoint given testingMode endpoint) ↔
      (∃ text url, given = some text ∧ Url.parse text = .ok url) ∨
        given = none ∧ testingMode = true := by
  cases given with
  | none => simp [IsEndpoint]
  | some text =>
      simp only [IsEndpoint, Option.some.injEq, reduceCtorEq, false_and, or_false]
      constructor
      · rintro ⟨_, url, parsed, -⟩
        exact ⟨text, url, rfl, parsed⟩
      · rintro ⟨_, url, rfl, parsed⟩
        exact ⟨some url, url, parsed, rfl⟩

/-- Whether the settings are accepted is decided by each variable alone, but for testing mode. -/
theorem exists_isReadFrom_iff (lookup : String → Option String) :
    (∃ c, IsReadFrom lookup c) ↔
      (∃ endpoint, IsEndpoint (lookup "PROVIDER_ENDPOINT")
        (lookup "TESTING_MODE" = some "true") endpoint) ∧
      (∃ n, IsSeconds (lookup "POLL_INTERVAL_SECS") 60 n) ∧
      (∃ n, IsSeconds (lookup "ERROR_REQUEUE_SECS") 60 n) ∧
      ∃ n, IsSeconds (lookup "REMOTE_CALL_TIMEOUT_SECS") 30 n := by
  constructor
  · rintro ⟨c, address, -, polling, requeuing, limit, mode⟩
    have testing : c.testingMode = decide (lookup "TESTING_MODE" = some "true") :=
      Bool.eq_iff_iff.mpr (mode.trans decide_eq_true_iff.symm)
    rw [testing] at address
    exact ⟨⟨_, address⟩, ⟨_, polling⟩, ⟨_, requeuing⟩, ⟨_, limit⟩⟩
  · rintro ⟨⟨endpoint, address⟩, ⟨pollInterval, polling⟩, ⟨errorRequeue, requeuing⟩,
      ⟨callTimeout, limit⟩⟩
    exact ⟨⟨endpoint, (lookup "PROVIDER_TOKEN").filter (· ≠ ""), pollInterval, errorRequeue,
      callTimeout, lookup "TESTING_MODE" = some "true"⟩,
      address, rfl, polling, requeuing, limit, decide_eq_true_iff⟩

/-! ## Using what was accepted -/

variable {c : Config}

theorem IsReadFrom.token_ne (h : IsReadFrom lookup c) : c.token ≠ some "" := by
  rw [h.token]
  intro blank
  obtain ⟨-, kept⟩ := Option.filter_eq_some_iff.mp blank
  simp at kept

theorem IsReadFrom.endpoint_of_not_testing (h : IsReadFrom lookup c)
    (real : c.testingMode = false) : ∃ url, c.endpoint = some url := by
  have address := h.endpoint
  unfold IsEndpoint at address
  split at address
  · rw [real] at address
    cases address.1
  · obtain ⟨url, -, given⟩ := address
    exact ⟨url, given⟩

theorem remote_of_testing (testing : c.testingMode = true) : c.remote = .ok .memory :=
  if_pos testing

/-- Outside testing mode the remote system is the gateway at the address, with the token. -/
theorem IsReadFrom.remote_of_not_testing (h : IsReadFrom lookup c) (real : c.testingMode = false) :
    ∃ url, c.endpoint = some url ∧ c.remote = .ok (.gateway ⟨url, c.token⟩) := by
  obtain ⟨url, given⟩ := h.endpoint_of_not_testing real
  exact ⟨url, given, by simp [remote, real, given]⟩

theorem IsReadFrom.exists_remote (h : IsReadFrom lookup c) : ∃ choice, c.remote = .ok choice := by
  cases real : c.testingMode with
  | true => exact ⟨.memory, remote_of_testing real⟩
  | false =>
      obtain ⟨url, -, chosen⟩ := h.remote_of_not_testing real
      exact ⟨.gateway ⟨url, c.token⟩, chosen⟩

/-- The settings are accepted just if the address is readable, or missing in testing mode, and each
time that is given is a sign-free or plus-signed row of digits for a positive number of 64 bits.
Accepted settings say what the variables say, and every kind gets its remote system: the memory in
testing mode, and the gateway at the address otherwise. -/
theorem exists_ofLookup_iff (lookup : String → Option String) :
    ((∃ c, ofLookup lookup = .ok c) ↔
      ((∃ text url, lookup "PROVIDER_ENDPOINT" = some text ∧ Url.parse text = .ok url) ∨
        lookup "PROVIDER_ENDPOINT" = none ∧ lookup "TESTING_MODE" = some "true") ∧
      ∀ name ∈ ["POLL_INTERVAL_SECS", "ERROR_REQUEUE_SECS", "REMOTE_CALL_TIMEOUT_SECS"],
        ∀ text, lookup name = some text → ∃ n, Text.Denotes text n ∧ 1 ≤ n ∧ n < 2 ^ 64) ∧
    ∀ c, ofLookup lookup = .ok c →
      IsReadFrom lookup c ∧ 0 < c.pollInterval ∧ 0 < c.errorRequeue ∧ 0 < c.callTimeout ∧
        c.token ≠ some "" ∧ (c.testingMode = true → c.remote = .ok .memory) ∧
        (c.testingMode = false →
          ∃ url, c.endpoint = some url ∧ c.remote = .ok (.gateway ⟨url, c.token⟩)) ∧
        ∀ k : KindName, ∃ site : Site k.kind, c.remote.map Site.ofChoice = .ok site := by
  simp only [ofLookup_eq_ok_iff]
  constructor
  · rw [exists_isReadFrom_iff]
    simp only [exists_isEndpoint_iff, exists_isSeconds_iff, decide_eq_true_eq,
      List.forall_mem_cons, List.not_mem_nil, false_implies, implies_true, and_true]
  · intro c read
    refine ⟨read, read.pollInterval.pos (by decide), read.errorRequeue.pos (by decide),
      read.callTimeout.pos (by decide), read.token_ne, remote_of_testing,
      read.remote_of_not_testing, ?_⟩
    intro k
    obtain ⟨choice, chosen⟩ := read.exists_remote
    exact ⟨.ofChoice choice, by rw [chosen]; rfl⟩

/-- Variables for a try without a gateway, with one time given in a roundabout way. -/
def roundabout : String → Option String :=
  (StringMap.ofList [("TESTING_MODE", "true"), ("POLL_INTERVAL_SECS", "+007")]).get?

/-- They are accepted and read as what they denote. -/
theorem ofLookup_roundabout :
    ofLookup roundabout = .ok ⟨none, none, 7, 60, 30, true⟩ ∧
      IsReadFrom roundabout ⟨none, none, 7, 60, 30, true⟩ := by
  have accepted : ofLookup roundabout = .ok ⟨none, none, 7, 60, 30, true⟩ := by decide
  exact ⟨accepted, ((exists_ofLookup_iff roundabout).2 _ accepted).1⟩

end Config
end CloudReconcile
