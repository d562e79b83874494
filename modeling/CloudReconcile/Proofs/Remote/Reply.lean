import CloudReconcile.Proofs.Kinds.Portable
import CloudReconcile.Proofs.Remote.Gateway

/-!
# What a reply says of a call

A call at a gateway is one request, and what it answers is a function of the response.  A response
grants the call or it does not; if it does not, its status tells absence from other failures, and
failures that may clear up from refusals that stay until somebody changes something.
-/

namespace CloudReconcile

/-- The body of a response is as the call needs it.  Who asks for an object has to get one, and who
puts one may get the object back or nothing. -/
def Call.IsAnsweredBy {K : Kind} (body : List UInt8) : Call K → Prop
  | .get _ => ∃ object, Gateway.decode K body = .ok object
  | .put _ => body = [] ∨ ∃ object, Gateway.decode K body = .ok object
  | .delete _ => True

/-- The response grants the call. -/
def Http.Response.Grants {K : Kind} (r : Http.Response) (c : Call K) : Prop :=
  (200 ≤ r.status ∧ r.status < 300) ∧ c.IsAnsweredBy r.body

/-- The response does not count as a refusal: it is none by its class, or it is one that is about
who asks, or when. -/
def Http.Response.MayClearUp (r : Http.Response) : Prop :=
  (200 ≤ r.status ∧ r.status < 300) ∨ ¬ (400 ≤ r.status ∧ r.status < 500) ∨
    r.status ∈ [401, 403, 408, 429]

namespace Gateway

variable {K : Kind} {g : Gateway}

/-- The request of a call. -/
def requested (g : Gateway) : Call K → Except RemoteError Http.Request
  | .get id => g.request K .get id none
  | .put params => (payload K params).bind fun body =>
    g.request K .put (K.identity params) (some body)
  | .delete id => g.request K .delete id none

/-- What a call answers if it is granted with that body. -/
def understood (body : List UInt8) : (c : Call K) → c.Result
  | .get _ => decode K body
  | .put params => if body.isEmpty then .ok (K.project params K.blank) else decode K body
  | .delete _ => .ok ()

/-- What a call answers on a reply. -/
def result (c : Call K) (reply : Except RemoteError Http.Response) : c.Result :=
  (reply.bind (classify (K.describe c.identity))).bind (understood · c)

/-- A call is one request, if it can be made, and what follows from the reply. -/
theorem answer_eq {τ : Type} (portable : K.Portable) (g : Gateway) (transport : Transport τ)
    (c : Call K) (t : τ) :
    g.answer K transport c t =
      match g.requested c with
      | .error e => (c.failed e, t)
      | .ok request => (result c (transport request t).1, (transport request t).2) := by
  cases c with
  | get id =>
      cases made : g.request K .get id none with
      | error e => simp [answer, send, requested, made, Call.failed, Except.bind]
      | ok request => simp [answer, send, requested, made, result, understood, Call.identity]
  | put params =>
      obtain ⟨v, encoded, -⟩ := portable (K.project params K.blank)
      have spelt : payload K params = .ok v.text := by rw [payload, encoded]
      cases made : g.request K .put (K.identity params) (some v.text) with
      | error e => simp [answer, send, requested, spelt, made, Call.failed, Except.bind]
      | ok request =>
          simp [answer, send, requested, spelt, made, result, understood, Call.identity,
            Except.bind]
  | delete id =>
      cases made : g.request K .delete id none with
      | error e => simp [answer, send, requested, made, Call.failed, Except.map]
      | ok request =>
          simp only [answer, send, requested, made, result, understood, Call.identity]
          cases (transport request t).1.bind (classify (K.describe id)) <;> rfl

theorem requested_isTransport (portable : K.Portable) {c : Call K} {e : RemoteError}
    (h : g.requested c = .error e) : e.isTransport = true := by
  cases c with
  | get id => exact request_isTransport h
  | put params =>
      obtain ⟨v, encoded, -⟩ := portable (K.project params K.blank)
      have spelt : payload K params = .ok v.text := by rw [payload, encoded]
      rw [requested, spelt] at h
      exact request_isTransport h
  | delete id => exact request_isTransport h

/-! ## Responses -/

theorem classify_isTransport {what : String} {r : Http.Response} {e : RemoteError}
    (h : classify what r = .error e) : e.isTransport = true ↔ r.MayClearUp := by
  unfold classify at h
  unfold Http.Response.MayClearUp
  split at h
  · cases h
  · rename_i failed
    have other : ¬ (200 ≤ r.status ∧ r.status < 300) := by
      simpa [Http.Status.isSuccess] using failed
    split at h
    · rename_i missing
      obtain rfl := Except.error.inj h
      simp [RemoteError.isTransport, missing]
    · split at h
      · rename_i transient
        obtain rfl := Except.error.inj h
        have listed : r.status ∈ [401, 403, 408, 429] := by
          simpa [Http.Status.isTransient, or_assoc] using transient
        simp [RemoteError.isTransport, listed]
      · rename_i lasting
        have unlisted : r.status ∉ [401, 403, 408, 429] := by
          simpa [Http.Status.isTransient, or_assoc] using lasting
        split at h
        · rename_i refused
          have client : 400 ≤ r.status ∧ r.status < 500 := by
            simpa [Http.Status.isClientError] using refused
          obtain rfl := Except.error.inj h
          simp only [RemoteError.isTransport, Bool.false_eq_true, false_iff]
          rintro (success | distant | transient)
          · exact other success
          · exact distant client
          · exact unlisted transient
        · rename_i distant
          obtain rfl := Except.error.inj h
          simp only [RemoteError.isTransport, true_iff]
          exact .inr (.inl (by simpa [Http.Status.isClientError] using distant))

theorem understood_of_isAnsweredBy {c : Call K} {body : List UInt8} (h : c.IsAnsweredBy body) :
    ∃ a, understood body c = .ok a := by
  cases c with
  | get id => exact h
  | put params =>
      unfold understood
      split
      · exact ⟨_, rfl⟩
      · rename_i spoken
        exact h.resolve_left fun empty => spoken (List.isEmpty_iff.mpr empty)
  | delete id => exact ⟨(), rfl⟩

theorem understood_of_not_isAnsweredBy {c : Call K} {body : List UInt8}
    (h : ¬ c.IsAnsweredBy body) :
    ∃ e, understood body c = c.failed e ∧ e.isTransport = true := by
  cases c with
  | get id =>
      cases decoded : decode K body with
      | ok object => exact (h ⟨object, decoded⟩).elim
      | error e => exact ⟨e, decoded, decode_isTransport decoded⟩
  | put params =>
      have spoken : ¬ body.isEmpty = true := fun empty => h (.inl (List.isEmpty_iff.mp empty))
      cases decoded : decode K body with
      | ok object => exact (h (.inr ⟨object, decoded⟩)).elim
      | error e => exact ⟨e, (if_neg spoken).trans decoded, decode_isTransport decoded⟩
  | delete id => exact (h trivial).elim

theorem result_of_success (c : Call K) {r : Http.Response} (h : 200 ≤ r.status ∧ r.status < 300) :
    result c (.ok r) = understood r.body c := by
  show (classify _ r).bind _ = _
  rw [classify_of_success _ h.1 h.2]
  rfl

theorem result_of_grants {c : Call K} {r : Http.Response} (h : r.Grants c) :
    ∃ a, result c (.ok r) = .ok a := by
  rw [result_of_success c h.1]
  exact understood_of_isAnsweredBy h.2

/-- A response that does not grant the call makes it fail: because the object is missing just if
the status is 404, and on the way just if it may clear up. -/
theorem result_of_not_grants {c : Call K} {r : Http.Response} (h : ¬ r.Grants c) :
    ∃ e, result c (.ok r) = c.failed e ∧ (e.isNotFound = true ↔ r.status = 404) ∧
      (e.isTransport = true ↔ r.MayClearUp) := by
  by_cases success : 200 ≤ r.status ∧ r.status < 300
  · -- Only the body can be to blame, so the failure is one on the way.
    obtain ⟨e, failed, transport⟩ := understood_of_not_isAnsweredBy fun fits => h ⟨success, fits⟩
    refine ⟨e, (result_of_success c success).trans failed, ?_, ?_⟩
    · rw [RemoteError.isNotFound_of_isTransport transport]
      exact iff_of_false Bool.false_ne_true (by omega)
    · exact iff_of_true transport (.inl success)
  · obtain ⟨e, refused, missing⟩ := classify_of_failure (K.describe c.identity) success
    refine ⟨e, ?_, missing, classify_isTransport refused⟩
    show (classify _ r).bind _ = _
    rw [refused]
    rfl

end Gateway
end CloudReconcile
