import CloudReconcile.Remote.Gateway

/-!
# What a gateway is asked and what it proves

All requests about an object have the same address and the same header; they differ in their method
and their body only.  A reply proves that an object is missing or what it looks like, or it proves
nothing; every failure but absence itself is distinct from absence.
-/

namespace CloudReconcile

/-- What the reply to a look proves about an object. -/
inductive Evidence (K : Kind) where
  | absent
  | present (r : K.Remote)
  | nothing

namespace Evidence

variable {K : Kind}

/-- Only a status of 404 proves that there is no object, and only a granted request with an object
in the response proves that there is one. -/
def ofResponse (response : Http.Response) : Evidence K :=
  if response.status = 404 then .absent
  else if 200 ≤ response.status ∧ response.status < 300 then
    match Gateway.decode K response.body with
    | .ok r => .present r
    | .error _ => .nothing
  else .nothing

def ofReply : Except String Http.Response → Evidence K
  | .error _ => .nothing
  | .ok response => ofResponse response

/-- What a call for an object answers on that evidence. -/
def Fits : Evidence K → Except RemoteError K.Remote → Prop
  | .absent, result => ∃ what, result = .error (.notFound what)
  | .present r, result => result = .ok r
  | .nothing, result => ∃ e, result = .error e ∧ e.isNotFound = false

end Evidence

namespace Gateway

variable {K : Kind} {g : Gateway} {id : K.Identity}

/-! ## Requests -/

def Addresses (g : Gateway) (id : K.Identity) (request : Http.Request) : Prop :=
  ∃ url, K.address g.base id = .ok url ∧ Http.Target.ofUrl url = .ok request.target

section Request

variable {method : Http.Method} {body : Option String} {url : Url}

theorem request_of_address_error {e : RemoteError} (address : K.address g.base id = .error e) :
    g.request K method id body = .error e := by
  rw [request, address]
  rfl

theorem request_of_target_error {e : Http.TargetError} (address : K.address g.base id = .ok url)
    (target : Http.Target.ofUrl url = .error e) :
    g.request K method id body = .error (.transport e.message) := by
  rw [request, address]
  show ((Http.Target.ofUrl url).mapError _ >>= _) = _
  rw [target]
  rfl

theorem request_of_target {text : String} (address : K.address g.base id = .ok url)
    (target : Http.Target.ofUrl url = .ok text) :
    g.request K method id body =
      if (g.authorization).all Http.isHeaderText then
        .ok { method, target := text, contentType := body.map fun _ => "application/json"
              authorization := g.authorization, body := body.getD "" }
      else .error (.transport "failed to parse header value") := by
  rw [request, address]
  show ((Http.Target.ofUrl url).mapError _ >>= _) = _
  rw [target]
  rfl

end Request

/-- Every request about an object is the one that reads it, but for method and body. -/
theorem request_eq (g : Gateway) (method : Http.Method) (id : K.Identity) (body : Option String) :
    g.request K method id body = (g.request K .get id none).map fun r =>
      { r with
        method, contentType := body.map fun _ => "application/json", body := body.getD "" } := by
  cases address : K.address g.base id with
  | error e =>
      rw [request_of_address_error address, request_of_address_error address]
      rfl
  | ok url =>
      cases target : Http.Target.ofUrl url with
      | error e =>
          rw [request_of_target_error address target, request_of_target_error address target]
          rfl
      | ok text =>
          rw [request_of_target address target, request_of_target address target]
          split <;> rfl

theorem request_addresses {method : Http.Method} {body : Option String} {r : Http.Request}
    (h : g.request K method id body = .ok r) : r.method = method ∧ g.Addresses id r := by
  cases address : K.address g.base id with
  | error e =>
      rw [request_of_address_error address] at h
      cases h
  | ok url =>
      cases target : Http.Target.ofUrl url with
      | error e =>
          rw [request_of_target_error address target] at h
          cases h
      | ok text =>
          rw [request_of_target address target] at h
          split at h
          · obtain rfl := Except.ok.inj h
            exact ⟨rfl, url, address, target⟩
          · cases h

theorem address_isTransport {base : Url} {e : RemoteError} (h : K.address base id = .error e) :
    e.isTransport = true := by
  unfold Kind.address Url.extended at h
  split at h
  · cases h
  · obtain rfl := Except.error.inj h
    rfl

/-- A request that cannot be made is a failure on the way to the gateway. -/
theorem request_isTransport {method : Http.Method} {body : Option String} {e : RemoteError}
    (h : g.request K method id body = .error e) : e.isTransport = true := by
  cases address : K.address g.base id with
  | error e' =>
      rw [request_of_address_error address] at h
      rw [← Except.error.inj h]
      exact address_isTransport address
  | ok url =>
      cases target : Http.Target.ofUrl url with
      | error e' =>
          rw [request_of_target_error address target] at h
          rw [← Except.error.inj h]
          rfl
      | ok text =>
          rw [request_of_target address target] at h
          split at h
          · cases h
          · rw [← Except.error.inj h]
            rfl

/-- A request that cannot be made does not say that the object is missing. -/
theorem request_error {method : Http.Method} {body : Option String} {e : RemoteError}
    (h : g.request K method id body = .error e) : e.isNotFound = false :=
  RemoteError.isNotFound_of_isTransport (request_isTransport h)

/-! ## Replies -/

/-- A body that spells no object is a failure on the way. -/
theorem decode_isTransport {body : List UInt8} {e : RemoteError} (h : decode K body = .error e) :
    e.isTransport = true := by
  simp only [decode] at h
  split at h
  · cases h
  · obtain rfl := Except.error.inj h
    rfl
  · obtain rfl := Except.error.inj h
    rfl

theorem decode_error {body : List UInt8} {e : RemoteError} (h : decode K body = .error e) :
    e.isNotFound = false :=
  RemoteError.isNotFound_of_isTransport (decode_isTransport h)

theorem classify_of_success (what : String) {r : Http.Response} (low : 200 ≤ r.status)
    (high : r.status < 300) : classify what r = .ok r.body := by
  rw [classify, if_pos (by simp [Http.Status.isSuccess, low, high])]

theorem classify_of_failure (what : String) {r : Http.Response}
    (failed : ¬ (200 ≤ r.status ∧ r.status < 300)) :
    ∃ e, classify what r = .error e ∧ (e.isNotFound = true ↔ r.status = 404) := by
  rw [classify, if_neg (by simpa [Http.Status.isSuccess] using failed)]
  by_cases absent : r.status = 404
  · exact ⟨_, if_pos absent, by simp [RemoteError.isNotFound, absent]⟩
  · rw [if_neg absent]
    split
    · exact ⟨_, rfl, by simp [RemoteError.isNotFound, absent]⟩
    · split <;> exact ⟨_, rfl, by simp [RemoteError.isNotFound, absent]⟩

theorem evidence_fits (what : String) (reply : Except String Http.Response) :
    (Evidence.ofReply (K := K) reply).Fits
      (((reply.mapError .transport).bind (classify what)).bind (decode K)) := by
  cases reply with
  | error reason => exact ⟨_, rfl, rfl⟩
  | ok response =>
      show (Evidence.ofResponse response).Fits ((classify what response).bind (decode K))
      unfold Evidence.ofResponse
      by_cases granted : 200 ≤ response.status ∧ response.status < 300
      · rw [classify_of_success what granted.1 granted.2, if_neg (by omega), if_pos granted]
        show Evidence.Fits _ (decode K response.body)
        cases spelt : decode K response.body with
        | ok r => rfl
        | error e => exact ⟨e, rfl, decode_error spelt⟩
      · obtain ⟨e, refused, absent⟩ := classify_of_failure what granted
        rw [refused]
        by_cases missing : response.status = 404
        · rw [if_pos missing]
          cases e with
          | notFound about => exact ⟨about, rfl⟩
          | transport reason => exact (Bool.false_ne_true (absent.mpr missing)).elim
          | rejected status reason => exact (Bool.false_ne_true (absent.mpr missing)).elim
        · rw [if_neg missing, if_neg granted]
          refine ⟨e, rfl, ?_⟩
          rw [← Bool.not_eq_true, absent]
          exact missing

end Gateway
end CloudReconcile
