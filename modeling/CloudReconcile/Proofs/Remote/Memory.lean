import CloudReconcile.Remote.Memory

/-!
# Objects in a plain memory

In a memory that is not told to fail and that keeps objects as they are put, a look answers what is
there, and a put grants the wishes on it.
-/

namespace CloudReconcile
namespace Memory

variable {K : Kind} {m : Memory K}

/-- The objects after the wishes of some parameters are granted. -/
def granted (objects : K.Identity → Option K.Remote) (p : K.Params) (id : K.Identity) :
    Option K.Remote :=
  if id = K.identity p then some (K.project p ((objects id).getD K.blank)) else objects id

theorem granted_identity (objects : K.Identity → Option K.Remote) (p : K.Params) :
    granted objects p (K.identity p) =
      some (K.project p ((objects (K.identity p)).getD K.blank)) := if_pos rfl

theorem granted_eq_self {objects : K.Identity → Option K.Remote} {p : K.Params} {r : K.Remote}
    (there : objects (K.identity p) = some r) (same : K.project p r = r) :
    granted objects p = objects := by
  funext id
  unfold granted
  split
  · rename_i eq
    rw [eq, there, Option.getD_some, same]
  · rfl

theorem perform_get (m : Memory K) (id : K.Identity) :
    perform (.get id) m = ((m.objects id).elim (.error (missing id)) .ok, m) := by
  cases there : m.objects id <;> simp only [perform, there] <;> rfl

theorem perform_delete (m : Memory K) (id : K.Identity) :
    perform (.delete id) m = ((m.objects id).elim (.error (missing id)) fun _ => .ok (),
      if (m.objects id).isSome then m.erase id else m) := by
  cases there : m.objects id <;> simp only [perform, there] <;> rfl

theorem objects_put (kept : ∀ r n, m.stamp r n = r) (p : K.Params) :
    (m.put p).2.objects = granted m.objects p := by
  funext id
  show (if id = K.identity p then some (m.stamp _ _) else m.objects id) = _
  rw [kept, granted]
  split
  · rename_i same
    rw [same]
  · rfl

theorem answer_of_told {c : Call K} {e : RemoteError} (h : m.failures c.operation = some e) :
    answer c m = (.error e, m.count c.operation) := by
  have told : (m.count c.operation).failures c.operation = some e := h
  simp only [answer, told]

theorem answer_of_spared {c : Call K} (h : m.failures c.operation = none) :
    answer c m = perform c (m.count c.operation) := by
  have spared : (m.count c.operation).failures c.operation = none := h
  simp only [answer, spared]

/-- Parameters are put like others of the same object that come to the same when they are granted on
it. -/
theorem put_congr {p q : K.Params} (same : K.identity q = K.identity p)
    (granted : K.project q ((m.objects (K.identity p)).getD K.blank) =
      K.project p ((m.objects (K.identity p)).getD K.blank)) : m.put q = m.put p := by
  simp only [put, same, granted]

theorem answer_put_congr {p q : K.Params} (same : K.identity q = K.identity p)
    (granted : K.project q ((m.objects (K.identity p)).getD K.blank) =
      K.project p ((m.objects (K.identity p)).getD K.blank)) :
    answer (.put q) m = answer (.put p) m := by
  have put : (m.count .put).put q = (m.count .put).put p := put_congr same granted
  simp only [answer, perform, Call.operation, put]

/-! ## Calls that do not fail -/

theorem IsPlain.answer_get (h : m.IsPlain) (id : K.Identity) :
    answer (.get id) m =
      ((m.objects id).elim (.error (missing id)) .ok, m.count .get) := by
  rw [answer_of_spared (h.failures _), perform_get]
  rfl

theorem IsPlain.answer_put (h : m.IsPlain) (p : K.Params) :
    ∃ now, answer (.put p) m = (.ok (K.project p ((m.objects (K.identity p)).getD K.blank)), now) ∧
      now.IsPlain ∧ now.objects = granted m.objects p := by
  refine ⟨((m.count .put).put p).2, ?_, ⟨h.failures, h.stamp⟩, objects_put h.stamp p⟩
  rw [answer_of_spared (h.failures _)]
  show (Except.ok (m.stamp _ _), _) = _
  rw [h.stamp]
  rfl

theorem IsPlain.answer_delete (h : m.IsPlain) (id : K.Identity) :
    ∃ now, answer (.delete id) m =
        ((m.objects id).elim (.error (missing id)) fun _ => .ok (), now) ∧
      now.IsPlain ∧ now.objects = fun other => if other = id then none else m.objects other := by
  rw [answer_of_spared (h.failures _), perform_delete]
  refine ⟨_, rfl, ?_, ?_⟩
  · split <;> exact ⟨h.failures, h.stamp⟩
  · split
    · rfl
    · rename_i unseen
      have there : m.objects id = none := Option.not_isSome_iff_eq_none.mp unseen
      funext other
      by_cases eq : other = id
      · rw [if_pos eq, eq]
        exact there
      · rw [if_neg eq]
        rfl

/-! ## Calls that fail by a pattern -/

variable {pattern : Pattern} {now : Memory K}

/-- A look changes no object.  It fails by the pattern, or it tells what there is. -/
theorem failing_get {id : K.Identity} {seen : Except RemoteError K.Remote}
    (h : failing pattern (.get id) m = (seen, now)) :
    now.objects = m.objects ∧ now.stamp = m.stamp ∧
      ((∃ e, pattern m.calls .get = some e ∧ seen = .error e) ∨
        seen = (m.objects id).elim (.error (missing id)) .ok) := by
  cases told : pattern m.calls .get with
  | some e =>
      obtain ⟨rfl, rfl⟩ := Prod.mk.inj ((answer_of_told told).symm.trans h)
      exact ⟨rfl, rfl, .inl ⟨e, rfl, rfl⟩⟩
  | none =>
      have answered := (answer_of_spared told).symm.trans h
      rw [perform_get] at answered
      obtain ⟨rfl, rfl⟩ := Prod.mk.inj answered
      exact ⟨rfl, rfl, .inr rfl⟩

theorem failing_get_of_spared {id : K.Identity} (spared : pattern m.calls .get = none) :
    (failing pattern (.get id) m).1 = (m.objects id).elim (.error (missing id)) .ok := by
  have answered := answer_of_spared (m := { m with failures := pattern m.calls })
    (c := .get id) spared
  rw [failing, answered, perform_get]
  rfl

/-- The object that a put makes of the one that is there, if it does not fail. -/
def next (m : Memory K) (p : K.Params) : K.Remote :=
  m.stamp (K.project p ((m.objects (K.identity p)).getD K.blank)) (m.writes + 1)

theorem failing_put_of_told {p : K.Params} {e : RemoteError}
    (told : pattern m.calls .put = some e) :
    ∃ now, failing pattern (.put p) m = (.error e, now) ∧ now.objects = m.objects ∧
      now.stamp = m.stamp :=
  ⟨_, answer_of_told told, rfl, rfl⟩

theorem failing_put_of_spared {p : K.Params} (spared : pattern m.calls .put = none) :
    ∃ now, failing pattern (.put p) m = (.ok (m.next p), now) ∧
      now.objects (K.identity p) = some (m.next p) ∧
      (∀ id, id ≠ K.identity p → now.objects id = m.objects id) ∧ now.stamp = m.stamp :=
  ⟨_, answer_of_spared spared, if_pos rfl, fun _ other => if_neg other, rfl⟩

/-- A put grants the wishes unless it fails. -/
theorem failing_put {p : K.Params} {result : Except RemoteError K.Remote}
    (kept : ∀ r n, m.stamp r n = r) (h : failing pattern (.put p) m = (result, now)) :
    now.stamp = m.stamp ∧ (now.objects = m.objects ∨ now.objects = granted m.objects p) := by
  cases told : pattern m.calls .put with
  | some e =>
      obtain ⟨rfl, rfl⟩ := Prod.mk.inj ((answer_of_told told).symm.trans h)
      exact ⟨rfl, .inl rfl⟩
  | none =>
      obtain ⟨rfl, rfl⟩ := Prod.mk.inj ((answer_of_spared told).symm.trans h)
      exact ⟨rfl, .inr (objects_put kept p)⟩

end Memory
end CloudReconcile
