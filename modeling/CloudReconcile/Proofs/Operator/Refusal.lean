import CloudReconcile.Proofs.Operator.Dealings
import CloudReconcile.Proofs.Operator.Recording
import CloudReconcile.Proofs.Remote.Memory

/-!
# Refused writes make no difference to the remote system

The remote system sees of a declaration only which object it is about and at which parameters it
arrives once it has seen the object.  A round changes neither, whichever of its writes are refused:
what was taken over and could not be written back is taken over again.
-/

namespace CloudReconcile

/-- No call fails as if its object were missing. -/
def Memory.Pattern.Honest (pattern : Pattern) : Prop :=
  ∀ calls operation what, pattern calls operation ≠ some (.notFound what)

/-! ## What the remote system sees of a declaration -/

section Dealings

variable {K : Kind} {pattern : Memory.Pattern} {m : Memory K} {d e : Declaration K}

theorem Kind.eq_of_demand {aim params : K.Params} {seen : Except RemoteError K.Remote}
    (h : K.demand aim seen = some params) : params = aim := by
  cases seen with
  | ok r =>
      rw [demand] at h
      split at h
      · cases h
      · exact (Option.some.inj h).symm
  | error e =>
      rw [demand] at h
      split at h
      · exact (Option.some.inj h).symm
      · cases h

/-- What is demanded after a look at memory depends on what there is, not on what was seen. -/
theorem demand_of_look (honest : pattern.Honest) {id : K.Identity}
    {seen : Except RemoteError K.Remote} {now : Memory K}
    (looked : Memory.failing pattern (.get id) m = (seen, now)) (p : K.Params) :
    K.demand (K.aim p seen.toOption) seen = K.demand (K.aim p (m.objects id)) seen := by
  obtain ⟨-, -, ⟨e, failed, rfl⟩ | rfl⟩ := Memory.failing_get looked
  · have known : e.isNotFound = false := by
      cases e with
      | notFound what => exact (honest _ _ what failed).elim
      | _ => rfl
    simp [Kind.demand, known]
  · cases m.objects id <;> rfl

/-- Declarations of one object that aim at the same parameters deal alike with a memory. -/
theorem dealings_congr (honest : pattern.Honest) (object : d.identity = e.identity)
    (same : K.aim d.params (m.objects e.identity) = K.aim e.params (m.objects e.identity)) :
    dealings (Memory.failing pattern) d m = dealings (Memory.failing pattern) e m := by
  unfold dealings
  rw [object]
  cases looked : Memory.failing pattern (.get e.identity) m with
  | mk seen now =>
      dsimp only
      rw [demand_of_look honest looked, demand_of_look honest looked, same]

/-- A round leaves the objects as they are, or grants what the declaration aims at. -/
theorem objects_dealings (honest : pattern.Honest) (kept : ∀ r n, m.stamp r n = r) :
    let now := (dealings (Memory.failing pattern) d m).2
    now.stamp = m.stamp ∧ (now.objects = m.objects ∨
      now.objects = Memory.granted m.objects (K.aim d.params (m.objects d.identity))) := by
  unfold dealings
  cases looked : Memory.failing pattern (.get d.identity) m with
  | mk seen now =>
      obtain ⟨objects, stamp, -⟩ := Memory.failing_get looked
      dsimp only
      rw [demand_of_look honest looked, ← objects, ← stamp]
      cases demanded : K.demand (K.aim d.params (now.objects d.identity)) seen with
      | none => exact ⟨rfl, .inl rfl⟩
      | some params =>
          obtain rfl := Kind.eq_of_demand demanded
          exact Memory.failing_put (stamp ▸ kept) rfl

theorem object_of_look {id : K.Identity} {r : K.Remote} {now : Memory K}
    (looked : Memory.failing pattern (.get id) m = (.ok r, now)) : m.objects id = some r := by
  obtain ⟨-, -, ⟨e, -, failed⟩ | told⟩ := Memory.failing_get looked
  · cases failed
  · cases there : m.objects id with
    | none =>
        rw [there] at told
        cases told
    | some r' =>
        rw [there] at told
        exact congrArg some (Except.ok.inj told).symm

/-- An object that a round finds is there. -/
theorem object_of_dealings {r : K.Remote} (found : Effect.call (.get d.identity) (.ok r) ∈
    (dealings (Memory.failing pattern) d m).1) : m.objects d.identity = some r := by
  unfold dealings at found
  cases looked : Memory.failing pattern (.get d.identity) m with
  | mk seen now =>
      rw [looked] at found
      rcases List.mem_cons.mp found with look | put
      · cases look
        exact object_of_look looked
      · exfalso
        revert put
        cases K.demand (K.aim d.params seen.toOption) seen <;> simp [granting]

end Dealings

/-! ## A round -/

namespace Trial

variable {k : KindName} {s : Controller} {R : k.kind.Reporting} {pattern : Memory.Pattern}
variable {t : Trial k.kind (Memory k.kind)} {now : Declaration k.kind} {id : k.kind.Identity}
variable {aim : k.kind.Params}

/-- What is kept can be read and is to be applied; it is about that object and aims at those
parameters. -/
structure Tracks (R : k.kind.Reporting) (t : Trial k.kind (Memory k.kind))
    (now : Declaration k.kind) (id : k.kind.Identity) (aim : k.kind.Params) : Prop where
  spells : t.stored.Spells R now
  guarded : now.metadata.IsGuarded
  alive : now.metadata.isDeleted = false
  identity : now.identity = id
  aims : k.kind.aim now.params (t.remote.objects id) = aim
  kept : ∀ r n, t.remote.stamp r n = r

theorem Tracks.dealings (h : t.Tracks R now id aim) (pattern : Memory.Pattern)
    (verdict : Verdict k.kind) (serves : k = s.client) :
    Effect.calls (t.tick s (Memory.failing pattern) verdict).1 =
        (dealings (Memory.failing pattern) now t.remote).1 ∧
      (t.tick s (Memory.failing pattern) verdict).2.remote =
        (dealings (Memory.failing pattern) now t.remote).2 :=
  tick_dealings _ verdict serves h.guarded h.alive h.spells.read

/-- A round looks at the object, and sees one only if it is there. -/
theorem Tracks.looks (h : t.Tracks R now id aim) (pattern : Memory.Pattern)
    (verdict : Verdict k.kind) (serves : k = s.client) :
    (∃ seen, Effect.call (.get id) seen ∈ (t.tick s (Memory.failing pattern) verdict).1) ∧
      ∀ r, Effect.call (.get id) (.ok r) ∈ (t.tick s (Memory.failing pattern) verdict).1 →
        t.remote.objects id = some r := by
  obtain ⟨made, -⟩ := h.dealings (s := s) pattern verdict serves
  have dealt : ∀ e : Effect k.kind, e.isCall = true →
      (e ∈ (t.tick s (Memory.failing pattern) verdict).1 ↔
        e ∈ (CloudReconcile.dealings (Memory.failing pattern) now t.remote).1) := by
    intro e call
    rw [← made, Effect.calls, List.mem_filter, and_iff_left call]
  rw [← h.identity]
  constructor
  · exact ⟨_, (dealt _ rfl).mpr List.mem_cons_self⟩
  · intro r found
    exact object_of_dealings ((dealt _ rfl).mp found)

/-- What is kept after a round has what the round took over, or not. -/
theorem Tracks.remembers (h : t.Tracks R now id aim) (pattern : Memory.Pattern)
    (verdict : Verdict k.kind) (serves : k = s.client) :
    ∃ next, (t.tick s (Memory.failing pattern) verdict).2.stored.Spells R next ∧
      next.metadata = now.metadata ∧ (next.params = now.params ∨ next.params = aim) := by
  obtain ⟨seen, next, recorded, spells, follows⟩ :=
    tick_records s (Memory.failing pattern) verdict h.spells h.guarded h.alive
  refine ⟨next, spells, follows.metadata, ?_⟩
  rcases follows.spec with same | ⟨r, rfl, taken⟩
  · exact .inl (congrArg Spec.forProvider same)
  · obtain ⟨⟨answer, looked⟩, sees⟩ := h.looks (s := s) pattern verdict serves
    have answered : answer.toOption = some r := recorded _ looked
    cases answer with
    | error e => cases answered
    | ok r' =>
        obtain rfl := Option.some.inj answered
        right
        rw [← h.aims, sees r' looked]
        exact congrArg Spec.forProvider taken

/-- Whatever the cluster accepts, a round keeps to the object and to the aim. -/
theorem Tracks.tick (h : t.Tracks R now id aim) (verdict : Verdict k.kind) (serves : k = s.client)
    (honest : pattern.Honest) :
    ∃ next, (t.tick s (Memory.failing pattern) verdict).2.Tracks R next id aim := by
  obtain ⟨next, spells, metadata, remembered⟩ := h.remembers (s := s) pattern verdict serves
  obtain ⟨-, remote⟩ := h.dealings pattern verdict serves
  obtain ⟨stamp, granted⟩ := objects_dealings (d := now) honest h.kept
  rw [h.identity, h.aims, ← remote] at granted
  rw [← remote] at stamp
  have addressed : k.kind.identity aim = id := by
    rw [← h.aims, k.lawful.identity_aim]
    exact h.identity
  have object : next.identity = id := by
    rcases remembered with same | same
    · rw [← h.identity]
      exact congrArg k.kind.identity same
    · rw [← addressed]
      exact congrArg k.kind.identity same
  refine ⟨next, spells, metadata ▸ h.guarded, metadata ▸ h.alive, object, ?_, stamp ▸ h.kept⟩
  have aims := h.aims
  subst aims
  -- What is kept has moved to the aim or not, and so has the object: four cases, one law.
  refine k.steady.aim_eq remembered ?_
  rcases granted with same | same
  · exact .inl (congrFun same id)
  · right
    have there := Memory.granted_identity t.remote.objects
      (k.kind.aim now.params (t.remote.objects id))
    rw [addressed] at there
    rw [same, there]

/-! ## Two trials -/

/-- Two trials have the same remote system, are about the same object and aim at the same
parameters. -/
structure Alike (R : k.kind.Reporting) (one other : Trial k.kind (Memory k.kind))
    (id : k.kind.Identity) (aim : k.kind.Params) : Prop where
  remote : one.remote = other.remote
  one : ∃ now, one.Tracks R now id aim
  other : ∃ now, other.Tracks R now id aim

variable {one other : Trial k.kind (Memory k.kind)}

/-- Whatever the clusters accept, a round does the same in both, and they stay alike. -/
theorem Alike.tick (h : Alike R one other id aim) (verdict verdict' : Verdict k.kind)
    (serves : k = s.client) (honest : pattern.Honest) :
    Effect.calls (one.tick s (Memory.failing pattern) verdict).1 =
        Effect.calls (other.tick s (Memory.failing pattern) verdict').1 ∧
      Alike R (one.tick s (Memory.failing pattern) verdict).2
        (other.tick s (Memory.failing pattern) verdict').2 id aim := by
  obtain ⟨remote, ⟨now, h⟩, ⟨now', h'⟩⟩ := h
  obtain ⟨made, left⟩ := h.dealings (s := s) pattern verdict serves
  obtain ⟨made', left'⟩ := h'.dealings (s := s) pattern verdict' serves
  have same : dealings (Memory.failing pattern) now one.remote =
      dealings (Memory.failing pattern) now' other.remote := by
    rw [remote]
    refine dealings_congr honest (h.identity.trans h'.identity.symm) ?_
    rw [h'.identity, h'.aims, ← remote, h.aims]
  refine ⟨by rw [made, made', same], by rw [left, left', same], ?_, ?_⟩
  · exact h.tick verdict serves honest
  · exact h'.tick verdict' serves honest

theorem Alike.after (h : Alike R one other id aim) (verdict verdict' : Verdict k.kind)
    (serves : k = s.client) (honest : pattern.Honest) (n : Nat) :
    Alike R (one.after s (Memory.failing pattern) verdict n)
      (other.after s (Memory.failing pattern) verdict' n) id aim := by
  induction n generalizing one other with
  | zero => exact h
  | succ n ih => exact ih (h.tick verdict verdict' serves honest).2

/-- Whatever calls fail, and whatever the cluster accepts in one trial and in another: round by
round the same calls are made with the same results, and the remote system is the same.  Each time
the object is found, the declaration arrives at the parameters at which it arrives at first, whether
or not they could be written back before. -/
theorem tick_calls_eq_of_verdicts (managed : k ∈ KindName.managed) (serves : k = s.client)
    (d : Declaration k.kind) (guarded : d.metadata.IsGuarded)
    (alive : d.metadata.isDeleted = false) (m : Memory k.kind) (kept : ∀ r n, m.stamp r n = r)
    (pattern : Memory.Pattern) (honest : pattern.Honest) (verdict verdict' : Verdict k.kind)
    (n : Nat) :
    let one := (start d m).after s (Memory.failing pattern) verdict n
    let other := (start d m).after s (Memory.failing pattern) verdict' n
    let calls := Effect.calls (one.tick s (Memory.failing pattern) verdict).1
    one.remote = other.remote ∧
      calls = Effect.calls (other.tick s (Memory.failing pattern) verdict').1 ∧
      ∃ now now', one.stored.read = .ok now ∧ other.stored.read = .ok now' ∧
        ∀ r, Effect.call (.get d.identity) (.ok r) ∈ calls →
          (Step.found now r).1.params = k.kind.aim d.params (m.objects d.identity) ∧
          (Step.found now' r).1.params = k.kind.aim d.params (m.objects d.identity) := by
  intro one other calls
  have start : (start d m).Tracks (KindName.reporting managed) d d.identity
      (k.kind.aim d.params (m.objects d.identity)) :=
    ⟨Stored.ofDeclaration_spells _ d, guarded, alive, rfl, rfl, kept⟩
  have alike := Alike.after (s := s) ⟨rfl, ⟨d, start⟩, ⟨d, start⟩⟩ verdict verdict' serves honest n
  have same := (alike.tick verdict verdict' serves honest).1
  obtain ⟨remote, ⟨now, h⟩, ⟨now', h'⟩⟩ := alike
  refine ⟨remote, same, now, now', h.spells.read, h'.spells.read, fun r found => ?_⟩
  have there : one.remote.objects d.identity = some r :=
    (h.looks pattern verdict serves).2 r (List.mem_filter.mp found).1
  have aims := h.aims
  have aims' := h'.aims
  rw [there] at aims
  rw [← remote, there] at aims'
  exact ⟨aims, aims'⟩

def secret : Declaration KindName.vaultSecret.kind where
  metadata := { Metadata.blank with name := some "db", finalizers := some [finalizerName] }
  spec := ⟨⟨"ops", "db", "new", .unset, .unset, .unset⟩, .delete⟩
  status := none

/-- A memory that has the secret with another value, and enabled. -/
def secrets : Memory KindName.vaultSecret.kind :=
  Memory.empty.insert (K := KindName.vaultSecret.kind) ⟨"ops", "db"⟩
    { VaultSecret.Remote.blank with
      name := some "db", value := some "old"
      attributes := some { VaultSecret.RemoteAttributes.blank with enabled := some true } }

/-- The first put fails. -/
def resetOnce : Memory.Pattern := fun calls operation =>
  if operation = .put ∧ calls .put = 0 then some (.transport "connection reset") else none

/-- What the clusters keep differs after a round, but not what the remote system keeps. -/
theorem tick_calls_eq_of_verdicts_secret :
    let s : Controller := ⟨.vaultSecret, 60, 10⟩
    let one := (start secret secrets).after s (Memory.failing resetOnce) (fun _ _ => true) 1
    let other := (start secret secrets).after s (Memory.failing resetOnce) (fun _ _ => false) 1
    secret.metadata.IsGuarded ∧ resetOnce.Honest ∧
      one.stored.spec.forProvider ≠ other.stored.spec.forProvider ∧ one.remote = other.remote := by
  intro s one other
  have guarded : secret.metadata.IsGuarded := by decide
  have honest : resetOnce.Honest := by
    intro calls operation what
    unfold resetOnce
    split <;> simp
  have same := tick_calls_eq_of_verdicts (s := s) (by decide) rfl secret guarded rfl secrets
    (fun _ _ => rfl) resetOnce honest (fun _ _ => true) (fun _ _ => false) 1
  exact ⟨guarded, honest, by decide +kernel, same.1⟩

end Trial
end CloudReconcile
