import CloudReconcile.Proofs.Kinds.Stamping
import CloudReconcile.Proofs.Remote.Memory

/-!
# Putting the same again and again

Parameters that are put many times are granted each time on the object that the last put left.  That
object has what is asked for already, so from the first success on nothing but the stamps of the
provider changes.  The object is up to date then, unless the provider leaves a secret with
attributes that hold nothing. -/

namespace CloudReconcile
namespace Memory

variable {K : Kind} {pattern : Pattern} {p : K.Params}

theorem written_cons_error (e : RemoteError) (answers : List (Except RemoteError K.Remote)) :
    written (.error e :: answers) = written answers := rfl

theorem written_cons_ok (r : K.Remote) (answers : List (Except RemoteError K.Remote)) :
    written (.ok r :: answers) = r :: written answers := rfl

/-- The first put of many, and what is left to put. -/
theorem puts_succ (pattern : Pattern) (p : K.Params) (m : Memory K) (n : Nat) :
    (∃ now e, puts pattern p (n + 1) m =
        (.error e :: (puts pattern p n now).1, (puts pattern p n now).2) ∧
        pattern m.calls .put = some e ∧ now.objects = m.objects ∧ now.stamp = m.stamp) ∨
      ∃ now, puts pattern p (n + 1) m =
        (.ok (m.next p) :: (puts pattern p n now).1, (puts pattern p n now).2) ∧
        now.objects (K.identity p) = some (m.next p) ∧
        (∀ id, id ≠ K.identity p → now.objects id = m.objects id) ∧ now.stamp = m.stamp := by
  cases told : pattern m.calls .put with
  | some e =>
      obtain ⟨now, failed, objects, stamp⟩ := failing_put_of_told (p := p) told
      exact .inl ⟨now, e, by rw [puts, failed], rfl, objects, stamp⟩
  | none =>
      obtain ⟨now, put, there, elsewhere, stamp⟩ := failing_put_of_spared (p := p) told
      exact .inr ⟨now, by rw [puts, put], there, elsewhere, stamp⟩

/-- The object that is kept is the last one that was answered, and the others are left alone. -/
theorem objects_puts (pattern : Pattern) (p : K.Params) (m : Memory K) (n : Nat) :
    (puts pattern p n m).2.objects (K.identity p) =
        (written (puts pattern p n m).1).getLast?.or (m.objects (K.identity p)) ∧
      ∀ id, id ≠ K.identity p → (puts pattern p n m).2.objects id = m.objects id := by
  induction n generalizing m with
  | zero => exact ⟨rfl, fun _ _ => rfl⟩
  | succ n ih =>
      rcases puts_succ pattern p m n with
        ⟨now, e, eq, -, objects, -⟩ | ⟨now, eq, there, elsewhere, -⟩
      · rw [eq, written_cons_error, ← objects]
        exact ih now
      · obtain ⟨own, others⟩ := ih now
        rw [eq, written_cons_ok, List.getLast?_cons]
        refine ⟨?_, fun id other => ?_⟩
        · rw [show (puts pattern p n now).2.objects _ = _ from own, there]
          cases (written (puts pattern p n now).1).getLast? <;> rfl
        · rw [← elsewhere id other]
          exact others id other

/-- What holds of the first object that is put, and of each one that is put on an object of which it
holds, holds of all that are answered. -/
theorem forall_written_puts (good : K.Remote → Prop) {m : Memory K}
    (first : ∀ n, good (m.stamp (K.project p ((m.objects (K.identity p)).getD K.blank)) n))
    (again : ∀ r n, good r → good (m.stamp (K.project p r) n)) (n : Nat) :
    ∀ r ∈ written (puts pattern p n m).1, good r := by
  induction n generalizing m with
  | zero => exact fun r there => (List.not_mem_nil there).elim
  | succ n ih =>
      rcases puts_succ pattern p m n with
        ⟨now, e, eq, -, objects, stamp⟩ | ⟨now, eq, there, -, stamp⟩
      · rw [eq, written_cons_error]
        exact ih (by rwa [objects, stamp]) (by rwa [stamp])
      · have put : good (m.next p) := first _
        rw [eq, written_cons_ok]
        intro r mem
        rcases List.mem_cons.mp mem with rfl | later
        · exact put
        · refine ih (fun n => ?_) (by rwa [stamp]) r later
          rw [stamp, there]
          exact again _ n put

/-- Calls that are not told to fail succeed. -/
theorem length_written_puts (spared : ∀ calls, pattern calls .put = none) (m : Memory K) (n : Nat) :
    (written (puts pattern p n m).1).length = n := by
  induction n generalizing m with
  | zero => rfl
  | succ n ih =>
      rcases puts_succ pattern p m n with
        ⟨now, e, -, told, -, -⟩ | ⟨now, eq, -, -, -⟩
      · rw [spared] at told
        cases told
      · rw [eq, written_cons_ok, List.length_cons, ih now]

variable {k : KindName}

/-- A memory that keeps objects as they are put answers the same object every time. -/
theorem written_puts_of_kept {m : Memory k.kind} (kept : ∀ r n, m.stamp r n = r)
    (p : k.kind.Params) (n : Nat) :
    ∀ r ∈ written (puts pattern p n m).1,
      r = k.kind.project p ((m.objects (k.kind.identity p)).getD k.kind.blank) := by
  refine forall_written_puts (· = _) (kept _) (fun r n same => ?_) n
  rw [kept, same]
  exact k.lawful.project_project p _

/-- A provider that changes only what nobody can wish for answers objects that are the same in all
that can be wished for. -/
theorem unstamped_written_puts {m : Memory k.kind} (spares : k.Spares m.stamp)
    (p : k.kind.Params) (n : Nat) :
    ∀ r ∈ written (puts pattern p n m).1,
      k.unstamped r =
        k.unstamped (k.kind.project p ((m.objects (k.kind.identity p)).getD k.kind.blank)) := by
  refine forall_written_puts (fun r => k.unstamped r = k.unstamped _) (spares _)
    (fun r n same => ?_) n
  rw [spares, KindName.unstamped_project p same]
  exact congrArg k.unstamped (k.lawful.project_project p _)

/-- However often the same parameters are put and whichever calls fail, the last object answered is
kept and found, and the others stay.  Without stamps it is always the same one and up to date; with
stamps that spare the wishes these stay granted, and only bare attributes keep it from being so. -/
theorem puts_observations (managed : k ∈ KindName.managed) (m : Memory k.kind)
    (p : k.kind.Params) (pattern : Pattern) (n : Nat) :
    let id := k.kind.identity p
    let granted := k.kind.project p ((m.objects id).getD k.kind.blank)
    let ran := puts pattern p n m
    (∀ other, other ≠ id → ran.2.objects other = m.objects other) ∧
      ran.2.objects id = (written ran.1).getLast?.or (m.objects id) ∧
      (∀ r, (written ran.1).getLast? = some r → pattern ran.2.calls .get = none →
        (failing pattern (.get id) ran.2).1 = .ok r) ∧
      ((∀ calls, pattern calls .put = none) → (written ran.1).length = n) ∧
      ((∀ r n, m.stamp r n = r) → ∀ r ∈ written ran.1,
        r = granted ∧ k.IsGranted p r ∧ Drift.check k.kind p r = ⟨true, none⟩) ∧
      (k.Spares m.stamp → ∀ r ∈ written ran.1,
        k.unstamped r = k.unstamped granted ∧ k.IsGranted p r ∧
          (Drift.check k.kind p r).error = none ∧
          ((Drift.check k.kind p r).upToDate = true ↔ ¬ k.MeetsBareAttributes p r)) := by
  intro id granted ran
  obtain ⟨own, others⟩ := objects_puts pattern p m n
  refine ⟨others, own, fun r last spared => ?_, fun spared => length_written_puts spared m n,
    fun kept r there => ?_, fun spares r there => ?_⟩
  · rw [failing_get_of_spared spared, own, last]
    rfl
  · obtain rfl : r = granted := written_puts_of_kept kept p n r there
    refine ⟨rfl, KindName.isGranted_project p _, ?_⟩
    rw [(KindName.portable managed).check_eq, k.lawful.project_project]
    exact congrArg (DriftCheck.mk · none) (decide_eq_true rfl)
  · have same : k.unstamped r = k.unstamped granted := unstamped_written_puts spares p n r there
    have wishes : k.IsGranted p r := (KindName.isGranted_project p _).of_unstamped same
    exact ⟨same, wishes, KindName.check_of_isGranted managed wishes⟩

/-- The stamp of a vault is an identifier and the time of the last change. -/
theorem spares_vault : KindName.vaultSecret.Spares VaultSecret.stamp := fun _ _ => rfl

/-- A vault with a secret that is enabled and has another value than the one that will be asked for.
-/
def vault : Memory KindName.vaultSecret.kind :=
  let enabled := { VaultSecret.RemoteAttributes.blank with enabled := some true }
  let there := { VaultSecret.Remote.blank with value := some "old", attributes := some enabled }
  let plain : Memory KindName.vaultSecret.kind := Memory.empty.insert ⟨"ops", "db"⟩ there
  { plain with stamp := VaultSecret.stamp }

/-- Granting that the secret is not enabled drops its attributes, and the stamp brings them back.
One call of three fails; the secret is as it is wanted all the same. -/
theorem puts_observations_vault :
    let p : KindName.vaultSecret.kind.Params :=
      (⟨"ops", "db", "v", .unset, .set { VaultSecret.Attributes.blank with enabled := .empty },
        .unset⟩ : VaultSecret.Params)
    let pattern : Pattern := fun calls operation =>
      if operation = .put ∧ calls .put = 1 then some (.transport "reset") else none
    let ran := puts pattern p 3 vault
    let kept := puts (fun _ _ => none) p 2 { vault with stamp := fun r _ => r }
    KindName.vaultSecret ∈ KindName.managed ∧ KindName.vaultSecret.Spares vault.stamp ∧
      ran.1.map (·.isOk) = [true, false, true] ∧
      (∃ r, ran.2.objects (VaultSecret.Identity.mk "ops" "db") = some r ∧
        (failing pattern (.get (VaultSecret.Identity.mk "ops" "db")) ran.2).1 = .ok r ∧
        KindName.vaultSecret.IsGranted p r ∧
        (Drift.check KindName.vaultSecret.kind p r).upToDate = true) ∧
      (written kept.1).length = 2 ∧ ∀ r ∈ written kept.1, r.attributes = none := by
  intro p pattern ran kept
  have managed : KindName.vaultSecret ∈ KindName.managed := by decide
  obtain ⟨-, own, looked, -, -, spared⟩ := puts_observations managed vault p pattern 3
  obtain ⟨r, last⟩ : ∃ r : VaultSecret.Remote, (written ran.1).getLast? = some r ∧
      r.attributes ≠ some .blank := ⟨_, rfl, by decide⟩
  obtain ⟨last, holds⟩ := last
  obtain ⟨-, -, -, counted, same, -⟩ :=
    puts_observations managed { vault with stamp := fun r _ => r } p (fun _ _ => none) 2
  obtain ⟨-, wishes, -, verdict⟩ := spared spares_vault r (List.mem_of_getLast? last)
  refine ⟨managed, spares_vault, rfl, ⟨r, ?_, looked r last rfl, wishes, ?_⟩,
    counted fun _ => rfl, ?_⟩
  · exact own.trans (by rw [last]; rfl)
  · exact verdict.mpr fun bare => holds bare.2
  · intro r there
    rw [(same (fun _ _ => rfl) r there).1]
    rfl

/-- A provider that takes the time of the last change away, and so gives bare attributes to a secret
that has none: the wishes are granted, and the secret is not up to date. -/
theorem puts_not_upToDate_bare :
    let p : KindName.vaultSecret.kind.Params :=
      (⟨"ops", "db", "v", .unset, .set .blank, .unset⟩ : VaultSecret.Params)
    let stamp : KindName.vaultSecret.kind.Remote → Nat → KindName.vaultSecret.kind.Remote :=
      fun (r : VaultSecret.Remote) _ =>
        { r with attributes := some { r.attributes.getD .blank with updated := none } }
    KindName.vaultSecret.Spares stamp ∧
      ∃ r, written (puts (fun _ _ => none) p 1 { Memory.empty with stamp }).1 = [r] ∧
        KindName.vaultSecret.IsGranted p r ∧
        (Drift.check KindName.vaultSecret.kind p r).upToDate = false := by
  intro p stamp
  have spares : KindName.vaultSecret.Spares stamp := fun _ _ => rfl
  let r : VaultSecret.Remote :=
    { VaultSecret.Remote.blank with
      name := some "db", value := some "v", attributes := some .blank }
  have silent : VaultSecret.Attributes.blank.AreGranted .blank := ⟨.inl rfl, .inl rfl, .inl rfl⟩
  have wishes : KindName.vaultSecret.IsGranted p r :=
    VaultSecret.IsGranted.mk rfl rfl (.inl rfl) (.inl rfl) (.inr (.inr ⟨_, rfl, silent⟩))
  have verdict := (KindName.check_of_isGranted (by decide) wishes).2
  have bare : KindName.vaultSecret.MeetsBareAttributes p r := ⟨⟨_, rfl⟩, rfl⟩
  exact ⟨spares, r, rfl, wishes, Bool.eq_false_iff.mpr fun upToDate => verdict.mp upToDate bare⟩

end Memory
end CloudReconcile
