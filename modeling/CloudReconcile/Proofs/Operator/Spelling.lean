import CloudReconcile.Operator.Stored
import CloudReconcile.Proofs.Kinds.Portable

/-!
# What the cluster keeps spells what was written

The cluster merges each status into the JSON that is there.  As long as every status that is written
takes nothing back from a report, what is kept spells the declaration that was written last, and is
read as just that.
-/

namespace CloudReconcile

open Json (Record)
open Json.Codec (string_lawful)

theorem Condition.codec_lawful : Condition.codec.Lawful :=
  Record.Faithful.codec_lawful
    (.seq (.seq (.seq (.map (.required string_lawful)) (.required string_lawful))
      (.required string_lawful)) (.placed string_lawful))
    (fun _ => rfl) (by decide) _

namespace Kind.Reporting

variable {K : Kind} (R : K.Reporting)

/-- Members that spell a status: its conditions as they are written, and an object that spells its
report. -/
structure SpellsStatus (status : Status K.Observation) (ms : List (String × Json.Value)) :
    Prop where
  distinct : (ms.map (·.1)).Nodup
  conditions : ms.lookup "conditions" =
    if status.conditions = [] then none else some (Condition.codec.list.write status.conditions)
  report : ∃ inner, ms.lookup "atProvider" = some (.object inner) ∧
    R.record.Spelt status.atProvider inner

theorem write_status (status : Status K.Observation) :
    K.status.write status = .object
      ((if status.conditions = [] then []
          else [("conditions", Condition.codec.list.write status.conditions)]) ++
        [("atProvider", .object (R.record.write status.atProvider))]) := by
  have report : K.observation.write status.atProvider =
      .object (R.record.write status.atProvider) := by rw [R.codec_eq]; rfl
  rw [← report]
  obtain ⟨conditions, atProvider⟩ := status
  cases conditions <;> rfl

theorem SpellsStatus.write (status : Status K.Observation) :
    ∃ ms, K.status.write status = .object ms ∧ R.SpellsStatus status ms := by
  refine ⟨_, R.write_status status, ?_⟩
  have report := R.faithful.spelt_write R.distinct status.atProvider
  by_cases silent : status.conditions = []
  · refine ⟨by simp [silent], by simp [silent, List.lookup_cons], ⟨_, ?_, report⟩⟩
    simp [silent]
  · refine ⟨by simp [silent], by simp [silent], ⟨_, ?_, report⟩⟩
    simp [silent, List.lookup_cons]

theorem SpellsStatus.read {status : Status K.Observation} {ms : List (String × Json.Value)}
    (h : R.SpellsStatus status ms) : K.status.read (.ofValue (.object ms)) = .ok status := by
  obtain ⟨inner, reported, spelt⟩ := h.report
  have report : K.observation.read (.ofValue (.object inner)) = .ok status.atProvider := by
    rw [R.codec_eq]
    exact R.faithful.read_spelt R.distinct spelt R.style
  suffices reads :
      (Status.record K.observation K.unseen).Reads (fun key => ms.lookup key) status from
    reads.read_object h.distinct
  refine .both (.both (.nothing Status.mk) (.member ?_)) (.member ?_)
  · rw [h.conditions]
    by_cases silent : status.conditions = []
    · simp [silent]
    · rw [if_neg silent]
      exact Condition.codec_lawful.list.read_write status.conditions
  · rw [reported]
    exact report

/-- A report that has been extended, and something said, are spelt by what is kept after the patch
with them. -/
theorem SpellsStatus.patched {report : K.Observation} {status : Status K.Observation}
    {target : Json.Value} (distinct : (target.members.map (·.1)).Nodup)
    (before : R.record.Spelt report ((target.members.lookup "atProvider").getD .null).members)
    (extended : R.record.Extends report status.atProvider) (said : status.conditions ≠ []) :
    ∃ ms, target.patched (K.status.write status) = .object ms ∧ R.SpellsStatus status ms := by
  rw [R.write_status, if_neg said]
  refine ⟨_, by rw [Json.Value.patched], Json.Value.nodup_patchedMembers distinct _, ?_, ?_⟩
  · rw [Json.Value.lookup_patchedMembers (by simp), if_neg said]
    rfl
  · rw [Json.Value.lookup_patchedMembers (by simp)]
    refine ⟨_, congrArg some (by rw [Json.Value.patched]), ?_⟩
    exact before.patched R.faithful R.distinct extended.plain extended.grows

end Kind.Reporting

namespace Stored

variable {K : Kind} {R : K.Reporting}

structure Spells (R : K.Reporting) (s : Stored K) (d : Declaration K) : Prop where
  metadata : s.metadata = d.metadata
  spec : s.spec = d.spec
  status : match d.status with
    | none => s.status = none
    | some status => ∃ ms, s.status = some (.object ms) ∧ R.SpellsStatus status ms

theorem ofDeclaration_spells (R : K.Reporting) (d : Declaration K) :
    (ofDeclaration d).Spells R d where
  metadata := rfl
  spec := rfl
  status := by
    obtain ⟨metadata, spec, status⟩ := d
    cases status with
    | none => rfl
    | some status =>
        obtain ⟨ms, written, spelt⟩ := Kind.Reporting.SpellsStatus.write R status
        exact ⟨ms, congrArg some written, spelt⟩

theorem Spells.read {s : Stored K} {d : Declaration K} (h : s.Spells R d) : s.read = .ok d := by
  obtain ⟨metadata, spec, status⟩ := h
  obtain ⟨m, p, kept⟩ := s
  obtain ⟨m', p', seen⟩ := d
  obtain rfl : m = m' := metadata
  obtain rfl : p = p' := spec
  cases seen with
  | none =>
      obtain rfl : kept = none := status
      rfl
  | some st =>
      obtain ⟨ms, rfl, spelt⟩ := status
      show (K.status.read _).map _ = _
      rw [spelt.read]
      rfl

theorem Spells.replace {s : Stored K} {d : Declaration K} (h : s.Spells R d)
    (written : Declaration K) :
    (s.accept (.replace written)).Spells R { d with spec := written.spec } :=
  ⟨h.metadata, rfl, h.status⟩

/-- A status is merged into what is kept without a loss if it only adds to the report that was
read. -/
theorem Spells.patch {s : Stored K} {d : Declaration K} (h : s.Spells R d) (about : Declaration K)
    {status : Status K.Observation} (said : status.conditions ≠ [])
    (extended : R.record.Extends d.statusOrBlank.atProvider status.atProvider) :
    (s.accept (.status about status)).Spells R { d with status := some status } := by
  obtain ⟨metadata, spec, kept⟩ := h
  refine ⟨metadata, spec, ?_⟩
  obtain ⟨m, p, seen⟩ := d
  have merged (target : Json.Value) (shape : s.status.getD .null = target)
      (distinct : (target.members.map (·.1)).Nodup)
      (before : R.record.Spelt (Declaration.statusOrBlank ⟨m, p, seen⟩).atProvider
        ((target.members.lookup "atProvider").getD .null).members) :
      ∃ ms, (s.accept (.status about status)).status = some (.object ms) ∧
        R.SpellsStatus status ms := by
    obtain ⟨ms, patched, spelt⟩ :=
      Kind.Reporting.SpellsStatus.patched R distinct before extended said
    refine ⟨ms, ?_, spelt⟩
    show some ((s.status.getD .null).patched _) = _
    rw [shape, patched]
  cases seen with
  | none =>
      have absent : s.status = none := kept
      refine merged .null (by rw [absent]; rfl) List.nodup_nil ⟨List.nodup_nil, fun key _ => ?_⟩
      show _ = (R.record.write K.unseen).lookup key
      rw [R.write_unseen]
      rfl
  | some st =>
      obtain ⟨ms, stored, spelt⟩ := kept
      obtain ⟨inner, reported, before⟩ := spelt.report
      refine merged (.object ms) (by rw [stored]; rfl) spelt.distinct ?_
      show R.record.Spelt st.atProvider ((ms.lookup "atProvider").getD .null).members
      rw [reported]
      exact before

end Stored
end CloudReconcile
