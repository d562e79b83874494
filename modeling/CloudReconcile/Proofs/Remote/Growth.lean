import CloudReconcile.Proofs.Kinds.Growth
import CloudReconcile.Proofs.Kinds.Portable
import CloudReconcile.Reconcile.Step
import CloudReconcile.Remote.Gateway

/-!
# Objects that grow behind a gateway

A provider may add to its objects whatever no declaration has a wish about.  A look through the
gateway then finds what it would have found before.
-/

namespace CloudReconcile
namespace Gateway

variable {k : KindName}

theorem decode_eq_ok_iff {body : List UInt8} {r : k.kind.Remote} :
    decode k.kind body = .ok r ↔
      k.kind.decode (Json.Document.ofBytes body).tree = .ok r ∧
        (Json.Document.ofBytes body).trailing = none := by
  cases tree : k.kind.decode (Json.Document.ofBytes body).tree <;>
    cases trailing : (Json.Document.ofBytes body).trailing <;> simp [decode, tree, trailing]

/-- A gateway reads of the text of a value what a codec reads of the value. -/
theorem decode_text {codec : Json.Codec k.kind.Remote} (own : k.kind.decode = codec.read)
    (byOutline : codec.ByOutline) {v : Json.Value} {r : k.kind.Remote}
    (read : codec.read (.ofValue v) = .ok r) : decode k.kind (Text.bytes v.text) = .ok r := by
  obtain ⟨same, whole⟩ := Json.Document.ofBytes_text v
  rw [decode_eq_ok_iff, own]
  exact ⟨byOutline.read_eq same read, whole⟩

theorem decode_addsTo (managed : k ∈ KindName.managed) {body body' : List UInt8}
    (adds : k.AddsTo body body') {r : k.kind.Remote} (read : decode k.kind body = .ok r) :
    ∃ r', decode k.kind body' = .ok r' ∧ ∀ p, k.kind.Undisturbed p r r' := by
  obtain ⟨es, es', holds, holds', whole, adds⟩ := adds
  obtain ⟨r', again, undisturbed⟩ :=
    KindName.decode_adds managed holds holds' adds (decode_eq_ok_iff.mp read).1
  exact ⟨r', decode_eq_ok_iff.mpr ⟨again, whole⟩, undisturbed⟩

/-- What a look finds if the answer to its request has a body that can be read. -/
theorem run_observe {τ : Type} (g : Gateway) (transport : Transport τ) (t : τ)
    (d : Declaration k.kind) {body : List UInt8} {r : k.kind.Remote}
    (found : (g.send k.kind transport .get d.identity none t).1 = .ok body)
    (read : decode k.kind body = .ok r) :
    ((Step.observe d).run (g.answer k.kind transport) t).1 =
      ((Step.found d r).1, .ok (Step.found d r).2) := by
  have answered : (g.answer k.kind transport (.get d.identity) t).1 = .ok r := by
    show (g.send k.kind transport .get d.identity none t).1.bind (decode k.kind) = _
    rw [found]
    exact read
  show (Step.observe d).next (g.answer k.kind transport (.get d.identity) t).1 = _
  rw [answered]
  rfl

/-- Let a provider add to an object what no declaration has a wish about.  A look at the object
finds it as before, takes over the same from it, and if there was nothing to change there is nothing
to change now. -/
theorem observe_of_addsTo (managed : k ∈ KindName.managed) (d : Declaration k.kind)
    {τ τ' : Type} (g g' : Gateway) (transport : Transport τ) (transport' : Transport τ') (t : τ)
    (t' : τ') {body body' : List UInt8}
    (found : (g.send k.kind transport .get d.identity none t).1 = .ok body)
    (found' : (g'.send k.kind transport' .get d.identity none t').1 = .ok body')
    {r : k.kind.Remote} (read : decode k.kind body = .ok r) (adds : k.AddsTo body body') :
    ∃ now now' o o',
      ((Step.observe d).run (g.answer k.kind transport) t).1 = (now, .ok o) ∧
      ((Step.observe d).run (g'.answer k.kind transport') t').1 = (now', .ok o') ∧
      o'.present = true ∧ now'.params = now.params ∧ o'.lateInitialized = o.lateInitialized ∧
      (o.upToDate = true → o'.upToDate = true) := by
  obtain ⟨r', read', undisturbed⟩ := decode_addsTo managed adds read
  have taken := (undisturbed d.params).lateInit
  refine ⟨_, _, _, _, run_observe g transport t d found read,
    run_observe g' transport' t' d found' read', rfl, taken, ?_, ?_⟩
  · show decide (k.kind.lateInit d.params r' ≠ d.params) = _
    rw [taken]
    rfl
  · show (Drift.check k.kind (k.kind.lateInit d.params r) r).upToDate = true →
      (Drift.check k.kind (k.kind.lateInit d.params r') r').upToDate = true
    rw [taken, (KindName.portable managed).check_eq, (KindName.portable managed).check_eq,
      decide_eq_true_iff, decide_eq_true_iff]
    exact (undisturbed _).project

/-- The way to a gateway whose answers all have this body. -/
def serving (body : String) : Transport Unit := fun _ t => (.ok ⟨200, Text.bytes body⟩, t)

def closeBy : Gateway :=
  ⟨⟨['h', 't', 't', 'p'], [], some (.name ['g']), none, .segments [[]], none, none⟩, none⟩

def logs : Declaration KindName.bucket.kind :=
  .ofSpec ⟨⟨"logs", .unset, .unset, .unset, .unset, .unset⟩, .delete⟩ none

def bare : Json.Value := .object [("name", .string "logs")]

/-- The provider has added a tag and something that nobody knows. -/
def tagged : Json.Value :=
  .object [("etag", .string "7"), ("name", .string "logs"), ("quota", .array [])]

theorem tagged_addsTo :
    KindName.AddsTo .bucket (Text.bytes bare.text) (Text.bytes tagged.text) := by
  refine Json.Enriched.texts (List.forall_mem_map.mpr fun key _ t =>
    (Json.Codec.string_byOutline t).map _) ⟨?_, by decide⟩
  refine .join ⟨by decide, .inr (.inl ?_)⟩ (.keep rfl (.join ⟨by decide, .inl ?_⟩ .done))
  · exact ⟨Json.Known.ofCodec "etag" .string, by simp [KindName.spare], rfl, rfl⟩
  · exact ⟨by decide, rfl⟩

theorem observe_of_addsTo_tagged :
    KindName.AddsTo .bucket (Text.bytes bare.text) (Text.bytes tagged.text) ∧
      ∃ now o, ((Step.observe logs).run
        (closeBy.answer KindName.bucket.kind (serving tagged.text)) ()).1 = (now, .ok o) ∧
        o.upToDate = true := by
  have readable : decode KindName.bucket.kind (Text.bytes bare.text) =
      .ok { Bucket.Remote.blank with name := some "logs" } :=
    decode_text (k := .bucket) rfl (Bucket.Remote.record_byOutline.codec _) rfl
  have found (body : String) :
      (closeBy.send KindName.bucket.kind (serving body) .get logs.identity none ()).1 =
        .ok (Text.bytes body) := rfl
  obtain ⟨now, now', o, o', seen, seen', -, -, -, settled⟩ :=
    observe_of_addsTo (k := .bucket) (by decide) logs closeBy closeBy (serving bare.text)
      (serving tagged.text) () () (found _) (found _) readable tagged_addsTo
  refine ⟨tagged_addsTo, now', o', seen', settled ?_⟩
  rw [run_observe closeBy _ () logs (found _) readable] at seen
  obtain rfl := Except.ok.inj (congrArg (·.2) seen)
  rfl

end Gateway
end CloudReconcile
