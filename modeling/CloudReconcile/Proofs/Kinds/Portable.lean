import CloudReconcile.Drift
import CloudReconcile.Proofs.Json.Patching
import CloudReconcile.Proofs.Kinds.Laws

/-!
# Remote objects and reports in JSON

The remote objects of the kinds that the operator serves survive the way through JSON.  So whether
an object has drifted can be told from the objects alone.  Reports are records of plain values, and
a look never takes a value back, so a report that is merged into an earlier one is read as itself.
-/

namespace CloudReconcile

open Json (Codec Record)
open Json.Codec (string_lawful bool_lawful stringMap_lawful)

/-- Every remote object has a JSON form, and comes back from it. -/
def Kind.Portable (K : Kind) : Prop :=
  ∀ r, ∃ v, K.encode r = .ok v ∧ K.decode (.ofValue v) = .ok r

/-- An object has drifted just when granting the wishes would change it. -/
theorem Kind.Portable.check_eq {K : Kind} (h : K.Portable) (p : K.Params) (r : K.Remote) :
    Drift.check K p r = ⟨decide (K.project p r = r), none⟩ := by
  obtain ⟨v, encoded, decoded⟩ := h r
  obtain ⟨w, projected, back⟩ := h (K.project p r)
  have compared : Drift.compare K p r = .ok (decide (w = v)) := by
    rw [Drift.compare, encoded]
    show ((K.decode (.ofValue v)).mapError _ >>= _) = _
    rw [decoded]
    show (K.encode (K.project p r) >>= _) = _
    rw [projected]
    rfl
  have same : w = v ↔ K.project p r = r := by
    constructor
    · rintro rfl
      exact Except.ok.inj (back.symm.trans decoded)
    · intro eq
      rw [eq, encoded] at projected
      exact (Except.ok.inj projected).symm
  rw [Drift.check, compared]
  simp [same]

theorem Kind.portable_of_lawful {K : Kind} {codec : Codec K.Remote} (h : codec.Lawful)
    (encode : ∀ r, K.encode r = .ok (codec.write r)) (decode : K.decode = codec.read) :
    K.Portable := fun r =>
  ⟨codec.write r, encode r, by rw [decode, h.read_write]⟩

/-! ## Remote objects -/

theorem KeyValue.kind_portable : kind.Portable :=
  Kind.portable_of_lawful (Record.Faithful.codec_lawful
    (.seq (.seq (.seq (.seq (.seq (.seq (.seq (.map (.optional string_lawful))
      (.optional string_lawful)) (.optional string_lawful)) (.optional string_lawful))
      (.optional bool_lawful)) (.optional stringMap_lawful)) (.optional string_lawful))
      (.optional string_lawful))
    (fun _ => rfl) (by decide) _) (fun _ => rfl) rfl

theorem ServerConfiguration.kind_portable : kind.Portable :=
  Kind.portable_of_lawful (Record.Faithful.codec_lawful
    (.seq (.seq (.seq (.seq (.seq (.seq (.map (.optional string_lawful))
      (.optional string_lawful)) (.optional string_lawful)) (.optional string_lawful))
      (.optional string_lawful)) (.optional string_lawful)) (.optional string_lawful))
    (fun _ => rfl) (by decide) _) (fun _ => rfl) rfl

theorem Bucket.Acl.codec_lawful : codec.Lawful :=
  Codec.choice_lawful fun a => by cases a <;> rfl

theorem Bucket.kind_portable : kind.Portable :=
  Kind.portable_of_lawful (Record.Faithful.codec_lawful
    (.seq (.seq (.seq (.seq (.seq (.seq (.seq (.seq (.map (.optional string_lawful))
      (.optional string_lawful)) (.optional string_lawful)) (.optional Acl.codec_lawful))
      (.optional bool_lawful)) (.optional stringMap_lawful)) (.optional string_lawful))
      (.optional string_lawful)) (.optional string_lawful))
    (fun _ => rfl) (by decide) _) (fun _ => rfl) rfl

theorem VaultSecret.RemoteAttributes.codec_lawful : codec.Lawful :=
  Record.Faithful.codec_lawful
    (.seq (.seq (.seq (.seq (.seq (.map (.optional bool_lawful)) (.optional string_lawful))
      (.optional string_lawful)) (.optional string_lawful)) (.optional string_lawful))
      (.optional string_lawful))
    (fun _ => rfl) (by decide) _

theorem VaultSecret.kind_portable : kind.Portable :=
  Kind.portable_of_lawful (Record.Faithful.codec_lawful
    (.seq (.seq (.seq (.seq (.seq (.seq (.seq (.map (.optional string_lawful))
      (.optional string_lawful)) (.optional string_lawful))
      (.optional RemoteAttributes.codec_lawful)) (.optional stringMap_lawful))
      (.optional string_lawful)) (.optional string_lawful)) (.optional bool_lawful))
    (fun _ => rfl) (by decide) _) (fun _ => rfl) rfl

/-- The remote objects of every kind that the operator serves survive the way through JSON. -/
theorem KindName.portable {k : KindName} (managed : k ∈ KindName.managed) : k.kind.Portable := by
  cases k with
  | keyValue => exact KeyValue.kind_portable
  | vaultSecret => exact VaultSecret.kind_portable
  | serverConfiguration => exact ServerConfiguration.kind_portable
  | bucket => exact Bucket.kind_portable
  | probe => exact absurd managed (by decide)

/-! ## Reports -/

/-- What is written of `r` is also written of `s`, each value whole. -/
structure Json.Record.Extends {ρ α : Type} (record : Record ρ α) (r s : ρ) : Prop where
  grows : (record.write r).map (·.1) ⊆ (record.write s).map (·.1)
  plain : ∀ m ∈ record.write s, m.2.isPlain

namespace Json.Record.Extends

variable {ρ α β : Type} {r s : ρ}

theorem pure (a : α) : (Record.nothing (ρ := ρ) a).Extends r s :=
  ⟨fun _ h => h, fun _ h => (List.not_mem_nil h).elim⟩

theorem both {f : Record ρ (α → β)} {x : Record ρ α} (hf : f.Extends r s) (hx : x.Extends r s) :
    (Record.both f x).Extends r s where
  grows := by
    show (f.write r ++ x.write r).map _ ⊆ (f.write s ++ x.write s).map _
    rw [List.map_append, List.map_append]
    exact List.append_subset.mpr ⟨List.subset_append_of_subset_left _ hf.grows,
      List.subset_append_of_subset_right _ hx.grows⟩
  plain m hm := (List.mem_append.mp hm).elim (hf.plain m) (hx.plain m)

theorem seq {f : Record ρ (α → β)} {x : Record ρ α} (hf : f.Extends r s) (hx : x.Extends r s) :
    (f <*> x).Extends r s := hf.both hx

theorem map {f : α → β} {x : Record ρ α} (hx : x.Extends r s) : (f <$> x).Extends r s :=
  (pure f).both hx

theorem placed {key : String} {codec : Codec α} {get : ρ → Option α}
    (plain : ∀ a, (codec.write a).isPlain) {slot seen : Option α} (before : get r = slot)
    (after : get s = Status.fill slot seen) : (Record.placed key codec get).Extends r s where
  grows := by
    show (((get r).map codec.write).map fun v => (key, v)).toList.map _ ⊆
      (((get s).map codec.write).map fun v => (key, v)).toList.map _
    rw [before, after]
    cases slot <;> simp [Status.fill]
  plain m hm := by
    change m ∈ (((get s).map codec.write).map fun v => (key, v)).toList at hm
    cases seen : get s with
    | none => simp [seen] at hm
    | some a =>
        simp only [seen, Option.map_some, Option.toList_some, List.mem_singleton] at hm
        rw [hm]
        exact plain a

end Json.Record.Extends

/-- Reports are read as what was written of them, and a look at an object only adds to them. -/
structure Kind.Reporting (K : Kind) where
  record : Record K.Observation K.Observation
  style : Record.Style
  codec_eq : K.observation = record.codec style
  distinct : record.keys.Nodup
  faithful : record.Faithful fun o => o
  write_unseen : record.write K.unseen = []
  extends_observe : ∀ o r, record.Extends o (K.observe o r)

def KeyValue.kind_reporting : kind.Reporting where
  record := Observation.record
  style := .struct "KeyValueObservation"
  codec_eq := rfl
  distinct := by decide
  faithful := .seq (.map (.placed string_lawful)) (.placed string_lawful)
  write_unseen := rfl
  extends_observe _ _ :=
    .seq (.map (.placed (fun _ => rfl) rfl rfl)) (.placed (fun _ => rfl) rfl rfl)

def ServerConfiguration.kind_reporting : kind.Reporting where
  record := Observation.record
  style := .struct "ServerConfigurationObservation"
  codec_eq := rfl
  distinct := by decide
  faithful := .seq (.seq (.seq (.map (.placed string_lawful)) (.placed string_lawful))
    (.placed string_lawful)) (.placed string_lawful)
  write_unseen := rfl
  extends_observe _ _ :=
    .seq (.seq (.seq (.map (.placed (fun _ => rfl) rfl rfl)) (.placed (fun _ => rfl) rfl rfl))
      (.placed (fun _ => rfl) rfl rfl)) (.placed (fun _ => rfl) rfl rfl)

def Bucket.kind_reporting : kind.Reporting where
  record := Observation.record
  style := .struct "BucketObservation"
  codec_eq := rfl
  distinct := by decide
  faithful := .seq (.map (.placed string_lawful)) (.placed string_lawful)
  write_unseen := rfl
  extends_observe _ _ :=
    .seq (.map (.placed (fun _ => rfl) rfl rfl)) (.placed (fun _ => rfl) rfl rfl)

def VaultSecret.kind_reporting : kind.Reporting where
  record := Observation.record
  style := .struct "VaultSecretObservation"
  codec_eq := rfl
  distinct := by decide
  faithful := .seq (.seq (.seq (.seq (.seq (.map (.placed string_lawful)) (.placed string_lawful))
    (.placed bool_lawful)) (.placed string_lawful)) (.placed string_lawful)) (.placed string_lawful)
  write_unseen := rfl
  extends_observe _ _ :=
    .seq (.seq (.seq (.seq (.seq (.map (.placed (fun _ => rfl) rfl rfl))
      (.placed (fun _ => rfl) rfl rfl)) (.placed (fun _ => rfl) rfl rfl))
      (.placed (fun _ => rfl) rfl rfl)) (.placed (fun _ => rfl) rfl rfl))
      (.placed (fun _ => rfl) rfl rfl)

def KindName.reporting {k : KindName} (managed : k ∈ KindName.managed) : k.kind.Reporting :=
  match k with
  | .keyValue => KeyValue.kind_reporting
  | .vaultSecret => VaultSecret.kind_reporting
  | .serverConfiguration => ServerConfiguration.kind_reporting
  | .bucket => Bucket.kind_reporting
  | .probe => absurd managed (by decide)

end CloudReconcile
