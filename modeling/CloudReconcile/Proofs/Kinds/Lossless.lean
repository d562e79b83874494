import CloudReconcile.Proofs.Json.Lossless
import CloudReconcile.Proofs.Kinds.Outline
import CloudReconcile.Proofs.Kinds.Portable
import CloudReconcile.Reconcile.Step

/-!
# What declarations and objects lose in JSON

Nothing: parameters, specifications, statuses, reports and remote objects of all kinds are read from
their texts as they were.
-/

namespace CloudReconcile

open Json (Codec Document Record Tree)

/-! ## Parameters -/

theorem KeyValue.Params.codec_sound : codec.Sound :=
  Record.Sound.codec (.seq (.seq (.seq (.seq (.seq (.seq (.map (.required .string))
    (.required .string)) (.required .string)) (.required .string)) (.field .string))
    (.field .bool)) (.field .stringMap)) (by decide) _

theorem VaultSecret.Attributes.codec_sound : codec.Sound :=
  Record.Sound.codec (.seq (.seq (.map (.field .bool)) (.field .string)) (.field .string))
    (by decide) _

theorem VaultSecret.Params.codec_sound : codec.Sound :=
  Record.Sound.codec (.seq (.seq (.seq (.seq (.seq (.map (.required .string)) (.required .string))
    (.required .string)) (.field .string)) (.field Attributes.codec_sound)) (.field .stringMap))
    (by decide) _

theorem ServerConfiguration.Params.codec_sound : codec.Sound :=
  Record.Sound.codec (.seq (.seq (.seq (.map (.required .string)) (.required .string))
    (.field .string)) (.field .string)) (by decide) _

theorem Bucket.Acl.codec_sound : codec.Sound := .choice fun a => by cases a <;> rfl

theorem Bucket.Params.codec_sound : codec.Sound :=
  Record.Sound.codec (.seq (.seq (.seq (.seq (.seq (.map (.required .string)) (.field .string))
    (.field .string)) (.field Acl.codec_sound)) (.field .bool)) (.field .stringMap)) (by decide) _

theorem KindName.params_sound {k : KindName} (managed : k ∈ KindName.managed) :
    k.kind.params.Sound := by
  cases k with
  | keyValue => exact KeyValue.Params.codec_sound
  | vaultSecret => exact VaultSecret.Params.codec_sound
  | serverConfiguration => exact ServerConfiguration.Params.codec_sound
  | bucket => exact Bucket.Params.codec_sound
  | probe => exact absurd managed (by decide)

theorem DeletionPolicy.codec_sound : codec.Sound := .choice fun policy => by cases policy <;> rfl

theorem Kind.spec_sound {K : Kind} (h : K.params.Sound) : K.spec.Sound :=
  Record.Sound.codec (.seq (.map (.required h)) (.defaulted DeletionPolicy.codec_sound))
    (by show ["forProvider", "deletionPolicy"].Nodup; decide) _

/-! ## Reports and statuses -/

theorem Condition.codec_sound : codec.Sound :=
  Record.Sound.codec (.seq (.seq (.seq (.map (.required .string)) (.required .string))
    (.required .string)) (.placed .string)) (by decide) _

theorem KindName.observation_sound {k : KindName} (managed : k ∈ KindName.managed) :
    k.kind.observation.Sound := by
  cases k with
  | keyValue =>
      exact Record.Sound.codec (.seq (.map (.placed .string)) (.placed .string)) (by decide) _
  | vaultSecret =>
      exact Record.Sound.codec (.seq (.seq (.seq (.seq (.seq (.map (.placed .string))
        (.placed .string)) (.placed .bool)) (.placed .string)) (.placed .string))
        (.placed .string)) (by decide) _
  | serverConfiguration =>
      exact Record.Sound.codec (.seq (.seq (.seq (.map (.placed .string)) (.placed .string))
        (.placed .string)) (.placed .string)) (by decide) _
  | bucket =>
      exact Record.Sound.codec (.seq (.map (.placed .string)) (.placed .string)) (by decide) _
  | probe => exact absurd managed (by decide)

theorem Kind.status_sound {K : Kind} (h : K.observation.Sound) : K.status.Sound :=
  Record.Sound.codec (.seq (.map (.listed Condition.codec_sound)) (.defaulted h))
    (by show ["conditions", "atProvider"].Nodup; decide) _

/-! ## Remote objects -/

/-- The codec that a kind has for its remote objects. -/
structure Kind.RemoteCodec (K : Kind) (codec : Codec K.Remote) : Prop where
  encode_eq : ∀ r, K.encode r = .ok (codec.write r)
  decode_eq : K.decode = codec.read

theorem Kind.RemoteCodec.sound {K : Kind} {record : Record K.Remote K.Remote}
    {style : Record.Style} (h : K.RemoteCodec (record.codec style)) (portable : K.Portable)
    (byOutline : record.ByOutline) : (record.codec style).Sound where
  lawful := by
    refine ⟨fun r => ?_, fun _ null => by cases null⟩
    obtain ⟨v, encoded, decoded⟩ := portable r
    rw [h.encode_eq] at encoded
    rw [h.decode_eq] at decoded
    exact Except.ok.inj encoded ▸ decoded
  byOutline := byOutline.codec style

theorem KindName.remote_sound {k : KindName} (managed : k ∈ KindName.managed) :
    ∃ codec, k.kind.RemoteCodec codec ∧ codec.Sound := by
  have portable := KindName.portable managed
  cases k with
  | keyValue =>
      have own : KeyValue.kind.RemoteCodec KeyValue.Remote.codec := ⟨fun _ => rfl, rfl⟩
      exact ⟨_, own, own.sound portable KeyValue.Remote.record_byOutline⟩
  | vaultSecret =>
      have own : VaultSecret.kind.RemoteCodec VaultSecret.Remote.codec := ⟨fun _ => rfl, rfl⟩
      exact ⟨_, own, own.sound portable VaultSecret.Remote.record_byOutline⟩
  | serverConfiguration =>
      have own : ServerConfiguration.kind.RemoteCodec ServerConfiguration.Remote.codec :=
        ⟨fun _ => rfl, rfl⟩
      exact ⟨_, own, own.sound portable ServerConfiguration.Remote.record_byOutline⟩
  | bucket =>
      have own : Bucket.kind.RemoteCodec Bucket.Remote.codec := ⟨fun _ => rfl, rfl⟩
      exact ⟨_, own, own.sound portable Bucket.Remote.record_byOutline⟩
  | probe => exact absurd managed (by decide)

theorem VaultSecret.RemoteAttributes.codec_sound : codec.Sound :=
  ⟨codec_lawful, codec_byOutline⟩

/-! ## Declarations -/

/-- The part of a text of a declaration that holds its parameters. -/
def forProviderPart (text : String) : Option Tree :=
  ((Document.ofBytes (Text.bytes text)).tree.member? "spec").bind (·.member? "forProvider")

/-- Whatever else a declaration holds, its parameters are read from its text as they were. -/
theorem Kind.read_forProviderPart {K : Kind} (h : K.params.Sound) (d : Declaration K) :
    ∃ part, forProviderPart (K.declaration.text d) = some part ∧
      K.params.read part = .ok d.params := by
  obtain ⟨same, -⟩ := Document.ofBytes_text (K.declaration.write d)
  have specMember : (K.declaration.write d).member? "spec" = some (K.spec.write d.spec) := rfl
  have paramsMember : (K.spec.write d.spec).member? "forProvider" =
      some (K.params.write d.params) := rfl
  have outlined := congrArg (·.member? "spec") same
  simp only [Tree.member?_outline, Tree.member?_ofValue, specMember, Option.map_some] at outlined
  obtain ⟨spec, found, alike⟩ := Option.map_eq_some_iff.mp outlined
  have inner := congrArg (·.member? "forProvider") alike
  simp only [Tree.member?_outline, Tree.member?_ofValue, paramsMember, Option.map_some] at inner
  obtain ⟨part, there, like⟩ := Option.map_eq_some_iff.mp inner
  refine ⟨part, ?_, h.read_of_outline like⟩
  show ((Document.ofBytes (Text.bytes (K.declaration.write d).text)).tree.member? "spec").bind _ = _
  rw [found]
  exact there

/-- A record whose only member is a property that a declaration can speak of. -/
def Field.alone {α : Type} (name key : String) (codec : Codec α) : Codec (Field α) :=
  (Field.member key codec fun wish => wish).codec (.struct name)

theorem Field.alone_sound {α : Type} {codec : Codec α} (h : codec.Sound) (name key : String) :
    (alone name key codec).Sound :=
  Record.Sound.codec (.field h) (List.nodup_cons.mpr ⟨List.not_mem_nil, .nil⟩) _

/-- Parameters, specifications, statuses, reports and remote objects are read from their texts as
they were; so are conditions, both sorts of attributes and single wishes about properties.  The
parameters that a declaration has taken over can be read from its text, whatever else it holds. -/
theorem codecs_lossless {k : KindName} (managed : k ∈ KindName.managed) :
    k.kind.params.Lossless ∧ k.kind.spec.Lossless ∧ k.kind.observation.Lossless ∧
      k.kind.status.Lossless ∧ (∃ codec, k.kind.RemoteCodec codec ∧ codec.Lossless) ∧
      Condition.codec.Lossless ∧ VaultSecret.Attributes.codec.Lossless ∧
      VaultSecret.RemoteAttributes.codec.Lossless ∧
      (∀ {α : Type} {codec : Codec α}, codec.Sound → ∀ name key,
        (Field.alone name key codec).Lossless) ∧
      ∀ (d : Declaration k.kind) (r : k.kind.Remote),
        ∃ part, forProviderPart (k.kind.declaration.text (Step.found d r).1) = some part ∧
          k.kind.params.read part = .ok (k.kind.lateInit d.params r) := by
  have params := KindName.params_sound managed
  have observation := KindName.observation_sound managed
  obtain ⟨codec, own, remote⟩ := KindName.remote_sound managed
  exact ⟨params.lossless, (Kind.spec_sound params).lossless, observation.lossless,
    (Kind.status_sound observation).lossless, ⟨codec, own, remote.lossless⟩,
    Condition.codec_sound.lossless, VaultSecret.Attributes.codec_sound.lossless,
    VaultSecret.RemoteAttributes.codec_sound.lossless,
    fun h name key => (Field.alone_sound h name key).lossless,
    fun d r => Kind.read_forProviderPart params (Step.found d r).1⟩

/-- A secret with these attributes, a name in Greek and a value with characters that are escaped. -/
def scribbled (attributes : Field VaultSecret.Attributes) : VaultSecret.Params :=
  ⟨"ops", "κλειδί", "a\"\\\n\t", .empty, attributes, .set .empty⟩

/-- Nothing said of attributes, none asked for, and attributes without a wish are told apart. -/
theorem codecs_lossless_scribbled :
    (∀ attributes, VaultSecret.Params.codec.parse
      (Text.bytes (VaultSecret.Params.codec.text (scribbled attributes))) =
        .ok (scribbled attributes)) ∧
      VaultSecret.Params.codec.text (scribbled .unset) ≠
        VaultSecret.Params.codec.text (scribbled .empty) ∧
      VaultSecret.Params.codec.text (scribbled .unset) ≠
        VaultSecret.Params.codec.text (scribbled (.set .blank)) := by
  have params : VaultSecret.Params.codec.Lossless := (codecs_lossless (k := .vaultSecret)
    (by decide)).1
  exact ⟨fun attributes => params.parse_text _, params.text_injective.ne (by decide),
    params.text_injective.ne (by decide)⟩

end CloudReconcile
