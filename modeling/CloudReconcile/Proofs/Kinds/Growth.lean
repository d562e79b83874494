import CloudReconcile.Kinds.Growth
import CloudReconcile.Proofs.Json.Growth
import CloudReconcile.Proofs.Kinds.Outline
import CloudReconcile.Proofs.Kinds.Writing

/-!
# What a provider adds does not show

Growing by members that only the provider sets leaves a remote object the same wherever a
declaration can have a wish.
-/

namespace CloudReconcile

open Json (Codec Fate Grown Joined Known Record Tree)
open Json.Record (Fits Readable Reread keysOf seen)
open Json.Codec (string_byOutline bool_byOutline stringMap_byOutline choice_byOutline string_proper
  bool_proper)

variable {es es' : List (String × Tree)} {t t' : Tree}

namespace KeyValue

theorem Remote.fits_spare : ∀ s ∈ KindName.spare .keyValue, ∀ t, s.check t = .ok () →
    Fits record.known s.key t :=
  List.forall_mem_cons.mpr ⟨string_proper.fits rfl, List.forall_mem_cons.mpr
    ⟨string_proper.fits rfl, fun _ there => (List.not_mem_nil there).elim⟩⟩

theorem Remote.retells (h : Reread record.known (KindName.spare .keyValue) es es') :
    record.Retells ((seen record.known es).lookup ·) ((seen record.known es').lookup ·) Agree := by
  refine .seq (.seq (.seq (.seq (.seq (.seq (.seq (.map ?_
    (h.retells_own string_byOutline (by decide) (by decide)))
    (h.retells_own string_byOutline (by decide) (by decide)))
    (h.retells_own string_byOutline (by decide) (by decide)))
    (h.retells_own string_byOutline (by decide) (by decide)))
    (h.retells_own bool_byOutline (by decide) (by decide)))
    (h.retells_own stringMap_byOutline (by decide) (by decide)))
    (h.retells_spare string_proper (by decide) (by simp [KindName.spare, Known.ofCodec])))
    (h.retells_spare string_proper (by decide) (by simp [KindName.spare, Known.ofCodec]))
  rintro _ _ rfl _ _ rfl _ _ rfl _ _ rfl _ _ rfl _ _ rfl _ _ - _ _ -
  exact ⟨rfl, rfl, rfl, rfl, rfl, rfl⟩

theorem Remote.read_adds (holds : t.Holds es) (holds' : t'.Holds es')
    (adds : KindName.Adds .keyValue es es') {r : Remote} (read : codec.read t = .ok r) :
    ∃ r', codec.read t' = .ok r' ∧ Agree r r' :=
  record_byOutline.read_enriched _ rfl holds holds' adds fits_spare retells read

end KeyValue

namespace ServerConfiguration

theorem Remote.fits_spare : ∀ s ∈ KindName.spare .serverConfiguration, ∀ t, s.check t = .ok () →
    Fits record.known s.key t :=
  List.forall_mem_cons.mpr ⟨string_proper.fits rfl, List.forall_mem_cons.mpr
    ⟨string_proper.fits rfl, List.forall_mem_cons.mpr ⟨string_proper.fits rfl,
      List.forall_mem_cons.mpr
        ⟨string_proper.fits rfl, fun _ there => (List.not_mem_nil there).elim⟩⟩⟩⟩

theorem Remote.retells (h : Reread record.known (KindName.spare .serverConfiguration) es es') :
    record.Retells ((seen record.known es).lookup ·) ((seen record.known es').lookup ·) Agree := by
  refine .seq (.seq (.seq (.seq (.seq (.seq (.map ?_
    (h.retells_own string_byOutline (by decide) (by decide)))
    (h.retells_own string_byOutline (by decide) (by decide)))
    (h.retells_own string_byOutline (by decide) (by decide)))
    (h.retells_spare string_proper (by decide) (by simp [KindName.spare, Known.ofCodec])))
    (h.retells_spare string_proper (by decide) (by simp [KindName.spare, Known.ofCodec])))
    (h.retells_spare string_proper (by decide) (by simp [KindName.spare, Known.ofCodec])))
    (h.retells_spare string_proper (by decide) (by simp [KindName.spare, Known.ofCodec]))
  rintro _ _ rfl _ _ rfl _ _ rfl _ _ - _ _ - _ _ - _ _ -
  exact ⟨rfl, rfl, rfl⟩

theorem Remote.read_adds (holds : t.Holds es) (holds' : t'.Holds es')
    (adds : KindName.Adds .serverConfiguration es es') {r : Remote} (read : codec.read t = .ok r) :
    ∃ r', codec.read t' = .ok r' ∧ Agree r r' :=
  record_byOutline.read_enriched _ rfl holds holds' adds fits_spare retells read

end ServerConfiguration

namespace Bucket

theorem Remote.fits_spare : ∀ s ∈ KindName.spare .bucket, ∀ t, s.check t = .ok () →
    Fits record.known s.key t :=
  List.forall_mem_cons.mpr ⟨string_proper.fits rfl, List.forall_mem_cons.mpr
    ⟨string_proper.fits rfl, List.forall_mem_cons.mpr
      ⟨string_proper.fits rfl, fun _ there => (List.not_mem_nil there).elim⟩⟩⟩

theorem Remote.retells (h : Reread record.known (KindName.spare .bucket) es es') :
    record.Retells ((seen record.known es).lookup ·) ((seen record.known es').lookup ·) Agree := by
  refine .seq (.seq (.seq (.seq (.seq (.seq (.seq (.seq (.map ?_
    (h.retells_own string_byOutline (by decide) (by decide)))
    (h.retells_own string_byOutline (by decide) (by decide)))
    (h.retells_own string_byOutline (by decide) (by decide)))
    (h.retells_own (choice_byOutline _ _) (by decide) (by decide)))
    (h.retells_own bool_byOutline (by decide) (by decide)))
    (h.retells_own stringMap_byOutline (by decide) (by decide)))
    (h.retells_spare string_proper (by decide) (by simp [KindName.spare, Known.ofCodec])))
    (h.retells_spare string_proper (by decide) (by simp [KindName.spare, Known.ofCodec])))
    (h.retells_spare string_proper (by decide) (by simp [KindName.spare, Known.ofCodec]))
  rintro _ _ rfl _ _ rfl _ _ rfl _ _ rfl _ _ rfl _ _ rfl _ _ - _ _ - _ _ -
  exact ⟨rfl, rfl, rfl, rfl, rfl, rfl⟩

theorem Remote.read_adds (holds : t.Holds es) (holds' : t'.Holds es')
    (adds : KindName.Adds .bucket es es') {r : Remote} (read : codec.read t = .ok r) :
    ∃ r', codec.read t' = .ok r' ∧ Agree r r' :=
  record_byOutline.read_enriched _ rfl holds holds' adds fits_spare retells read

end Bucket

namespace VaultSecret

/-! ## Attributes of secrets -/

/-- The vault has set some more of the attributes, all those for which a member has come. -/
structure RemoteAttributes.Vaulted (found later : String → Option Tree)
    (r r' : RemoteAttributes) : Prop where
  wishable : r'.wishable = r.wishable
  created : Joined (found "created") (later "created") r.created r'.created
  updated : Joined (found "updated") (later "updated") r.updated r'.updated
  recoveryLevel : Joined (found "recoveryLevel") (later "recoveryLevel") r.recoveryLevel
    r'.recoveryLevel

theorem RemoteAttributes.fits_spare : ∀ s ∈ spare, ∀ t, s.check t = .ok () →
    Fits record.known s.key t :=
  List.forall_mem_cons.mpr ⟨string_proper.fits rfl, List.forall_mem_cons.mpr
    ⟨string_proper.fits rfl, List.forall_mem_cons.mpr
      ⟨string_proper.fits rfl, fun _ there => (List.not_mem_nil there).elim⟩⟩⟩

theorem RemoteAttributes.retells (h : Reread record.known spare es es') :
    record.Retells ((seen record.known es).lookup ·) ((seen record.known es').lookup ·)
      (Vaulted ((seen record.known es).lookup ·) ((seen record.known es').lookup ·)) := by
  refine .seq (.seq (.seq (.seq (.seq (.map ?_
    (h.retells_own bool_byOutline (by decide) (by decide)))
    (h.retells_own string_byOutline (by decide) (by decide)))
    (h.retells_own string_byOutline (by decide) (by decide)))
    (h.retells_spare string_proper (by decide) (by simp [spare, Known.ofCodec])))
    (h.retells_spare string_proper (by decide) (by simp [spare, Known.ofCodec])))
    (h.retells_spare string_proper (by decide) (by simp [spare, Known.ofCodec]))
  rintro _ _ rfl _ _ rfl _ _ rfl _ _ created _ _ updated _ _ recoveryLevel
  exact ⟨rfl, created, updated, recoveryLevel⟩

/-- The attributes hold some property just when they did before or the vault has set one. -/
structure RemoteAttributes.Grew (r r' : RemoteAttributes) : Prop where
  wishable : r'.wishable = r.wishable
  bare : r' = .blank → r = .blank

theorem RemoteAttributes.Vaulted.grew {found later : String → Option Tree}
    {r r' : RemoteAttributes} (h : Vaulted found later r r') : r.Grew r' where
  wishable := h.wishable
  bare bare := by
    subst bare
    have none_of {o : Option String} {t t' : Option Tree} (joined : Joined t t' o none) :
        o = none := joined.elim (fun same => same.1.symm) (·.1)
    obtain ⟨enabled, notBefore, expires, created, updated, recoveryLevel⟩ := r
    have own := h.wishable
    simp only [RemoteAttributes.wishable, blank, RemoteAttributes.mk.injEq] at own
    obtain ⟨rfl, rfl, rfl, -⟩ := own
    obtain rfl := none_of h.created
    obtain rfl := none_of h.updated
    obtain rfl := none_of h.recoveryLevel
    rfl

theorem RemoteAttributes.read_grown (holds : t.Holds es) (holds' : t'.Holds es')
    (grown : RemoteAttributes.Grown es es') {r : RemoteAttributes} (read : codec.read t = .ok r) :
    ∃ r', codec.read t' = .ok r' ∧ r.Grew r' := by
  obtain ⟨r', again, vaulted⟩ :=
    record_byOutline.read_enriched _ rfl holds holds' grown fits_spare retells read
  exact ⟨r', again, vaulted.grew⟩

/-- New attributes are not without any property, but none of them can be wished for. -/
theorem RemoteAttributes.read_new {key : String} (new : NewAttributes key t) :
    ∃ r, codec.read t = .ok r ∧ r.wishable = .blank ∧ r ≠ .blank := by
  obtain ⟨-, es, holds, grown, e, there, s, spared, same, -⟩ := new
  have empty : (Tree.object (.done 0) 0).Holds [] := ⟨_, _, rfl, rfl⟩
  have nothing : codec.read (.object (.done 0) 0) = .ok .blank := rfl
  obtain ⟨r, read, vaulted⟩ :=
    record_byOutline.read_enriched (.struct "RemoteSecretAttributes") rfl empty holds grown
      fits_spare retells nothing
  refine ⟨r, read, vaulted.wishable, ?_⟩
  rintro rfl
  -- The member that makes them new has a value.
  have other {key : String} (known : key ∈ keysOf record.known)
      (joined : Joined none ((seen record.known es).lookup key) none (none : Option String)) :
      s.key ≠ key := by
    rintro rfl
    have come := Json.Record.isSome_lookup_seen there (same ▸ known)
    rw [← same] at come
    rcases joined with ⟨-, gone⟩ | ⟨-, gone⟩
    · rw [come] at gone
      cases gone
    · cases gone
  have created := other (by decide) vaulted.created
  have updated := other (by decide) vaulted.updated
  have recoveryLevel := other (by decide) vaulted.recoveryLevel
  simp only [spare, List.map_cons, List.mem_cons, List.map_nil, List.not_mem_nil, or_false]
    at spared
  rcases spared with rfl | rfl | rfl
  · exact created rfl
  · exact updated rfl
  · exact recoveryLevel rfl

/-! ## Secrets -/

/-- The attributes are the same, or they hold more that the vault has set. -/
inductive MoreVaulted : Option RemoteAttributes → Option RemoteAttributes → Prop where
  | same (o : Option RemoteAttributes) : MoreVaulted o o
  | more {r r' : RemoteAttributes} (grew : r.Grew r') : MoreVaulted (some r) (some r')
  | new {r : RemoteAttributes} (bare : r.wishable = .blank) (vaulted : r ≠ .blank) :
    MoreVaulted none (some r)

theorem nullable_read_of_holds {α : Type} (codec : Codec α) (holds : t.Holds es) :
    codec.nullable.read t = (codec.read t).map some := by
  obtain ⟨members, start, rfl, -⟩ := holds
  rfl

theorem nullable_read_new {key : String} (new : NewAttributes key t) :
    ∃ r, RemoteAttributes.codec.nullable.read t = .ok (some r) ∧ r.wishable = .blank ∧
      r ≠ .blank := by
  obtain ⟨r, read, what⟩ := RemoteAttributes.read_new new
  obtain ⟨-, es, holds, -⟩ := new
  exact ⟨r, by rw [nullable_read_of_holds _ holds, read]; rfl, what⟩

/-- Whatever was read of attributes, more of them are read as the same or more. -/
theorem nullable_read_more {key : String} (more : MoreAttributes key t t')
    {o : Option RemoteAttributes} (read : RemoteAttributes.codec.nullable.read t = .ok o) :
    ∃ o', RemoteAttributes.codec.nullable.read t' = .ok o' ∧ MoreVaulted o o' := by
  rcases more with ⟨-, ⟨es, es', holds, holds', grown⟩ | ⟨⟨span, rfl⟩, new⟩⟩
  · rw [nullable_read_of_holds _ holds] at read
    cases there : RemoteAttributes.codec.read t with
    | error problem => rw [there] at read; cases read
    | ok r =>
        rw [there] at read
        obtain rfl := Except.ok.inj read
        obtain ⟨r', again, grew⟩ := RemoteAttributes.read_grown holds holds' grown there
        exact ⟨some r', by rw [nullable_read_of_holds _ holds', again]; rfl, .more grew⟩
  · obtain rfl := Except.ok.inj read
    obtain ⟨r, again, bare, vaulted⟩ := nullable_read_new new
    exact ⟨some r, again, .new bare vaulted⟩

theorem attributes_retells {may : String → Tree → Prop} {found later : String → Option Tree}
    (fate : Fate may MoreAttributes "attributes" (found "attributes") (later "attributes"))
    (new : ∀ t, may "attributes" t → NewAttributes "attributes" t)
    {get : Remote → Option RemoteAttributes} :
    (Record.optional "attributes" RemoteAttributes.codec get).Retells found later
      MoreVaulted := by
  intro o built
  simp only [Record.build_optional_iff] at built ⊢
  generalize found "attributes" = t at fate built
  generalize later "attributes" = t' at fate ⊢
  cases fate with
  | missing => exact ⟨o, built, .same o⟩
  | kept same => exact ⟨o, RemoteAttributes.codec_byOutline.nullable.read_eq same built, .same o⟩
  | became more => exact nullable_read_more more built
  | joined allowed =>
      obtain ⟨r, read, bare, vaulted⟩ := nullable_read_new (new _ allowed)
      obtain rfl : o = none := built
      exact ⟨some r, read, .new bare vaulted⟩

theorem Remote.fits_spare : ∀ s ∈ KindName.spare .vaultSecret, ∀ t, s.check t = .ok () →
    Fits record.known s.key t :=
  List.forall_mem_cons.mpr ⟨string_proper.fits rfl, List.forall_mem_cons.mpr
    ⟨string_proper.fits rfl, List.forall_mem_cons.mpr
      ⟨bool_proper.fits rfl, fun _ there => (List.not_mem_nil there).elim⟩⟩⟩

theorem Remote.fits_attributes_iff :
    Fits record.known "attributes" t ↔ ∃ o, RemoteAttributes.codec.nullable.read t = .ok o := by
  change (RemoteAttributes.codec.nullable.read t).map _ = .ok () ↔ _
  cases RemoteAttributes.codec.nullable.read t <;> simp [Except.map]

/-- The secrets agree apart from attributes, and of these there are the same or more. -/
structure Remote.Grew (r r' : Remote) : Prop where
  agree : Agree r r'
  attributes : MoreVaulted r.attributes r'.attributes

theorem Remote.readable_adds (adds : KindName.Adds .vaultSecret es es')
    (before : Readable record.known es) : Readable record.known es' := by
  refine Grown.readable adds record_byOutline.checks fits_spare (fun key t new => ?_)
    (fun key t t' more fits => ?_) before
  · obtain ⟨r, read, -⟩ := nullable_read_new new
    obtain ⟨rfl, -⟩ := new
    exact fits_attributes_iff.mpr ⟨_, read⟩
  · obtain rfl := more.1
    obtain ⟨o, read⟩ := fits_attributes_iff.mp fits
    obtain ⟨o', again, -⟩ := nullable_read_more more read
    exact fits_attributes_iff.mpr ⟨o', again⟩

theorem Remote.retells (adds : KindName.Adds .vaultSecret es es')
    (before : Readable record.known es) (after : Readable record.known es') :
    record.Retells ((seen record.known es).lookup ·) ((seen record.known es').lookup ·) Grew := by
  have own {α : Type} {codec : Codec α} {get : Remote → Option α} {key : String}
      (byOutline : codec.ByOutline) (there : key ∈ keysOf record.known)
      (apart : key ∉ "attributes" :: keysOf (KindName.spare .vaultSecret)) :
      (Record.optional key codec get).Retells ((seen record.known es).lookup ·)
        ((seen record.known es').lookup ·) Eq := by
    obtain ⟨other, apart⟩ := not_or.mp (mt List.mem_cons.mpr apart)
    exact Grown.retells_own adds before after byOutline there apart
      (fun _ new => other new.1) fun _ _ more => other more.1
  have spare {α : Type} {codec : Codec α} {get : Remote → Option α} {key : String}
      (proper : codec.Proper) (there : key ∈ keysOf record.known) (other : key ≠ "attributes")
      (typed : ∀ s ∈ KindName.spare .vaultSecret, s.key = key → s = Known.ofCodec key codec) :
      (Record.optional key codec get).Retells ((seen record.known es).lookup ·)
        ((seen record.known es').lookup ·)
        (Joined ((seen record.known es).lookup key) ((seen record.known es').lookup key)) :=
    Grown.retells_spare adds before after proper there typed
      (fun _ new => other new.1) fun _ _ more => other more.1
  have attributes : Fate _ MoreAttributes "attributes" _ _ := adds.fate before after (by decide)
  refine .seq (.seq (.seq (.seq (.seq (.seq (.seq (.map ?_
    (own string_byOutline (by decide) (by decide)))
    (own string_byOutline (by decide) (by decide)))
    (own string_byOutline (by decide) (by decide)))
    (attributes_retells attributes fun t allowed => allowed.resolve_left ?_))
    (own stringMap_byOutline (by decide) (by decide)))
    (spare string_proper (by decide) (by decide) (by simp [KindName.spare, Known.ofCodec])))
    (spare string_proper (by decide) (by decide) (by simp [KindName.spare, Known.ofCodec])))
    (spare bool_proper (by decide) (by decide) (by simp [KindName.spare, Known.ofCodec]))
  · rintro _ _ rfl _ _ rfl _ _ rfl _ _ more _ _ rfl _ _ - _ _ - _ _ -
    exact ⟨⟨rfl, rfl, rfl, rfl⟩, more⟩
  · rintro ⟨s, spared, same, -⟩
    exact absurd (same ▸ List.mem_map_of_mem spared) (by decide : "attributes" ∉
      keysOf (KindName.spare .vaultSecret))

theorem Remote.read_adds (holds : t.Holds es) (holds' : t'.Holds es')
    (adds : KindName.Adds .vaultSecret es es') {r : Remote} (read : codec.read t = .ok r) :
    ∃ r', codec.read t' = .ok r' ∧ r.Grew r' := by
  obtain ⟨before, built⟩ := (Record.read_eq_ok_iff rfl holds).mp read
  have after := readable_adds adds before
  obtain ⟨r', again, grew⟩ := retells adds before after r built
  exact ⟨r', (Record.read_eq_ok_iff rfl holds').mpr ⟨after, again⟩, grew⟩

end VaultSecret

/-! ## What declarations make of it -/

/-- A declaration takes the same over from both objects, and if it has nothing to change about the
first it has nothing to change about the second. -/
structure Kind.Undisturbed (K : Kind) (p : K.Params) (r r' : K.Remote) : Prop where
  lateInit : K.lateInit p r' = K.lateInit p r
  project : K.project p r = r → K.project p r' = r'

theorem KeyValue.Agree.undisturbed {r r' : Remote} (h : Agree r r') (p : Params) :
    kind.Undisturbed p r r' := by
  obtain ⟨key, label, value, contentType, locked, tags, etag, lastModified⟩ := r
  obtain ⟨rfl, rfl, rfl, rfl, rfl, rfl⟩ := h
  exact ⟨rfl, fun granted => by simp_all [kind, project]⟩

theorem ServerConfiguration.Agree.undisturbed {r r' : Remote} (h : Agree r r') (p : Params) :
    kind.Undisturbed p r r' := by
  obtain ⟨name, value, source, _, _, _, _⟩ := r
  obtain ⟨rfl, rfl, rfl⟩ := h
  exact ⟨rfl, fun granted => by simp_all [kind, project]⟩

theorem Bucket.Agree.undisturbed {r r' : Remote} (h : Agree r r') (p : Params) :
    kind.Undisturbed p r r' := by
  obtain ⟨name, location, storageClass, predefinedAcl, versioning, labels, _, _, _⟩ := r
  obtain ⟨rfl, rfl, rfl, rfl, rfl, rfl⟩ := h
  exact ⟨rfl, fun granted => by simp_all [kind, project]⟩

namespace VaultSecret

theorem Attributes.lateInit_wishable (a : Attributes) {r r' : RemoteAttributes}
    (same : r'.wishable = r.wishable) : a.lateInit r' = a.lateInit r := by
  simp only [RemoteAttributes.wishable, RemoteAttributes.mk.injEq] at same
  obtain ⟨enabled, notBefore, expires, -⟩ := same
  simp only [lateInit, enabled, notBefore, expires]

/-- Whether wishes are granted depends on the attributes that can be wished for. -/
theorem Attributes.project_wishable {a : Attributes} {r r' : RemoteAttributes}
    (same : r'.wishable = r.wishable) (granted : a.project r = r) : a.project r' = r' := by
  simp only [RemoteAttributes.wishable, RemoteAttributes.mk.injEq] at same
  obtain ⟨_, _, _, _, _, _⟩ := r
  obtain ⟨_, _, _, _, _, _⟩ := r'
  simp_all [project]

theorem MoreVaulted.lateInit {o o' : Option RemoteAttributes} (h : MoreVaulted o o')
    (wanted : Field Attributes) : lateInitAttributes wanted o' = lateInitAttributes wanted o := by
  cases h with
  | same => rfl
  | more grew =>
      cases wanted <;> simp only [lateInitAttributes, Attributes.lateInit_wishable _ grew.wishable]
  | @new r bare vaulted =>
      cases wanted with
      | empty => rfl
      | unset => exact if_pos ((Attributes.blank_lateInit_eq_blank_iff r).mpr bare)
      | set a =>
          have nothing : a.lateInit r = a.lateInit .blank := a.lateInit_wishable bare
          rw [lateInitAttributes, nothing, Attributes.lateInit_blank]
          rfl

theorem MoreVaulted.project {o o' : Option RemoteAttributes} (h : MoreVaulted o o')
    {wanted : Field Attributes} (granted : projectAttributes wanted o = o) :
    projectAttributes wanted o' = o' := by
  cases wanted with
  | unset => rfl
  | empty => rfl
  | set a =>
      rw [projectAttributes_set] at *
      cases h with
      | same => exact granted
      | @more r r' grew =>
          split at granted
          · cases granted
          · rename_i held
            have granted : a.project r = r := Option.some.inj granted
            have again : a.project ((some r').getD .blank) = r' :=
              Attributes.project_wishable grew.wishable granted
            rw [again, if_neg fun bare => held (granted.trans (grew.bare bare))]
      | @new r bare vaulted =>
          split at granted
          · rename_i nothing
            have again : a.project ((some r).getD .blank) = r :=
              Attributes.project_wishable (show _ = RemoteAttributes.blank.wishable from bare)
                nothing
            rw [again, if_neg vaulted]
          · cases granted

theorem Remote.Grew.undisturbed {r r' : Remote} (h : r.Grew r') (p : Params) :
    kind.Undisturbed p r r' := by
  obtain ⟨⟨name, value, contentType, tags⟩, attributes⟩ := h
  constructor
  · show VaultSecret.lateInit p r' = VaultSecret.lateInit p r
    simp only [VaultSecret.lateInit, contentType, tags, attributes.lateInit]
  · intro granted
    have granted : VaultSecret.project p r = r := granted
    have attributes := attributes.project (congrArg (·.attributes) granted)
    show VaultSecret.project p r' = r'
    obtain ⟨_, _, _, _, _, _, _, _⟩ := r
    obtain ⟨_, _, _, _, _, _, _, _⟩ := r'
    simp_all [VaultSecret.project]

end VaultSecret

/-- When a provider adds to an object that can be read, it can be read again, and no declaration is
disturbed. -/
theorem KindName.decode_adds {k : KindName} (managed : k ∈ KindName.managed) (holds : t.Holds es)
    (holds' : t'.Holds es') (adds : k.Adds es es') {r : k.kind.Remote}
    (read : k.kind.decode t = .ok r) :
    ∃ r', k.kind.decode t' = .ok r' ∧ ∀ p, k.kind.Undisturbed p r r' := by
  cases k with
  | keyValue =>
      obtain ⟨r', again, agree⟩ := KeyValue.Remote.read_adds holds holds' adds read
      exact ⟨r', again, agree.undisturbed⟩
  | vaultSecret =>
      obtain ⟨r', again, grew⟩ := VaultSecret.Remote.read_adds holds holds' adds read
      exact ⟨r', again, grew.undisturbed⟩
  | serverConfiguration =>
      obtain ⟨r', again, agree⟩ := ServerConfiguration.Remote.read_adds holds holds' adds read
      exact ⟨r', again, agree.undisturbed⟩
  | bucket =>
      obtain ⟨r', again, agree⟩ := Bucket.Remote.read_adds holds holds' adds read
      exact ⟨r', again, agree.undisturbed⟩
  | probe => exact absurd managed (by decide)

end CloudReconcile
