import CloudReconcile.Kinds.Name
import CloudReconcile.Proofs.Url.Extension
import CloudReconcile.Proofs.Url.Text

/-!
# Which objects share an address

The address of an object tells its kind and its identity, as long as every part of its path is
plain.  Nobody checks that, though: every object shares its address with another one of its kind,
whose identity has a part with one more tab, or with the other sort of dots.
-/

namespace CloudReconcile

namespace Url

/-- Pairs that are added to a query, the first one first. -/
def withPairs (u : Url) (pairs : List (String × String)) : Url :=
  pairs.foldl (fun u pair => u.withPair pair.1 pair.2) u

theorem withPairs_path (u : Url) (path : UrlPath) (pairs : List (String × String)) :
    ({ u with path } : Url).withPairs pairs =
      { u with path, query := (u.withPairs pairs).query } := by
  induction pairs generalizing u with
  | nil => rfl
  | cons pair pairs ih => exact ih (u.withPair pair.1 pair.2)

theorem withPair_value_injective (u : Url) (name : String) {value other : String}
    (same : (u.withPair name value).query = (u.withPair name other).query) : value = other := by
  have pairs : Text.Form.pair name.toList value.toList =
      Text.Form.pair name.toList other.toList := by
    unfold withPair at same
    cases query : u.query with
    | none => simpa [query] using same
    | some text => cases text <;> simpa [query] using same
  have values := List.append_cancel_left pairs
  exact String.toList_injective (Text.Form.encode_injective (List.cons.inj values).2)

end Url

namespace Kind

variable {K : Kind}

/-- Every part of the path of the object is plain. -/
def IsPlain (K : Kind) (id : K.Identity) : Prop := ∀ s ∈ K.path id, UrlPath.IsPlain s

/-- Two identities have the same address if the same is left of the parts of their paths. -/
theorem address_congr (base : Url) {id other : K.Identity}
    (path : (K.path id).filterMap UrlPath.kept = (K.path other).filterMap UrlPath.kept)
    (query : K.query id = K.query other) : K.address base id = K.address base other := by
  rw [address, address, Url.extended, Url.extended, base.withSegments?_congr path, query]

end Kind

namespace KindName

open UrlPath (root encoded)

/-- The first part of the paths of a kind. -/
def collection : KindName → String
  | .keyValue => "stores"
  | .vaultSecret => "vaults"
  | .serverConfiguration => "servers"
  | .bucket => "buckets"
  | .probe => "probes"

theorem path_eq_cons (k : KindName) (id : k.kind.Identity) :
    ∃ rest, k.kind.path id = k.collection :: rest := by
  cases k <;> exact ⟨_, rfl⟩

theorem collection_injective : Function.Injective collection := by
  intro k other same
  cases k <;> cases other <;> first | rfl | exact absurd same (by decide)

theorem collection_visible (k : KindName) (isSpecial : Bool) :
    encoded isSpecial k.collection ≠ [] ∧
      UrlPath.drive (encoded isSpecial k.collection) = [encoded isSpecial k.collection] := by
  cases k <;> cases isSpecial <;> decide

/-- The parts of a path, and what was added to a query, tell the identity. -/
theorem identity_eq (k : KindName) (base : Url) {id other : k.kind.Identity}
    (path : k.kind.path id = k.kind.path other)
    (query : (base.withPairs (k.kind.query id)).query =
      (base.withPairs (k.kind.query other)).query) : id = other := by
  cases k with
  | keyValue =>
      obtain ⟨store, key, label⟩ := id
      obtain ⟨store', key', label'⟩ := other
      have parts : ["stores", store, "kv", key] = ["stores", store', "kv", key'] := path
      obtain rfl : label = label' := base.withPair_value_injective "label" query
      simp only [List.cons.injEq, true_and, and_true] at parts
      rw [parts.1, parts.2]
  | vaultSecret =>
      obtain ⟨vault, name⟩ := id
      obtain ⟨vault', name'⟩ := other
      have parts : ["vaults", vault, "secrets", name] = ["vaults", vault', "secrets", name'] := path
      simp only [List.cons.injEq, true_and, and_true] at parts
      rw [parts.1, parts.2]
  | serverConfiguration =>
      obtain ⟨server, name⟩ := id
      obtain ⟨server', name'⟩ := other
      have parts : ["servers", server, "configurations", name] =
          ["servers", server', "configurations", name'] := path
      simp only [List.cons.injEq, true_and, and_true] at parts
      rw [parts.1, parts.2]
  | bucket =>
      have parts : ["buckets", id] = ["buckets", other] := path
      exact List.singleton_inj.mp (List.cons.inj parts).2
  | probe =>
      have parts : ["probes", id] = ["probes", other] := path
      exact List.singleton_inj.mp (List.cons.inj parts).2

/-- The parts of a plain path stand behind the base as they are, percent-encoded. -/
theorem address_of_plain (k : KindName) {base u : Url} {id : k.kind.Identity}
    (plain : k.kind.IsPlain id) (found : k.kind.address base id = .ok u) :
    ∃ list, base.path = .segments list ∧
      u = { base with
        path := .segments (root list ++ (k.kind.path id).map (encoded (Url.isSpecial base.scheme)))
        query := (base.withPairs (k.kind.query id)).query } := by
  unfold Kind.address Url.extended at found
  cases path : base.path with
  | flat text =>
      have refused : base.withSegments? (k.kind.path id) = none := by
        rw [Url.withSegments?, path]
      rw [refused] at found
      cases found
  | segments list =>
      obtain ⟨rest, parts⟩ := k.path_eq_cons id
      obtain ⟨visible, noDrive⟩ := k.collection_visible (Url.isSpecial base.scheme)
      have behind := Url.withSegments?_of_plain path (by rw [← parts]; exact plain) visible noDrive
      rw [← parts] at behind
      rw [behind] at found
      have added := Except.ok.inj found
      change Url.withPairs { base with path := _ } (k.kind.query id) = u at added
      rw [Url.withPairs_path] at added
      exact ⟨list, rfl, added.symm⟩

/-- Plain objects on one base with the same address are the same object. -/
theorem eq_of_address_text {k other : KindName} {base u v : Url} {id : k.kind.Identity}
    {id' : other.kind.Identity} (plain : k.kind.IsPlain id) (plain' : other.kind.IsPlain id')
    (found : k.kind.address base id = .ok u) (found' : other.kind.address base id' = .ok v)
    (same : u.text = v.text) :
    (⟨k, id⟩ : (k : KindName) × k.kind.Identity) = ⟨other, id'⟩ := by
  obtain ⟨list, path, rfl⟩ := k.address_of_plain plain found
  obtain ⟨list', path', rfl⟩ := other.address_of_plain plain' found'
  obtain rfl : list = list' := UrlPath.segments.inj (path.symm.trans path')
  obtain ⟨rest, parts⟩ := k.path_eq_cons id
  obtain ⟨rest', parts'⟩ := other.path_eq_cons id'
  have apart (path : List String) : ∀ s ∈ path.map (encoded (Url.isSpecial base.scheme)),
      '/' ∉ s ∧ '?' ∉ s := by
    intro s there
    obtain ⟨part, -, rfl⟩ := List.mem_map.mp there
    exact ⟨UrlPath.slash_notMem_encoded _ part, UrlPath.question_notMem_encoded _ part⟩
  have separate := apart (k.kind.path id)
  have separate' := apart (other.kind.path id')
  rw [parts, List.map_cons] at same separate
  rw [parts', List.map_cons] at same separate'
  obtain ⟨segments, query⟩ := Url.of_text_eq (k.collection_visible _).1
    (other.collection_visible _).1 separate separate' same
  rw [← List.map_cons, ← List.map_cons] at segments
  have paths := (List.map_inj_right fun _ _ same => UrlPath.encoded_injective _ same).mp segments
  obtain rfl := collection_injective (List.cons.inj paths).1
  rw [k.identity_eq base (parts.trans (paths.trans parts'.symm)) query]

/-- Some other object of the kind has the address of this one. -/
theorem exists_same_address (k : KindName) (base : Url) (id : k.kind.Identity) :
    ∃ other, other ≠ id ∧ k.kind.address base other = k.kind.address base id := by
  have kept (before : List String) (part : String) (behind : List String) :
      (before ++ UrlPath.twin part :: behind).filterMap UrlPath.kept =
        (before ++ part :: behind).filterMap UrlPath.kept := by
    simp only [List.filterMap_append, List.filterMap_cons, UrlPath.kept_twin]
  cases k with
  | keyValue =>
      refine ⟨{ id with store := UrlPath.twin id.store }, fun same => ?_, ?_⟩
      · exact UrlPath.twin_ne id.store (congrArg KeyValue.Identity.store same)
      · exact Kind.address_congr base (kept ["stores"] id.store ["kv", id.key]) rfl
  | vaultSecret =>
      refine ⟨{ id with vault := UrlPath.twin id.vault }, fun same => ?_, ?_⟩
      · exact UrlPath.twin_ne id.vault (congrArg VaultSecret.Identity.vault same)
      · exact Kind.address_congr base (kept ["vaults"] id.vault ["secrets", id.name]) rfl
  | serverConfiguration =>
      refine ⟨{ id with serverName := UrlPath.twin id.serverName }, fun same => ?_, ?_⟩
      · exact UrlPath.twin_ne id.serverName
          (congrArg ServerConfiguration.Identity.serverName same)
      · exact Kind.address_congr base
          (kept ["servers"] id.serverName ["configurations", id.name]) rfl
  | bucket =>
      exact ⟨UrlPath.twin id, UrlPath.twin_ne id,
        Kind.address_congr base (kept ["buckets"] id []) rfl⟩
  | probe =>
      exact ⟨UrlPath.twin id, UrlPath.twin_ne id,
        Kind.address_congr base (kept ["probes"] id []) rfl⟩

/-- On any base, objects whose paths are plain have different addresses; but every object shares its
address with another one of its kind. -/
theorem address_text_injective (base : Url) :
    (∀ (k other : KindName) (id : k.kind.Identity) (id' : other.kind.Identity) (u v : Url),
      k.kind.IsPlain id → other.kind.IsPlain id' → k.kind.address base id = .ok u →
        other.kind.address base id' = .ok v → u.text = v.text →
          (⟨k, id⟩ : (k : KindName) × k.kind.Identity) = ⟨other, id'⟩) ∧
      ∀ (k : KindName) (id : k.kind.Identity),
        ∃ id', id' ≠ id ∧ k.kind.address base id' = k.kind.address base id :=
  ⟨fun _ _ _ _ _ _ plain plain' found found' same =>
    eq_of_address_text plain plain' found found' same,
    fun k id => k.exists_same_address base id⟩

/-- The address `http://g/`. -/
def site : Url :=
  ⟨['h', 't', 't', 'p'], [], some (.name ['g']), none, .segments [[]], none, none⟩

/-- A bucket and a secret that share their names are told apart. -/
theorem address_text_injective_names :
    Bucket.kind.IsPlain "ab" ∧ VaultSecret.kind.IsPlain ⟨"ab", "ab"⟩ ∧
      ∃ u v, Bucket.kind.address site "ab" = .ok u ∧
        VaultSecret.kind.address site ⟨"ab", "ab"⟩ = .ok v ∧ u.text ≠ v.text := by
  have plain : Bucket.kind.IsPlain "ab" := by unfold Kind.IsPlain; decide
  have plain' : VaultSecret.kind.IsPlain ⟨"ab", "ab"⟩ := by unfold Kind.IsPlain; decide
  refine ⟨plain, plain', _, _, rfl, rfl, fun same => ?_⟩
  have eq := (address_text_injective site).1 .bucket .vaultSecret "ab" ⟨"ab", "ab"⟩ _ _ plain
    plain' rfl rfl same
  exact absurd (congrArg Sigma.fst eq) (by decide)

/-- A bucket whose name has a tab in it is found where the bucket without the tab is. -/
theorem address_tab_eq :
    ∃ u, Bucket.kind.address site "ab" = .ok u ∧ Bucket.kind.address site "a\tb" = .ok u ∧
      u.text = "http://g/buckets/ab" ∧ "ab" ≠ "a\tb" :=
  ⟨_, rfl, rfl, by decide, by decide⟩

end KindName
end CloudReconcile
