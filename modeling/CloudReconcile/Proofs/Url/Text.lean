import CloudReconcile.Url.Query

/-!
# What the text of an address tells

Addresses that are built on one base differ in their text as soon as they differ in what was put
behind the path or in the query, provided that nothing behind the path holds a slash or a question
mark.
-/

namespace CloudReconcile

/-- A text is cut in one way only at the first place where a mark stands, or at its end. -/
theorem append_inj_of_mark {mark : Char} {s t rest more : List Char} (hs : mark ∉ s) (ht : mark ∉ t)
    (hrest : rest = [] ∨ rest.head? = some mark) (hmore : more = [] ∨ more.head? = some mark)
    (same : s ++ rest = t ++ more) : s = t ∧ rest = more := by
  have front {x y : List Char} (hx : mark ∉ x) (hy : y = [] ∨ y.head? = some mark) :
      (x ++ y).takeWhile (· ≠ mark) = x := by
    have passed : ∀ c ∈ x, decide (c ≠ mark) = true := by
      intro c there
      rw [decide_eq_true_iff]
      rintro rfl
      exact hx there
    rw [List.takeWhile_append_of_pos passed]
    cases y with
    | nil => simp
    | cons c y =>
        obtain rfl : c = mark := by simpa using hy
        simp
  have cut := congrArg (List.takeWhile (· ≠ mark)) same
  rw [front hs hrest, front ht hmore] at cut
  subst cut
  exact ⟨rfl, List.append_cancel_left same⟩

namespace UrlPath

theorem text_segments_append (first second : List (List Char)) :
    (segments (first ++ second)).text = (segments first).text ++ (segments second).text :=
  List.flatMap_append

theorem text_segments_cons (s : List Char) (rest : List (List Char)) :
    (segments (s :: rest)).text = '/' :: (s ++ (segments rest).text) := rfl

theorem head?_text_segments (list : List (List Char)) :
    (segments list).text = [] ∨ (segments list).text.head? = some '/' := by
  cases list with
  | nil => exact .inl rfl
  | cons s rest => exact .inr rfl

theorem text_segments_injective {first second : List (List Char)} (hf : ∀ s ∈ first, '/' ∉ s)
    (hs : ∀ s ∈ second, '/' ∉ s) (same : (segments first).text = (segments second).text) :
    first = second := by
  induction first generalizing second with
  | nil =>
      cases second with
      | nil => rfl
      | cons t second => cases same
  | cons s first ih =>
      cases second with
      | nil => cases same
      | cons t second =>
          obtain ⟨headf, tailf⟩ := List.forall_mem_cons.mp hf
          obtain ⟨heads, tails⟩ := List.forall_mem_cons.mp hs
          rw [text_segments_cons, text_segments_cons, List.cons.injEq] at same
          obtain ⟨rfl, rest⟩ := append_inj_of_mark headf heads (head?_text_segments first)
            (head?_text_segments second) same.2
          rw [ih tailf tails rest]

theorem notMem_text_segments {mark : Char} (other : mark ≠ '/') {list : List (List Char)}
    (h : ∀ s ∈ list, mark ∉ s) : mark ∉ (segments list).text := by
  intro there
  obtain ⟨s, mem, there⟩ := List.mem_flatMap.mp there
  rcases List.mem_cons.mp there with eq | there
  · exact other eq
  · exact h s mem there

end UrlPath

namespace Url

variable {u : Url}

/-- Everything in front of new segments. -/
def stem (u : Url) (root : List (List Char)) : List Char :=
  let path := (UrlPath.segments root).text
  u.scheme ++ ':' ::
    (match u.host with
      | some _ => ['/', '/'] ++ u.authority ++ path
      | none =>
        match root with
        | [] :: _ => ['/', '.'] ++ path
        | _ => path)

theorem front_eq_stem_append (u : Url) (query : Option (List Char)) (root : List (List Char))
    {word : List Char} (visible : word ≠ []) (rest : List (List Char)) :
    ({ u with path := .segments (root ++ word :: rest), query } : Url).front =
      u.stem root ++ (UrlPath.segments (word :: rest)).text := by
  unfold front stem
  simp only [UrlPath.text_segments_append]
  cases there : u.host with
  | some host => simp [authority, there]
  | none =>
      -- Whether a path begins with an empty segment is decided by what it began with before.
      cases root with
      | nil =>
          cases word with
          | nil => exact absurd rfl visible
          | cons c word => simp
      | cons first root =>
          cases first with
          | cons c first => simp
          | nil => cases root <;> simp

theorem head?_queryText (u : Url) : u.queryText = [] ∨ u.queryText.head? = some '?' := by
  unfold queryText
  split
  · exact .inr rfl
  · exact .inl rfl

/-- Addresses on one base with the same text have the same segments behind the path and the same
query. -/
theorem of_text_eq {root : List (List Char)} {word word' : List Char}
    {rest rest' : List (List Char)}
    {query query' : Option (List Char)} (visible : word ≠ []) (visible' : word' ≠ [])
    (apart : ∀ s ∈ word :: rest, '/' ∉ s ∧ '?' ∉ s)
    (apart' : ∀ s ∈ word' :: rest', '/' ∉ s ∧ '?' ∉ s)
    (same : ({ u with path := .segments (root ++ word :: rest), query } : Url).text =
      ({ u with path := .segments (root ++ word' :: rest'), query := query' } : Url).text) :
    word :: rest = word' :: rest' ∧ query = query' := by
  have written := String.ofList_injective same
  unfold chars at written
  rw [front_eq_stem_append u query root visible, front_eq_stem_append u query' root visible',
    List.append_assoc, List.append_assoc, List.append_assoc, List.append_assoc] at written
  have behind := List.append_cancel_left written
  rw [← List.append_assoc, ← List.append_assoc] at behind
  have before := List.append_cancel_right behind
  obtain ⟨path, queryText⟩ := append_inj_of_mark
    (UrlPath.notMem_text_segments (by decide) fun s there => (apart s there).2)
    (UrlPath.notMem_text_segments (by decide) fun s there => (apart' s there).2)
    (head?_queryText _) (head?_queryText _) before
  refine ⟨UrlPath.text_segments_injective (fun s there => (apart s there).1)
    (fun s there => (apart' s there).1) path, ?_⟩
  cases query <;> cases query' <;> simp_all [Url.queryText]

end Url
end CloudReconcile
