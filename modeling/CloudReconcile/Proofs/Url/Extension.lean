import CloudReconcile.Proofs.Text.Percent
import CloudReconcile.Url.Query
import CloudReconcile.Url.Segments

/-!
# Extending a path

A plain segment is put behind a path as it is, percent-encoded.  A segment of dots is left out, and
of any other segment the tabs and line breaks are; so a segment that is not plain can be exchanged
for another one and nobody will notice.
-/

namespace CloudReconcile
namespace UrlPath

open Text (Percent.decode_encode)

/-- The segment is put behind a path whole, and does not move along the path. -/
structure IsPlain (segment : String) : Prop where
  unbroken : ∀ c ∈ segment.toList, c ≠ '\t' ∧ c ≠ '\n' ∧ c ≠ '\r'
  not_dot : segment ≠ "."
  not_dots : segment ≠ ".."

instance (segment : String) : Decidable (IsPlain segment) :=
  decidable_of_iff
    (segment.toList.all (fun c => c ≠ '\t' ∧ c ≠ '\n' ∧ c ≠ '\r') ∧ segment ≠ "." ∧ segment ≠ "..")
    ⟨fun ⟨unbroken, dot, dots⟩ => ⟨by simpa using unbroken, dot, dots⟩,
      fun h => ⟨by simpa using h.unbroken, h.not_dot, h.not_dots⟩⟩

def encoded (isSpecial : Bool) (segment : String) : List Char :=
  Text.Percent.encode (segmentSet isSpecial) segment.toList

/-! ## Encoded segments -/

theorem percent_mem_segmentSet (isSpecial : Bool) : '%' ∈ segmentSet isSpecial := by
  simp [segmentSet]

theorem encoded_injective (isSpecial : Bool) : Function.Injective (encoded isSpecial) := by
  intro s t same
  exact String.toList_injective
    (Text.Percent.encode_injective (percent_mem_segmentSet isSpecial) same)

theorem slash_notMem_encoded (isSpecial : Bool) (segment : String) :
    '/' ∉ encoded isSpecial segment :=
  Text.Percent.notMem_encode (by simp [segmentSet]) (by decide) _

theorem question_notMem_encoded (isSpecial : Bool) (segment : String) :
    '?' ∉ encoded isSpecial segment :=
  Text.Percent.notMem_encode (by simp [segmentSet, pathSet]) (by decide) _

/-! ## Segments of dots -/

theorem eq_of_toLower {c d : Char} (h : c.toLower = d) :
    c = d ∨ 65 ≤ c.toNat ∧ c.toNat ≤ 90 ∧ d.toNat = c.toNat + 32 := by
  subst h
  unfold Char.toLower
  split
  · rename_i upper
    have low : 65 ≤ c.val.toNat := UInt32.le_iff_toNat_le.mp upper.1
    have high : c.val.toNat ≤ 90 := UInt32.le_iff_toNat_le.mp upper.2
    have shift : ('a'.val - 'A'.val).toNat = 32 := by decide
    refine .inr ⟨low, high, ?_⟩
    show (c.val + ('a'.val - 'A'.val)).toNat = c.val.toNat + 32
    rw [UInt32.toNat_add, shift]
    omega
  · exact .inl rfl

/-- A character that no letter becomes in lower case. -/
theorem eq_of_toLower_of_lt {c d : Char} (h : c.toLower = d) (low : d.toNat < 97) : c = d :=
  (eq_of_toLower h).resolve_right (by omega)

theorem decode_of_dot {segment rest : List Char} (h : segment.map Char.toLower = '.' :: rest) :
    ∃ more, more.map Char.toLower = rest ∧
      Text.Percent.decode segment = 0x2e :: Text.Percent.decode more := by
  obtain ⟨c, more, rfl, dot, same⟩ := List.map_eq_cons_iff.mp h
  obtain rfl := eq_of_toLower_of_lt dot (by decide)
  exact ⟨more, same, Text.Percent.decode_cons (by decide) more⟩

theorem decode_of_coded_dot {segment rest : List Char}
    (h : segment.map Char.toLower = '%' :: '2' :: 'e' :: rest) :
    ∃ more, more.map Char.toLower = rest ∧
      Text.Percent.decode segment = 0x2e :: Text.Percent.decode more := by
  obtain ⟨c, _, rfl, percent, behind⟩ := List.map_eq_cons_iff.mp h
  obtain ⟨d, _, rfl, two, behind⟩ := List.map_eq_cons_iff.mp behind
  obtain ⟨e, more, rfl, letter, same⟩ := List.map_eq_cons_iff.mp behind
  obtain rfl := eq_of_toLower_of_lt percent (by decide)
  obtain rfl := eq_of_toLower_of_lt two (by decide)
  have value : Text.hexValue? e.toNat = some 14 := by
    rcases eq_of_toLower letter with rfl | ⟨-, -, code⟩
    · rfl
    · have upper : e.toNat = 69 := by
        rw [show 'e'.toNat = 101 from rfl] at code
        omega
      rw [upper]
      rfl
  refine ⟨more, same, ?_⟩
  rw [Text.Percent.decode, value]
  rfl

theorem decode_of_isSingleDot {segment : List Char} (h : isSingleDot segment = true) :
    Text.Percent.decode segment = Text.Utf8.encode ['.'] := by
  simp only [isSingleDot, Bool.or_eq_true, decide_eq_true_eq] at h
  obtain ⟨more, none, read⟩ := h.elim decode_of_dot decode_of_coded_dot
  rw [read, List.map_eq_nil_iff.mp none]
  rfl

theorem decode_of_isDoubleDot {segment : List Char} (h : isDoubleDot segment = true) :
    Text.Percent.decode segment = Text.Utf8.encode ['.', '.'] := by
  have twice {more : List Char} (read : Text.Percent.decode segment =
      0x2e :: Text.Percent.decode more) (single : isSingleDot more = true) :
      Text.Percent.decode segment = Text.Utf8.encode ['.', '.'] := by
    rw [read, decode_of_isSingleDot single]
    rfl
  simp only [isDoubleDot, Bool.or_eq_true, decide_eq_true_eq] at h
  rcases h with ((h | h) | h) | h
  · obtain ⟨more, dot, read⟩ := decode_of_dot h
    exact twice read (by simp [isSingleDot, dot])
  · obtain ⟨more, dot, read⟩ := decode_of_dot h
    exact twice read (by simp [isSingleDot, dot])
  · obtain ⟨more, dot, read⟩ := decode_of_coded_dot h
    exact twice read (by simp [isSingleDot, dot])
  · obtain ⟨more, dot, read⟩ := decode_of_coded_dot h
    exact twice read (by simp [isSingleDot, dot])

section Encoded

variable {isSpecial : Bool} {segment : String}

/-- Percent-encoding does not turn another segment into one of dots. -/
theorem isSingleDot_encoded (h : IsPlain segment) :
    isSingleDot (encoded isSpecial segment) = false := by
  rw [← Bool.not_eq_true]
  intro dot
  have read := decode_of_isSingleDot dot
  rw [encoded, Text.Percent.decode_encode (percent_mem_segmentSet isSpecial)] at read
  exact h.not_dot (String.toList_injective (Text.Utf8.encode_injective read))

theorem isDoubleDot_encoded (h : IsPlain segment) :
    isDoubleDot (encoded isSpecial segment) = false := by
  rw [← Bool.not_eq_true]
  intro dots
  have read := decode_of_isDoubleDot dots
  rw [encoded, Text.Percent.decode_encode (percent_mem_segmentSet isSpecial)] at read
  exact h.not_dots (String.toList_injective (Text.Utf8.encode_injective read))

end Encoded

/-! ## Plain segments behind a path -/

/-- The segments that new ones are put behind. -/
def root (list : List (List Char)) : List (List Char) :=
  let start := if 1 < list.length ∧ list.getLast? = some [] then list.dropLast else list
  if start = [[]] then [] else start

/-- Something stands in the path, so that new segments are put behind it. -/
def IsBegun (list : List (List Char)) : Prop := list ≠ [] ∧ list ≠ [[]]

theorem isBegun_append {list : List (List Char)} (h : IsBegun list) (segment : List Char) :
    IsBegun (list ++ [segment]) := by
  cases list with
  | nil => exact absurd rfl h.1
  | cons first rest => exact ⟨by simp, by simp⟩

theorem isBegun_append_of_ne_nil (list : List (List Char)) {segment : List Char}
    (h : segment ≠ []) : IsBegun (list ++ [segment]) := by
  cases list with
  | nil => exact ⟨by simp, by simpa using h⟩
  | cons first rest => exact ⟨by simp, by simp⟩

section Extend

variable {isFile isSpecial : Bool} {segment : String}

theorem extend_of_plain (plain : IsPlain segment) {list : List (List Char)}
    (begun : IsBegun list) :
    extend isFile list (encoded isSpecial segment) = list ++ [encoded isSpecial segment] := by
  obtain ⟨filled, visible⟩ := begun
  rw [extend, if_neg (by simp [isDoubleDot_encoded plain]),
    if_neg (by simp [isSingleDot_encoded plain]), if_neg (by simp [filled, visible]), push,
    if_neg visible]

theorem extend_first (plain : IsPlain segment)
    (noDrive : drive (encoded isSpecial segment) = [encoded isSpecial segment])
    (start : List (List Char)) :
    extend isFile start (encoded isSpecial segment) =
      (if start = [[]] then [] else start) ++ [encoded isSpecial segment] := by
  rw [extend, if_neg (by simp [isDoubleDot_encoded plain]),
    if_neg (by simp [isSingleDot_encoded plain]), noDrive, push]
  by_cases fresh : start = [[]]
  · simp [fresh]
  · by_cases empty : start = []
    · simp [empty]
    · simp [fresh, empty]

theorem foldl_extend (isFile isSpecial : Bool) {segments : List String}
    (plain : ∀ s ∈ segments, IsPlain s)
    {list : List (List Char)} (begun : IsBegun list) :
    (segments.map (encoded isSpecial)).foldl (extend isFile) list =
      list ++ segments.map (encoded isSpecial) := by
  induction segments generalizing list with
  | nil => simp
  | cons s segments ih =>
      obtain ⟨first, later⟩ := List.forall_mem_cons.mp plain
      rw [List.map_cons, List.foldl_cons, extend_of_plain first begun,
        ih later (isBegun_append begun _), List.append_assoc, List.singleton_append]

end Extend

/-! ## What is left of a segment -/

/-- What a segment in plain text becomes before it is encoded; dots are left out. -/
def kept (segment : String) : Option (List Char) :=
  if segment.toList = ['.'] ∨ segment.toList = ['.', '.'] then none
  else some (withoutBreaks segment.toList)

theorem kept_of_plain {segment : String} (plain : IsPlain segment) :
    kept segment = some segment.toList := by
  have dot : segment.toList ≠ ['.'] := fun same => plain.not_dot (String.toList_injective same)
  have dots : segment.toList ≠ ['.', '.'] :=
    fun same => plain.not_dots (String.toList_injective same)
  have whole : withoutBreaks segment.toList = segment.toList := by
    rw [withoutBreaks, List.filter_eq_self]
    intro c there
    simpa [and_assoc] using plain.unbroken c there
  rw [kept, if_neg (by simp [dot, dots]), whole]

theorem filterMap_kept_of_plain {segments : List String} (plain : ∀ s ∈ segments, IsPlain s) :
    segments.filterMap kept = segments.map String.toList := by
  induction segments with
  | nil => rfl
  | cons s segments ih =>
      obtain ⟨first, later⟩ := List.forall_mem_cons.mp plain
      rw [List.filterMap_cons_some (kept_of_plain first), ih later, List.map_cons]

theorem filterMap_kept (segments : List String) :
    (((segments.map String.toList).filter fun s => s ≠ ['.'] && s ≠ ['.', '.']).map
      withoutBreaks) = segments.filterMap kept := by
  induction segments with
  | nil => rfl
  | cons s segments ih =>
      by_cases dots : s.toList = ['.'] ∨ s.toList = ['.', '.']
      · have gone : kept s = none := if_pos dots
        have skipped : ¬ (s.toList ≠ ['.'] && s.toList ≠ ['.', '.']) = true := by
          rcases dots with dots | dots <;> simp [dots]
        rw [List.map_cons, List.filter_cons, if_neg skipped, ih, List.filterMap_cons_none gone]
      · have stays : kept s = some (withoutBreaks s.toList) := if_neg dots
        have passed : (s.toList ≠ ['.'] && s.toList ≠ ['.', '.']) = true := by
          simpa [not_or] using dots
        rw [List.map_cons, List.filter_cons, if_pos passed, List.map_cons, ih,
          List.filterMap_cons_some stays]

/-- Another segment of which the same is left. -/
def twin (segment : String) : String :=
  if segment = "." then ".." else if segment = ".." then "." else segment ++ "\t"

theorem twin_ne (segment : String) : twin segment ≠ segment := by
  unfold twin
  split
  · rename_i dot
    rw [dot]
    decide
  · split
    · rename_i dots
      rw [dots]
      decide
    · intro same
      have longer := congrArg (fun s => s.toList.length) same
      simp at longer

theorem kept_twin (segment : String) : kept (twin segment) = kept segment := by
  by_cases dot : segment = "."
  · rw [dot]
    decide
  by_cases dots : segment = ".."
  · rw [dots]
    decide
  have longer : (twin segment).toList = segment.toList ++ ['\t'] := by
    rw [twin, if_neg dot, if_neg dots, String.toList_append]
    rfl
  have ends {list : List Char} (other : list.getLast? ≠ some '\t') :
      (twin segment).toList ≠ list := by
    rintro rfl
    simp [longer] at other
  have notDot : segment.toList ≠ ['.'] := fun same => dot (String.toList_injective same)
  have notDots : segment.toList ≠ ['.', '.'] := fun same => dots (String.toList_injective same)
  rw [kept, if_neg (not_or.mpr ⟨ends (by decide), ends (by decide)⟩), kept,
    if_neg (not_or.mpr ⟨notDot, notDots⟩), longer]
  simp [withoutBreaks]

end UrlPath

namespace Url

open UrlPath

theorem withSegments?_eq_kept {u : Url} {list : List (List Char)} (path : u.path = .segments list)
    (segments : List String) :
    u.withSegments? segments = some
      { u with
        path := .segments (((segments.filterMap kept).map
            (Text.Percent.encode (segmentSet (isSpecial u.scheme)))).foldl
          (extend (isFile u.scheme))
          (if 1 < list.length ∧ list.getLast? = some [] then list.dropLast else list)) } := by
  rw [← filterMap_kept, List.map_map]
  simp only [withSegments?, path]
  rfl

/-- Only what is left of the segments counts. -/
theorem withSegments?_congr (u : Url) {segments others : List String}
    (same : segments.filterMap kept = others.filterMap kept) :
    u.withSegments? segments = u.withSegments? others := by
  cases path : u.path with
  | flat text => rw [withSegments?, withSegments?, path]
  | segments list => rw [withSegments?_eq_kept path, withSegments?_eq_kept path, same]

/-- Plain segments, the first one of which is neither empty nor names a drive, stand behind the path
as they are, percent-encoded. -/
theorem withSegments?_of_plain {u : Url} {list : List (List Char)} (path : u.path = .segments list)
    {word : String} {rest : List String} (plain : ∀ s ∈ word :: rest, IsPlain s)
    (visible : encoded (isSpecial u.scheme) word ≠ [])
    (noDrive : drive (encoded (isSpecial u.scheme) word) = [encoded (isSpecial u.scheme) word]) :
    u.withSegments? (word :: rest) = some
      { u with
        path := .segments (root list ++ (word :: rest).map (encoded (isSpecial u.scheme))) } := by
  obtain ⟨first, later⟩ := List.forall_mem_cons.mp plain
  have behind := foldl_extend (isFile u.scheme) (isSpecial u.scheme) later
    (isBegun_append_of_ne_nil (root list) visible)
  rw [withSegments?_eq_kept path, filterMap_kept_of_plain plain, List.map_map]
  show some { u with path := UrlPath.segments (((word :: rest).map (encoded _)).foldl _ _) } = _
  rw [List.map_cons, List.foldl_cons, extend_first first noDrive]
  rw [root] at behind ⊢
  rw [behind, List.append_assoc, List.singleton_append]

end Url
end CloudReconcile
