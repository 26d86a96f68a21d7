import Mathlib.Data.List.Induction
import VersionCatalog.FileTree
import VersionCatalog.Proofs.Path.Components

namespace VersionCatalog

/-- Whether a directory can hold something of a name. -/
structure IsFileName (name : String) : Prop where
  named : Path.isName name.toList = true
  notUp : name ≠ ".."
  noSlash : '/' ∉ name.toList
  noNul : '\x00' ∉ name.toList
  short : name.utf8ByteSize ≤ FileTree.nameLimit

instance (name : String) : Decidable (IsFileName name) :=
  decidable_of_iff
    (Path.isName name.toList = true ∧ name ≠ ".." ∧ '/' ∉ name.toList ∧ '\x00' ∉ name.toList ∧
      name.utf8ByteSize ≤ FileTree.nameLimit)
    ⟨fun ⟨named, notUp, noSlash, noNul, short⟩ => ⟨named, notUp, noSlash, noNul, short⟩,
      fun h => ⟨h.named, h.notUp, h.noSlash, h.noNul, h.short⟩⟩

namespace Path

/-- The absolute path of a location, with a slash before each name. -/
def ofLocation (location : Location) : Path :=
  if location = [] then ⟨"/"⟩
  else ⟨String.ofList (location.flatMap fun name => '/' :: name.toList)⟩

theorem toList_ofLocation {location : Location} (h : location ≠ []) :
    (ofLocation location).text.toList = location.flatMap fun name => '/' :: name.toList := by
  rw [ofLocation, if_neg h, String.toList_ofList]

theorem isAbsolute_ofLocation (location : Location) : (ofLocation location).isAbsolute = true := by
  cases location with
  | nil => rfl
  | cons name names => simp [isAbsolute, toList_ofLocation]

private theorem pieces_flatMap_slash {texts : List (List Char)} {first : List Char}
    (hfirst : '/' ∉ first)
    (h : ∀ text ∈ texts, '/' ∉ text) :
    Text.pieces (· == '/') (first ++ texts.flatMap ('/' :: ·)) = first :: texts := by
  induction texts generalizing first with
  | nil => simpa using Text.pieces_of_notMem hfirst
  | cons text texts ih =>
    rw [List.flatMap_cons, List.cons_append, Text.pieces_append _ _ (by simp),
      Text.pieces_of_notMem hfirst, ih (h text (by simp)) fun t ht => h t (by simp [ht])]
    rfl

private theorem intercalate_slash (first : List Char) (texts : List (List Char)) :
    List.intercalate ['/'] (first :: texts) = first ++ texts.flatMap ('/' :: ·) := by
  induction texts generalizing first with
  | nil => simp
  | cons text texts ih => simp [List.intercalate_cons_cons, ih]

private theorem ofSegments_map_toList (location : Location) :
    ofSegments ([] :: location.map String.toList) = ofLocation location := by
  cases location with
  | nil => rfl
  | cons name names =>
    simp [ofSegments, intercalate_slash, ofLocation, List.flatMap_map]

variable {location : Location} {name : String}

/-- The pieces of a location's path, behind the empty one before the first slash, are its names. -/
theorem segments_ofLocation (hne : location ≠ []) (h : ∀ name ∈ location, IsFileName name) :
    (ofLocation location).segments = [] :: location.map String.toList := by
  have hslash : ∀ text ∈ location.map String.toList, '/' ∉ text :=
    List.forall_mem_map.mpr fun name hname => (h name hname).noSlash
  have hpieces := pieces_flatMap_slash (List.not_mem_nil (a := '/')) hslash
  rw [segments, toList_ofLocation hne, ← hpieces, List.nil_append, List.flatMap_map]

private theorem isOpen_ofLocation_append (h : IsFileName name) :
    (ofLocation (location ++ [name])).isOpen = false := by
  rw [isOpen, toList_ofLocation (by simp), List.flatMap_append, List.flatMap_singleton,
    List.getLast?_append, List.getLast?_cons]
  cases hlast : name.toList.getLast? with
  | none =>
    have hname := h.named
    rw [List.getLast?_eq_none_iff.mp hlast] at hname
    exact absurd hname (by decide)
  | some c =>
    have hc : c ≠ '/' := ne_of_mem_of_not_mem (List.mem_of_getLast? hlast) h.noSlash
    simpa using hc

/-- A name that is joined to the path of a location leads to a place there. -/
theorem join_ofLocation (h : ∀ other ∈ location, IsFileName other) (hname : '/' ∉ name.toList) :
    (ofLocation location).join ⟨name⟩ = ofLocation (location ++ [name]) := by
  have hrelative : Path.isAbsolute ⟨name⟩ = false := isAbsolute_of_notMem hname
  have hpath : (ofLocation (location ++ [name])).text.toList =
      (location.flatMap fun other => '/' :: other.toList) ++ '/' :: name.toList := by
    rw [toList_ofLocation (by simp), List.flatMap_append, List.flatMap_singleton]
  apply eq_of_text
  rw [text_join _ hrelative, ← String.toList_inj, String.toList_append, String.toList_append,
    hpath, slashAfter]
  cases location using List.reverseRec with
  | nil => simp [ofLocation, isOpen]
  | append_singleton above last =>
    rw [isOpen_ofLocation_append (h last (by simp)), toList_ofLocation (by simp)]
    simp

private theorem parents_ofLocation (h : ∀ name ∈ location, IsFileName name) :
    (ofLocation location).parents =
      (shortenings (location.map String.toList).reverse).map fun before =>
        ofSegments ([] :: before.reverse) := by
  by_cases hne : location = []
  · subst hne
    decide
  · rw [parents, segments_ofLocation hne h]
    simp

/-- Above a place stands the directory that it is in, and what stands above that. -/
theorem parents_ofLocation_append (h : ∀ other ∈ location ++ [name], IsFileName other) :
    (ofLocation (location ++ [name])).parents =
      ofLocation location :: (ofLocation location).parents := by
  have habove : ∀ other ∈ location, IsFileName other := fun other hother => h other (by simp [hother])
  have hname : isName name.toList = true := (h name (by simp)).named
  have hdrop : ((location.map String.toList).reverse.dropWhile (!isName ·)) =
      (location.map String.toList).reverse := by
    cases hnames : (location.map String.toList).reverse with
    | nil => rfl
    | cons text texts =>
      have hmem : text ∈ location.map String.toList := by
        rw [← List.mem_reverse, hnames]
        exact List.mem_cons_self
      obtain ⟨other, hother, rfl⟩ := List.mem_map.mp hmem
      exact List.dropWhile_cons_of_neg (by simp [(habove other hother).named])
  rw [parents_ofLocation h, parents_ofLocation habove, List.map_append, List.reverse_append]
  simp [shortenings, hname, hdrop, ofSegments_map_toList]

private theorem isAbsolute_ofSegments (texts : List (List Char)) :
    (ofSegments ([] :: texts)).isAbsolute = true := by
  cases texts with
  | nil => rfl
  | cons text texts => simp [ofSegments, isAbsolute, intercalate_slash]

theorem isAbsolute_of_mem_parents {path above : Path} (h : path.isAbsolute = true)
    (habove : above ∈ path.parents) : above.isAbsolute = true := by
  obtain ⟨cs, htext⟩ : ∃ cs, path.text.toList = '/' :: cs := by
    rw [isAbsolute, beq_iff_eq] at h
    exact List.head?_eq_some_iff.mp h
  rw [parents, segments, htext, Text.pieces] at habove
  simp only [beq_self_eq_true, if_true, List.isEmpty_nil, List.append_nil] at habove
  obtain ⟨before, -, rfl⟩ := List.mem_map.mp habove
  exact isAbsolute_ofSegments before.reverse

end Path

end VersionCatalog
