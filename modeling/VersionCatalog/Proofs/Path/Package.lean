import Mathlib.Data.List.Basic
import VersionCatalog.Proofs.Path.Components

namespace VersionCatalog

namespace Text

/-- Cutting at either of two separators is cutting at one and then the pieces at the other. -/
theorem pieces_replace (replaced separator : Char) (cs : List Char) :
    pieces (· == separator) (cs.map fun c => if c = replaced then separator else c) =
      (pieces (· == replaced) cs).flatMap (pieces (· == separator)) := by
  induction cs with
  | nil => rfl
  | cons c cs ih =>
    rw [List.map_cons, pieces, pieces, ih]
    by_cases hreplaced : c = replaced
    · simp [hreplaced, pieces]
    · rw [if_neg hreplaced, beq_eq_false_iff_ne.mpr hreplaced]
      cases hcs : pieces (· == replaced) cs with
      | nil => exact absurd hcs (pieces_ne_nil _ cs)
      | cons first others =>
        by_cases hseparator : c = separator
        · simp [hseparator, pieces]
        · cases hfirst : pieces (· == separator) first with
          | nil => exact absurd hfirst (pieces_ne_nil _ first)
          | cons piece pieces => simp [hseparator, Text.pieces, hfirst]

end Text

namespace Path

variable {base path : Path} {parts : List Path}

private theorem isAbsolute_joinAll (base : Path) (parts : List Path) :
    (parts.foldl join base).isAbsolute = (base.isAbsolute || parts.any isAbsolute) := by
  induction parts generalizing base with
  | nil => simp
  | cons part parts ih =>
    rw [List.foldl_cons, ih, isAbsolute_join, List.any_cons]
    cases base.isAbsolute <;> simp

theorem components_joinAll (base : Path) (h : ∀ part ∈ parts, part.isAbsolute = false) :
    (parts.foldl join base).components = base.components ++ parts.flatMap components := by
  induction parts generalizing base with
  | nil => simp
  | cons part parts ih =>
    have hrest := ih (base.join part) fun p hp => h p (by simp [hp])
    rw [List.foldl_cons, hrest, components_join (h part (by simp)), List.flatMap_cons,
      List.append_assoc]

/-- What stands before an absolute path does not count. -/
theorem joinAll_of_isAbsolute (base : Path) (before later : List Path)
    (h : path.isAbsolute = true) :
    (before ++ path :: later).foldl join base = later.foldl join path := by
  rw [List.foldl_append, List.foldl_cons, join_of_isAbsolute _ h]

private theorem notMem_join {c : Char} (hslash : c ≠ '/') (hbase : c ∉ base.text.toList)
    (hpath : c ∉ path.text.toList) : c ∉ (base.join path).text.toList := by
  rw [join]
  split_ifs
  · exact hpath
  · simp [hbase, hpath]
  · simp [hbase, hpath, hslash]

private theorem notMem_joinAll {c : Char} (hslash : c ≠ '/') (hbase : c ∉ base.text.toList)
    (hparts : ∀ part ∈ parts, c ∉ part.text.toList) :
    c ∉ (parts.foldl join base).text.toList := by
  induction parts generalizing base with
  | nil => exact hbase
  | cons part parts ih =>
    exact ih (notMem_join hslash hbase (hparts part (by simp))) fun p hp => hparts p (by simp [hp])

/-- The parts of a package between its dots, without the empty ones, as paths. -/
def packageParts (package : String) : List Path :=
  ((Text.pieces (· == '.') package.toList).filter (· != [])).map fun part =>
    ⟨String.ofList part⟩

theorem ofPackage_eq (package : String) :
    ofPackage package = (packageParts package).foldl join ⟨""⟩ := by
  rw [ofPackage, packageParts, List.foldl_map]

theorem isAbsolute_ofPackage (package : String) :
    (ofPackage package).isAbsolute = true ↔
      ∃ part ∈ packageParts package, part.isAbsolute = true := by
  rw [ofPackage_eq, isAbsolute_joinAll, Bool.or_eq_true, List.any_eq_true]
  exact or_iff_right (by decide)

private theorem dot_notMem_packageParts {package : String} :
    ∀ part ∈ packageParts package, '.' ∉ part.text.toList := by
  intro part hpart
  obtain ⟨piece, hpiece, rfl⟩ := List.mem_map.mp hpart
  rw [String.toList_ofList]
  exact Text.separator_notMem_of_mem_pieces (List.mem_filter.mp hpiece).1

private theorem dot_notMem_ofPackage (package : String) :
    '.' ∉ (ofPackage package).text.toList := by
  rw [ofPackage_eq]
  exact notMem_joinAll (by decide) (by simp) dot_notMem_packageParts

/-- Nothing in the path of a package leads up or stays. -/
theorem dot_notMem_of_mem_segments {package : String} {segment : List Char}
    (h : segment ∈ (ofPackage package).segments) : '.' ∉ segment := fun hdot =>
  dot_notMem_ofPackage package (Text.mem_of_mem_pieces h '.' hdot)

private theorem flatMap_filter_ne_nil {α β : Type} [BEq α] [LawfulBEq α] {f : List α → List β}
    (h : f [] = []) (l : List (List α)) : (l.filter (· != [])).flatMap f = l.flatMap f := by
  induction l with
  | nil => rfl
  | cons a l ih => cases a <;> simp [h, ih]

/-- The pieces of a package that are not empty, where a dot counts as a slash. -/
def packagePieces (package : String) : List (List Char) :=
  (Text.pieces (· == '/') (package.toList.map fun c => if c = '.' then '/' else c)).filter (· != [])

private theorem components_of_dot_notMem {part : List Char} (h : '.' ∉ part) :
    components ⟨String.ofList part⟩ = (Text.pieces (· == '/') part).filter (· != []) := by
  rw [components, segments, String.toList_ofList]
  refine List.filter_congr fun segment hsegment => ?_
  have hdot : segment ≠ ['.'] := by
    rintro rfl
    exact h (Text.mem_of_mem_pieces hsegment '.' (by simp))
  simp [isName, hdot]

private theorem flatMap_components_packageParts (package : String) :
    (packageParts package).flatMap components = packagePieces package := by
  calc (packageParts package).flatMap components
      = ((Text.pieces (· == '.') package.toList).filter (· != [])).flatMap
          fun part => components ⟨String.ofList part⟩ := by rw [packageParts, List.flatMap_map]
    _ = (Text.pieces (· == '.') package.toList).flatMap
          fun part => components ⟨String.ofList part⟩ := flatMap_filter_ne_nil (by decide) _
    _ = (Text.pieces (· == '.') package.toList).flatMap
          fun part => (Text.pieces (· == '/') part).filter (· != []) :=
        List.flatMap_congr fun part hpart =>
          components_of_dot_notMem (Text.separator_notMem_of_mem_pieces hpart)
    _ = packagePieces package := by
        rw [packagePieces, Text.pieces_replace, List.filter_flatMap]

theorem components_ofPackage {package : String}
    (h : ∀ part ∈ packageParts package, part.isAbsolute = false) :
    (ofPackage package).components = packagePieces package := by
  rw [ofPackage_eq, components_joinAll _ h, flatMap_components_packageParts]
  rfl

end Path

end VersionCatalog
