import Mathlib.Data.List.TakeWhile
import VersionCatalog.Proofs.FileTree.Changes

namespace VersionCatalog.FileTree

variable {written : Location → Prop}

/-- The pieces of a path without the empty ones at the end, and those. -/
theorem segments_eq_append (path : Path) : ∃ slashes,
    path.segments = (path.segments.reverse.dropWhile (·.isEmpty)).reverse ++ slashes ∧
      ∀ name ∈ slashes.map String.ofList, name = "" := by
  refine ⟨(path.segments.reverse.takeWhile (·.isEmpty)).reverse, ?_, ?_⟩
  · rw [← List.reverse_append, List.takeWhile_append_dropWhile, List.reverse_reverse]
  · intro name hname
    obtain ⟨segment, hsegment, rfl⟩ := List.mem_map.mp hname
    have hempty := List.mem_takeWhile_imp (List.mem_reverse.mp hsegment)
    rw [List.isEmpty_iff.mp hempty]

/-- A directory is made where nothing stood, and its path leads there from then on. -/
theorem createDirectory_eq_ok {tree after : FileTree} {path : Path}
    (h : tree.createDirectory path = .ok after) :
    ∃ location, tree.lookup? location = none ∧ after = tree.put location .directory ∧
      after.locate path = .ok location := by
  unfold createDirectory at h
  cases hlocate : tree.locateBy path (path.segments.reverse.dropWhile (·.isEmpty)).reverse with
  | error fault => simp [hlocate] at h
  | ok location =>
    cases hentry : tree.lookup? location with
    | some entry => simp [hlocate, hentry] at h
    | none =>
      simp only [hlocate, hentry, Except.ok.injEq] at h
      refine ⟨location, hentry, h.symm, ?_⟩
      have hne : tree.lookup? location ≠ some .directory := by simp [hentry]
      have hthere : after.lookup? location = some .directory := h ▸ lookup?_put_self hne .directory
      have hchanges : Changes (· = location) (fun _ => False) tree after :=
        h ▸ changes_put_directory hentry
      obtain ⟨slashes, hsegments, hslashes⟩ := segments_eq_append path
      have hshort := hchanges.locateBy hlocate
      unfold FileTree.locate
      unfold FileTree.locateBy at hshort ⊢
      split_ifs at hshort ⊢
      all_goals
        rw [hsegments, List.map_append, walk_append, hshort]
        exact walk_empty_names hthere hslashes

private theorem changes_createDirectory {tree after : FileTree} {path : Path}
    (h : tree.createDirectory path = .ok after) :
    Changes (fun location => after.locate path = .ok location) (fun _ => False) tree after := by
  obtain ⟨location, hnone, hafter, hlocate⟩ := createDirectory_eq_ok h
  have hchanges : Changes (· = location) (fun _ => False) tree after :=
    hafter ▸ changes_put_directory hnone
  refine hchanges.mono ?_ fun _ => id
  rintro _ rfl
  exact hlocate

/-- Makes a directory unless it is there. -/
def makeOrFind (tree : FileTree) (path : Path) : Except Fault Unit × FileTree :=
  match tree.createDirectory path with
  | .ok after => (.ok (), after)
  | .error fault => (if tree.isDirectory path then .ok () else .error fault, tree)

private theorem changes_makeOrFind (tree : FileTree) (path : Path) :
    Changes (fun location => (tree.makeOrFind path).2.locate path = .ok location)
      (fun _ => False) tree (tree.makeOrFind path).2 := by
  unfold makeOrFind
  cases hcreate : tree.createDirectory path with
  | ok after => exact changes_createDirectory hcreate
  | error fault => exact .refl tree

private theorem isDirectory_of_makeOrFind {tree : FileTree} {path : Path}
    (h : (tree.makeOrFind path).1 = .ok ()) : (tree.makeOrFind path).2.isDirectory path = true := by
  unfold makeOrFind at h ⊢
  cases hcreate : tree.createDirectory path with
  | ok after =>
    obtain ⟨location, hnone, rfl, hlocate⟩ := createDirectory_eq_ok hcreate
    have hnoDirectory : tree.lookup? location ≠ some .directory := by simp [hnone]
    exact isDirectory_iff.mpr ⟨location, hlocate, lookup?_put_self hnoDirectory .directory⟩
  | error fault =>
    by_contra hno
    simp_all

/-- The first path is made at once, or after the others, unless it is empty or they fail. -/
theorem createAll_cons (tree : FileTree) (path : Path) (above : List Path) :
    (path.text = "" ∧ tree.createAll (path :: above) = (.ok (), tree)) ∨
    tree.createAll (path :: above) = tree.makeOrFind path ∨
    (∃ middle, tree.createAll above = (.ok (), middle) ∧
      tree.createAll (path :: above) = middle.makeOrFind path) ∨
    (∃ fault, (tree.createAll above).1 = .error fault ∧
      tree.createAll (path :: above) = tree.createAll above) := by
  rw [createAll]
  by_cases hpath : path.text = ""
  · exact .inl ⟨hpath, if_pos hpath⟩
  rw [if_neg hpath]
  refine .inr ?_
  cases hfirst : tree.createDirectory path with
  | ok after => exact .inl (by rw [makeOrFind, hfirst])
  | error fault =>
    cases fault with
    | missing =>
      rcases hall : tree.createAll above with ⟨result, middle⟩
      cases result with
      | error fault => exact .inr (.inr ⟨fault, rfl, rfl⟩)
      | ok _ => exact .inr (.inl ⟨middle, rfl, rfl⟩)
    | _ => exact .inl (by rw [makeOrFind, hfirst])

/-- All that is made is directories at the ends of the paths, also when it ends in a failure. -/
theorem changes_createAll (tree : FileTree) (paths : List Path) :
    Changes (fun location => ∃ path ∈ paths, (tree.createAll paths).2.locate path = .ok location)
      (fun _ => False) tree (tree.createAll paths).2 := by
  induction paths with
  | nil => exact .refl tree
  | cons path above ih =>
    have hself (middle : FileTree) :
        Changes (fun location => ∃ p ∈ path :: above,
          (middle.makeOrFind path).2.locate p = .ok location)
          (fun _ => False) middle (middle.makeOrFind path).2 :=
      (changes_makeOrFind middle path).mono (fun _ h => ⟨path, by simp, h⟩) fun _ => id
    rcases createAll_cons tree path above with
      ⟨-, hall⟩ | hall | ⟨middle, hmiddle, hall⟩ | ⟨fault, -, hall⟩
    · rw [hall]
      exact .refl tree
    · rw [hall]
      exact hself tree
    · rw [hall]
      rw [hmiddle] at ih
      refine .trans (ih.mono ?_ fun _ => id) (hself middle)
      rintro location ⟨p, hp, hlocate⟩
      exact ⟨p, by simp [hp], (hself middle).locate hlocate⟩
    · rw [hall]
      refine ih.mono ?_ fun _ => id
      rintro location ⟨p, hp, hlocate⟩
      exact ⟨p, by simp [hp], hlocate⟩

/-- Directories that could be made are there, up to the empty path, which needs none. -/
theorem isDirectory_of_createDirectories {tree : FileTree} {path : Path}
    (h : (tree.createDirectories path).1 = .ok ()) :
    path.text = "" ∨ (tree.createDirectories path).2.isDirectory path = true := by
  unfold createDirectories at h ⊢
  rcases createAll_cons tree path path.parents with
    ⟨hpath, -⟩ | hall | ⟨middle, -, hall⟩ | ⟨fault, hfault, hall⟩
  · exact .inl hpath
  · rw [hall] at h ⊢
    exact .inr (isDirectory_of_makeOrFind h)
  · rw [hall] at h ⊢
    exact .inr (isDirectory_of_makeOrFind h)
  · rw [hall, hfault] at h
    simp at h

end VersionCatalog.FileTree
