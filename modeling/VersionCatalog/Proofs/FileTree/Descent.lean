import VersionCatalog.Proofs.Path.Components

namespace VersionCatalog.FileTree

variable {tree : FileTree} {here location : Location}

private theorem not_isName_iff {segment : List Char} :
    Path.isName segment = false ↔ String.ofList segment = "" ∨ String.ofList segment = "." := by
  simp [Path.isName, String.ext_iff, or_iff_not_imp_left]

/-- Only the pieces that name something count in a walk. -/
theorem walk_names {segments : List (List Char)}
    (h : tree.walk here (segments.map String.ofList) = .ok location) :
    tree.walk here ((segments.filter Path.isName).map String.ofList) = .ok location := by
  induction segments generalizing here with
  | nil => exact h
  | cons segment segments ih =>
    rw [List.map_cons, walk] at h
    split at h
    · simp at h
    · simp at h
    · rename_i hhere
      cases hname : Path.isName segment with
      | false =>
        rw [if_pos (not_isName_iff.mp hname)] at h
        simpa [List.filter_cons, hname] using ih h
      | true =>
        rw [List.filter_cons_of_pos hname, List.map_cons, walk, hhere]
        dsimp only
        split_ifs at h ⊢
        · exact ih h
        · exact ih h
        · exact ih h

theorem directory_of_walk_cons {name : String} {names : List String}
    (h : tree.walk here (name :: names) = .ok location) :
    tree.lookup? here = some .directory := by
  rw [walk] at h
  split at h
  · simp at h
  · simp at h
  · assumption

/-- The other pieces do no harm on the way to a directory. -/
theorem walk_of_names {segments : List (List Char)} (hend : tree.lookup? location = some .directory)
    (h : tree.walk here ((segments.filter Path.isName).map String.ofList) = .ok location) :
    tree.walk here (segments.map String.ofList) = .ok location := by
  induction segments generalizing here with
  | nil => exact h
  | cons segment segments ih =>
    have hhere : tree.lookup? here = some .directory := by
      cases hnames : ((segment :: segments).filter Path.isName).map String.ofList with
      | nil =>
        rw [hnames] at h
        rwa [Except.ok.inj h]
      | cons name names => exact directory_of_walk_cons (hnames ▸ h)
    rw [List.map_cons, walk, hhere]
    dsimp only
    cases hname : Path.isName segment with
    | false =>
      rw [if_pos (not_isName_iff.mp hname)]
      rw [List.filter_cons_of_neg (by simp [hname])] at h
      exact ih h
    | true =>
      rw [List.filter_cons_of_pos hname, List.map_cons, walk, hhere] at h
      dsimp only at h
      split_ifs at h ⊢
      · exact ih h
      · exact ih h
      · exact ih h

/-- A walk along pieces that name something and do not lead up leads down. -/
theorem walk_down {segments : List (List Char)}
    (hnames : ∀ segment ∈ segments, Path.isName segment = true ∧ segment ≠ ['.', '.'])
    (h : tree.walk here (segments.map String.ofList) = .ok location) :
    location = here ++ segments.map String.ofList := by
  induction segments generalizing here with
  | nil => simpa using (Except.ok.inj h).symm
  | cons segment segments ih =>
    obtain ⟨hname, hup⟩ := hnames segment (by simp)
    have hstays : ¬ (String.ofList segment = "" ∨ String.ofList segment = ".") := by
      rw [← not_isName_iff, hname]
      simp
    have hnotUp : String.ofList segment ≠ ".." := by simpa [String.ext_iff] using hup
    have hhere := directory_of_walk_cons h
    rw [List.map_cons, walk, hhere] at h
    dsimp only at h
    rw [if_neg hstays, if_neg hnotUp] at h
    split_ifs at h
    rw [ih (fun other hother => hnames other (by simp [hother])) h, List.map_cons,
      List.append_assoc, List.singleton_append]

/-- The directory that a path is walked from. -/
def origin (tree : FileTree) (path : Path) : Location :=
  if path.isAbsolute then [] else tree.current

theorem locate_eq_ok_iff {path : Path} :
    tree.locate path = .ok location ↔
      path.text ≠ "" ∧ path.text.toList.contains '\x00' = false ∧
        path.text.utf8ByteSize < pathLimit ∧
        tree.walk (tree.origin path) (path.segments.map String.ofList) = .ok location := by
  unfold locate locateBy origin
  rw [← Nat.not_le]
  split_ifs <;> simp_all

/-- Where names that are joined to a path start from: the empty path stands for the current
directory. -/
def locateBase (tree : FileTree) (base : Path) : Except Fault Location :=
  if base.text = "" then .ok tree.current else tree.locate base

/-- A joined path leads on from where its base leads. -/
theorem locate_join {base path : Path} (hrelative : path.isAbsolute = false)
    (hcomponents : path.components ≠ [])
    (h : tree.locate (base.join path) = .ok location) :
    ∃ there, tree.locateBase base = .ok there ∧ tree.lookup? there = some .directory ∧
      tree.walk there (path.components.map String.ofList) = .ok location := by
  obtain ⟨-, hnul, hlength, hwalk⟩ := locate_eq_ok_iff.mp h
  have htext := Path.text_join base hrelative
  have hnames := walk_names hwalk
  rw [← Path.components, Path.components_join hrelative, List.map_append, walk_append] at hnames
  cases hbase : tree.walk (tree.origin (base.join path)) (base.components.map String.ofList) with
  | error fault => simp [hbase, Except.bind] at hnames
  | ok there =>
    rw [hbase] at hnames
    have horigin : tree.origin (base.join path) = tree.origin base := by
      simp [origin, Path.isAbsolute_join, hrelative]
    have hthere : tree.lookup? there = some .directory := by
      cases hpath : path.components with
      | nil => exact absurd hpath hcomponents
      | cons name names =>
        rw [hpath] at hnames
        exact directory_of_walk_cons hnames
    refine ⟨there, ?_, hthere, hnames⟩
    rw [locateBase]
    split
    · rename_i hempty
      have hnothing : base = ⟨""⟩ := Path.eq_of_text hempty
      subst hnothing
      rw [horigin] at hbase
      exact hbase
    · rename_i hne
      rw [horigin] at hbase
      refine locate_eq_ok_iff.mpr ⟨hne, ?_, ?_, walk_of_names hthere hbase⟩
      · rw [htext] at hnul
        simp_all
      · rw [htext, String.utf8ByteSize_append] at hlength
        omega

end VersionCatalog.FileTree
