import VersionCatalog.Proofs.FileTree.Actions
import VersionCatalog.Proofs.FileTree.Descent
import VersionCatalog.Proofs.Path.Location

namespace VersionCatalog.FileTree

/-- A tree in which all names are names of files and everything stands in a directory. -/
structure IsProper (tree : FileTree) : Prop where
  isFileName : ∀ entry ∈ tree.entries, ∀ name ∈ entry.1, IsFileName name
  inDirectory : ∀ entry ∈ tree.entries, tree.lookup? entry.1.dropLast = some .directory

variable {tree : FileTree} {location : Location} {entry : Entry} {path : Path}

private theorem mem_entries_of_lookup? (hne : location ≠ [])
    (h : tree.lookup? location = some entry) :
    (location, entry) ∈ tree.entries := by
  rw [lookup?, if_neg (by simpa using hne), List.lookup_eq_some_iff] at h
  obtain ⟨before, after, hentries, -⟩ := h
  simp [hentries]

theorem IsProper.isFileName_of_lookup? (hproper : tree.IsProper)
    (h : tree.lookup? location = some entry) : ∀ name ∈ location, IsFileName name := by
  by_cases hne : location = []
  · simp [hne]
  · exact hproper.isFileName _ (mem_entries_of_lookup? hne h)

/-- Above everything that is there stand directories. -/
theorem IsProper.directory_of_lookup? (hproper : tree.IsProper) {above below : Location}
    (hbelow : below ≠ []) (h : tree.lookup? (above ++ below) = some entry) :
    tree.lookup? above = some .directory := by
  induction below using List.reverseRec generalizing entry with
  | nil => exact absurd rfl hbelow
  | append_singleton below name ih =>
    have hmem := mem_entries_of_lookup? (by simp) h
    have hdirectory := hproper.inDirectory _ hmem
    rw [← List.append_assoc, List.dropLast_concat] at hdirectory
    by_cases hne : below = []
    · rwa [hne, List.append_nil] at hdirectory
    · exact ih hne hdirectory

/-- A walk along the names of a location leads to it if there are directories on the way. -/
theorem walk_location {here : Location} (hnames : ∀ name ∈ location, IsFileName name)
    (hdirectories : ∀ above below, location = above ++ below → below ≠ [] →
      tree.lookup? (here ++ above) = some .directory) :
    tree.walk here location = .ok (here ++ location) := by
  induction location generalizing here with
  | nil => simp [walk]
  | cons name names ih =>
    have hname := hnames name (by simp)
    have hhere : tree.lookup? here = some .directory := by
      simpa using hdirectories [] (name :: names) rfl (by simp)
    have hstays : ¬ (name = "" ∨ name = ".") := by
      rintro (rfl | rfl)
      · exact absurd hname.named (by decide)
      · exact absurd hname.named (by decide)
    have hshort : ¬ nameLimit < name.utf8ByteSize := Nat.not_lt.mpr hname.short
    rw [walk, hhere]
    dsimp only
    rw [if_neg hstays, if_neg hname.notUp, if_neg hshort, ih]
    · simp
    · exact fun other hother => hnames other (by simp [hother])
    · intro above below hsplit hbelow
      have hdirectory := hdirectories (name :: above) below (by simp [hsplit]) hbelow
      simpa using hdirectory

private theorem nul_notMem_ofLocation (hnames : ∀ name ∈ location, IsFileName name) :
    '\x00' ∉ (Path.ofLocation location).text.toList := by
  by_cases hne : location = []
  · subst hne
    decide
  · rw [Path.toList_ofLocation hne, List.mem_flatMap]
    rintro ⟨name, hname, hmem⟩
    rcases List.mem_cons.mp hmem with hslash | hmem
    · exact absurd hslash (by decide)
    · exact (hnames name hname).noNul hmem

private theorem map_ofList_toList (names : List String) :
    (names.map String.toList).map String.ofList = names := by
  simp [Function.comp_def]

/-- The path of a location leads there if it leads anywhere. -/
theorem eq_of_locate_ofLocation (hnames : ∀ name ∈ location, IsFileName name) {there : Location}
    (h : tree.locate (Path.ofLocation location) = .ok there) : there = location := by
  obtain ⟨-, -, -, hwalk⟩ := locate_eq_ok_iff.mp h
  have hdown := walk_names hwalk
  have hpieces : ∀ segment ∈ location.map String.toList,
      Path.isName segment = true ∧ segment ≠ ['.', '.'] := by
    refine List.forall_mem_map.mpr fun name hname => ⟨(hnames name hname).named, fun hup => ?_⟩
    exact (hnames name hname).notUp (String.toList_inj.mp hup)
  have hcomponents : (Path.ofLocation location).segments.filter Path.isName =
      location.map String.toList := by
    by_cases hne : location = []
    · subst hne
      decide
    · rw [Path.segments_ofLocation hne hnames, List.filter_cons_of_neg (by decide)]
      exact List.filter_eq_self.mpr fun segment hsegment => (hpieces segment hsegment).1
  rw [hcomponents, origin, if_pos (Path.isAbsolute_ofLocation location)] at hdown
  simpa [map_ofList_toList] using walk_down hpieces hdown

theorem isFile_ofLocation_iff (hproper : tree.IsProper)
    (hnames : ∀ name ∈ location, IsFileName name) :
    tree.isFile (Path.ofLocation location) = true ↔
      (∃ content, tree.lookup? location = some (.file content)) ∧
        (Path.ofLocation location).text.utf8ByteSize < pathLimit := by
  rw [isFile_iff]
  simp only [read_eq_ok_iff]
  constructor
  · rintro ⟨content, there, hlocate, hfile⟩
    obtain rfl := eq_of_locate_ofLocation hnames hlocate
    exact ⟨⟨content, hfile⟩, (locate_eq_ok_iff.mp hlocate).2.2.1⟩
  · rintro ⟨⟨content, hfile⟩, hshort⟩
    have hne : location ≠ [] := by
      rintro rfl
      exact absurd hfile (by simp [lookup?])
    have hwalk : tree.walk [] location = .ok location :=
      walk_location hnames fun above below hsplit hbelow =>
        hproper.directory_of_lookup? hbelow (hsplit ▸ hfile)
    refine ⟨content, location, locate_eq_ok_iff.mpr ⟨?_, ?_, hshort, ?_⟩, hfile⟩
    · intro hempty
      have habsolute := Path.isAbsolute_ofLocation location
      rw [Path.isAbsolute, hempty] at habsolute
      exact absurd habsolute (by decide)
    · simpa using nul_notMem_ofLocation hnames
    · rw [origin, if_pos (Path.isAbsolute_ofLocation location), Path.segments_ofLocation hne hnames,
        List.map_cons, map_ofList_toList, walk]
      exact hwalk

private theorem text_ne_of_tooLong (h : pathLimit ≤ path.text.utf8ByteSize) : path.text ≠ "" := by
  intro hempty
  rw [hempty] at h
  exact absurd h (by decide)

private theorem locateBy_of_tooLong (tree : FileTree) (h : pathLimit ≤ path.text.utf8ByteSize)
    (segments : List (List Char)) :
    ∃ fault, fault ≠ .missing ∧ tree.locateBy path segments = .error fault := by
  rw [locateBy, if_neg (text_ne_of_tooLong h)]
  split_ifs
  · exact ⟨.nulInPath, by decide, rfl⟩
  · exact ⟨.nameTooLong, by decide, rfl⟩

private theorem find?_of_tooLong (tree : FileTree) (h : pathLimit ≤ path.text.utf8ByteSize) :
    tree.find? path = none := by
  obtain ⟨fault, -, hlocate⟩ := locateBy_of_tooLong tree h path.segments
  rw [find?, locate, hlocate]

theorem isFile_of_tooLong (tree : FileTree) (h : pathLimit ≤ path.text.utf8ByteSize) :
    tree.isFile path = false := by
  rw [isFile, find?_of_tooLong tree h]

theorem run_ensureDirectory_of_tooLong (tree : FileTree) (h : pathLimit ≤ path.text.utf8ByteSize) :
    ∃ detail, tree.run (Storage.ensureDirectory path) = (.error detail, tree) := by
  obtain ⟨fault, hfault, hlocate⟩ := locateBy_of_tooLong tree h
    (path.segments.reverse.dropWhile (·.isEmpty)).reverse
  have hcreate : tree.createDirectory path = .error fault := by rw [createDirectory, hlocate]
  have hdirectory : tree.isDirectory path = false := by rw [isDirectory, find?_of_tooLong tree h]
  have hall : tree.createDirectories path = (.error fault, tree) := by
    rw [createDirectories, createAll, if_neg (text_ne_of_tooLong h), hcreate, hdirectory]
    cases fault with
    | missing => exact absurd rfl hfault
    | _ => rfl
  refine ⟨fault.message, ?_⟩
  rw [run_ensureDirectory, find?_of_tooLong tree h, hall]
  rfl

end VersionCatalog.FileTree
