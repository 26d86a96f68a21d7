import Mathlib.Data.List.Induction
import VersionCatalog.Generate
import VersionCatalog.Proofs.FileTree.Changes
import VersionCatalog.Proofs.Naming.Characters

namespace VersionCatalog

namespace Path

private theorem slash_notMem_segments {path : Path} {segment : List Char}
    (h : segment ∈ path.segments) :
    '/' ∉ segment :=
  Text.separator_notMem_of_mem_pieces h

private theorem mem_segments_of_fileName? {path : Path} {name : List Char}
    (h : path.fileName? = some name) : name ∈ path.segments := by
  unfold fileName? at h
  obtain ⟨hlast, -⟩ := Option.filter_eq_some_iff.mp h
  exact (List.mem_filter.mp (List.mem_of_getLast? hlast)).1

private theorem mem_of_mem_splitName {name : List Char} {c : Char} (h : c ∈ (splitName name).1) :
    c ∈ name := by
  unfold splitName at h
  split at h
  · rename_i hdrop
    have hmem : c ∈ name.reverse.dropWhile (· != '.') := by
      rw [hdrop]
      exact List.mem_cons_of_mem _ (List.mem_reverse.mp h)
    exact List.mem_reverse.mp ((List.dropWhile_sublist _).subset hmem)
  · exact h

theorem isAbsolute_of_notMem {path : Path} (h : '/' ∉ path.text.toList) :
    path.isAbsolute = false := by
  rw [isAbsolute]
  cases htext : path.text.toList with
  | nil => rfl
  | cons c cs =>
    rw [htext] at h
    obtain ⟨hc, -⟩ := List.ne_and_not_mem_of_not_mem_cons h
    simpa using hc.symm

theorem segments_of_notMem {path : Path} (h : '/' ∉ path.text.toList) :
    path.segments = [path.text.toList] :=
  Text.pieces_of_notMem h

/-- What a relative path is joined to stays in front of it, up to a slash at the end. -/
theorem segments_join (base : Path) : ∃ before slashes, base.segments = before ++ slashes ∧
    (∀ segment ∈ slashes, segment = []) ∧
    ∀ path : Path, path.isAbsolute = false →
      (base.join path).segments = before ++ path.segments := by
  rcases List.eq_nil_or_concat base.text.toList with hnil | ⟨front, last, hlast⟩
  · refine ⟨[], [[]], by simp [segments, hnil, Text.pieces], by simp, fun path hpath => ?_⟩
    have hopen : base.isOpen = true := by simp [isOpen, hnil]
    simp [join, hpath, hopen, segments, hnil]
  · rw [List.concat_eq_append] at hlast
    by_cases hslash : last = '/'
    · refine ⟨Text.pieces (· == '/') front, [[]], ?_, by simp, fun path hpath => ?_⟩
      · simp [segments, hlast, hslash, Text.pieces_append, Text.pieces]
      · have hopen : base.isOpen = true := by simp [isOpen, hlast, hslash]
        simp [join, hpath, hopen, segments, hlast, hslash, Text.pieces_append]
    · refine ⟨base.segments, [], by simp, by simp, fun path hpath => ?_⟩
      have hopen : base.isOpen = false := by simp [isOpen, hlast, hslash]
      simp [join, hpath, hopen, segments, Text.pieces_append]

private theorem fileName?_join (base : Path) {path : Path} (hslash : '/' ∉ path.text.toList)
    (hname : isName path.text.toList = true) (hup : path.text.toList ≠ ['.', '.']) :
    (base.join path).fileName? = some path.text.toList := by
  obtain ⟨before, -, -, -, hsegments⟩ := segments_join base
  simp [fileName?, hsegments _ (isAbsolute_of_notMem hslash), segments_of_notMem hslash,
    List.filter_append, hname, hup]

end Path

namespace FileTree

/-- A walk ends at the last name, if that does not lead up. -/
theorem getLast?_of_walk {tree : FileTree} {here location : Location}
    {segments : List (List Char)} {name : List Char}
    (hlast : (segments.filter Path.isName).getLast? = some name) (hup : name ≠ ['.', '.'])
    (hwalk : tree.walk here (segments.map String.ofList) = .ok location) :
    location.getLast? = some (String.ofList name) := by
  induction segments using List.reverseRec generalizing location with
  | nil => simp at hlast
  | append_singleton segments segment ih =>
    rw [List.map_append, walk_append] at hwalk
    cases hfront : tree.walk here (segments.map String.ofList) with
    | error fault => simp [hfront, Except.bind] at hwalk
    | ok there =>
      rw [hfront] at hwalk
      by_cases hsegment : Path.isName segment = true
      · have hname : segment = name := by simpa [List.filter_append, hsegment] using hlast
        subst hname
        obtain ⟨hempty, hdot⟩ : segment ≠ [] ∧ segment ≠ ['.'] := by
          simpa [Path.isName] using hsegment
        have hnames : ¬ (String.ofList segment = "" ∨ String.ofList segment = ".") := by
          simp [String.ext_iff, hempty, hdot]
        have hnotUp : String.ofList segment ≠ ".." := by simpa [String.ext_iff] using hup
        simp only [Except.bind, List.map_cons, List.map_nil, walk] at hwalk
        split at hwalk
        · simp at hwalk
        · simp at hwalk
        · rw [if_neg hnames, if_neg hnotUp] at hwalk
          split_ifs at hwalk
          · rw [← Except.ok.inj hwalk]
            simp
      · have hstays : location = there := by
          refine walk_stays ?_ hwalk
          intro n hn
          have hsegment' : segment = [] ∨ segment = ['.'] := by
            simpa [Path.isName, or_iff_not_imp_left] using hsegment
          rcases hsegment' with rfl | rfl <;> simp_all
        subst hstays
        refine ih ?_ hfront
        simpa [List.filter_append, hsegment] using hlast

private theorem getLast?_of_locate {tree : FileTree} {path : Path} {name : List Char}
    {location : Location}
    (hname : path.fileName? = some name) (hlocate : tree.locate path = .ok location) :
    location.getLast? = some (String.ofList name) := by
  obtain ⟨hlast, hup⟩ := Option.filter_eq_some_iff.mp hname
  unfold locate locateBy at hlocate
  split_ifs at hlocate
  · exact getLast?_of_walk hlast (by simpa using hup) hlocate
  · exact getLast?_of_walk hlast (by simpa using hup) hlocate

end FileTree

private theorem slash_notMem_className (catalog : Path) : '/' ∉ (className catalog).toList := by
  have hstem : '/' ∉ (catalog.stem?.getD "").toList := by
    unfold Path.stem?
    cases hname : catalog.fileName? with
    | none => simp
    | some name =>
      have hslash := Path.slash_notMem_segments (Path.mem_segments_of_fileName? hname)
      simpa using fun h => hslash (Path.mem_of_mem_splitName h)
  have hslash : Text.Caseless '/' := by decide +kernel
  rw [className, Naming.toList_typeName]
  exact Naming.notMem_capitalize hslash (Naming.notMem_camelChars hslash hstem)

/-- The path of a class's file in the directory of the classes. -/
def classFile (catalog : Path) : Path :=
  ⟨className catalog ++ "Catalog.kt"⟩

theorem slash_notMem_classFile (catalog : Path) : '/' ∉ (classFile catalog).text.toList := by
  rw [classFile, String.toList_append, List.mem_append, not_or]
  exact ⟨slash_notMem_className catalog, by decide⟩

theorem classFile_ne {catalog : Path} {name : List Char} (hname : name.getLast? ≠ some 't') :
    (classFile catalog).text.toList ≠ name := by
  rintro rfl
  exact hname (by simp [classFile])

theorem isName_classFile (catalog : Path) :
    Path.isName (classFile catalog).text.toList = true := by
  rw [Path.isName, Bool.and_eq_true, bne_iff_ne, bne_iff_ne]
  exact ⟨classFile_ne (by decide), classFile_ne (by decide)⟩

private theorem fileName?_outputFile (batch : Batch) (catalog : Path) :
    (batch.outputFile catalog).fileName? = some (classFile catalog).text.toList :=
  Path.fileName?_join batch.targetDirectory (slash_notMem_classFile catalog)
    (isName_classFile catalog) (classFile_ne (by decide))

theorem getLast?_of_locate_outputFile {tree : FileTree} {batch : Batch} {catalog : Path}
    {location : Location} (h : tree.locate (batch.outputFile catalog) = .ok location) :
    location.getLast? = some (className catalog ++ "Catalog.kt") := by
  rw [FileTree.getLast?_of_locate (fileName?_outputFile batch catalog) h]
  simp [classFile]

/-- Files of different classes are different. -/
theorem className_eq_of_locate {tree : FileTree} {batch : Batch} {catalog other : Path}
    {location : Location} (h : tree.locate (batch.outputFile catalog) = .ok location)
    (h' : tree.locate (batch.outputFile other) = .ok location) :
    className catalog = className other := by
  have hlast := getLast?_of_locate_outputFile h
  rw [getLast?_of_locate_outputFile h'] at hlast
  have hnames := congrArg String.toList (Option.some.inj hlast)
  rw [String.toList_append, String.toList_append] at hnames
  exact String.ext (List.append_cancel_right hnames).symm

private theorem fileName?_of_isTomlFile {path : Path} (h : isTomlFile path = true) :
    ∃ name, path.fileName? = some name ∧ name.getLast? = some 'l' := by
  unfold isTomlFile Path.extension? at h
  cases hname : path.fileName? with
  | none => simp [hname] at h
  | some name =>
    refine ⟨name, rfl, ?_⟩
    have hextension : (Path.splitName name).2 = some "toml".toList := by
      simpa [hname, Option.map_eq_some_iff, String.ext_iff] using h
    unfold Path.splitName at hextension
    split at hextension
    · have htake := congrArg List.reverse (Option.some.inj hextension)
      rw [List.reverse_reverse] at htake
      rw [← List.head?_reverse]
      cases hreverse : name.reverse with
      | nil => simp [hreverse] at htake
      | cons c cs =>
        rw [hreverse, List.takeWhile_cons] at htake
        split_ifs at htake with hc
        · have hl := congrArg List.head? htake
          simpa using hl
        · simp at htake
    · simp at hextension

/-- The file of a class is no TOML file. -/
theorem ne_of_isTomlFile {tree tree' : FileTree} {batch : Batch} {path catalog : Path}
    {location location' : Location} (hpath : isTomlFile path = true)
    (h : tree.locate path = .ok location)
    (h' : tree'.locate (batch.outputFile catalog) = .ok location') : location ≠ location' := by
  rintro rfl
  obtain ⟨name, hname, hend⟩ := fileName?_of_isTomlFile hpath
  have hlast := FileTree.getLast?_of_locate hname h
  rw [getLast?_of_locate_outputFile h'] at hlast
  have hnames := congrArg (·.toList.getLast?) (Option.some.inj hlast)
  simp [hend] at hnames

end VersionCatalog
