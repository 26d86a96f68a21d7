import VersionCatalog.Proofs.CommandLine.Generate
import VersionCatalog.Proofs.FileTree.Current
import VersionCatalog.Proofs.FileTree.Proper
import VersionCatalog.Proofs.Generate.Run
import VersionCatalog.Proofs.Settings.Rooting

namespace VersionCatalog

namespace CommandLine

open FileTree (IgnoresCurrent)

/-- The directories from a path upward in which settings are looked for. -/
def upward (here : Path) : List Path :=
  here :: here.parents

/-- The nearest directory from a path upward with a file of settings. -/
def settingsDirectory? (tree : FileTree) (here : Path) : Option Path :=
  (upward here).find? fun directory => tree.isFile (directory.join ⟨settingsFileName⟩)

private theorem projectRoot_eq (tree : FileTree) (here : Path) :
    projectRoot tree here = (settingsDirectory? tree here).getD here := rfl

variable {tree : FileTree} {here : Path} {thisYear : Int} {catalogs : List Path}
  {package : Option String} {outputDirectory : Option Path} {projectVersion : Option String}
  {batch : Batch}

private theorem isAbsolute_of_mem_upward (h : here.isAbsolute = true) :
    ∀ directory ∈ upward here, directory.isAbsolute = true :=
  List.forall_mem_cons.mpr ⟨h, fun _ => Path.isAbsolute_of_mem_parents h⟩

private theorem isAbsolute_projectRoot (tree : FileTree) (h : here.isAbsolute = true) :
    (projectRoot tree here).isAbsolute = true := by
  rw [projectRoot_eq]
  cases hfound : settingsDirectory? tree here with
  | none => exact h
  | some directory =>
    exact isAbsolute_of_mem_upward h directory (List.mem_of_find?_eq_some hfound)

private theorem settingsDirectory?_startedIn (h : here.isAbsolute = true) (location : Location) :
    settingsDirectory? (tree.startedIn location) here = settingsDirectory? tree here := by
  have hfind := IgnoresCurrent.findHolding? settingsFileName (isAbsolute_of_mem_upward h) tree
    location
  rw [FileTree.run_findHolding?, FileTree.run_findHolding?] at hfind
  exact congrArg Prod.fst hfind

private theorem settings_startedIn {path : Path} (h : path.isAbsolute = true)
    (location : Location) :
    (tree.startedIn location).settings path = tree.settings path := by
  rw [FileTree.settings, ignoresCurrent_loadSettings h tree location, FileTree.settings]

private theorem calledBatch_startedIn (h : here.isAbsolute = true) (location : Location) :
    calledBatch (tree.startedIn location) here thisYear catalogs package outputDirectory
        projectVersion =
      calledBatch tree here thisYear catalogs package outputDirectory projectVersion := by
  have hfile := Path.isAbsolute_join_of_base (isAbsolute_projectRoot tree h) ⟨settingsFileName⟩
  rw [calledBatch, calledBatch, projectRoot_eq, settingsDirectory?_startedIn h, ← projectRoot_eq,
    settings_startedIn hfile]

/-- All paths of a call from an absolute path are absolute. -/
theorem isAbsolute_calledBatch (h : here.isAbsolute = true)
    (hbatch : calledBatch tree here thisYear catalogs package outputDirectory projectVersion =
      .ok batch) :
    batch.targetDirectory.isAbsolute = true ∧ ∀ c ∈ batch.catalogs, c.isAbsolute = true := by
  have hroot : (projectRoot tree here).isAbsolute = true := isAbsolute_projectRoot tree h
  rw [calledBatch] at hbatch
  cases hsettings : tree.settings ((projectRoot tree here).join ⟨settingsFileName⟩) with
  | error error => simp [hsettings, Except.map] at hbatch
  | ok settings =>
    rw [hsettings] at hbatch
    obtain rfl := Except.ok.inj hbatch
    obtain ⟨houtput, hrooted⟩ :=
      List.forall_mem_cons.mp (Settings.isAbsolute_of_mem_paths settings hroot)
    constructor
    · refine Path.isAbsolute_join_of_base ?_ _
      cases outputDirectory with
      | none => exact houtput
      | some directory => exact Path.isAbsolute_join_of_base h directory
    · dsimp only [batchOf]
      split_ifs
      · exact hrooted
      · exact List.forall_mem_map.mpr fun c _ => Path.isAbsolute_join_of_base h c

/-- A call from an absolute path does not depend on the current directory otherwise. -/
theorem ignoresCurrent_runGenerate (h : here.isAbsolute = true) :
    IgnoresCurrent
      (runGenerate here thisYear catalogs package outputDirectory projectVersion) := by
  intro tree location
  rw [run_runGenerate, run_runGenerate, calledBatch_startedIn h]
  cases hbatch : calledBatch tree here thisYear catalogs package outputDirectory projectVersion with
  | error error => rfl
  | ok batch =>
    obtain ⟨htarget, hcatalogs⟩ := isAbsolute_calledBatch h hbatch
    have hgenerate := Batch.ignoresCurrent_generate htarget hcatalogs tree location
    dsimp only
    rw [hgenerate]

private theorem run_startedIn (h : here.isAbsolute = true) {arguments : List String}
    (hrequest : Request.ofArguments arguments =
      .generate catalogs package outputDirectory projectVersion) (location : Location) :
    (tree.startedIn location).run (run here thisYear arguments) =
      ((tree.run (runGenerate here thisYear catalogs package outputDirectory projectVersion)).1,
        (tree.run (runGenerate here thisYear catalogs package outputDirectory
          projectVersion)).2.startedIn location) := by
  rw [run, hrequest]
  exact ignoresCurrent_runGenerate h tree location

variable {root below : Location}

/-- The directories below the root that have no settings are passed on the way up. -/
theorem settingsDirectory?_below (hnames : ∀ name ∈ root ++ below, IsFileName name)
    (hbetween : ∀ between, between ≠ [] → between <+: below →
      tree.isFile ((Path.ofLocation (root ++ between)).join ⟨settingsFileName⟩) = false) :
    settingsDirectory? tree (Path.ofLocation (root ++ below)) =
      settingsDirectory? tree (Path.ofLocation root) := by
  induction below using List.reverseRec with
  | nil => rw [List.append_nil]
  | append_singleton below name ih =>
    have hlast := hbetween (below ++ [name]) (by simp) List.prefix_rfl
    have hprefix := List.prefix_append below [name]
    rw [← List.append_assoc] at hlast hnames ⊢
    have habove := ih (fun other hother => hnames other (List.mem_append_left [name] hother))
      fun between hne hbelow => hbetween between hne (hbelow.trans hprefix)
    rw [settingsDirectory?, upward, List.find?_cons, hlast, Path.parents_ofLocation_append hnames]
    exact habove

/-- The batch of a call that names no paths, if a directory with settings is found. -/
theorem calledBatch_of_some {directory : Path}
    (h : settingsDirectory? tree here = some directory) :
    calledBatch tree here thisYear [] package none projectVersion =
      (tree.settings (directory.join ⟨settingsFileName⟩)).map fun settings =>
        batchOf directory thisYear (settings.rootedAt directory) [] package none projectVersion := by
  rw [calledBatch, projectRoot_eq, h]
  rfl

/-- The current year does not count if the settings have one. -/
theorem map_batchOf_congr {settings : Except Error Settings} {directory : Path} {thisYear' : Int}
    (hyear : thisYear' = thisYear ∨ ∃ found, settings = .ok found ∧ found.year.isSome) :
    (settings.map fun found =>
        batchOf directory thisYear' (found.rootedAt directory) [] package none projectVersion) =
      settings.map fun found =>
        batchOf directory thisYear (found.rootedAt directory) [] package none projectVersion := by
  rcases hyear with rfl | ⟨found, rfl, hfound⟩
  · rfl
  · obtain ⟨year, hyear⟩ := Option.isSome_iff_exists.mp hfound
    simp [Except.map, batchOf, Settings.rootedAt, hyear]

/-- A name that is joined to the path of a location is no shorter below. -/
theorem utf8ByteSize_join_below (hnames : ∀ name ∈ root ++ below, IsFileName name) {path : Path}
    (hpath : path.isAbsolute = false) :
    ((Path.ofLocation root).join path).text.utf8ByteSize ≤
      ((Path.ofLocation (root ++ below)).join path).text.utf8ByteSize := by
  induction below using List.reverseRec with
  | nil => rw [List.append_nil]
  | append_singleton below name ih =>
    rw [← List.append_assoc] at hnames ⊢
    have hslash := (hnames name (by simp)).noSlash
    have habove : ∀ other ∈ root ++ below, IsFileName other := fun other hother =>
      hnames other (List.mem_append_left [name] hother)
    have hname : Path.isAbsolute ⟨name⟩ = false := Path.isAbsolute_of_notMem hslash
    refine (ih habove).trans ?_
    rw [← Path.join_ofLocation habove hslash, Path.utf8ByteSize_join _ hpath,
      Path.utf8ByteSize_join _ hpath, Path.utf8ByteSize_join _ hname]
    omega

/-- A batch whose catalogs cannot be reached ends in an error, and makes no more than its directory,
or nothing if that cannot be reached either. -/
theorem run_generate_of_tooLong (tree : FileTree) {catalog : Path}
    (hcatalogs : batch.catalogs = [catalog])
    (hcatalog : FileTree.pathLimit ≤ catalog.text.utf8ByteSize) :
    ∃ error, tree.run batch.generate =
      (.error error, tree.withDirectory batch.targetDirectory) := by
  rw [Batch.run_generate, hcatalogs, List.find?_cons, FileTree.isFile_of_tooLong _ hcatalog]
  cases (tree.run (Storage.ensureDirectory batch.targetDirectory)).1 with
  | error detail => exact ⟨_, rfl⟩
  | ok _ => exact ⟨_, rfl⟩

/-- What a call makes that finds no settings and is started where all paths are too long: the path of
the package, if it is absolute. -/
def strayTree (tree : FileTree) (package : String) : FileTree :=
  if (Path.ofPackage package).isAbsolute then tree.withDirectory (Path.ofPackage package) else tree

private theorem run_runGenerate_of_tooLong (hnone : settingsDirectory? tree here = none)
    (hlong : FileTree.pathLimit ≤ (here.join ⟨settingsFileName⟩).text.utf8ByteSize) :
    ∃ error, tree.run (runGenerate here thisYear [] package none projectVersion) =
      (.ofError error, strayTree tree (package.getD ({} : Settings).package)) := by
  have hlonger (name : String) (hrelative : Path.isAbsolute ⟨name⟩ = false)
      (hsize : settingsFileName.utf8ByteSize ≤ name.utf8ByteSize) :
      FileTree.pathLimit ≤ (here.join ⟨name⟩).text.utf8ByteSize := by
    rw [Path.utf8ByteSize_join _ (by decide)] at hlong
    rw [Path.utf8ByteSize_join _ hrelative]
    dsimp only at hlong ⊢
    omega
  have hsettings := FileTree.settings_of_isFile (FileTree.isFile_of_tooLong tree hlong)
  obtain ⟨batch, hbatch, hcatalogs, htarget⟩ : ∃ batch,
      calledBatch tree here thisYear [] package none projectVersion = .ok batch ∧
      batch.catalogs = [here.join ⟨"gradle/libs.versions.toml"⟩] ∧
      batch.targetDirectory = (here.join ⟨"build/generated/sources"⟩).join
        (Path.ofPackage (package.getD ({} : Settings).package)) := by
    rw [calledBatch, projectRoot_eq, hnone, Option.getD_none, hsettings]
    exact ⟨_, rfl, rfl, rfl⟩
  obtain ⟨error, hrun⟩ := run_generate_of_tooLong tree hcatalogs
    (hlonger _ (by decide) (by decide))
  refine ⟨error, ?_⟩
  rw [run_runGenerate, hbatch]
  dsimp only
  rw [hrun, htarget, strayTree]
  split_ifs with habsolute
  · rw [Path.join_of_isAbsolute _ habsolute]
    rfl
  · have houtput := hlonger "build/generated/sources" (by decide) (by decide)
    have hdirectory : FileTree.pathLimit ≤ ((here.join ⟨"build/generated/sources"⟩).join
        (Path.ofPackage (package.getD ({} : Settings).package))).text.utf8ByteSize := by
      rw [Path.utf8ByteSize_join _ (by simpa using habsolute)]
      omega
    obtain ⟨detail, hensure⟩ := FileTree.run_ensureDirectory_of_tooLong tree hdirectory
    rw [FileTree.withDirectory, hensure]
    rfl

private theorem isFileName_settingsFileName : IsFileName settingsFileName := by
  decide

/-- The settings in a directory are found if they are there and their path is not too long. -/
theorem isFile_settings_iff (hproper : tree.IsProper) (hnames : ∀ name ∈ root, IsFileName name) :
    tree.isFile ((Path.ofLocation root).join ⟨settingsFileName⟩) = true ↔
      (∃ content, tree.lookup? (root ++ [settingsFileName]) = some (.file content)) ∧
        ((Path.ofLocation root).join ⟨settingsFileName⟩).text.utf8ByteSize <
          FileTree.pathLimit := by
  have hall : ∀ name ∈ root ++ [settingsFileName], IsFileName name :=
    List.forall_mem_append.mpr ⟨hnames, List.forall_mem_singleton.mpr isFileName_settingsFileName⟩
  rw [Path.join_ofLocation hnames isFileName_settingsFileName.noSlash]
  exact FileTree.isFile_ofLocation_iff hproper hall

/-- Where no settings are, none are found. -/
theorem isFile_settings_between (hproper : tree.IsProper)
    (hnames : ∀ name ∈ root ++ below, IsFileName name)
    (hbetween : ∀ between, between ≠ [] → between <+: below → ∀ content,
      tree.lookup? (root ++ between ++ [settingsFileName]) ≠ some (.file content)) :
    ∀ between, between ≠ [] → between <+: below →
      tree.isFile ((Path.ofLocation (root ++ between)).join ⟨settingsFileName⟩) = false := by
  intro between hne hprefix
  have hlocation : ∀ name ∈ root ++ between, IsFileName name := fun name hname =>
    hnames name (((List.prefix_append_right_inj root).mpr hprefix).subset hname)
  rw [Bool.eq_false_iff, ne_eq, isFile_settings_iff hproper hlocation]
  rintro ⟨⟨content, hcontent⟩, -⟩
  exact hbetween between hne hprefix content hcontent

/-- Settings that are there and not found have a path that is too long. -/
theorem tooLong_of_settingsDirectory?_eq_none (hproper : tree.IsProper)
    (hnames : ∀ name ∈ root, IsFileName name) {content : ByteArray}
    (hroot : tree.lookup? (root ++ [settingsFileName]) = some (.file content))
    (hnone : settingsDirectory? tree (.ofLocation root) = none) :
    FileTree.pathLimit ≤ ((Path.ofLocation root).join ⟨settingsFileName⟩).text.utf8ByteSize := by
  have hnot := List.find?_eq_none.mp hnone (.ofLocation root) List.mem_cons_self
  rw [isFile_settings_iff hproper hnames, not_and] at hnot
  exact Nat.not_lt.mp (hnot ⟨content, hroot⟩)

/-- A call of `generate` that names no paths does the same from the directory with the settings of a
project and from any directory below it that has no settings nearer. If the path of the settings is
so long that the program does not find them, both calls may end in an error with different words;
otherwise not even the words of an error differ. -/
theorem generate_alike_from_below (tree : FileTree) (hproper : tree.IsProper)
    (root below : Location) (content : ByteArray)
    (hroot : tree.lookup? (root ++ [settingsFileName]) = some (.file content))
    (hbelow : tree.lookup? (root ++ below) = some .directory)
    (hbetween : ∀ between, between ≠ [] → between <+: below → ∀ other,
      tree.lookup? (root ++ between ++ [settingsFileName]) ≠ some (.file other))
    (arguments : List String) (package projectVersion : Option String)
    (hrequest : Request.ofArguments arguments = .generate [] package none projectVersion)
    (thisYear thisYear' : Int)
    (hyear : thisYear' = thisYear ∨ ∃ settings,
      tree.settings ((projectRoot tree (.ofLocation root)).join ⟨settingsFileName⟩) =
        .ok settings ∧ settings.year.isSome) :
    let above := (tree.startedIn root).run (run (.ofLocation root) thisYear arguments)
    let inside := (tree.startedIn (root ++ below)).run
      (run (.ofLocation (root ++ below)) thisYear' arguments)
    inside.1.code = above.1.code ∧ inside.1.output = above.1.output ∧
      inside.1.failures = above.1.failures ∧ inside.2 = above.2.startedIn (root ++ below) ∧
      (((Path.ofLocation root).join ⟨settingsFileName⟩).text.utf8ByteSize < FileTree.pathLimit →
        inside.1 = above.1) := by
  intro above inside
  have hnames : ∀ name ∈ root ++ below, IsFileName name := hproper.isFileName_of_lookup? hbelow
  have hrootNames : ∀ name ∈ root, IsFileName name := fun name hname =>
    hnames name (List.mem_append_left below hname)
  have hnearest := settingsDirectory?_below hnames
    (isFile_settings_between hproper hnames hbetween)
  have habove : above = _ := run_startedIn (Path.isAbsolute_ofLocation root) hrequest root
  have hinside : inside = _ :=
    run_startedIn (Path.isAbsolute_ofLocation (root ++ below)) hrequest (root ++ below)
  rw [habove, hinside]
  cases hfound : settingsDirectory? tree (.ofLocation root) with
  | some directory =>
    rw [projectRoot_eq, hfound, Option.getD_some] at hyear
    have hsame : tree.run (runGenerate (.ofLocation (root ++ below)) thisYear' [] package none
        projectVersion) =
        tree.run (runGenerate (.ofLocation root) thisYear [] package none projectVersion) := by
      rw [run_runGenerate, run_runGenerate, calledBatch_of_some (hnearest.trans hfound),
        calledBatch_of_some hfound, map_batchOf_congr hyear]
    rw [hsame]
    generalize tree.run (runGenerate (.ofLocation root) thisYear [] package none projectVersion) =
      result
    exact ⟨rfl, rfl, rfl, rfl, fun _ => rfl⟩
  | none =>
    have hlong := tooLong_of_settingsDirectory?_eq_none hproper hrootNames hroot hfound
    have hlonger := hlong.trans (utf8ByteSize_join_below hnames (by decide))
    obtain ⟨error, hrun⟩ := run_runGenerate_of_tooLong hfound hlong
    obtain ⟨error', hrun'⟩ := run_runGenerate_of_tooLong (hnearest.trans hfound) hlonger
    rw [hrun, hrun']
    generalize strayTree tree (package.getD ({} : Settings).package) = after
    exact ⟨rfl, rfl, rfl, rfl, fun hshort => absurd hlong (Nat.not_le.mpr hshort)⟩

/-- A project with a directory that has a directory by the name of the settings. -/
def projectTree : FileTree where
  entries := [
    (["proj"], .directory),
    (["proj", "Povercat.toml"],
      .file "[generator]\ncatalogs = ['libs.toml']\ncopyright-year = 2020\n".toUTF8),
    (["proj", "libs.toml"], .file "[versions]\nx = '1'\n".toUTF8),
    (["proj", "sub"], .directory),
    (["proj", "sub", "Povercat.toml"], .directory)]

private theorem isProper_projectTree : projectTree.IsProper where
  isFileName := by decide
  inDirectory := by simp [projectTree, FileTree.lookup?, List.lookup_cons]

/-- The batch of a call in the project. -/
def projectBatch : Batch where
  package := "p.q"
  catalogs := [⟨"/proj/libs.toml"⟩]
  outputDirectory := ⟨"/proj/build/generated/sources"⟩
  version := "2"
  year := 2020

private theorem settingsFile_project :
    (projectRoot projectTree (.ofLocation ["proj"])).join ⟨settingsFileName⟩ =
      ⟨"/proj/Povercat.toml"⟩ := by
  decide

private theorem settings_project : projectTree.settings ⟨"/proj/Povercat.toml"⟩ =
    .ok { catalogs := [⟨"libs.toml"⟩], year := some 2020 } := by
  have hread : projectTree.read ⟨"/proj/Povercat.toml"⟩ =
      .ok "[generator]\ncatalogs = ['libs.toml']\ncopyright-year = 2020\n".toUTF8 := rfl
  rw [FileTree.settings_of_text hread]
  decide +kernel

private theorem calledBatch_project :
    calledBatch projectTree (.ofLocation ["proj"]) 2024 [] (some "p.q")
    none (some "2") = .ok projectBatch := by
  rw [calledBatch, settingsFile_project, settings_project]
  rfl

private theorem assess_project : (projectTree.withDirectory projectBatch.targetDirectory).assess
    ⟨"/proj/libs.toml"⟩ = .written (libsCatalog "1") := by
  have hcontent : Catalog.ofText ⟨"/proj/libs.toml"⟩ "[versions]\nx = '1'\n" =
      .ok (libsCatalog "1") := by decide +kernel
  have hread : projectTree.read ⟨"/proj/libs.toml"⟩ = .ok "[versions]\nx = '1'\n".toUTF8 := rfl
  have hready := (FileTree.changes_withDirectory projectTree projectBatch.targetDirectory).read
    hread fun _ _ => id
  rw [FileTree.assess_of_text (by decide) hready, hcontent]
  rfl

private theorem run_project : ∃ after,
    projectTree.run (runGenerate (.ofLocation ["proj"]) 2024 [] (some "p.q") none (some "2")) =
      (.ofReport "p.q" { written := [⟨"/proj/build/generated/sources/p/q/LibsCatalog.kt"⟩] },
        after) := by
  obtain ⟨report, after, hrun⟩ : ∃ report after,
      projectTree.run projectBatch.generate = (.ok report, after) :=
    Batch.exists_run_of_free (by decide +kernel) (by decide +kernel) (by decide +kernel)
  obtain ⟨-, -, -, hreport, -⟩ := Batch.run_generate_eq_ok_iff.mp hrun
  have houtput : projectBatch.outputFile ⟨"/proj/libs.toml"⟩ =
      ⟨"/proj/build/generated/sources/p/q/LibsCatalog.kt"⟩ := by decide
  have hreported : report =
      { written := [⟨"/proj/build/generated/sources/p/q/LibsCatalog.kt"⟩] } := by
    have hcatalogs : projectBatch.catalogs = [⟨"/proj/libs.toml"⟩] := rfl
    rw [hreport, hcatalogs, List.map_singleton, assess_project, Batch.outcome, houtput]
    rfl
  refine ⟨after, ?_⟩
  rw [run_runGenerate, calledBatch_project]
  dsimp only
  rw [hrun, hreported]
  rfl

/-- A class is written, whichever of the two directories the call is started in. -/
theorem projectTree_is_generated_alike :
    let request := ["generate", "--package", "p.q", "--project-version", "2"]
    let above := (projectTree.startedIn ["proj"]).run (run (.ofLocation ["proj"]) 2024 request)
    let inside := (projectTree.startedIn ["proj", "sub"]).run
      (run (.ofLocation ["proj", "sub"]) 2025 request)
    above.1.code = 0 ∧
    above.1.output = ["Generated /proj/build/generated/sources/p/q/LibsCatalog.kt",
      "1 catalog class(es) generated in package p.q"] ∧
    inside.1 = above.1 ∧ inside.2 = above.2.startedIn ["proj", "sub"] := by
  have hrequest : Request.ofArguments ["generate", "--package", "p.q", "--project-version", "2"] =
      .generate [] (some "p.q") none (some "2") := by decide
  have hbetween : ∀ between, between ≠ [] → between <+: ["sub"] → ∀ other,
      projectTree.lookup? (["proj"] ++ between ++ [settingsFileName]) ≠ some (.file other) := by
    intro between hne hprefix other
    obtain ⟨names, rfl, hnames⟩ := (List.prefix_cons_iff.mp hprefix).resolve_left hne
    obtain rfl := List.prefix_nil.mp hnames
    simp [projectTree, FileTree.lookup?, List.lookup_cons, settingsFileName]
  have hyear : ∃ settings, projectTree.settings
      ((projectRoot projectTree (.ofLocation ["proj"])).join ⟨settingsFileName⟩) = .ok settings ∧
      settings.year.isSome := by
    rw [settingsFile_project, settings_project]
    exact ⟨_, rfl, rfl⟩
  obtain ⟨-, -, -, htree, hresult⟩ := generate_alike_from_below projectTree isProper_projectTree
    ["proj"] ["sub"] _ rfl rfl hbetween
    ["generate", "--package", "p.q", "--project-version", "2"] (some "p.q") (some "2")
    hrequest 2024 2025 (.inr hyear)
  obtain ⟨after, hrun⟩ := run_project
  have habove : (projectTree.startedIn ["proj"]).run (run (.ofLocation ["proj"]) 2024
      ["generate", "--package", "p.q", "--project-version", "2"]) = _ :=
    run_startedIn (Path.isAbsolute_ofLocation ["proj"]) hrequest ["proj"]
  rw [hrun] at habove
  refine ⟨?_, ?_, hresult (by decide), htree⟩
  · rw [habove]
    rfl
  · rw [habove]
    rfl

end CommandLine

end VersionCatalog
