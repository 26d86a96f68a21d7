import VersionCatalog.Proofs.Generate.Run

namespace VersionCatalog.Batch

open FileTree (Changes)

/-- Whatever a run ends in, it makes directories at the path of the directory of the classes and
above it, and writes files of classes. -/
theorem changes_generate (batch : Batch) (tree : FileTree) :
    Changes
      (fun location => ∃ path ∈ batch.targetDirectory :: batch.targetDirectory.parents,
        (tree.run batch.generate).2.locate path = .ok location)
      (batch.outputs (tree.run batch.generate).2 batch.catalogs) tree
      (tree.run batch.generate).2 := by
  have hready := FileTree.changes_withDirectory tree batch.targetDirectory
  rw [run_generate]
  cases (tree.run (Storage.ensureDirectory batch.targetDirectory)).1 with
  | error detail =>
    dsimp only
    exact hready.mono (fun _ => id) fun _ => False.elim
  | ok _ =>
    generalize tree.withDirectory batch.targetDirectory = ready at hready ⊢
    dsimp only
    cases batch.catalogs.find? (!ready.isFile ·) with
    | some path =>
      dsimp only
      exact hready.mono (fun _ => id) fun _ => False.elim
    | none =>
      have heach := changes_generateEach batch ready (.ofOutcomes []) batch.catalogs
      refine .trans (hready.mono ?_ fun _ => False.elim) (heach.mono (fun _ => False.elim) ?_)
      · rintro location ⟨path, hpath, hlocate⟩
        exact ⟨path, hpath, heach.locate hlocate⟩
      · rintro location ⟨catalog, hcatalog, htoml, hlocate⟩
        exact ⟨catalog, hcatalog, htoml, heach.locate hlocate⟩

/-- If the directory of the classes can be ensured and some catalog is no file then, the run ends
with the first such catalog, whatever the others are. All files are as before, and all that is new
is directories at the path of the directory of the classes and above it. -/
theorem missing_catalog_ends_run (tree : FileTree) (batch : Batch)
    (hensured : (tree.run (Storage.ensureDirectory batch.targetDirectory)).1 = .ok ())
    (hmissing : ∃ path ∈ batch.catalogs,
      (tree.withDirectory batch.targetDirectory).isFile path = false) :
    ∃ present path others after, batch.catalogs = present ++ path :: others ∧
      (∀ p ∈ present, (tree.withDirectory batch.targetDirectory).isFile p = true) ∧
      (tree.withDirectory batch.targetDirectory).isFile path = false ∧
      tree.run batch.generate = (.error (.catalogNotFound path), after) ∧
      after.current = tree.current ∧
      (∀ location content, after.lookup? location = some (.file content) ↔
        tree.lookup? location = some (.file content)) ∧
      (∀ location, after.lookup? location ≠ tree.lookup? location →
        tree.lookup? location = none ∧ after.lookup? location = some .directory ∧
        ∃ p ∈ batch.targetDirectory :: batch.targetDirectory.parents,
          after.locate p = .ok location) := by
  have hchanges := FileTree.changes_withDirectory tree batch.targetDirectory
  have hrun := run_generate batch tree
  rw [hensured] at hrun
  generalize tree.withDirectory batch.targetDirectory = ready at *
  obtain ⟨missing, hmem, hnoFile⟩ := hmissing
  have hfind : (batch.catalogs.find? (!ready.isFile ·)).isSome := by
    rw [List.find?_isSome]
    exact ⟨missing, hmem, by simp [hnoFile]⟩
  obtain ⟨path, hpath⟩ := Option.isSome_iff_exists.mp hfind
  rw [hpath] at hrun
  obtain ⟨hnot, present, others, hsplit, hpresent⟩ := List.find?_eq_some_iff_append.mp hpath
  refine ⟨present, path, others, ready, hsplit, by simpa using hpresent, by simpa using hnot, hrun,
    hchanges.current, fun location content => hchanges.file_iff id content, ?_⟩
  intro location hne
  have hentry := hchanges.entry location
  generalize tree.lookup? location = a at hentry hne ⊢
  generalize ready.lookup? location = b at hentry hne ⊢
  cases hentry with
  | same => exact absurd rfl hne
  | made hmade => exact ⟨rfl, rfl, hmade⟩
  | written hwritten => exact hwritten.elim

/-- The mixed batch with two catalogs that are no files: one is absent, the other a directory. -/
def gappedBatch : Batch :=
  { mixedBatch with catalogs := [⟨"libs.json"⟩, ⟨"a/libs.toml"⟩, ⟨"absent.toml"⟩, ⟨"a"⟩] }

theorem gappedBatch_ends_at_absent : ∃ after,
    mixedTree.run gappedBatch.generate = (.error (.catalogNotFound ⟨"absent.toml"⟩), after) ∧
    ∀ location content, after.lookup? location = some (.file content) ↔
      mixedTree.lookup? location = some (.file content) := by
  obtain ⟨present, path, others, after, hsplit, hpresent, hmissing, hrun, -, hfiles, -⟩ :=
    missing_catalog_ends_run mixedTree gappedBatch (by decide)
      ⟨⟨"absent.toml"⟩, by simp [gappedBatch], by decide⟩
  have hready : mixedTree.withDirectory gappedBatch.targetDirectory = mixedReady := rfl
  rw [hready] at hpresent hmissing
  have hpath : gappedBatch.catalogs.find? (!mixedReady.isFile ·) = some path :=
    List.find?_eq_some_iff_append.mpr ⟨by simpa using hmissing, present, others, hsplit,
      by simpa using hpresent⟩
  have habsent : gappedBatch.catalogs.find? (!mixedReady.isFile ·) = some ⟨"absent.toml"⟩ := by
    decide
  obtain rfl := Option.some.inj (hpath.symm.trans habsent)
  exact ⟨after, hrun, hfiles⟩

/-- A run leaves everything alone but the files of its classes, whatever it ends in: directories and
files stay, a file that no class of a TOML file of the batch goes to is as before, and that holds of
all TOML files. After a run that succeeds a second one gives the same report and the same tree. -/
theorem run_changes_only_classes (tree : FileTree) (batch : Batch) (result : Except Error Report)
    (after : FileTree) (hrun : tree.run batch.generate = (result, after)) :
    (∀ location, tree.lookup? location = some .directory →
      after.lookup? location = some .directory) ∧
    (∀ location content, tree.lookup? location = some (.file content) →
      ∃ content', after.lookup? location = some (.file content')) ∧
    (∀ location, (∀ catalog ∈ batch.catalogs, isTomlFile catalog = true →
        after.locate (batch.outputFile catalog) ≠ .ok location) →
      ∀ content, after.lookup? location = some (.file content) ↔
        tree.lookup? location = some (.file content)) ∧
    (∀ path location, isTomlFile path = true → after.locate path = .ok location →
      ∀ content, after.lookup? location = some (.file content) ↔
        tree.lookup? location = some (.file content)) ∧
    (∀ report, result = .ok report → after.run batch.generate = (.ok report, after)) := by
  have hchanges := changes_generate batch tree
  rw [hrun] at hchanges
  refine ⟨fun _ => hchanges.directory, fun _ _ => hchanges.file, ?_, ?_, ?_⟩
  · intro location hlocation content
    refine hchanges.file_iff ?_ content
    rintro ⟨catalog, hcatalog, htoml, hlocate⟩
    exact hlocation catalog hcatalog htoml hlocate
  · intro path location htoml hlocate content
    refine hchanges.file_iff ?_ content
    rintro ⟨catalog, -, -, hother⟩
    exact ne_of_isTomlFile htoml hlocate hother rfl
  · rintro report rfl
    exact run_generate_again hrun

theorem mixedBatch_leaves_catalogs : ∃ report after,
    mixedTree.run mixedBatch.generate = (.ok report, after) ∧
    after.run mixedBatch.generate = (.ok report, after) ∧
    after.lookup? ["a"] = some .directory ∧
    after.lookup? ["a", "libs.toml"] = some (.file "[versions]\nx = '1'\n".toUTF8) := by
  obtain ⟨report, after, hrun⟩ := run_mixed
  obtain ⟨hdirectories, -, -, hcatalogs, hagain⟩ :=
    run_changes_only_classes mixedTree mixedBatch (.ok report) after hrun
  have hbefore : mixedTree.locate ⟨"a/libs.toml"⟩ = .ok ["a", "libs.toml"] := by decide
  have hchanges := changes_generate mixedBatch mixedTree
  rw [hrun] at hchanges
  have hlocate := hchanges.locate hbefore
  exact ⟨report, after, hrun, hagain report rfl, hdirectories ["a"] rfl,
    (hcatalogs ⟨"a/libs.toml"⟩ _ (by decide) hlocate _).mpr rfl⟩

end VersionCatalog.Batch
