import Mathlib.Data.List.Forall2
import VersionCatalog.Proofs.Path.Components
import VersionCatalog.Settings

namespace VersionCatalog

/-- What a path is once it is taken from a root. An absolute path stays as it is; another one is
written behind the root, with a slash between the two unless the root is empty or ends in one. -/
structure Path.IsRootedAt (root path taken : Path) : Prop where
  eq_of_isAbsolute : path.isAbsolute = true → taken = path
  text_of_not_isAbsolute : path.isAbsolute = false →
    taken.text = root.text ++ (root.slashAfter ++ path.text)

theorem Path.isRootedAt_join (root path : Path) : IsRootedAt root path (root.join path) where
  eq_of_isAbsolute := join_of_isAbsolute root
  text_of_not_isAbsolute := text_join root

namespace Settings

variable {settings : Settings} {root : Path}

/-- The paths of settings: that of the output and those of the catalogs. -/
def paths (settings : Settings) : List Path :=
  settings.outputDirectory :: settings.catalogs

/-- Settings that are the same but for their paths, each of which, in its place, is taken from a
root. -/
structure IsRootedAt (root : Path) (settings rooted : Settings) : Prop where
  catalogs : List.Forall₂ (Path.IsRootedAt root) settings.catalogs rooted.catalogs
  outputDirectory : Path.IsRootedAt root settings.outputDirectory rooted.outputDirectory
  package : rooted.package = settings.package
  version : rooted.version = settings.version
  year : rooted.year = settings.year

private theorem isRootedAt_rootedAt (settings : Settings) (root : Path) :
    IsRootedAt root settings (settings.rootedAt root) where
  catalogs := List.forall₂_map_right_iff.mpr
    (List.forall₂_same.mpr fun path _ => Path.isRootedAt_join root path)
  outputDirectory := Path.isRootedAt_join root settings.outputDirectory
  package := rfl
  version := rfl
  year := rfl

private theorem paths_rootedAt (settings : Settings) (root : Path) :
    (settings.rootedAt root).paths = settings.paths.map root.join := rfl

theorem isAbsolute_of_mem_paths (settings : Settings) (h : root.isAbsolute = true) :
    ∀ path ∈ (settings.rootedAt root).paths, path.isAbsolute = true := by
  rw [paths_rootedAt, List.forall_mem_map]
  exact fun path _ => Path.isAbsolute_join_of_base h path

private theorem rootedAt_rootedAt (settings : Settings) (first second : Path) :
    (settings.rootedAt first).rootedAt second = settings.rootedAt (second.join first) := by
  have hjoin : second.join ∘ first.join = (second.join first).join :=
    funext fun path => (Path.join_assoc second first path).symm
  rw [rootedAt, rootedAt, rootedAt, List.map_map, hjoin, ← Path.join_assoc]

private theorem rootedAt_of_isAbsolute (h : ∀ path ∈ settings.paths, path.isAbsolute = true) :
    settings.rootedAt root = settings := by
  obtain ⟨houtput, hcatalogs⟩ := List.forall_mem_cons.mp h
  have hsame : settings.catalogs.map root.join = settings.catalogs := by
    rw [List.map_congr_left (g := id), List.map_id]
    exact fun path hpath => Path.join_of_isAbsolute root (hcatalogs path hpath)
  rw [rootedAt, hsame, Path.join_of_isAbsolute root houtput]

/-- Rooting takes each path from the root, in its place, and leaves the rest of the settings. Rooting
twice is rooting at the first root as it is taken from the second. At an absolute root all paths
become absolute, and rooting them again changes nothing. -/
theorem rootings_compose (settings : Settings) (first second : Path) :
    IsRootedAt first settings (settings.rootedAt first) ∧
    (settings.rootedAt first).rootedAt second = settings.rootedAt (second.join first) ∧
    (first.isAbsolute = true →
      (∀ path ∈ (settings.rootedAt first).paths, path.isAbsolute = true) ∧
      (settings.rootedAt first).rootedAt second = settings.rootedAt first) := by
  refine ⟨isRootedAt_rootedAt settings first, rootedAt_rootedAt settings first second, ?_⟩
  intro hfirst
  have habsolute := isAbsolute_of_mem_paths settings hfirst
  exact ⟨habsolute, rootedAt_of_isAbsolute habsolute⟩

/-- Settings with a relative catalog, an absolute one and an empty path. -/
def mixedSettings : Settings :=
  { catalogs := [⟨"libs.toml"⟩, ⟨"/etc/libs.toml"⟩, ⟨""⟩], outputDirectory := ⟨"out"⟩ }

/-- A root inside another one that ends in a slash, and an absolute root. -/
theorem mixedSettings_are_rooted :
    (mixedSettings.rootedAt ⟨"app"⟩).rootedAt ⟨"/home/"⟩ =
      { mixedSettings with
        catalogs := [⟨"/home/app/libs.toml"⟩, ⟨"/etc/libs.toml"⟩, ⟨"/home/app/"⟩]
        outputDirectory := ⟨"/home/app/out"⟩ } ∧
    Path.isAbsolute ⟨"/home/app"⟩ = true ∧
    (∀ path ∈ (mixedSettings.rootedAt ⟨"/home/app"⟩).paths, path.isAbsolute = true) ∧
    (mixedSettings.rootedAt ⟨"/home/app"⟩).rootedAt ⟨"lib"⟩ =
      mixedSettings.rootedAt ⟨"/home/app"⟩ := by
  obtain ⟨-, hcompose, -⟩ := rootings_compose mixedSettings ⟨"app"⟩ ⟨"/home/"⟩
  obtain ⟨-, -, hagain⟩ := rootings_compose mixedSettings ⟨"/home/app"⟩ ⟨"lib"⟩
  have hroot : Path.isAbsolute ⟨"/home/app"⟩ = true := by decide
  rw [hcompose]
  exact ⟨by decide, hroot, hagain hroot⟩

end Settings

end VersionCatalog
