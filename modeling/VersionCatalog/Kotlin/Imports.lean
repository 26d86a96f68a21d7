import VersionCatalog.Catalog
import VersionCatalog.Text.Pieces

namespace VersionCatalog.Kotlin

/-- A type that can be imported, and the sections whose objects need it. -/
structure Importable where
  name : String
  neededBy : List SectionKind

/-- The types that generated objects speak of, in ascending order of their names. -/
def importables : List Importable := [
  ⟨"org.gradle.api.artifacts.ExternalModuleDependencyBundle", [.bundles]⟩,
  ⟨"org.gradle.api.artifacts.MinimalExternalModuleDependency", [.libraries]⟩,
  ⟨"org.gradle.api.artifacts.VersionConstraint", [.versions]⟩,
  ⟨"org.gradle.api.internal.artifacts.DefaultModuleIdentifier", [.libraries]⟩,
  ⟨"org.gradle.api.internal.artifacts.dependencies.DefaultImmutableVersionConstraint",
    [.versions, .libraries, .plugins]⟩,
  ⟨"org.gradle.api.internal.artifacts.dependencies.DefaultMinimalDependency", [.libraries]⟩,
  ⟨"org.gradle.api.internal.artifacts.dependencies.DefaultMutableVersionConstraint",
    [.libraries, .plugins]⟩,
  ⟨"org.gradle.api.internal.artifacts.dependencies.DefaultPluginDependency", [.plugins]⟩,
  ⟨"org.gradle.api.internal.catalog.DefaultExternalModuleDependencyBundle", [.bundles]⟩,
  ⟨"org.gradle.plugin.use.PluginDependency", [.plugins]⟩]

def importedBy (catalog : Catalog) : List Importable :=
  importables.filter (·.neededBy.any catalog.hasContent)

/-- The imports of a generated file: those types, in ascending order, that the objects of the sections
with content speak of. -/
def imports (catalog : Catalog) : String :=
  Text.unlines ((importedBy catalog).map ("import " ++ ·.name))

end VersionCatalog.Kotlin
