import VersionCatalog.Catalog
import VersionCatalog.Catalog.OfNode
import VersionCatalog.CommandLine
import VersionCatalog.CommandLine.Arguments
import VersionCatalog.Error
import VersionCatalog.FileTree
import VersionCatalog.Generate
import VersionCatalog.KeyedList
import VersionCatalog.Kotlin.Comment
import VersionCatalog.Kotlin.Identifier
import VersionCatalog.Kotlin.Imports
import VersionCatalog.Kotlin.Quoted
import VersionCatalog.Kotlin.Source
import VersionCatalog.Listing
import VersionCatalog.Main
import VersionCatalog.Naming
import VersionCatalog.Path
import VersionCatalog.Proofs.Catalog.BundleMembers
import VersionCatalog.Proofs.Catalog.Complete
import VersionCatalog.Proofs.Catalog.ConventionalKeys
import VersionCatalog.Proofs.Catalog.Entries
import VersionCatalog.Proofs.Catalog.Imports
import VersionCatalog.Proofs.Catalog.LibraryForms
import VersionCatalog.Proofs.Catalog.MemberNames
import VersionCatalog.Proofs.Catalog.Rearrangement
import VersionCatalog.Proofs.Catalog.References
import VersionCatalog.Proofs.Catalog.RoundTrip
import VersionCatalog.Proofs.Catalog.SectionHistory
import VersionCatalog.Proofs.Catalog.Spelling
import VersionCatalog.Proofs.Catalog.VerbatimLiterals
import VersionCatalog.Proofs.Catalog.VersionEdit
import VersionCatalog.Proofs.CommandLine.Generate
import VersionCatalog.Proofs.CommandLine.StartingDirectory
import VersionCatalog.Proofs.FileTree.Actions
import VersionCatalog.Proofs.FileTree.Changes
import VersionCatalog.Proofs.FileTree.Current
import VersionCatalog.Proofs.FileTree.Descent
import VersionCatalog.Proofs.FileTree.Directories
import VersionCatalog.Proofs.FileTree.Files
import VersionCatalog.Proofs.FileTree.Proper
import VersionCatalog.Proofs.Generate.Accounting
import VersionCatalog.Proofs.Generate.Containment
import VersionCatalog.Proofs.Generate.Frame
import VersionCatalog.Proofs.Generate.Outcome
import VersionCatalog.Proofs.Generate.Overwriting
import VersionCatalog.Proofs.Generate.Reordering
import VersionCatalog.Proofs.Generate.Run
import VersionCatalog.Proofs.Generate.TargetDirectory
import VersionCatalog.Proofs.Kotlin.ClassLines
import VersionCatalog.Proofs.Kotlin.ClassReading
import VersionCatalog.Proofs.Kotlin.ClassTokens
import VersionCatalog.Proofs.Kotlin.Content
import VersionCatalog.Proofs.Kotlin.Declared
import VersionCatalog.Proofs.Kotlin.IdentifierReading
import VersionCatalog.Proofs.Kotlin.Line
import VersionCatalog.Proofs.Kotlin.LiteralReading
import VersionCatalog.Proofs.Kotlin.Mentions
import VersionCatalog.Proofs.Kotlin.NestedComment
import VersionCatalog.Proofs.Kotlin.Nesting
import VersionCatalog.Proofs.Kotlin.Statements
import VersionCatalog.Proofs.Kotlin.Token
import VersionCatalog.Proofs.Kotlin.ValidName
import VersionCatalog.Proofs.Kotlin.Vocabulary
import VersionCatalog.Proofs.Kotlin.Words
import VersionCatalog.Proofs.Listing.Agreement
import VersionCatalog.Proofs.Naming.Characters
import VersionCatalog.Proofs.Naming.Conventional
import VersionCatalog.Proofs.Naming.EmptyParts
import VersionCatalog.Proofs.Naming.Normalized
import VersionCatalog.Proofs.Path.Components
import VersionCatalog.Proofs.Path.FileName
import VersionCatalog.Proofs.Path.Location
import VersionCatalog.Proofs.Path.Package
import VersionCatalog.Proofs.Settings.Rooting
import VersionCatalog.Proofs.Text.AsciiCase
import VersionCatalog.Proofs.Text.CaseMapping
import VersionCatalog.Proofs.Text.Category
import VersionCatalog.Proofs.Text.SelfDelimiting
import VersionCatalog.Proofs.Toml.BasicString
import VersionCatalog.Proofs.Toml.Continuable
import VersionCatalog.Proofs.Toml.ContinuableQuoted
import VersionCatalog.Proofs.Toml.ContinuableValue
import VersionCatalog.Proofs.Toml.Entrywise
import VersionCatalog.Proofs.Toml.InlineValue
import VersionCatalog.Proofs.Toml.Literals
import VersionCatalog.Proofs.Toml.LoneLiteral
import VersionCatalog.Proofs.Toml.NestedTable
import VersionCatalog.Proofs.Toml.PlainTable
import VersionCatalog.Proofs.Toml.Rearranged
import VersionCatalog.Proofs.Toml.SoundDraft
import VersionCatalog.Proofs.Toml.SoundEntries
import VersionCatalog.Proofs.Toml.Verbatim
import VersionCatalog.Proofs.Toml.WholeLines
import VersionCatalog.Proofs.Toml.Within
import VersionCatalog.Proofs.Toml.WrittenDocument
import VersionCatalog.Section
import VersionCatalog.Settings
import VersionCatalog.Storage
import VersionCatalog.Text.Alphanumeric
import VersionCatalog.Text.Blank
import VersionCatalog.Text.LetterCase
import VersionCatalog.Text.Pieces
import VersionCatalog.Toml.Datetime
import VersionCatalog.Toml.Document
import VersionCatalog.Toml.KeyPath
import VersionCatalog.Toml.Literal
import VersionCatalog.Toml.Node
import VersionCatalog.Toml.Number
import VersionCatalog.Toml.Quoted
import VersionCatalog.Toml.Spacing
import VersionCatalog.Toml.Statement
import VersionCatalog.Toml.Table
import VersionCatalog.Toml.Value
