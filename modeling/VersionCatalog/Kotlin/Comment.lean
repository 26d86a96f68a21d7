import VersionCatalog.Text.Pieces

namespace VersionCatalog.Kotlin

/-- The licence comment for a year. -/
def licenseHeader (year : Int) : String :=
  Text.unlines [
    "/*",
    " * Copyright " ++ Text.decimal year,
    " *",
    " * Licensed under the Apache License, Version 2.0 (the \"License\");",
    " * you may not use this file except in compliance with the License.",
    " * You may obtain a copy of the License at",
    " *",
    " * http://www.apache.org/licenses/LICENSE-2.0",
    " *",
    " * Unless required by applicable law or agreed to in writing, software distributed",
    " * under the License is distributed on an \"AS IS\" BASIS, WITHOUT WARRANTIES",
    " * OR CONDITIONS OF ANY KIND, either express or implied. See the License for the",
    " * specific language governing permissions and limitations under the License.",
    " */"]

/-- A text in which each mark that closes a comment is written with a character reference. -/
def referClosings : List Char → List Char
  | '*' :: '/' :: rest => "*&#47;".toList ++ referClosings rest
  | c :: rest => c :: referClosings rest
  | [] => []

/-- A label inside a comment: its marks that close a comment are written with character references,
and then each line feed becomes a blank. -/
def commentChars (label : List Char) : List Char :=
  (referClosings label).map fun c => if c = '\n' then ' ' else c

/-- The comment that describes the class, with the version of the project. -/
def classDoc (version : String) : String :=
  Text.unlines [
    "/**",
    " * <p><strong>WARNING: This class is auto-generated by PoVerCat. " ++
      "Do not modify it manually.</strong></p>",
    " *",
    " * This class provides access to the version catalog of the Gradle project,",
    " * which defines conventions for other projects. All dependencies and versions",
    " * are statically embedded in this class and are immutable.",
    " *",
    " * <p>To update versions, modify them in the version catalog of the convention",
    " * project and rebuild it.</p>",
    " *",
    " * @author PoVerCat",
    " * @version v" ++ String.ofList (commentChars version.toList),
    " */"]

end VersionCatalog.Kotlin
