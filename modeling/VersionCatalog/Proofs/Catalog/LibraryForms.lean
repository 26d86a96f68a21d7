import Mathlib.Data.List.TakeWhile
import VersionCatalog.Catalog.OfNode

namespace VersionCatalog

open Toml (Node)

namespace Library

variable {text : String}

/-- The parts of a text between its colons. -/
def parts (text : String) : List String :=
  (Text.pieces (· == ':') text.toList).map String.ofList

/-- What stands before the first colon of a text, or all of it. -/
def beforeColon (text : String) : String :=
  String.ofList (text.toList.takeWhile (· != ':'))

/-- What follows the first colon of a text. -/
def afterColon (text : String) : String :=
  String.ofList ((text.toList.dropWhile (· != ':')).drop 1)

private theorem length_parts (text : String) : (parts text).length = text.toList.count ':' + 1 := by
  rw [parts, List.length_map, Text.length_pieces]

private theorem parts_of_mem (h : ':' ∈ text.toList) :
    parts text = beforeColon text :: parts (afterColon text) := by
  rw [parts, Text.pieces_of_mem h, List.map_cons, beforeColon, parts, afterColon,
    String.toList_ofList]

private theorem parts_of_notMem (h : ':' ∉ text.toList) : parts text = [text] := by
  rw [parts, Text.pieces_of_notMem h, List.map_singleton, String.ofList_toList]

private theorem parts_append {before : String} (h : ':' ∉ before.toList) (after : String) :
    parts (before ++ ":" ++ after) = before :: parts after := by
  have hsplit : (before ++ ":" ++ after).toList = before.toList ++ ':' :: after.toList := by simp
  rw [parts, hsplit, Text.pieces_append _ _ (by simp), Text.pieces_of_notMem h]
  simp [parts]

private theorem count_afterColon (h : ':' ∈ text.toList) :
    text.toList.count ':' = (afterColon text).toList.count ':' + 1 := by
  have hlength := congrArg List.length (parts_of_mem h)
  rw [List.length_cons, length_parts, length_parts] at hlength
  omega

private theorem notMem_afterColon (h : text.toList.count ':' = 1) :
    ':' ∉ (afterColon text).toList := by
  have hmem : ':' ∈ text.toList := List.count_pos_iff.mp (by omega)
  have hcount := count_afterColon hmem
  exact List.count_eq_zero.mp (by omega)

/-- Behind a single colon there is nothing to stop at. -/
theorem beforeColon_afterColon (h : text.toList.count ':' = 1) :
    beforeColon (afterColon text) = afterColon text := by
  have hpass : ∀ c ∈ (afterColon text).toList, (c != ':') = true := fun c hc =>
    bne_iff_ne.mpr fun heq => notMem_afterColon h (heq ▸ hc)
  rw [beforeColon, List.takeWhile_eq_self_iff.mpr hpass, String.ofList_toList]

private theorem parts_of_count_eq_one (h : text.toList.count ':' = 1) :
    parts text = [beforeColon text, afterColon text] := by
  have hmem : ':' ∈ text.toList := List.count_pos_iff.mp (by omega)
  rw [parts_of_mem hmem, parts_of_notMem (notMem_afterColon h)]

private theorem parts_of_count_eq_two (h : text.toList.count ':' = 2) :
    parts text =
      [beforeColon text, beforeColon (afterColon text), afterColon (afterColon text)] := by
  have hmem : ':' ∈ text.toList := List.count_pos_iff.mp (by omega)
  have hcount := count_afterColon hmem
  have hmem' : ':' ∈ (afterColon text).toList := List.count_pos_iff.mp (by omega)
  rw [parts_of_mem hmem, parts_of_mem hmem', parts_of_notMem (notMem_afterColon (by omega))]

/-- A module is cut at its first colon. A second colon makes it a text of more than two parts. -/
theorem splitModule_eq_match_parts (text : String) :
    splitModule text =
      match parts text with
      | [group, name] => (group, name)
      | _ => ("", "") := by
  rw [splitModule, Text.splitFirst?_eq]
  by_cases hmem : ':' ∈ text.toList
  · rw [if_pos hmem, parts_of_mem hmem]
    have hname : (text.toList.dropWhile (· != ':')).drop 1 = (afterColon text).toList := by
      rw [afterColon, String.toList_ofList]
    simp only [hname, List.contains_iff_mem, String.ofList_toList]
    by_cases hmore : ':' ∈ (afterColon text).toList
    · obtain ⟨part, others, hparts⟩ : ∃ part others, parts (afterColon (afterColon text)) =
          part :: others := by
        apply List.exists_cons_of_length_pos
        rw [length_parts]
        omega
      rw [if_pos hmore, parts_of_mem hmore, hparts]
    · rw [if_neg hmore, parts_of_notMem hmore, beforeColon]
  · rw [if_neg hmem, parts_of_notMem hmem]

/-- A text with one colon names a group and a library, one with two colons a version too, and any
other text says nothing. -/
theorem ofNotation_eq (text : String) :
    ofNotation text =
      if text.toList.count ':' = 1 then
        { group := beforeColon text, name := afterColon text }
      else if text.toList.count ':' = 2 then
        { group := beforeColon text, name := beforeColon (afterColon text)
          version := .ofRequired (afterColon (afterColon text)) }
      else {} := by
  rw [ofNotation, ← parts]
  split_ifs with hone htwo
  · rw [parts_of_count_eq_one hone]
  · rw [parts_of_count_eq_two htwo]
  · have hlength := length_parts text
    split
    case h_1 hparts =>
      rw [hparts, List.length_cons, List.length_singleton] at hlength
      omega
    case h_2 hparts =>
      rw [hparts, List.length_cons, List.length_cons, List.length_singleton] at hlength
      omega
    case h_3 => rfl

/-- A module is a text with one colon; any other text names neither a group nor a library. -/
theorem splitModule_eq (text : String) :
    splitModule text =
      if text.toList.count ':' = 1 then (beforeColon text, afterColon text)
      else ("", "") := by
  rw [splitModule_eq_match_parts]
  split_ifs with hone
  · rw [parts_of_count_eq_one hone]
  · have hlength := length_parts text
    split
    case h_1 hparts =>
      rw [hparts, List.length_cons, List.length_singleton] at hlength
      omega
    case h_2 => rfl

/-- The text of a library, with its version if it has one. -/
def written (group name : String) : Option String → String
  | none => group ++ ":" ++ name
  | some version => group ++ ":" ++ (name ++ ":" ++ version)

/-- The version of a library that is written in one text. -/
def writtenVersion : Option String → Version
  | none => {}
  | some version => .ofRequired version

variable {group name : String} {version : Option String}

private theorem ofNotation_written (hgroup : ':' ∉ group.toList) (hname : ':' ∉ name.toList)
    (hversion : ∀ v ∈ version, ':' ∉ v.toList) :
    ofNotation (written group name version) =
      { group, name, version := writtenVersion version } := by
  rw [ofNotation, ← parts]
  cases version with
  | none => rw [written, parts_append hgroup, parts_of_notMem hname, writtenVersion]
  | some v =>
    rw [written, parts_append hgroup, parts_append hname, parts_of_notMem (hversion v rfl),
      writtenVersion]

private theorem splitModule_append (hgroup : ':' ∉ group.toList) (hname : ':' ∉ name.toList) :
    splitModule (group ++ ":" ++ name) = (group, name) := by
  rw [splitModule_eq_match_parts, parts_append hgroup, parts_of_notMem hname]

/-- A text at `version` asks for that version, and nothing there for none. -/
theorem resolve_string (declared : Section Version) (version : Option String) :
    Version.resolve declared (version.map Node.string) = writtenVersion version := by
  cases version <;> rfl

variable {declared : Section Version} {fields : List (String × Node)}

private theorem ofNode_of_module {text : String}
    (h : fields.lookup "module" = some (.string text)) :
    ofNode declared (.table fields) =
      { group := (splitModule text).1, name := (splitModule text).2
        version := Version.resolve declared (fields.lookup "version") } := by
  simp only [ofNode, Node.get?, h, Option.bind_some, Node.string?]

private theorem ofNode_of_group_name (hmodule : fields.lookup "module" = none)
    (hgroup : fields.lookup "group" = some (.string group))
    (hname : fields.lookup "name" = some (.string name)) :
    ofNode declared (.table fields) =
      { group, name, version := Version.resolve declared (fields.lookup "version") } := by
  simp only [ofNode, Node.get?, Node.textAt, hmodule, hgroup, hname, Option.bind_none,
    Option.bind_some, Node.text?, Option.getD_some]

/-- A text is a library if it has one colon or two and something at both sides of the first. -/
theorem isEmpty_ofNotation (text : String) :
    (ofNotation text).isEmpty = false ↔
      (text.toList.count ':' = 1 ∨ text.toList.count ':' = 2) ∧
      Text.isBlank (beforeColon text) = false ∧
      Text.isBlank (beforeColon (afterColon text)) = false := by
  rw [ofNotation_eq]
  split_ifs with hone htwo
  · simp [isEmpty, hone, beforeColon_afterColon]
  · simp [isEmpty, htwo]
  · simp [isEmpty, hone, htwo, Text.isBlank]

private theorem isEmpty_splitModule (text : String) (version : Version) :
    isEmpty { group := (splitModule text).1, name := (splitModule text).2, version } = false ↔
      text.toList.count ':' = 1 ∧ Text.isBlank (beforeColon text) = false ∧
      Text.isBlank (afterColon text) = false := by
  rw [splitModule_eq]
  split_ifs with hone
  · simp [isEmpty, hone]
  · simp [isEmpty, hone, Text.isBlank]

end Library

/-- The forms of a library agree. A text, a table with a module and a table with group and name give
the same library, whatever versions are declared and whatever else the tables say. A text is a
library just if it has one colon or two and neither what stands before the first nor what follows it
is blank; a module makes a library just if it has one colon and neither of its sides is blank,
whatever group and name stand beside it. -/
theorem library_forms_agree (declared : Section Version) :
    (∀ (group name : String) (version : Option String), ':' ∉ group.toList → ':' ∉ name.toList →
      (∀ v ∈ version, ':' ∉ v.toList) →
      let library : Library := { group, name, version := Library.writtenVersion version }
      Library.ofNode declared (.string (Library.written group name version)) = library ∧
      (∀ fields : List (String × Node),
        fields.lookup "module" = some (.string (group ++ ":" ++ name)) →
        fields.lookup "version" = version.map Node.string →
        Library.ofNode declared (.table fields) = library) ∧
      ∀ fields : List (String × Node), fields.lookup "module" = none →
        fields.lookup "group" = some (.string group) →
        fields.lookup "name" = some (.string name) →
        fields.lookup "version" = version.map Node.string →
        Library.ofNode declared (.table fields) = library) ∧
    (∀ text : String, (Library.ofNode declared (.string text)).isEmpty = false ↔
      (text.toList.count ':' = 1 ∨ text.toList.count ':' = 2) ∧
      Text.isBlank (Library.beforeColon text) = false ∧
      Text.isBlank (Library.beforeColon (Library.afterColon text)) = false) ∧
    ∀ (text : String) (fields : List (String × Node)),
      fields.lookup "module" = some (.string text) →
      ((Library.ofNode declared (.table fields)).isEmpty = false ↔
        text.toList.count ':' = 1 ∧ Text.isBlank (Library.beforeColon text) = false ∧
        Text.isBlank (Library.afterColon text) = false) := by
  refine ⟨?_, Library.isEmpty_ofNotation, ?_⟩
  · intro group name version hgroup hname hversion library
    refine ⟨Library.ofNotation_written hgroup hname hversion, ?_, ?_⟩
    · intro fields hmodule hfield
      rw [Library.ofNode_of_module hmodule, Library.splitModule_append hgroup hname, hfield,
        Library.resolve_string]
    · intro fields hmodule hgroupField hnameField hfield
      rw [Library.ofNode_of_group_name hmodule hgroupField hnameField, hfield,
        Library.resolve_string]
  · intro text fields hmodule
    rw [Library.ofNode_of_module hmodule]
    exact Library.isEmpty_splitModule text _

/-- Tables in any order, with fields that say nothing of a library, and a module with a colon too
many, which leaves the group and the name beside it unread. -/
theorem forms_of_core_agree :
    ':' ∉ "org.a".toList ∧ ':' ∉ "core".toList ∧ ':' ∉ "1.0".toList ∧
    Library.ofNode .empty (.string "org.a:core:1.0") =
      Library.ofNode .empty (.table [("version", .string "1.0"), ("module", .string "org.a:core")]) ∧
    Library.ofNode .empty (.string "org.a:core:1.0") =
      Library.ofNode .empty (.table [("name", .string "core"), ("kind", .boolean true),
        ("group", .string "org.a"), ("version", .string "1.0")]) ∧
    (Library.ofNode .empty (.table [("group", .string "org.a"), ("name", .string "core"),
      ("module", .string "org.a:core:1.0")])).isEmpty = true := by
  have hgroup : ':' ∉ "org.a".toList := by decide
  have hname : ':' ∉ "core".toList := by decide
  have hversion : ':' ∉ "1.0".toList := by decide
  obtain ⟨hagree, -, hmodule⟩ := library_forms_agree .empty
  obtain ⟨htext, htable, hfields⟩ := hagree "org.a" "core" (some "1.0") hgroup hname
    (fun v hv => Option.mem_some_iff.mp hv ▸ hversion)
  have hwritten : Library.written "org.a" "core" (some "1.0") = "org.a:core:1.0" := by decide
  rw [hwritten] at htext
  refine ⟨hgroup, hname, hversion, ?_, ?_, ?_⟩
  · rw [htext]
    exact (htable _ rfl rfl).symm
  · rw [htext]
    exact (hfields _ rfl rfl rfl rfl).symm
  · have hmalformed := hmodule "org.a:core:1.0" [("group", .string "org.a"),
      ("name", .string "core"), ("module", .string "org.a:core:1.0")] rfl
    have hcount : "org.a:core:1.0".toList.count ':' ≠ 1 := by decide
    simpa [hcount] using hmalformed

end VersionCatalog
