import VersionCatalog.Proofs.Naming.Normalized
import VersionCatalog.Proofs.Text.AsciiCase

namespace VersionCatalog

namespace Naming

/-- The parts of a key that are not empty. -/
def properParts (key : List Char) : List (List Char) :=
  (Text.pieces isSeparator key).filter (· ≠ [])

/-- Whether the first character of a key is a separator. -/
def beginsSeparated (key : List Char) : Bool :=
  key.head?.any isSeparator

/-- The parts of a key that are not empty, with single hyphens between them. -/
def hyphenated (key : String) : String :=
  Text.joinWith "-" ((properParts key.toList).map String.ofList)

private theorem toList_hyphenated (key : String) :
    (hyphenated key).toList = List.intercalate ['-'] (properParts key.toList) := by
  simp [hyphenated, Function.comp_def]

variable {key part : List Char} {parts : List (List Char)} {c : Char}

private theorem not_isSeparator_of_mem_properParts (h : part ∈ properParts key) :
    ∀ c ∈ part, isSeparator c = false :=
  Text.not_break_of_mem_pieces (List.mem_filter.mp h).1

private theorem ne_nil_of_mem_properParts (h : part ∈ properParts key) : part ≠ [] :=
  of_decide_eq_true (List.mem_filter.mp h).2

private theorem properParts_separator (h : isSeparator c = true) :
    properParts (c :: key) = properParts key := by
  simp [properParts, Text.pieces, h]

/-- A character that is no separator goes to the first part of the others, which has content then. -/
theorem properParts_letter (h : isSeparator c ≠ true) :
    ∃ first others, Text.pieces isSeparator (c :: key) = (c :: first) :: others ∧
      properParts (c :: key) = (c :: first) :: others.filter (· ≠ []) := by
  obtain ⟨first, others, hpieces⟩ := List.exists_cons_of_ne_nil (Text.pieces_ne_nil isSeparator key)
  have hsplit : Text.pieces isSeparator (c :: key) = (c :: first) :: others := by
    rw [Text.pieces, if_neg h, hpieces, List.modifyHead_cons]
  exact ⟨first, others, hsplit, by rw [properParts, hsplit, List.filter_cons_of_pos (by simp)]⟩

/-- Empty parts add nothing to what the other ones are run together to. -/
theorem flatMap_capitalize_filter (parts : List (List Char)) :
    (parts.filter (· ≠ [])).flatMap capitalize = parts.flatMap capitalize := by
  induction parts with
  | nil => rfl
  | cons part parts ih =>
    cases part with
    | nil => simpa [capitalize] using ih
    | cons c cs => simpa using ih

/-- All that a name depends on: the parts with content and whether a separator stands first. -/
theorem camelChars_of_properParts (h : properParts key = part :: parts) :
    camelChars key =
      decapitalize ((if beginsSeparated key then capitalize part else part) ++
        parts.flatMap capitalize) := by
  cases key with
  | nil => simp [properParts, Text.pieces] at h
  | cons c cs =>
    rw [beginsSeparated, List.head?_cons, Option.any_some]
    by_cases hc : isSeparator c = true
    · rw [properParts_separator hc] at h
      have hflat : (Text.pieces isSeparator cs).flatMap capitalize =
          capitalize part ++ parts.flatMap capitalize := by
        rw [← flatMap_capitalize_filter, ← properParts, h, List.flatMap_cons]
      rw [camelChars, Text.pieces, if_pos hc, if_pos hc, ← hflat]
      rfl
    · obtain ⟨first, others, hpieces, hproper⟩ := properParts_letter hc
      obtain ⟨rfl, rfl⟩ := List.cons.inj (hproper.symm.trans h)
      rw [camelChars, hpieces, if_neg hc, flatMap_capitalize_filter]

private theorem capitalize_camelChars_of_properParts (h : properParts key = part :: parts) :
    capitalize (camelChars key) = capitalize (decapitalize (part ++ parts.flatMap capitalize)) := by
  have hpart : part ≠ [] := ne_nil_of_mem_properParts (h ▸ List.mem_cons_self)
  rw [camelChars_of_properParts h]
  split
  · rw [← capitalize_append hpart, capitalize_decapitalize_capitalize]
  · rfl

private theorem find?_not_isSeparator (h : properParts key = (c :: part) :: parts) :
    key.find? (!isSeparator ·) = some c := by
  induction key with
  | nil => simp [properParts, Text.pieces] at h
  | cons d ds ih =>
    by_cases hd : isSeparator d = true
    · rw [properParts_separator hd] at h
      rw [List.find?_cons_of_neg (by simp [hd]), ih h]
    · obtain ⟨first, others, -, hproper⟩ := properParts_letter hd
      obtain ⟨hfirst, -⟩ := List.cons.inj (hproper.symm.trans h)
      obtain ⟨rfl, -⟩ := List.cons.inj hfirst
      exact List.find?_cons_of_pos (by simpa using hd)

/-- Two keys of the same parts have the same name, unless a separator stands first in one of them
only and the first letter does not come back from its upper case. -/
theorem camelChars_eq_iff {key' : List Char} (h : properParts key = (c :: part) :: parts)
    (h' : properParts key' = properParts key) :
    camelChars key' = camelChars key ↔ beginsSeparated key' = beginsSeparated key ∨
      decapitalize (Text.toUpper c) = Text.toLower c := by
  have hback : decapitalize (capitalize (c :: part) ++ parts.flatMap capitalize) =
      decapitalize ((c :: part) ++ parts.flatMap capitalize) ↔
        decapitalize (Text.toUpper c) = Text.toLower c := by
    rw [capitalize, List.append_assoc, decapitalize_append (Text.toUpper_ne_nil c),
      List.cons_append, decapitalize, List.append_cancel_right_eq]
  rw [camelChars_of_properParts h, camelChars_of_properParts (h'.trans h)]
  cases beginsSeparated key' <;> cases beginsSeparated key
  case false.false => simp
  case true.true => simp
  case true.false => rw [if_pos rfl, if_neg Bool.false_ne_true, hback]; simp
  case false.true => rw [if_pos rfl, if_neg Bool.false_ne_true, eq_comm, hback]; simp

private theorem properParts_intercalate
    (h : ∀ part ∈ parts, part ≠ [] ∧ ∀ c ∈ part, isSeparator c = false) :
    properParts (List.intercalate ['-'] parts) = parts := by
  cases parts with
  | nil => rfl
  | cons part parts =>
    have hhyphen : isSeparator '-' = true := by decide
    have hpieces :=
      Text.pieces_intercalate hhyphen (List.cons_ne_nil part parts) fun p hp => (h p hp).2
    rw [properParts, hpieces, List.filter_eq_self.mpr fun p hp => decide_eq_true (h p hp).1]

private theorem properParts_hyphenated (key : String) :
    properParts (hyphenated key).toList = properParts key.toList := by
  rw [toList_hyphenated]
  exact properParts_intercalate fun part hpart =>
    ⟨ne_nil_of_mem_properParts hpart, not_isSeparator_of_mem_properParts hpart⟩

private theorem beginsSeparated_hyphenated (key : String) :
    beginsSeparated (hyphenated key).toList = false := by
  rw [toList_hyphenated, beginsSeparated]
  cases hparts : properParts key.toList with
  | nil => rfl
  | cons part parts =>
    have hpart : part ∈ properParts key.toList := hparts ▸ List.mem_cons_self
    obtain ⟨c, cs, rfl⟩ := List.exists_cons_of_ne_nil (ne_nil_of_mem_properParts hpart)
    have hc := not_isSeparator_of_mem_properParts hpart c List.mem_cons_self
    cases parts with
    | nil => simpa using hc
    | cons next parts => simpa [List.intercalate_cons_cons] using hc

private theorem decapitalize_toUpper_of_ascii (h : c.toNat < 0x80) :
    decapitalize (Text.toUpper c) = Text.toLower c := by
  by_cases hlower : c.isLower = true
  · obtain ⟨u, -, hupper, hback⟩ := Text.toUpper_of_isLower hlower
    rw [hupper, decapitalize, hback, Text.toLower_of_isLower hlower]
    rfl
  · rw [Text.toUpper_of_ascii h (Bool.eq_false_iff.mpr hlower), decapitalize, List.append_nil]

/-- The type's name of a key depends on the parts with content only, so it is that of these parts with
single hyphens between them. The value's name is so too if no separator stands before the first part.
If one does, it is so just if the first letter comes back from its upper case, as all letters of ASCII
do. -/
theorem empty_parts_vanish_iff (key : String) (h : properParts key.toList ≠ []) :
    properParts (hyphenated key).toList = properParts key.toList ∧
    ∃ c, key.toList.find? (!isSeparator ·) = some c ∧
      typeName key = typeName (hyphenated key) ∧
      (camelCase key = camelCase (hyphenated key) ↔
        beginsSeparated key.toList = false ∨ decapitalize (Text.toUpper c) = Text.toLower c) ∧
      (c.toNat < 0x80 → decapitalize (Text.toUpper c) = Text.toLower c) ∧
      ∀ key' : String, properParts key'.toList = properParts key.toList →
        typeName key' = typeName key ∧
        (camelCase key' = camelCase key ↔ beginsSeparated key'.toList = beginsSeparated key.toList ∨
          decapitalize (Text.toUpper c) = Text.toLower c) := by
  obtain ⟨part, parts, hparts⟩ := List.exists_cons_of_ne_nil h
  obtain ⟨c, cs, rfl⟩ :=
    List.exists_cons_of_ne_nil (ne_nil_of_mem_properParts (hparts ▸ List.mem_cons_self))
  have htype (key' : String) (hkey' : properParts key'.toList = properParts key.toList) :
      typeName key' = typeName key := by
    rw [← String.toList_inj, toList_typeName, toList_typeName,
      capitalize_camelChars_of_properParts hparts,
      capitalize_camelChars_of_properParts (hkey'.trans hparts)]
  have hname (key' : String) (hkey' : properParts key'.toList = properParts key.toList) :
      camelCase key' = camelCase key ↔ beginsSeparated key'.toList = beginsSeparated key.toList ∨
        decapitalize (Text.toUpper c) = Text.toLower c := by
    rw [← String.toList_inj, toList_camelCase, toList_camelCase, camelChars_eq_iff hparts hkey']
  have hsame := properParts_hyphenated key
  refine ⟨hsame, c, find?_not_isSeparator hparts, (htype _ hsame).symm, ?_,
    decapitalize_toUpper_of_ascii, fun key' hkey' => ⟨htype key' hkey', hname key' hkey'⟩⟩
  rw [eq_comm, hname _ hsame, beginsSeparated_hyphenated, eq_comm]

/-- A separator in front changes no name that begins with a letter of ASCII, however many stand in a
row. -/
theorem dashedKey_loses_empty_parts :
    properParts "-_lib..x-".toList ≠ [] ∧ hyphenated "-_lib..x-" = "lib-x" ∧
    camelCase "-_lib..x-" = "libX" ∧ typeName "-_lib..x-" = "LibX" := by
  have hproper : properParts "-_lib..x-".toList ≠ [] := by decide
  have hhyphenated : hyphenated "-_lib..x-" = "lib-x" := by decide
  have hvalue : camelCase "lib-x" = "libX" := by decide +kernel
  have htype : typeName "lib-x" = "LibX" := by decide +kernel
  have hascii : 'l'.toNat < 0x80 := by decide
  obtain ⟨-, c, hc, htypeName, hcamelCase, hback, -⟩ := empty_parts_vanish_iff "-_lib..x-" hproper
  have hfirst : "-_lib..x-".toList.find? (!isSeparator ·) = some 'l' := by decide
  obtain rfl := Option.some.inj (hfirst.symm.trans hc)
  rw [hhyphenated] at htypeName hcamelCase
  exact ⟨hproper, hhyphenated, (hcamelCase.mpr (.inr (hback hascii))).trans hvalue,
    htypeName.trans htype⟩

/-- A hyphen in front of a sharp s leaves two letters of it. -/
theorem dashedSharp_keeps_empty_part :
    properParts "-ß".toList = ["ß".toList] ∧ hyphenated "-ß" = "ß" ∧
    camelCase "-ß" = "sS" ∧ camelCase (hyphenated "-ß") = "ß" ∧
    camelCase "-ß" ≠ camelCase (hyphenated "-ß") := by
  have hhyphenated : hyphenated "-ß" = "ß" := by decide
  have hname : camelCase "-ß" = "sS" := by decide +kernel
  have hname' : camelCase "ß" = "ß" := by decide +kernel
  rw [hhyphenated, hname, hname']
  decide

end Naming

end VersionCatalog
