import VersionCatalog.Catalog.OfNode
import VersionCatalog.Proofs.Text.CaseMapping

namespace VersionCatalog

namespace Naming

theorem decapitalize_append {cs : List Char} (h : cs ≠ []) (ds : List Char) :
    decapitalize (cs ++ ds) = decapitalize cs ++ ds := by
  obtain ⟨c, cs, rfl⟩ := List.exists_cons_of_ne_nil h
  exact (List.append_assoc _ _ _).symm

theorem capitalize_append {cs : List Char} (h : cs ≠ []) (ds : List Char) :
    capitalize (cs ++ ds) = capitalize cs ++ ds := by
  obtain ⟨c, cs, rfl⟩ := List.exists_cons_of_ne_nil h
  exact (List.append_assoc _ _ _).symm

private theorem decapitalize_decapitalize (cs : List Char) :
    decapitalize (decapitalize cs) = decapitalize cs := by
  cases cs with
  | nil => rfl
  | cons c cs =>
    obtain ⟨d, ds, hlower⟩ := List.exists_cons_of_ne_nil (Text.toLower_ne_nil c)
    rw [decapitalize, hlower, List.cons_append, decapitalize, Text.toLower_of_toLower hlower]
    rfl

/-- The lower case may lose what a character was, but its upper case does not tell. -/
theorem capitalize_decapitalize_capitalize (cs : List Char) :
    capitalize (decapitalize (capitalize cs)) = capitalize (decapitalize cs) := by
  cases cs with
  | nil => rfl
  | cons c cs =>
    rcases Text.toUpper_cases c with hself | ⟨u, l, rest, hupper, hlower, hback⟩
    · rw [capitalize, hself, List.singleton_append]
    · have hleft : capitalize (decapitalize (capitalize (c :: cs))) = Text.toUpper c ++ cs := by
        rw [capitalize, hupper, List.cons_append, decapitalize, hlower, List.singleton_append,
          capitalize, hback]
        rfl
      rw [hleft]
      by_cases hself : Text.toUpper c = [c]
      · obtain ⟨rfl, -⟩ := List.cons.inj (hupper.symm.trans hself)
        rw [decapitalize, hlower, List.singleton_append, capitalize, hback, hself]
      · obtain ⟨l', ls, hlower', hupper'⟩ := Text.toUpper_toLower hself
        rw [decapitalize, hlower', List.cons_append, capitalize, ← hupper', List.append_assoc]

private theorem caseless_of_isSeparator {c : Char} (h : isSeparator c = true) :
    Text.Caseless c := by
  simp only [isSeparator, Bool.or_eq_true, beq_iff_eq] at h
  rcases h with (rfl | rfl) | rfl <;> decide +kernel

private theorem not_isSeparator_of_mem_camelChars {key : List Char} {c : Char}
    (h : c ∈ camelChars key) :
    isSeparator c = false := by
  rw [Bool.eq_false_iff]
  intro hc
  refine notMem_camelChars_of_pieces (caseless_of_isSeparator hc) ?_ h
  intro piece hpiece hmem
  exact absurd hc (Bool.eq_false_iff.mp (Text.not_break_of_mem_pieces hpiece c hmem))

private theorem camelChars_of_no_separator {key : List Char}
    (h : ∀ c ∈ key, isSeparator c = false) :
    camelChars key = decapitalize key := by
  rw [camelChars, Text.pieces_of_all_false h]
  simp

private theorem decapitalize_camelChars (key : List Char) :
    decapitalize (camelChars key) = camelChars key := by
  unfold camelChars
  split
  · rfl
  · exact decapitalize_decapitalize _

private theorem camelChars_camelChars (key : List Char) :
    camelChars (camelChars key) = camelChars key := by
  rw [camelChars_of_no_separator fun c hc => not_isSeparator_of_mem_camelChars hc,
    decapitalize_camelChars]

private theorem camelChars_capitalize_camelChars (key : List Char) :
    camelChars (capitalize (camelChars key)) = decapitalize (capitalize (camelChars key)) := by
  apply camelChars_of_no_separator
  intro c hc
  rw [Bool.eq_false_iff]
  intro hseparator
  refine notMem_capitalize (caseless_of_isSeparator hseparator) ?_ hc
  intro hmem
  exact absurd hseparator (Bool.eq_false_iff.mp (not_isSeparator_of_mem_camelChars hmem))

private theorem camelCase_camelCase (key : String) : camelCase (camelCase key) = camelCase key := by
  rw [camelCase, toList_camelCase, camelChars_camelChars]
  rfl

private theorem typeName_typeName (key : String) : typeName (typeName key) = typeName key := by
  rw [typeName, toList_typeName, camelChars_capitalize_camelChars,
    capitalize_decapitalize_capitalize, decapitalize_camelChars]
  rfl

end Naming

private theorem camelCase_of_mem_libraries {node : Toml.Node} {member : String}
    (h : member ∈ (Bundle.ofNode node).libraries) : Naming.camelCase member = member := by
  obtain ⟨element, -, rfl⟩ := List.mem_map.mp h
  exact Naming.camelCase_camelCase element

/-- A name has no separator in it, and naming it again gives the name back; so does a type's name. The
members that a catalog's bundles name are names already, whatever the document is. -/
theorem normalized_names_are_fixed (key : String) (document : Toml.Node) :
    (∀ c ∈ (Naming.camelCase key).toList, Naming.isSeparator c = false) ∧
    Naming.camelCase (Naming.camelCase key) = Naming.camelCase key ∧
    Naming.typeName (Naming.typeName key) = Naming.typeName key ∧
    ∀ entry ∈ (Catalog.ofNode document).bundles.entries, ∀ member ∈ entry.2.libraries,
      Naming.camelCase member = member := by
  refine ⟨?_, Naming.camelCase_camelCase key, Naming.typeName_typeName key, ?_⟩
  · intro c hc
    rw [Naming.toList_camelCase] at hc
    exact Naming.not_isSeparator_of_mem_camelChars hc
  · intro entry hentry member hmember
    have hentries : (Catalog.ofNode document).bundles.entries = _ :=
      Section.entries_ofList_map Bundle.ofNode _
    rw [hentries] at hentry
    obtain ⟨raw, -, rfl⟩ := List.mem_map.mp hentry
    exact camelCase_of_mem_libraries hmember

/-- A bundle that names a library by a key with a letter whose upper case is two letters. -/
def sharpDocument : Toml.Node :=
  .table [("bundles", .table [("b", .array [.string "x-ßa"])])]

theorem sharpNames_are_fixed :
    Naming.camelCase "Über-ßa_ıb" = "überSSaIb" ∧
    Naming.camelCase "überSSaIb" = "überSSaIb" ∧
    Naming.typeName (Naming.typeName "ßa") = Naming.typeName "ßa" ∧
    (Catalog.ofNode sharpDocument).bundles.entries = [("b", { libraries := ["xSSa"] })] ∧
    Naming.camelCase "xSSa" = "xSSa" := by
  have hname : Naming.camelCase "Über-ßa_ıb" = "überSSaIb" := by decide +kernel
  have hentries : (Catalog.ofNode sharpDocument).bundles.entries =
      [("b", { libraries := ["xSSa"] })] := by
    decide +kernel
  obtain ⟨-, hfixed, -, hmembers⟩ := normalized_names_are_fixed "Über-ßa_ıb" sharpDocument
  obtain ⟨-, -, htype, -⟩ := normalized_names_are_fixed "ßa" sharpDocument
  rw [hname] at hfixed
  rw [hentries] at hmembers
  exact ⟨hname, hfixed, htype, hentries, hmembers _ List.mem_cons_self _ List.mem_cons_self⟩

end VersionCatalog
