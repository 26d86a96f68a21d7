import VersionCatalog.Proofs.Catalog.MemberNames
import VersionCatalog.Proofs.Kotlin.IdentifierReading
import VersionCatalog.Proofs.Naming.Conventional

namespace VersionCatalog.Kotlin

open Naming (IsConventional)

variable {name name' : List Char} {c : Char}

private theorem not_isForbidden_of_isAlphanum (h : c.isAlphanum = true) :
    isForbidden c = false := by
  rw [Bool.eq_false_iff]
  intro hc
  simp only [isForbidden, Bool.or_eq_true, beq_iff_eq] at hc
  rcases hc with ((((((((rfl | rfl) | rfl) | rfl) | rfl) | rfl) | rfl) | rfl) | rfl) | rfl <;>
    contradiction

private theorem sanitize_of_isAlphanum (h : ∀ c ∈ name, c.isAlphanum = true) :
    sanitize name = name := by
  rw [sanitize, List.map_congr_left (g := id), List.map_id]
  intro c hc
  rw [not_isForbidden_of_isAlphanum (h c hc)]
  rfl

private theorem identifierChars_eq_iff_of_isAlphanum (h : ∀ c ∈ name, c.isAlphanum = true)
    (h' : ∀ c ∈ name', c.isAlphanum = true) :
    identifierChars name = identifierChars name' ↔ name = name' := by
  rw [identifierChars_eq_iff, sanitize_of_isAlphanum h, sanitize_of_isAlphanum h']

/-- Two keys of words, and not of the same ones. -/
def HaveOtherWords (key key' : String) : Prop :=
  ∃ words words', IsConventional words key.toList ∧ IsConventional words' key'.toList ∧ words ≠ words'

private theorem memberName_eq_iff {key key' : String} {words words' : List (List Char)}
    (h : IsConventional words key.toList) (h' : IsConventional words' key'.toList) :
    memberName key = memberName key' ↔ words = words' := by
  rw [← h.camelChars_eq_iff h', memberName, memberName, ← String.toList_inj, toList_identifier,
    toList_identifier, Naming.toList_camelCase, Naming.toList_camelCase]
  exact identifierChars_eq_iff_of_isAlphanum h.isAlphanum_camelChars h'.isAlphanum_camelChars

/-- Keys of words have the same member name just if they have the same words in the same order,
whatever separators stand between them. So a section declares its values under names of their own if
no two keys of its entries with content have the same words. -/
theorem conventional_names_agree_iff :
    (∀ (key key' : String) (words words' : List (List Char)), IsConventional words key.toList →
      IsConventional words' key'.toList → (memberName key = memberName key' ↔ words = words')) ∧
    ∀ (c : Catalog) (options : Options) (kind : SectionKind),
      (liveKeys c kind).Pairwise HaveOtherWords →
      (declaredNames (Listing.classPart c options) (objectName kind)).Nodup := by
  refine ⟨fun key key' words words' h h' => memberName_eq_iff h h', ?_⟩
  intro c options kind hkeys
  rw [declaredNames_eq, List.Nodup, List.pairwise_map]
  refine hkeys.imp ?_
  rintro key key' ⟨words, words', h, h', hne⟩
  exact mt (memberName_eq_iff h h').mp hne

/-- Versions whose names are alike but for their capitals, and one without content. -/
def closeCatalog : Catalog :=
  { versions := .ofList [
      ("a-b1.c", .ofRequired "1"), ("ab1-c", .ofRequired "2"), ("a.b1-c", {}),
      ("in", .ofRequired "3")] }

theorem closeCatalog_names_differ :
    memberName "a-b1.c" = memberName "a.b1-c" ∧
    (liveKeys closeCatalog .versions).Pairwise HaveOtherWords ∧
    (declaredNames (Listing.classPart closeCatalog ⟨"p", "Libs", "1", 2024⟩) "Versions").Nodup := by
  obtain ⟨hiff, hnodup⟩ := conventional_names_agree_iff
  have hkeys : liveKeys closeCatalog .versions = ["a-b1.c", "ab1-c", "in"] := by decide
  have hthree : IsConventional [['a'], ['b', '1'], ['c']] "a-b1.c".toList := by
    rw [String.toList_ofList]
    exact .join rfl rfl (.join rfl rfl (.word rfl))
  have hthree' : IsConventional [['a'], ['b', '1'], ['c']] "a.b1-c".toList := by
    rw [String.toList_ofList]
    exact .join rfl rfl (.join rfl rfl (.word rfl))
  have htwo : IsConventional [['a', 'b', '1'], ['c']] "ab1-c".toList := by
    rw [String.toList_ofList]
    exact .join rfl rfl (.word rfl)
  have hone : IsConventional [['i', 'n']] "in".toList := by
    rw [String.toList_ofList]
    exact .word rfl
  have hdiffer : (liveKeys closeCatalog .versions).Pairwise HaveOtherWords := by
    rw [hkeys]
    simp only [List.pairwise_cons, List.forall_mem_cons]
    exact ⟨⟨⟨_, _, hthree, htwo, by decide⟩, ⟨_, _, hthree, hone, by decide⟩, by simp⟩,
      ⟨⟨_, _, htwo, hone, by decide⟩, by simp⟩, by simp⟩
  exact ⟨(hiff _ _ _ _ hthree hthree').mpr rfl, hdiffer, hnodup closeCatalog _ .versions hdiffer⟩

end VersionCatalog.Kotlin
