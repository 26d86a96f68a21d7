import Mathlib.Tactic.SplitIfs
import VersionCatalog.Naming

namespace VersionCatalog

namespace Text

theorem mem_of_mem_pieces {isBreak : Char → Bool} {cs piece : List Char}
    (h : piece ∈ pieces isBreak cs) : ∀ c ∈ piece, c ∈ cs := by
  induction cs generalizing piece with
  | nil =>
    rw [pieces, List.mem_singleton] at h
    simp [h]
  | cons d cs ih =>
    intro c hc
    rw [pieces] at h
    split at h
    · rcases List.mem_cons.mp h with rfl | h
      · simp at hc
      · exact List.mem_cons_of_mem d (ih h c hc)
    · cases hpieces : pieces isBreak cs with
      | nil => exact absurd hpieces (pieces_ne_nil isBreak cs)
      | cons first rest =>
        rw [hpieces, List.modifyHead_cons, List.mem_cons] at h
        rcases h with rfl | h
        · rcases List.mem_cons.mp hc with rfl | hc
          · simp
          · exact List.mem_cons_of_mem d (ih (by simp [hpieces]) c hc)
        · exact List.mem_cons_of_mem d (ih (by simp [hpieces, h]) c hc)

/-- Whether no other character has this one as, or in, its upper or lower case. -/
def Caseless (d : Char) : Prop :=
  d.toNat ≠ 0 ∧ (∀ expansion ∈ upperExpansions ++ lowerExpansions, d.toNat ∉ expansion.2) ∧
    ∀ run ∈ upperRuns ++ lowerRuns,
      d.toNat < run.image ∨ run.image + (run.last - run.first) < d.toNat

instance (d : Char) : Decidable (Caseless d) :=
  inferInstanceAs (Decidable (_ ∧ _ ∧ _))

private theorem eq_toNat_of_ofNat {n : Nat} {d : Char} (hd : d.toNat ≠ 0) (h : Char.ofNat n = d) :
    n = d.toNat := by
  subst h
  by_cases hvalid : n.isValidChar
  · have hchar : Char.ofNat n = Char.ofNatAux n hvalid := dif_pos hvalid
    rw [hchar]
    rfl
  · have hzero : Char.ofNat n = Char.ofNat 0 := dif_neg hvalid
    rw [hzero] at hd
    contradiction

private theorem notMem_mapCase {expansions : List (Nat × List Nat)} {runs : List CaseRun}
    {c d : Char}
    (hd : Caseless d) (hexpansions : expansions ⊆ upperExpansions ++ lowerExpansions)
    (hruns : runs ⊆ upperRuns ++ lowerRuns) (hc : c ≠ d) : d ∉ mapCase expansions runs c := by
  obtain ⟨hzero, hexpansion, hrun⟩ := hd
  unfold mapCase
  split
  · rename_i image hlookup
    intro hmem
    obtain ⟨n, hn, heq⟩ := List.mem_map.mp hmem
    obtain ⟨before, after, hsplit, -⟩ := List.lookup_eq_some_iff.mp hlookup
    have hin : (c.toNat, image) ∈ expansions := by simp [hsplit]
    exact hexpansion _ (hexpansions hin) (eq_toNat_of_ofNat hzero heq ▸ hn)
  · split
    · rename_i image hfind
      intro hmem
      have heq := eq_toNat_of_ofNat hzero (List.mem_singleton.mp hmem).symm
      obtain ⟨run, hin, himage⟩ := List.exists_of_findSome?_eq_some hfind
      have hbounds := hrun run (hruns hin)
      unfold CaseRun.image? at himage
      split_ifs at himage with hrange
      · have hvalue := Option.some.inj himage
        omega
    · simpa using hc.symm

variable {c d : Char}

private theorem notMem_toUpper (hd : Caseless d) (hc : c ≠ d) : d ∉ toUpper c :=
  notMem_mapCase hd (List.subset_append_left _ _) (List.subset_append_left _ _) hc

private theorem notMem_toLower (hd : Caseless d) (hc : c ≠ d) : d ∉ toLower c :=
  notMem_mapCase hd (List.subset_append_right _ _) (List.subset_append_right _ _) hc

/-- The codes of the capitals of ASCII. -/
theorem isUpper_iff : c.isUpper = true ↔ 0x41 ≤ c.toNat ∧ c.toNat ≤ 0x5A := by
  have hupper : c.isUpper = (decide (0x41 ≤ c.toNat) && decide (c.toNat ≤ 0x5A)) :=
    Bool.decide_and _ _
  rw [hupper, Bool.and_eq_true, decide_eq_true_eq, decide_eq_true_eq]

/-- A lower case has no capital of ASCII in it. -/
theorem not_isUpper_of_mem_toLower (h : d ∈ toLower c) : d.isUpper = false := by
  have hexpansions : ∀ expansion ∈ lowerExpansions, ∀ n ∈ expansion.2, 0x5A < n := by decide
  have hruns : ∀ run ∈ lowerRuns, 0x5A < run.image := by decide +kernel
  have hcapitals : ⟨0x41, 0x5A, 1, 0x61⟩ ∈ lowerRuns := List.mem_cons_self
  rw [Bool.eq_false_iff, ne_eq, isUpper_iff]
  rintro ⟨hfirst, hlast⟩
  have hzero : d.toNat ≠ 0 := by omega
  unfold toLower mapCase at h
  split at h
  case h_1 image hlookup =>
    obtain ⟨n, hn, heq⟩ := List.mem_map.mp h
    obtain ⟨before, after, hsplit, -⟩ := List.lookup_eq_some_iff.mp hlookup
    have hbounds := hexpansions (c.toNat, image) (by simp [hsplit]) n hn
    have hvalue := eq_toNat_of_ofNat hzero heq
    omega
  case h_2 =>
    split at h
    case h_1 image hfind =>
      have hvalue := eq_toNat_of_ofNat hzero (List.mem_singleton.mp h).symm
      obtain ⟨run, hrun, himage⟩ := List.exists_of_findSome?_eq_some hfind
      have hbounds := hruns run hrun
      unfold CaseRun.image? at himage
      split_ifs at himage
      have himage := Option.some.inj himage
      omega
    case h_2 hfind =>
      obtain rfl := List.mem_singleton.mp h
      have hnone := List.findSome?_eq_none_iff.mp hfind _ hcapitals
      simp [CaseRun.image?, Nat.mod_one, hfirst, hlast] at hnone

theorem toLower_ne_nil (c : Char) : toLower c ≠ [] := by
  have hexpansions : ∀ expansion ∈ lowerExpansions, expansion.2 ≠ [] := by decide
  unfold toLower mapCase
  split
  case h_1 image hlookup =>
    obtain ⟨before, after, hsplit, -⟩ := List.lookup_eq_some_iff.mp hlookup
    have hne := hexpansions (c.toNat, image) (by simp [hsplit])
    simpa using hne
  case h_2 => split <;> exact List.cons_ne_nil _ _

end Text

namespace Naming

variable {d : Char} {cs : List Char}

theorem notMem_capitalize (hd : Text.Caseless d) (h : d ∉ cs) : d ∉ capitalize cs := by
  cases cs with
  | nil => simp [capitalize]
  | cons c cs =>
    obtain ⟨hc, hcs⟩ := List.ne_and_not_mem_of_not_mem_cons h
    rw [capitalize, List.mem_append, not_or]
    exact ⟨Text.notMem_toUpper hd hc.symm, hcs⟩

private theorem notMem_decapitalize (hd : Text.Caseless d) (h : d ∉ cs) : d ∉ decapitalize cs := by
  cases cs with
  | nil => simp [decapitalize]
  | cons c cs =>
    obtain ⟨hc, hcs⟩ := List.ne_and_not_mem_of_not_mem_cons h
    rw [decapitalize, List.mem_append, not_or]
    exact ⟨Text.notMem_toLower hd hc.symm, hcs⟩

theorem notMem_camelChars_of_pieces (hd : Text.Caseless d) {key : List Char}
    (h : ∀ piece ∈ Text.pieces isSeparator key, d ∉ piece) : d ∉ camelChars key := by
  unfold camelChars
  split
  · simp
  · rename_i first others heq
    rw [heq] at h
    refine notMem_decapitalize hd ?_
    rw [List.mem_append, not_or, List.mem_flatMap]
    refine ⟨h first (by simp), ?_⟩
    rintro ⟨piece, hpiece, hmem⟩
    exact notMem_capitalize hd (h piece (by simp [hpiece])) hmem

theorem notMem_camelChars (hd : Text.Caseless d) {key : List Char} (h : d ∉ key) :
    d ∉ camelChars key :=
  notMem_camelChars_of_pieces hd fun _ hpiece hmem => h (Text.mem_of_mem_pieces hpiece d hmem)

private theorem head?_decapitalize (cs : List Char) :
    (decapitalize cs).head?.any Char.isUpper = false := by
  cases cs with
  | nil => rfl
  | cons c cs =>
    rw [decapitalize]
    cases hlower : Text.toLower c with
    | nil => exact absurd hlower (Text.toLower_ne_nil c)
    | cons d ds => exact Text.not_isUpper_of_mem_toLower (hlower ▸ List.mem_cons_self)

/-- No name begins with a capital of ASCII. -/
theorem head?_camelChars (key : List Char) : (camelChars key).head?.any Char.isUpper = false := by
  unfold camelChars
  split
  · rfl
  · exact head?_decapitalize _

end Naming

end VersionCatalog
