import VersionCatalog.Proofs.Text.CaseMapping

namespace VersionCatalog.Text

/-- The letters from `a` to `z`. -/
def smallLetters : CaseRun := ⟨0x61, 0x7A, 1, 0x41⟩

/-- The letters from `A` to `Z`. -/
def capitalLetters : CaseRun := ⟨0x41, 0x5A, 1, 0x61⟩

variable {c : Char}

theorem isLower_iff : c.isLower = true ↔ 0x61 ≤ c.toNat ∧ c.toNat ≤ 0x7A := by
  have hlower : c.isLower = (decide (0x61 ≤ c.toNat) && decide (c.toNat ≤ 0x7A)) := rfl
  rw [hlower, Bool.and_eq_true, decide_eq_true_eq, decide_eq_true_eq]

theorem isDigit_iff : c.isDigit = true ↔ 0x30 ≤ c.toNat ∧ c.toNat ≤ 0x39 := by
  have hdigit : c.isDigit = (decide (0x30 ≤ c.toNat) && decide (c.toNat ≤ 0x39)) := rfl
  rw [hdigit, Bool.and_eq_true, decide_eq_true_eq, decide_eq_true_eq]

theorem isAlphanum_iff :
    c.isAlphanum = true ↔ c.isUpper = true ∨ c.isLower = true ∨ c.isDigit = true := by
  have halphanum : c.isAlphanum = (c.isUpper || c.isLower || c.isDigit) := rfl
  rw [halphanum, Bool.or_eq_true, Bool.or_eq_true, or_assoc]

theorem isUpper_of_isLower (h : c.isLower = true) : c.isUpper = false := by
  rw [Bool.eq_false_iff, ne_eq, isUpper_iff]
  rw [isLower_iff] at h
  omega

private theorem mem_smallLetters : c.toNat ∈ smallLetters.codes ↔ c.isLower = true := by
  rw [CaseRun.mem_codes_iff (by decide), isLower_iff]
  simp [smallLetters, Nat.mod_one]

private theorem mem_capitalLetters : c.toNat ∈ capitalLetters.codes ↔ c.isUpper = true := by
  rw [CaseRun.mem_codes_iff (by decide), isUpper_iff]
  simp [capitalLetters, Nat.mod_one]

/-- A small letter has one capital as its upper case, and comes back from it. -/
theorem toUpper_of_isLower (h : c.isLower = true) :
    ∃ u, u.isUpper = true ∧ toUpper c = [u] ∧ toLower u = [c] := by
  have hupperRun : smallLetters ∈ upperRuns := List.mem_cons_self
  have hlowerRun : capitalLetters ∈ lowerRuns := List.mem_cons_self
  have hsmall := mem_smallLetters.mpr h
  have hcode := isCaseTable_upper.toNat_image hupperRun hsmall
  have hback : capitalLetters.imageOf (smallLetters.imageOf c.toNat) = c.toNat := by
    have hbounds := isLower_iff.mp h
    simp only [capitalLetters, smallLetters, CaseRun.imageOf]
    omega
  have hcapital : (Char.ofNat (smallLetters.imageOf c.toNat)).toNat ∈ capitalLetters.codes := by
    rw [hcode]
    exact CaseRun.mem_codes_reverse (by decide) hsmall
  refine ⟨_, mem_capitalLetters.mp hcapital,
    mapCase_of_mem_codes isCaseTable_upper hupperRun hsmall, ?_⟩
  rw [toLower, mapCase_of_mem_codes isCaseTable_lower hlowerRun hcapital, hcode, hback,
    Char.ofNat_toNat]

/-- The other case of a character of ASCII is told by the one run of a table that has any. -/
theorem mapCase_of_ascii {expansions : List (Nat × List Nat)} {runs : List CaseRun} {run : CaseRun}
    (htable : IsCaseTable expansions (run :: runs))
    (hexpansions : ∀ expansion ∈ expansions, 0x80 ≤ expansion.1)
    (hruns : ∀ other ∈ runs, 0x80 ≤ other.first) (hc : c.toNat < 0x80)
    (hrun : c.toNat ∉ run.codes) : mapCase expansions (run :: runs) c = [c] := by
  apply mapCase_eq_self htable
  rw [List.mem_append, not_or, codesOf, List.mem_flatMap]
  constructor
  · intro hmem
    obtain ⟨expansion, hexpansion, heq⟩ := List.mem_map.mp hmem
    have hbound := hexpansions expansion hexpansion
    omega
  · rintro ⟨other, hother, hmem⟩
    rcases List.mem_cons.mp hother with rfl | hother
    · exact hrun hmem
    · have hle := htable.first_le_last other (List.mem_cons_of_mem _ hother)
      have hbounds := (CaseRun.mem_codes_iff hle).mp hmem
      have hbound := hruns other hother
      omega

theorem toUpper_of_ascii (hc : c.toNat < 0x80) (h : c.isLower = false) : toUpper c = [c] := by
  refine mapCase_of_ascii isCaseTable_upper (by decide) (by decide +kernel) hc ?_
  intro hmem
  rw [mem_smallLetters.mp hmem] at h
  cases h

private theorem toLower_of_ascii (hc : c.toNat < 0x80) (h : c.isUpper = false) :
    toLower c = [c] := by
  refine mapCase_of_ascii isCaseTable_lower (by decide) (by decide +kernel) hc ?_
  intro hmem
  rw [mem_capitalLetters.mp hmem] at h
  cases h

theorem toLower_of_isLower (h : c.isLower = true) : toLower c = [c] := by
  have hbounds := isLower_iff.mp h
  exact toLower_of_ascii (by omega) (isUpper_of_isLower h)

end VersionCatalog.Text
