import Mathlib.Tactic.SplitIfs
import VersionCatalog.Proofs.Naming.Characters

namespace VersionCatalog.Text

section Bits

/-- A set of numbers as the bits of one number. Tables are compared as such sets, a run at a time and
not a character. -/
def bitsOf (numbers : List Nat) : Nat :=
  numbers.foldr (fun n bits => 1 <<< n ||| bits) 0

variable {l m : List Nat} {n : Nat}

@[simp] theorem testBit_bitsOf : (bitsOf l).testBit n = true ↔ n ∈ l := by
  induction l with
  | nil => simp [bitsOf]
  | cons k l ih =>
    have hfirst : (1 <<< k).testBit n = true ↔ n = k := by
      rw [Nat.one_shiftLeft, Nat.testBit_two_pow, decide_eq_true_eq, eq_comm]
    rw [bitsOf, List.foldr_cons, ← bitsOf, Nat.testBit_or, Bool.or_eq_true, hfirst, ih,
      List.mem_cons]

private theorem notMem_of_and_eq_zero (h : bitsOf l &&& bitsOf m = 0) (hn : n ∈ l) : n ∉ m := by
  intro hm
  have hboth : (bitsOf l &&& bitsOf m).testBit n = true := by
    rw [Nat.testBit_and, testBit_bitsOf.mpr hn, testBit_bitsOf.mpr hm]
    rfl
  simp [h] at hboth

private theorem subset_of_and_eq (h : bitsOf l &&& bitsOf m = bitsOf l) : l ⊆ m := by
  intro n hn
  rw [← testBit_bitsOf, ← h, Nat.testBit_and, Bool.and_eq_true] at hn
  exact testBit_bitsOf.mp hn.2

end Bits

namespace CaseRun

/-- The codes of the characters that a run maps. -/
def codes (run : CaseRun) : List Nat :=
  (List.range ((run.last - run.first) / run.stride + 1)).map (run.first + run.stride * ·)

/-- The code that a run maps a code to. -/
def imageOf (run : CaseRun) (n : Nat) : Nat :=
  run.image + (n - run.first)

/-- The run that maps the images of a run back. -/
def reverse (run : CaseRun) : CaseRun :=
  ⟨run.image, run.image + (run.last - run.first), run.stride, run.first⟩

/-- Whether a run maps all codes of another one, and to the same codes. -/
def covers (run part : CaseRun) : Bool :=
  Nat.ble part.last run.last && Nat.ble run.first part.first &&
    (run.imageOf part.first).beq part.image && ((part.first - run.first) % run.stride).beq 0 &&
    ((part.stride % run.stride).beq 0 || part.first.beq part.last)

variable {run part : CaseRun} {n m : Nat}

theorem mem_codes_iff (h : run.first ≤ run.last) : n ∈ run.codes ↔
    run.first ≤ n ∧ n ≤ run.last ∧ (n - run.first) % run.stride = 0 := by
  rw [codes, List.mem_map]
  constructor
  · rintro ⟨i, hi, rfl⟩
    have hi : i ≤ (run.last - run.first) / run.stride := Nat.lt_succ_iff.mp (List.mem_range.mp hi)
    have hlast : run.stride * i ≤ run.last - run.first :=
      Nat.le_trans (Nat.mul_le_mul_left _ hi) (Nat.mul_div_le _ _)
    refine ⟨Nat.le_add_right _ _, by omega, ?_⟩
    rw [Nat.add_sub_cancel_left, Nat.mul_mod_right]
  · rintro ⟨hfirst, hlast, hstride⟩
    refine ⟨(n - run.first) / run.stride, ?_, ?_⟩
    · exact List.mem_range.mpr (Nat.lt_succ_of_le (Nat.div_le_div_right (by omega)))
    · rw [Nat.mul_div_cancel' (Nat.dvd_of_mod_eq_zero hstride)]
      omega

private theorem image?_eq_some_iff (h : run.first ≤ run.last) :
    run.image? n = some m ↔ n ∈ run.codes ∧ m = run.imageOf n := by
  rw [mem_codes_iff h, image?, Option.ite_none_right_eq_some, Option.some.injEq, eq_comm (a := m)]
  rfl

/-- The images of a run are the codes of its reverse, which maps them back. -/
theorem mem_codes_of_reverse (h : run.first ≤ run.last) (hn : n ∈ run.reverse.codes) :
    run.reverse.imageOf n ∈ run.codes ∧ run.imageOf (run.reverse.imageOf n) = n := by
  obtain ⟨hfirst, hlast, hstride⟩ := (mem_codes_iff (Nat.le_add_right _ _)).mp hn
  simp only [reverse] at hfirst hlast hstride
  have hsame : run.first + (n - run.image) - run.first = n - run.image := by omega
  simp only [mem_codes_iff h, imageOf, reverse, hsame]
  exact ⟨⟨by omega, by omega, hstride⟩, by omega⟩

theorem mem_codes_reverse (h : run.first ≤ run.last) (hn : n ∈ run.codes) :
    run.imageOf n ∈ run.reverse.codes := by
  obtain ⟨hfirst, hlast, hstride⟩ := (mem_codes_iff h).mp hn
  have hsame : run.image + (n - run.first) - run.image = n - run.first := by omega
  rw [mem_codes_iff (Nat.le_add_right _ _)]
  simp only [imageOf, reverse, hsame]
  exact ⟨by omega, by omega, hstride⟩

private theorem covers_iff : run.covers part = true ↔
    part.last ≤ run.last ∧ run.first ≤ part.first ∧ run.imageOf part.first = part.image ∧
      run.stride ∣ part.first - run.first ∧ (run.stride ∣ part.stride ∨ part.first = part.last) := by
  simp [covers, and_assoc, Nat.dvd_iff_mod_eq_zero]

private theorem mem_codes_of_covers (h : run.covers part = true) (hpart : part.first ≤ part.last)
    (hn : n ∈ part.codes) : n ∈ run.codes ∧ run.imageOf n = part.imageOf n := by
  obtain ⟨hlast, hfirst, himage, hdvd, hstride⟩ := covers_iff.mp h
  obtain ⟨hfirst', hlast', hstride'⟩ := (mem_codes_iff hpart).mp hn
  have hstep : run.stride ∣ n - part.first := by
    rcases hstride with hstride | hsingle
    · exact Nat.dvd_trans hstride (Nat.dvd_of_mod_eq_zero hstride')
    · rw [show n - part.first = 0 by omega]
      exact Nat.dvd_zero _
  have hsum : n - run.first = (part.first - run.first) + (n - part.first) := by omega
  constructor
  · rw [mem_codes_iff (by omega)]
    exact ⟨by omega, by omega, Nat.mod_eq_zero_of_dvd (hsum ▸ Nat.dvd_add hdvd hstep)⟩
  · simp only [imageOf] at himage ⊢
    omega

end CaseRun

/-- The codes of the characters that some of the runs map. -/
def codesOf (runs : List CaseRun) : List Nat :=
  runs.flatMap CaseRun.codes

/-- Whether no code belongs to two of the runs, or to a run and to the bits. -/
def areApart (bits : Nat) : List CaseRun → Bool
  | [] => true
  | run :: runs =>
    (bits &&& bitsOf run.codes).beq 0 && areApart (bits ||| bitsOf run.codes) runs

private theorem unique_of_areApart {bits n : Nat} {runs : List CaseRun} {run : CaseRun}
    (h : areApart bits runs = true) (hrun : run ∈ runs) (hn : n ∈ run.codes) :
    bits.testBit n = false ∧ ∀ other ∈ runs, n ∈ other.codes → other = run := by
  induction runs generalizing bits run with
  | nil => cases hrun
  | cons first runs ih =>
    rw [areApart, Bool.and_eq_true, Nat.beq_eq] at h
    obtain ⟨hfirst, hothers⟩ := h
    rcases List.mem_cons.mp hrun with rfl | hrun
    · constructor
      · have hbit : (bits &&& bitsOf run.codes).testBit n = false := by simp [hfirst]
        rwa [Nat.testBit_and, testBit_bitsOf.mpr hn, Bool.and_true] at hbit
      · intro other hother hmem
        rcases List.mem_cons.mp hother with rfl | hother
        · rfl
        · have hbit := (ih hothers hother hmem).1
          simp [testBit_bitsOf.mpr hn] at hbit
    · obtain ⟨hbit, hunique⟩ := ih hothers hrun hn
      rw [Nat.testBit_or, Bool.or_eq_false_iff] at hbit
      refine ⟨hbit.1, fun other hother hmem => ?_⟩
      rcases List.mem_cons.mp hother with rfl | hother
      · simp [testBit_bitsOf.mpr hmem] at hbit
      · exact hunique other hother hmem

/-- Whether all numbers from one to another are codes of characters. -/
def areScalars (first last : Nat) : Bool :=
  Nat.blt last 0xD800 || Nat.blt 0xDFFF first && Nat.blt last 0x110000

private theorem toNat_ofNat_of_areScalars {first last n : Nat} (h : areScalars first last = true)
    (hfirst : first ≤ n) (hlast : n ≤ last) : (Char.ofNat n).toNat = n := by
  have hvalid : n.isValidChar := by
    simp only [areScalars, Nat.blt_eq, Bool.or_eq_true, Bool.and_eq_true] at h
    rw [Nat.isValidChar]
    omega
  have hchar : Char.ofNat n = Char.ofNatAux n hvalid := dif_pos hvalid
  rw [hchar]
  rfl

/-- A table that maps characters to characters, and none of them twice. -/
structure IsCaseTable (expansions : List (Nat × List Nat)) (runs : List CaseRun) : Prop where
  first_le_last : ∀ run ∈ runs, run.first ≤ run.last
  codes : ∀ run ∈ runs, areScalars run.first run.last = true
  images : ∀ run ∈ runs, areScalars run.reverse.first run.reverse.last = true
  apart : areApart (bitsOf (expansions.map Prod.fst)) runs = true

theorem isCaseTable_upper : IsCaseTable upperExpansions upperRuns where
  first_le_last := by decide +kernel
  codes := by decide +kernel
  images := by decide +kernel
  apart := by decide +kernel

theorem isCaseTable_lower : IsCaseTable lowerExpansions lowerRuns where
  first_le_last := by decide +kernel
  codes := by decide +kernel
  images := by decide +kernel
  apart := by decide +kernel

section Table

variable {expansions : List (Nat × List Nat)} {runs : List CaseRun} {run : CaseRun} {c : Char}
  {n : Nat}

theorem IsCaseTable.toNat_code (h : IsCaseTable expansions runs) (hrun : run ∈ runs)
    (hn : n ∈ run.codes) : (Char.ofNat n).toNat = n := by
  obtain ⟨hfirst, hlast, -⟩ := (CaseRun.mem_codes_iff (h.first_le_last run hrun)).mp hn
  exact toNat_ofNat_of_areScalars (h.codes run hrun) hfirst hlast

theorem IsCaseTable.toNat_image (h : IsCaseTable expansions runs) (hrun : run ∈ runs)
    (hn : n ∈ run.codes) : (Char.ofNat (run.imageOf n)).toNat = run.imageOf n := by
  have himage := CaseRun.mem_codes_reverse (h.first_le_last run hrun) hn
  obtain ⟨hfirst, hlast, -⟩ := (CaseRun.mem_codes_iff (Nat.le_add_right _ _)).mp himage
  exact toNat_ofNat_of_areScalars (h.images run hrun) hfirst hlast

private theorem lookup_eq_none_of_notMem (h : n ∉ expansions.map Prod.fst) :
    expansions.lookup n = none := by
  rw [List.lookup_eq_none_iff]
  intro expansion hexpansion
  rw [bne_iff_ne]
  rintro rfl
  exact h (List.mem_map_of_mem hexpansion)

/-- The run that a character's code belongs to says what its other case is. -/
theorem mapCase_of_mem_codes (h : IsCaseTable expansions runs) (hrun : run ∈ runs)
    (hc : c.toNat ∈ run.codes) :
    mapCase expansions runs c = [Char.ofNat (run.imageOf c.toNat)] := by
  obtain ⟨hbit, hunique⟩ := unique_of_areApart h.apart hrun hc
  have hlookup : expansions.lookup c.toNat = none := by
    apply lookup_eq_none_of_notMem
    intro hmem
    rw [testBit_bitsOf.mpr hmem] at hbit
    cases hbit
  rw [mapCase, hlookup]
  dsimp only
  split
  · rename_i image hfind
    obtain ⟨other, hother, himage⟩ := List.exists_of_findSome?_eq_some hfind
    obtain ⟨hmem, rfl⟩ := (CaseRun.image?_eq_some_iff (h.first_le_last other hother)).mp himage
    rw [hunique other hother hmem]
  · rename_i hfind
    have hnone := List.findSome?_eq_none_iff.mp hfind run hrun
    rw [(CaseRun.image?_eq_some_iff (h.first_le_last run hrun)).mpr ⟨hc, rfl⟩] at hnone
    cases hnone

theorem mapCase_eq_self (h : IsCaseTable expansions runs)
    (hc : c.toNat ∉ expansions.map Prod.fst ++ codesOf runs) : mapCase expansions runs c = [c] := by
  rw [List.mem_append, not_or, codesOf, List.mem_flatMap] at hc
  rw [mapCase, lookup_eq_none_of_notMem hc.1]
  dsimp only
  split
  · rename_i image hfind
    obtain ⟨run, hrun, himage⟩ := List.exists_of_findSome?_eq_some hfind
    have hmem := ((CaseRun.image?_eq_some_iff (h.first_le_last run hrun)).mp himage).1
    exact absurd ⟨run, hrun, hmem⟩ hc.2
  · rfl

private theorem mapCase_cases (h : IsCaseTable expansions runs) (c : Char) :
    mapCase expansions runs c = [c] ∨
    (∃ run ∈ runs, c.toNat ∈ run.codes ∧
      mapCase expansions runs c = [Char.ofNat (run.imageOf c.toNat)]) ∨
    ∃ image, (c.toNat, image) ∈ expansions ∧ mapCase expansions runs c = image.map Char.ofNat := by
  unfold mapCase
  split
  · rename_i image hlookup
    obtain ⟨before, after, hsplit, -⟩ := List.lookup_eq_some_iff.mp hlookup
    exact .inr (.inr ⟨image, by simp [hsplit], rfl⟩)
  · split
    · rename_i image hfind
      obtain ⟨run, hrun, himage⟩ := List.exists_of_findSome?_eq_some hfind
      obtain ⟨hmem, rfl⟩ := (CaseRun.image?_eq_some_iff (h.first_le_last run hrun)).mp himage
      exact .inr (.inl ⟨run, hrun, hmem, rfl⟩)
    · exact .inl rfl

end Table

/-- A lower case is its own lower case. -/
theorem toLower_of_toLower {c d : Char} {ds : List Char} (h : toLower c = d :: ds) :
    toLower d = [d] := by
  have himages : bitsOf (codesOf (lowerRuns.map .reverse)) &&&
      bitsOf (lowerExpansions.map Prod.fst ++ codesOf lowerRuns) = 0 := by decide +kernel
  have hexpansions : ∀ n ∈ lowerExpansions.filterMap (·.2.head?),
      toLower (Char.ofNat n) = [Char.ofNat n] := by decide +kernel
  rcases mapCase_cases isCaseTable_lower c with hself | ⟨run, hrun, hc, himage⟩ | ⟨image, hc, himage⟩
  · rw [toLower, hself] at h
    cases h
    exact hself
  · rw [toLower, himage] at h
    cases h
    apply mapCase_eq_self isCaseTable_lower
    rw [isCaseTable_lower.toNat_image hrun hc]
    have hreverse := CaseRun.mem_codes_reverse (isCaseTable_lower.first_le_last run hrun) hc
    exact notMem_of_and_eq_zero himages
      (List.mem_flatMap.mpr ⟨run.reverse, List.mem_map_of_mem hrun, hreverse⟩)
  · rw [toLower, himage] at h
    obtain ⟨n, ns, rfl, rfl, -⟩ := List.map_eq_cons_iff.mp h
    exact hexpansions n (List.mem_filterMap.mpr ⟨_, hc, rfl⟩)

/-- The runs of all characters that have an upper case, to its first character. -/
def upperSources : List CaseRun :=
  upperRuns ++ upperExpansions.map fun expansion =>
    ⟨expansion.1, expansion.1, 1, expansion.2.headD 0⟩

private theorem toUpper_eq_self_or (c : Char) : toUpper c = [c] ∨
    ∃ run ∈ upperSources, c.toNat ∈ run.codes ∧
      ∃ rest, toUpper c = Char.ofNat (run.imageOf c.toNat) :: rest := by
  have hexpansions : ∀ expansion ∈ upperExpansions, expansion.2 ≠ [] := by decide
  rcases mapCase_cases isCaseTable_upper c with hself | ⟨run, hrun, hc, himage⟩ | ⟨image, hc, himage⟩
  · exact .inl hself
  · exact .inr ⟨run, List.mem_append_left _ hrun, hc, [], himage⟩
  · obtain ⟨first, rest, rfl⟩ := List.exists_cons_of_ne_nil (hexpansions _ hc)
    refine .inr ⟨⟨c.toNat, c.toNat, 1, first⟩, ?_, ?_, rest.map Char.ofNat, ?_⟩
    · exact List.mem_append_right _ (List.mem_map.mpr ⟨_, hc, rfl⟩)
    · simp [CaseRun.codes]
    · rw [toUpper, himage, CaseRun.imageOf, Nat.sub_self, Nat.add_zero, List.map_cons]

private theorem upperSources_first_le_last : ∀ run ∈ upperSources, run.first ≤ run.last := by
  decide +kernel

/-- The runs to upper case that lower case runs back. -/
def mirroredRuns : List CaseRun :=
  upperRuns.filter fun run => lowerRuns.any (·.covers run.reverse)

private theorem toLower_of_mirrored {n : Nat} (h : n ∈ codesOf (mirroredRuns.map .reverse)) :
    ∃ l, toLower (Char.ofNat n) = [l] ∧ toUpper l = [Char.ofNat n] := by
  obtain ⟨reversed, hreversed, hn⟩ := List.mem_flatMap.mp h
  obtain ⟨run, hrun, rfl⟩ := List.mem_map.mp hreversed
  obtain ⟨hupper, hany⟩ := List.mem_filter.mp hrun
  obtain ⟨lower, hlower, hcovers⟩ := List.any_eq_true.mp hany
  obtain ⟨hmem, hback⟩ := CaseRun.mem_codes_of_covers hcovers (Nat.le_add_right _ _) hn
  obtain ⟨hcode, hforth⟩ :=
    CaseRun.mem_codes_of_reverse (isCaseTable_upper.first_le_last run hupper) hn
  have hchar : (Char.ofNat n).toNat = n := isCaseTable_lower.toNat_code hlower hmem
  have hchar' := isCaseTable_upper.toNat_code hupper hcode
  refine ⟨Char.ofNat (run.reverse.imageOf n), ?_, ?_⟩
  · rw [toLower, mapCase_of_mem_codes isCaseTable_lower hlower (by rwa [hchar]), hchar, hback]
  · rw [toUpper, mapCase_of_mem_codes isCaseTable_upper hupper (by rwa [hchar']), hchar', hforth]

/-- An upper case, if it is not the character itself, begins with the upper case of a single lower
case. -/
theorem toUpper_cases (c : Char) : toUpper c = [c] ∨
    ∃ u l rest, toUpper c = u :: rest ∧ toLower u = [l] ∧ toUpper l = [u] := by
  -- the only upper case without a lower case is an apostrophe
  have himages : bitsOf (codesOf (upperSources.map .reverse)) &&&
      bitsOf (0x2BC :: codesOf (mirroredRuns.map .reverse)) =
        bitsOf (codesOf (upperSources.map .reverse)) := by decide +kernel
  have hapostrophe : toLower (Char.ofNat 0x2BC) = [Char.ofNat 0x2BC] ∧
      toUpper (Char.ofNat 0x2BC) = [Char.ofNat 0x2BC] := by decide +kernel
  refine (toUpper_eq_self_or c).imp_right ?_
  rintro ⟨run, hrun, hc, rest, hupper⟩
  have hreverse := CaseRun.mem_codes_reverse (upperSources_first_le_last run hrun) hc
  have hmem := subset_of_and_eq himages
    (List.mem_flatMap.mpr ⟨run.reverse, List.mem_map_of_mem hrun, hreverse⟩)
  rcases List.mem_cons.mp hmem with heq | hmirrored
  · rw [heq] at hupper
    exact ⟨_, _, rest, hupper, hapostrophe⟩
  · obtain ⟨l, hlower, hback⟩ := toLower_of_mirrored hmirrored
    exact ⟨_, l, rest, hupper, hlower, hback⟩

theorem toUpper_ne_nil (c : Char) : toUpper c ≠ [] := by
  rcases toUpper_cases c with hself | ⟨u, l, rest, hupper, -⟩
  · simp [hself]
  · simp [hupper]

/-- The upper case of a character, if it is another one, is that of its lower case. -/
theorem toUpper_toLower {c : Char} (h : toUpper c ≠ [c]) :
    ∃ l ls, toLower c = l :: ls ∧ toUpper l ++ ls = toUpper c := by
  have htable : ∀ run ∈ upperSources,
      bitsOf run.codes &&& bitsOf (lowerExpansions.map Prod.fst ++ codesOf lowerRuns) = 0 ∨
      run.first = run.last ∧ Naming.capitalize (toLower (Char.ofNat run.first)) =
        toUpper (Char.ofNat run.first) := by decide +kernel
  rcases toUpper_eq_self_or c with hself | ⟨run, hrun, hc, -⟩
  · exact absurd hself h
  rcases htable run hrun with happart | ⟨hsingle, hupper⟩
  · have hlower : toLower c = [c] :=
      mapCase_eq_self isCaseTable_lower (notMem_of_and_eq_zero happart hc)
    exact ⟨c, [], hlower, List.append_nil _⟩
  · have hfirst : c.toNat = run.first := by
      have hbounds := (CaseRun.mem_codes_iff (upperSources_first_le_last run hrun)).mp hc
      omega
    rw [← hfirst, Char.ofNat_toNat] at hupper
    obtain ⟨l, ls, hlower⟩ := List.exists_cons_of_ne_nil (toLower_ne_nil c)
    rw [hlower] at hupper
    exact ⟨l, ls, hlower, hupper⟩

end VersionCatalog.Text
