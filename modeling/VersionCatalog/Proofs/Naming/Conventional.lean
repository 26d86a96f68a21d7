import VersionCatalog.Proofs.Text.AsciiCase

namespace VersionCatalog.Naming

/-- Whether a text is a letter from `a` to `z` and behind it such letters and digits of ASCII. -/
def isWord : List Char → Bool
  | [] => false
  | c :: cs => c.isLower && cs.all fun d => d.isLower || d.isDigit

/-- Words, one or more, and a key that joins them by single separators. -/
inductive IsConventional : List (List Char) → List Char → Prop
  | word {word : List Char} (h : isWord word = true) : IsConventional [word] word
  | join {word : List Char} {separator : Char} {words : List (List Char)} {key : List Char}
      (h : isWord word = true) (hseparator : isSeparator separator = true)
      (hkey : IsConventional words key) :
      IsConventional (word :: words) (word ++ separator :: key)

variable {word key key' : List Char} {words words' : List (List Char)} {c : Char}

private theorem exists_of_isWord (h : isWord word = true) :
    ∃ c cs, word = c :: cs ∧ c.isLower = true ∧
    ∀ d ∈ cs, d.isLower = true ∨ d.isDigit = true := by
  cases word with
  | nil => cases h
  | cons c cs =>
    simp only [isWord, Bool.and_eq_true, List.all_eq_true, Bool.or_eq_true] at h
    exact ⟨c, cs, rfl, h⟩

private theorem isUpper_of_isDigit (h : c.isDigit = true) : c.isUpper = false := by
  rw [Bool.eq_false_iff, ne_eq, Text.isUpper_iff]
  rw [Text.isDigit_iff] at h
  omega

private theorem not_isUpper_of_isWord (h : isWord word = true) : ∀ c ∈ word, c.isUpper = false := by
  obtain ⟨c, cs, rfl, hc, hcs⟩ := exists_of_isWord h
  intro d hd
  rcases List.mem_cons.mp hd with rfl | hd
  · exact Text.isUpper_of_isLower hc
  · exact (hcs d hd).elim Text.isUpper_of_isLower isUpper_of_isDigit

private theorem isAlphanum_of_isWord (h : isWord word = true) :
    ∀ c ∈ word, c.isAlphanum = true := by
  obtain ⟨c, cs, rfl, hc, hcs⟩ := exists_of_isWord h
  intro d hd
  rcases List.mem_cons.mp hd with rfl | hd
  · exact Text.isAlphanum_iff.mpr (.inr (.inl hc))
  · exact Text.isAlphanum_iff.mpr (.inr (hcs d hd))

private theorem not_isSeparator_of_isAlphanum (h : c.isAlphanum = true) :
    isSeparator c = false := by
  rw [Bool.eq_false_iff]
  intro hc
  simp only [isSeparator, Bool.or_eq_true, beq_iff_eq] at hc
  rcases hc with (rfl | rfl) | rfl <;> contradiction

theorem IsConventional.isWord_of_mem (h : IsConventional words key) :
    ∀ word ∈ words, isWord word = true := by
  induction h with
  | word h => simpa using h
  | join h _ _ ih => exact List.forall_mem_cons.mpr ⟨h, ih⟩

theorem IsConventional.pieces_eq (h : IsConventional words key) :
    Text.pieces isSeparator key = words := by
  have hpiece {word : List Char} (hword : isWord word = true) :
      Text.pieces isSeparator word = [word] :=
    Text.pieces_of_all_false fun c hc =>
      not_isSeparator_of_isAlphanum (isAlphanum_of_isWord hword c hc)
  induction h with
  | word h => exact hpiece h
  | join h hseparator _ ih =>
    rw [Text.pieces_append _ _ hseparator, hpiece h, ih]
    rfl

/-- A word with a capital, which shows the letter that it is the capital of. -/
theorem capitalize_of_isWord (h : isWord word = true) : ∃ u c cs, word = c :: cs ∧
    capitalize word = u :: cs ∧ u.isUpper = true ∧ Text.toLower u = [c] := by
  obtain ⟨c, cs, rfl, hc, -⟩ := exists_of_isWord h
  obtain ⟨u, hu, hupper, hback⟩ := Text.toUpper_of_isLower hc
  exact ⟨u, c, cs, rfl, by rw [capitalize, hupper, List.singleton_append], hu, hback⟩

private theorem isUpper_head?_flatMap (h : ∀ word ∈ words, isWord word = true) :
    ∀ c ∈ (words.flatMap capitalize).head?, c.isUpper = true := by
  cases words with
  | nil => simp
  | cons word words =>
    obtain ⟨u, c, cs, -, hcapital, hu, -⟩ := capitalize_of_isWord (h word List.mem_cons_self)
    simpa [hcapital] using hu

/-- What has no capitals ends where the first one stands. -/
theorem small_cancel {cs ds r s : List Char} (hcs : ∀ c ∈ cs, c.isUpper = false)
    (hds : ∀ c ∈ ds, c.isUpper = false) (hr : ∀ c ∈ r.head?, c.isUpper = true)
    (hs : ∀ c ∈ s.head?, c.isUpper = true) (h : cs ++ r = ds ++ s) : cs = ds ∧ r = s := by
  have hsmall {cs r : List Char} (hcs : ∀ c ∈ cs, c.isUpper = false)
      (hr : ∀ c ∈ r.head?, c.isUpper = true) : (cs ++ r).takeWhile (!·.isUpper) = cs := by
    rw [List.takeWhile_append_of_pos fun c hc => by simp [hcs c hc]]
    cases r with
    | nil => simp
    | cons c r => simp [hr c rfl]
  have hsame : cs = ds := (hsmall hcs hr).symm.trans (h ▸ hsmall hds hs)
  exact ⟨hsame, List.append_cancel_left (hsame ▸ h)⟩

private theorem eq_of_flatMap_capitalize_eq (h : ∀ word ∈ words, isWord word = true)
    (h' : ∀ word ∈ words', isWord word = true)
    (heq : words.flatMap capitalize = words'.flatMap capitalize) : words = words' := by
  induction words generalizing words' with
  | nil =>
    cases words' with
    | nil => rfl
    | cons word' words' =>
      obtain ⟨u, c, cs, -, hcapital, -⟩ := capitalize_of_isWord (h' word' List.mem_cons_self)
      simp [hcapital] at heq
  | cons word words ih =>
    obtain ⟨hword, hwords⟩ := List.forall_mem_cons.mp h
    obtain ⟨u, c, cs, rfl, hcapital, -, hback⟩ := capitalize_of_isWord hword
    cases words' with
    | nil => simp [hcapital] at heq
    | cons word' words' =>
      obtain ⟨hword', hwords'⟩ := List.forall_mem_cons.mp h'
      obtain ⟨u', c', cs', rfl, hcapital', -, hback'⟩ := capitalize_of_isWord hword'
      rw [List.flatMap_cons, List.flatMap_cons, hcapital, hcapital'] at heq
      obtain ⟨rfl, htail⟩ := List.cons.inj heq
      obtain ⟨rfl, hrest⟩ := small_cancel
        (fun d hd => not_isUpper_of_isWord hword d (List.mem_cons_of_mem c hd))
        (fun d hd => not_isUpper_of_isWord hword' d (List.mem_cons_of_mem c' hd))
        (isUpper_head?_flatMap hwords) (isUpper_head?_flatMap hwords') htail
      obtain ⟨rfl, -⟩ := List.cons.inj (hback.symm.trans hback')
      rw [ih hwords hwords' hrest]

theorem IsConventional.camelChars_eq (h : IsConventional words key) :
    ∃ first others, words = first :: others ∧ camelChars key = first ++ others.flatMap capitalize := by
  obtain ⟨first, others, rfl⟩ : ∃ first others, words = first :: others := by
    cases h <;> exact ⟨_, _, rfl⟩
  obtain ⟨c, cs, rfl, hc, -⟩ := exists_of_isWord (h.isWord_of_mem first List.mem_cons_self)
  have hchars : camelChars key = decapitalize (c :: (cs ++ others.flatMap capitalize)) := by
    rw [camelChars, h.pieces_eq]
    rfl
  refine ⟨_, others, rfl, ?_⟩
  rw [hchars, decapitalize, Text.toLower_of_isLower hc]
  rfl

theorem IsConventional.isAlphanum_camelChars (h : IsConventional words key) :
    ∀ c ∈ camelChars key, c.isAlphanum = true := by
  obtain ⟨first, others, rfl, hname⟩ := h.camelChars_eq
  obtain ⟨hfirst, hothers⟩ := List.forall_mem_cons.mp h.isWord_of_mem
  intro d hd
  rw [hname, List.mem_append, List.mem_flatMap] at hd
  rcases hd with hd | ⟨word, hword, hd⟩
  · exact isAlphanum_of_isWord hfirst d hd
  · obtain ⟨u, c, cs, rfl, hcapital, hu, -⟩ := capitalize_of_isWord (hothers word hword)
    rw [hcapital] at hd
    rcases List.mem_cons.mp hd with rfl | hd
    · exact Text.isAlphanum_iff.mpr (.inl hu)
    · exact isAlphanum_of_isWord (hothers _ hword) d (List.mem_cons_of_mem c hd)

/-- The words of a key can be told from its name. -/
theorem IsConventional.camelChars_eq_iff (h : IsConventional words key)
    (h' : IsConventional words' key') : camelChars key = camelChars key' ↔ words = words' := by
  constructor
  · intro heq
    obtain ⟨first, others, rfl, hname⟩ := h.camelChars_eq
    obtain ⟨first', others', rfl, hname'⟩ := h'.camelChars_eq
    obtain ⟨hfirst, hothers⟩ := List.forall_mem_cons.mp h.isWord_of_mem
    obtain ⟨hfirst', hothers'⟩ := List.forall_mem_cons.mp h'.isWord_of_mem
    rw [hname, hname'] at heq
    obtain ⟨rfl, hrest⟩ := small_cancel (not_isUpper_of_isWord hfirst)
      (not_isUpper_of_isWord hfirst') (isUpper_head?_flatMap hothers)
      (isUpper_head?_flatMap hothers') heq
    rw [eq_of_flatMap_capitalize_eq hothers hothers' hrest]
  · rintro rfl
    rw [camelChars, camelChars, h.pieces_eq, h'.pieces_eq]

end VersionCatalog.Naming
