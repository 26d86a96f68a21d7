import Mathlib.Data.Set.List
import Mathlib.Tactic.Lift

namespace VersionCatalog.Text

variable {α β : Type}

/-- A code that shows where it ends: what goes on behind it cannot be taken for a part of it. -/
def SelfDelimiting (code : α → List β) : Prop :=
  ∀ ⦃a b : α⦄ ⦃r s : List β⦄, code a ++ r = code b ++ s → a = b ∧ r = s

/-- Codes one after the other show what they are, if no code begins where they end. -/
theorem SelfDelimiting.flatMap {code : α → List β} (h : SelfDelimiting code) {l m : List α}
    {r s : List β} (hr : ∀ a t, r ≠ code a ++ t) (hs : ∀ a t, s ≠ code a ++ t)
    (heq : l.flatMap code ++ r = m.flatMap code ++ s) : l = m ∧ r = s := by
  induction l generalizing m with
  | nil =>
    cases m with
    | nil => exact ⟨rfl, by simpa using heq⟩
    | cons b m =>
      simp only [List.flatMap_nil, List.nil_append, List.flatMap_cons, List.append_assoc] at heq
      exact absurd heq (hr b _)
  | cons a l ih =>
    cases m with
    | nil =>
      simp only [List.flatMap_nil, List.nil_append, List.flatMap_cons, List.append_assoc] at heq
      exact absurd heq.symm (hs a _)
    | cons b m =>
      simp only [List.flatMap_cons, List.append_assoc] at heq
      obtain ⟨rfl, hrest⟩ := h heq
      obtain ⟨rfl, hend⟩ := ih hrest
      exact ⟨rfl, hend⟩

/-- A line without line feeds in it shows where it ends. -/
theorem line_cancel {a b r s : List Char} (ha : '\n' ∉ a) (hb : '\n' ∉ b)
    (h : a ++ '\n' :: r = b ++ '\n' :: s) : a = b ∧ r = s := by
  induction a generalizing b with
  | nil =>
    cases b with
    | nil => exact ⟨rfl, by simpa using h⟩
    | cons d b =>
      obtain ⟨rfl, -⟩ := List.cons.inj h
      simp at hb
  | cons c a ih =>
    cases b with
    | nil =>
      obtain ⟨rfl, -⟩ := List.cons.inj h
      simp at ha
    | cons d b =>
      obtain ⟨rfl, htail⟩ := List.cons.inj h
      obtain ⟨rfl, hrest⟩ := ih (fun hc => ha (by simp [hc])) (fun hc => hb (by simp [hc])) htail
      exact ⟨rfl, hrest⟩

def IsLine (line : List Char) : Prop :=
  line ≠ [] ∧ '\n' ∉ line

instance (line : List Char) : Decidable (IsLine line) :=
  inferInstanceAs (Decidable (_ ∧ _))

private theorem selfDelimiting_line :
    SelfDelimiting fun line : { line : List Char // IsLine line } => line.1 ++ ['\n'] := by
  intro a b r s h
  simp only [List.append_assoc, List.singleton_append] at h
  obtain ⟨hab, hrs⟩ := line_cancel a.2.2 b.2.2 h
  exact ⟨Subtype.ext hab, hrs⟩

/-- Lines show what they are up to the next empty line. -/
theorem lines_cancel {l m : List (List Char)} {r s : List Char} (hl : ∀ line ∈ l, IsLine line)
    (hm : ∀ line ∈ m, IsLine line)
    (h : l.flatMap (· ++ ['\n']) ++ '\n' :: r = m.flatMap (· ++ ['\n']) ++ '\n' :: s) :
    l = m ∧ r = s := by
  lift l to List { line : List Char // IsLine line } using hl
  lift m to List { line : List Char // IsLine line } using hm
  simp only [List.flatMap_map] at h
  have hempty (line : { line : List Char // IsLine line }) (t u : List Char) :
      '\n' :: u ≠ (line.1 ++ ['\n']) ++ t := by
    obtain ⟨line, hne, hfeed⟩ := line
    cases line with
    | nil => exact absurd rfl hne
    | cons c line =>
      rintro heq
      obtain ⟨rfl, -⟩ := List.cons.inj heq
      simp at hfeed
  obtain ⟨rfl, hrest⟩ := selfDelimiting_line.flatMap (fun line t => hempty line t r)
    (fun line t => hempty line t s) h
  exact ⟨rfl, (List.cons.inj hrest).2⟩

end VersionCatalog.Text
