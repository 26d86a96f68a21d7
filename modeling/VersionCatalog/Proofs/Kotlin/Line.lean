import Mathlib.Data.List.Forall2
import VersionCatalog.Kotlin.Source
import VersionCatalog.Proofs.Kotlin.Token

namespace VersionCatalog.Kotlin

/-- The tokens of a line, without the line feed that ends it. -/
abbrev TokenLine := List Token

/-- The tokens of lines one after the other, each followed by its line feed. -/
def unlineTokens (lines : List TokenLine) : List Token :=
  lines.flatMap (· ++ [.sign '\n'])

@[simp] theorem unlineTokens_nil : unlineTokens [] = [] := rfl

@[simp] theorem unlineTokens_cons (line : TokenLine) (lines : List TokenLine) :
    unlineTokens (line :: lines) = line ++ .sign '\n' :: unlineTokens lines := by
  simp [unlineTokens]

@[simp] theorem unlineTokens_append (a b : List TokenLine) :
    unlineTokens (a ++ b) = unlineTokens a ++ unlineTokens b := by
  simp [unlineTokens]

@[simp] theorem unlineTokens_flatMap {α : Type} (l : List α) (f : α → List TokenLine) :
    unlineTokens (l.flatMap f) = l.flatMap fun a => unlineTokens (f a) := by
  simp [unlineTokens, List.flatMap_assoc]

/-- A property of tokens that goes over from parts to the whole. -/
structure Additive (P : List Token → Prop) : Prop where
  nil : P []
  append : ∀ {a b : List Token}, P a → P b → P (a ++ b)

theorem additive_forall (p : Token → Prop) : Additive fun tokens => ∀ t ∈ tokens, p t :=
  ⟨by simp, fun ha hb => List.forall_mem_append.mpr ⟨ha, hb⟩⟩

section Additive

variable {P : List Token → Prop} (hP : Additive P)

include hP

theorem Additive.flatMap {α : Type} {l : List α} {f : α → List Token} (h : ∀ a ∈ l, P (f a)) :
    P (l.flatMap f) := by
  induction l with
  | nil => exact hP.nil
  | cons a l ih =>
    rw [List.flatMap_cons]
    exact hP.append (h a (by simp)) (ih fun b hb => h b (by simp [hb]))

variable (hfeed : P [.sign '\n'])

include hfeed

theorem Additive.unlineTokens {lines : List TokenLine} (h : ∀ line ∈ lines, P line) :
    P (unlineTokens lines) :=
  hP.flatMap fun line hline => hP.append (h line hline) hfeed

theorem Additive.intercalate {groups : List (List TokenLine)}
    (h : ∀ group ∈ groups, P (Kotlin.unlineTokens group)) :
    P (Kotlin.unlineTokens (List.intercalate [[]] groups)) := by
  induction groups with
  | nil => exact hP.nil
  | cons group groups ih =>
    have hgroup := h group (by simp)
    have hgroups := ih fun g hg => h g (by simp [hg])
    cases groups with
    | nil => simpa using hgroup
    | cons next groups =>
      have happend := hP.append hgroup (hP.append hfeed hgroups)
      simpa [List.intercalate_cons_cons] using happend

end Additive

/-- A line of whole tokens. -/
def ReadsLine (line : String) (tokens : TokenLine) : Prop :=
  Reads (line.toList ++ ['\n']) (tokens ++ [.sign '\n'])

instance (line : String) (tokens : TokenLine) : Decidable (ReadsLine line tokens) :=
  inferInstanceAs (Decidable (Reads _ _))

def ReadsLines : List String → List TokenLine → Prop :=
  List.Forall₂ ReadsLine

theorem Reads.line {line : String} {tokens : TokenLine} (h : Reads line.toList tokens) :
    ReadsLine line tokens :=
  h.append (reads_sign (c := '\n') (isSign_of_mem (by decide)))

theorem readsLine_empty : ReadsLine "" [] :=
  Reads.line reads_nil

theorem Reads.append_toList {a b : String} {s t : List Token} (ha : Reads a.toList s)
    (hb : Reads b.toList t) : Reads (a ++ b).toList (s ++ t) := by
  rw [String.toList_append]
  exact ha.append hb

theorem ReadsLine.append {a b : String} {s t : List Token} (ha : Reads a.toList s)
    (hb : ReadsLine b t) : ReadsLine (a ++ b) (s ++ t) := by
  have hread := Reads.append ha hb
  simpa [ReadsLine] using hread

theorem ReadsLine.indent {line : String} {tokens : TokenLine} (h : ReadsLine line tokens) :
    ReadsLine (indentLine line) tokens := by
  unfold indentLine
  split_ifs with hempty
  · exact h
  · have hblanks : Reads "    ".toList [] := by simp [Reads, signTokens]
    exact ReadsLine.append hblanks h

theorem ReadsLines.append {a b : List String} {s t : List TokenLine} (ha : ReadsLines a s)
    (hb : ReadsLines b t) : ReadsLines (a ++ b) (s ++ t) :=
  List.rel_append ha hb

/-- Deeper lines have the same tokens. -/
theorem ReadsLines.indent {lines : List String} {tokens : List TokenLine}
    (h : ReadsLines lines tokens) : ReadsLines (Kotlin.indent lines) tokens := by
  induction h with
  | nil => exact .nil
  | cons hline _ ih => exact .cons hline.indent ih

/-- Lines between a first and a last one, one level deeper. -/
theorem ReadsLines.block {first last : String} {lines : List String} {s t : TokenLine}
    {tokens : List TokenLine} (hfirst : ReadsLine first s) (h : ReadsLines lines tokens)
    (hlast : ReadsLine last t) :
    ReadsLines (first :: Kotlin.indent lines ++ [last]) (s :: tokens ++ [t]) :=
  .cons hfirst (h.indent.append (.cons hlast .nil))

theorem ReadsLines.flatMap {α β : Type} {R : α → β → Prop} {l : List α} {m : List β}
    {f : α → List String} {g : β → List TokenLine} (h : List.Forall₂ R l m)
    (hfg : ∀ a b, R a b → ReadsLines (f a) (g b)) : ReadsLines (l.flatMap f) (m.flatMap g) := by
  induction h with
  | nil => exact .nil
  | cons hab _ ih => exact (hfg _ _ hab).append ih

theorem ReadsLines.intercalate {groups : List (List String)} {tokens : List (List TokenLine)}
    (h : List.Forall₂ ReadsLines groups tokens) :
    ReadsLines (List.intercalate [""] groups) (List.intercalate [[]] tokens) := by
  induction h with
  | nil => exact .nil
  | cons hgroup hgroups ih =>
    cases hgroups with
    | nil => simpa [List.intercalate] using hgroup
    | cons _ _ =>
      simp only [List.intercalate_cons_cons, List.append_assoc] at ih ⊢
      exact hgroup.append (.cons readsLine_empty ih)

/-- The text of lines has the tokens of the lines. -/
theorem ReadsLines.unlines {lines : List String} {tokens : List TokenLine}
    (h : ReadsLines lines tokens) : Reads (Text.unlines lines).toList (unlineTokens tokens) := by
  rw [Text.toList_unlines]
  induction h with
  | nil => exact reads_nil
  | cons hline _ ih =>
    have hread := Reads.append hline ih
    simpa using hread

end VersionCatalog.Kotlin
