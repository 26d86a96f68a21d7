import Mathlib.Data.List.TakeDrop
import VersionCatalog.Proofs.Toml.BasicString
import VersionCatalog.Proofs.Toml.PlainTable

namespace VersionCatalog.Toml

/-- Items with a comma and a blank between two of them. -/
def commaSeparated (items : List (List Char)) : List Char :=
  List.intercalate [',', ' '] items

@[simp] theorem commaSeparated_nil : commaSeparated [] = [] := rfl

@[simp] theorem commaSeparated_singleton (item : List Char) : commaSeparated [item] = item := by
  simp [commaSeparated]

@[simp] theorem commaSeparated_cons_cons (a b : List Char) (l : List (List Char)) :
    commaSeparated (a :: b :: l) = a ++ ',' :: ' ' :: commaSeparated (b :: l) := by
  simp [commaSeparated, List.intercalate_cons_cons]

/-- There are not more items than characters. -/
theorem length_le_commaSeparated {items : List (List Char)} (h : ∀ item ∈ items, item ≠ []) :
    items.length ≤ (commaSeparated items).length := by
  induction items with
  | nil => simp
  | cons item items ih =>
    have hitem : 0 < item.length := List.length_pos_iff.mpr (h item (by simp))
    have hitems := ih fun i hi => h i (by simp [hi])
    cases items with
    | nil => simpa using Nat.succ_le_of_lt hitem
    | cons next items =>
      simp only [commaSeparated_cons_cons, List.length_append, List.length_cons] at hitems ⊢
      omega

def writeArray (texts : List String) : List Char :=
  '[' :: commaSeparated (texts.map basicString) ++ [']']

/-- The name of a field: bare, or a basic string like every other key. -/
def writeName (bare : Bool) (name : String) : List Char :=
  if bare then name.toList else basicString name

def writeAssignment (key value : List Char) : List Char :=
  key ++ [' ', '=', ' '] ++ value

def writeFields (bare : Bool) (fields : List (String × List Char)) : List Char :=
  commaSeparated (fields.map fun field => writeAssignment (writeName bare field.1) field.2)

def writeTable (bare : Bool) (fields : List (String × List Char)) : List Char :=
  ['{', ' '] ++ writeFields bare fields ++ [' ', '}']

/-- The characters that a written key begins with. -/
def startsKey (c : Char) : Bool :=
  c == '"' || isBareKeyChar c

/-- A text is read as a key up to a character that cannot continue it. -/
structure ReadsKey (text : List Char) (name : String) : Prop where
  start : ∃ c cs, text = c :: cs ∧ startsKey c = true
  read : ∀ {c : Char}, isBareKeyChar c = false → ∀ rest,
    key? (text ++ c :: rest) = some (name, c :: rest)

/-- A text is read as a value before anything that does not begin with a quote. -/
structure ReadsValue (depth : Nat) (text : List Char) (node : Node) : Prop where
  start : ∀ rest, skipBlanks (text ++ rest) = text ++ rest
  read : ∀ rest, rest.head? ≠ some '"' → value? depth (text ++ rest) = some (node, rest)

theorem skipBlanks_cons {c : Char} (h : isBlankChar c = false) (cs : List Char) :
    skipBlanks (c :: cs) = c :: cs := by
  simp [skipBlanks, h]

theorem ne_of_startsKey {c d : Char} (h : startsKey c = true) (hd : startsKey d = false) :
    c ≠ d := by
  rintro rfl
  simp [h] at hd

theorem skipBlanks_of_startsKey {text : List Char}
    (h : ∃ c cs, text = c :: cs ∧ startsKey c = true) (rest : List Char) :
    skipBlanks (text ++ rest) = text ++ rest := by
  obtain ⟨c, cs, rfl, hc⟩ := h
  have hspace := ne_of_startsKey (d := ' ') hc (by decide)
  have htab := ne_of_startsKey (d := '\t') hc (by decide)
  exact skipBlanks_cons (by simp [isBlankChar, hspace, htab]) _

theorem readsKey_basicString (name : String) : ReadsKey (basicString name) name where
  start := ⟨'"', _, rfl, by decide⟩
  read := by
    intro c _ rest
    have hline := lineString?_written name (c :: rest)
    simpa [basicString, key?] using hline

def isBareName (name : String) : Bool :=
  !name.toList.isEmpty && name.toList.all isBareKeyChar

private theorem isBareName_iff {name : String} : isBareName name = true ↔
    name.toList ≠ [] ∧ ∀ c ∈ name.toList, isBareKeyChar c = true := by
  simp only [isBareName, Bool.and_eq_true, Bool.not_eq_true', List.isEmpty_eq_false_iff,
    List.all_eq_true]

theorem readsKey_bare {name : String} (h : isBareName name = true) :
    ReadsKey name.toList name := by
  obtain ⟨hfull, hbare⟩ := isBareName_iff.mp h
  obtain ⟨first, others, hname⟩ := List.exists_cons_of_ne_nil hfull
  have hfirst : isBareKeyChar first = true := hbare first (by simp [hname])
  constructor
  · exact ⟨first, others, hname, by simp [startsKey, hfirst]⟩
  · intro c hc rest
    have hspan : (name.toList ++ c :: rest).span isBareKeyChar = (name.toList, c :: rest) := by
      rw [List.span_eq_takeWhile_dropWhile, List.takeWhile_append_of_pos hbare,
        List.dropWhile_append_of_pos hbare]
      simp [hc]
    have hne {c : Char} (hc : isBareKeyChar c = false) : first ≠ c := by
      rintro rfl
      simp [hc] at hfirst
    have hquote := hne (c := '"') (by decide)
    have hsingle := hne (c := '\'') (by decide)
    rw [hname] at hspan ⊢
    rw [List.cons_append, key?, if_neg (by simp [hquote, hsingle]), ← List.cons_append, hspan,
      ← String.ofList_toList (s := name), hname]
    rfl

/-- Keys with a dot between two of them. -/
def dotted (keys : List (List Char)) : List Char :=
  List.intercalate ['.'] keys

/-- A text is read as a path of keys up to a character that cannot continue it, even after blanks. -/
structure ReadsPath (text : List Char) (path : KeyPath) : Prop where
  start : ∃ c cs, text = c :: cs ∧ startsKey c = true
  read : ∀ {c d : Char} {rest after : List Char}, isBareKeyChar c = false →
    skipBlanks (c :: rest) = d :: after → d ≠ '.' →
    keyPath? (text ++ c :: rest) = some (path, d :: after)

private theorem keys?_dotted {texts : List (List Char)} {names : List String}
    (h : List.Forall₂ ReadsKey texts names) (hne : texts ≠ []) {fuel : Nat}
    (hfuel : texts.length ≤ fuel) {c d : Char} {rest after : List Char}
    (hc : isBareKeyChar c = false) (hnext : skipBlanks (c :: rest) = d :: after) (hd : d ≠ '.') :
    keys? fuel (dotted texts ++ c :: rest) = some (names, d :: after) := by
  -- every key takes one unit of fuel, so the fuel varies with the keys
  induction h generalizing fuel with
  | nil => exact absurd rfl hne
  | @cons text name texts names hkey hothers ih =>
    obtain ⟨fuel, rfl⟩ : ∃ n, fuel = n + 1 := by
      refine ⟨fuel - 1, ?_⟩
      rw [List.length_cons] at hfuel
      omega
    have hblanks := skipBlanks_of_startsKey hkey.start
    cases hothers with
    | nil => simp [dotted, keys?, hblanks, hkey.read hc, hnext, hd]
    | @cons next name' texts names hkey' hothers =>
      have hread := ih (by simp) (Nat.le_of_succ_le_succ hfuel)
      have hdot (tail : List Char) : key? (text ++ '.' :: tail) = some (name, '.' :: tail) :=
        hkey.read (by decide) tail
      rw [dotted] at hread
      simp [dotted, List.intercalate_cons_cons, keys?, hblanks, hdot, skipBlanks_cons,
        isBlankChar, hread]

/-- Written keys are read as the path that the keys form. -/
theorem readsPath_dotted {texts : List (List Char)} {names : List String} {path : KeyPath}
    (h : List.Forall₂ ReadsKey texts names) (hpath : KeyPath.ofKeys? names = some path) :
    ReadsPath (dotted texts) path where
  start := by
    cases h with
    | nil => cases hpath
    | @cons text name texts names hkey hothers =>
      obtain ⟨c, cs, rfl, hc⟩ := hkey.start
      cases texts with
      | nil => exact ⟨c, cs, by simp [dotted], hc⟩
      | cons next texts => exact ⟨c, _, by simp [dotted, List.intercalate_cons_cons]; rfl, hc⟩
  read := by
    intro c d rest after hc hnext hd
    have hne : texts ≠ [] := by
      rintro rfl
      cases h
      cases hpath
    have hfuel : texts.length ≤ KeyPath.limit := by
      rw [h.length_eq]
      rw [KeyPath.ofKeys?] at hpath
      split_ifs at hpath with hlength
      exact Nat.le_of_lt hlength
    rw [keyPath?, keys?_dotted h hne hfuel hc hnext hd]
    simp [hpath]

theorem ReadsKey.path {text : List Char} {name : String} (h : ReadsKey text name) :
    ReadsPath text ⟨[], name⟩ := by
  have hpath := readsPath_dotted (.cons h .nil) rfl
  rwa [dotted, List.intercalate_singleton] at hpath

theorem assignment?_written {depth : Nat} {text value : List Char} {path : KeyPath} {node : Node}
    (hpath : ReadsPath text path) (hvalue : ReadsValue depth value node) (rest : List Char)
    (hrest : rest.head? ≠ some '"') :
    assignment? (value? depth) (writeAssignment text value ++ rest) = some ((path, node), rest) := by
  have hblank : skipBlanks (' ' :: (value ++ rest)) = value ++ rest := hvalue.start rest
  have hequals : skipBlanks (' ' :: '=' :: ' ' :: (value ++ rest)) =
      '=' :: ' ' :: (value ++ rest) := rfl
  have hread := hpath.read (by decide) hequals (by decide)
  have htext : writeAssignment text value ++ rest = text ++ ' ' :: '=' :: ' ' :: (value ++ rest) := by
    simp [writeAssignment]
  rw [htext, assignment?, hread]
  simp [hblank, hvalue.read rest hrest]

theorem readsValue_basicString (depth : Nat) (text : String) :
    ReadsValue depth (basicString text) (.string text) where
  start rest := skipBlanks_cons (by decide) _
  read := by
    intro rest hrest
    have hstring := string?_written text hrest
    have hscalar : value? depth (basicString text ++ rest) =
        scalarValue? (basicString text ++ rest) := by
      cases depth <;> simp [basicString, value?]
    rw [hscalar]
    simp [basicString, scalarValue?, hstring]

private theorem items?_blank (read : List Char → Option (Node × List Char)) (fuel : Nat)
    (cs : List Char) : items? read fuel (' ' :: cs) = items? read fuel cs := by
  cases fuel <;> simp [items?, skipLines, isBlankChar]

private theorem items?_written (depth : Nat) {fuel : Nat} {texts : List String}
    (h : texts.length < fuel)
    (rest : List Char) :
    items? (value? depth) fuel (commaSeparated (texts.map basicString) ++ ']' :: rest) =
      some (texts.map .string, rest) := by
  -- every string takes one unit of fuel, so the fuel varies with the strings
  induction texts generalizing fuel with
  | nil =>
    obtain ⟨fuel, rfl⟩ := Nat.exists_eq_succ_of_ne_zero (Nat.ne_of_gt h)
    simp [items?, skipLines, isBlankChar]
  | cons text texts ih =>
    obtain ⟨fuel, rfl⟩ := Nat.exists_eq_succ_of_ne_zero (Nat.ne_of_gt (Nat.zero_lt_of_lt h))
    have hstart (tail : List Char) :
        skipLines false (basicString text ++ tail) = '"' :: (writeChars text.toList ++ '"' :: tail) := by
      simp [basicString, skipLines, isBlankChar]
    have hvalue {c : Char} (hc : c ≠ '"') (tail : List Char) :
        value? depth ('"' :: (writeChars text.toList ++ '"' :: c :: tail)) =
          some (.string text, c :: tail) := by
      have hread := (readsValue_basicString depth text).read (c :: tail) (by simpa using hc)
      simpa [basicString] using hread
    cases texts with
    | nil =>
      have hclose := hvalue (c := ']') (by decide) rest
      simp [items?, hstart, hclose, skipLines, isBlankChar]
    | cons next texts =>
      have hlength : (next :: texts).length < fuel := by simpa using h
      have hothers := ih hlength
      have hcomma := hvalue (c := ',') (by decide)
        (' ' :: (commaSeparated ((next :: texts).map basicString) ++ ']' :: rest))
      rw [List.map_cons] at hothers hcomma
      simp [items?, hstart, hcomma, skipLines, isBlankChar, items?_blank, hothers]

theorem readsValue_writeArray (depth : Nat) (texts : List String) :
    ReadsValue (depth + 1) (writeArray texts) (.array (texts.map .string)) where
  start rest := skipBlanks_cons (by decide) _
  read := by
    intro rest _
    have hne : ∀ item ∈ texts.map basicString, item ≠ [] := by simp [basicString]
    have hitems := length_le_commaSeparated hne
    rw [List.length_map] at hitems
    have hfuel : texts.length <
        (commaSeparated (texts.map basicString) ++ ']' :: rest).length := by
      rw [List.length_append, List.length_cons]
      omega
    simp only [writeArray, List.cons_append, List.append_assoc, List.nil_append, value?,
      items?_written depth hfuel rest, Option.map_some]

theorem readsKey_writeName (bare : Bool) {name : String} (h : isBareName name = true) :
    ReadsKey (writeName bare name) name := by
  cases bare with
  | false => exact readsKey_basicString name
  | true => exact readsKey_bare h

/-- Written fields, and the names and nodes that they stand for. -/
def ReadsFields (depth : Nat) : List (String × List Char) → List (String × Node) → Prop :=
  List.Forall₂ fun field entry =>
    field.1 = entry.1 ∧ isBareName field.1 = true ∧ ReadsValue depth field.2 entry.2

theorem ReadsFields.field {depth : Nat} {name : String} {value : List Char} {node : Node}
    {fields : List (String × List Char)} {entries : List (String × Node)} (hname : isBareName name = true)
    (hvalue : ReadsValue depth value node) (h : ReadsFields depth fields entries) :
    ReadsFields depth ((name, value) :: fields) ((name, node) :: entries) :=
  .cons ⟨rfl, hname, hvalue⟩ h

private theorem assignments?_blank (read : List Char → Option (Node × List Char)) (fuel : Nat)
    (cs : List Char) : assignments? read fuel (' ' :: cs) = assignments? read fuel cs := by
  cases fuel <;> rfl

private theorem assignments?_written (bare : Bool) {depth fuel : Nat}
    {fields : List (String × List Char)}
    {entries : List (String × Node)} (h : ReadsFields depth fields entries) (hne : fields ≠ [])
    (hfuel : fields.length ≤ fuel) (rest : List Char) :
    assignments? (value? depth) fuel (writeFields bare fields ++ ' ' :: '}' :: rest) =
      some (entries.map plainAssignment, rest) := by
  induction h generalizing fuel with
  | nil => exact absurd rfl hne
  | @cons field entry fields entries hfield hothers ih =>
    obtain ⟨fuel, rfl⟩ : ∃ n, fuel = n + 1 := by
      refine ⟨fuel - 1, ?_⟩
      rw [List.length_cons] at hfuel
      omega
    obtain ⟨hname, hbare, hvalue⟩ := hfield
    have hassign {c : Char} (hc : c ≠ '"') (tail : List Char) :
        assignment? (value? depth) (writeAssignment (writeName bare field.1) field.2 ++ c :: tail) =
          some (plainAssignment entry, c :: tail) := by
      have hkey := readsKey_writeName bare hbare
      have hread := assignment?_written hkey.path hvalue (c :: tail) (by simpa using hc)
      simpa [plainAssignment, hname] using hread
    cases hothers with
    | nil =>
      have hclose := hassign (c := ' ') (by decide) ('}' :: rest)
      simp [writeFields, assignments?, hclose, skipBlanks, isBlankChar]
    | @cons next entry' fields entries hnext hothers =>
      have hlength : (next :: fields).length ≤ fuel := by simpa using hfuel
      have hread := ih (by simp) hlength
      have hcomma := hassign (c := ',') (by decide)
        (' ' :: (writeFields bare (next :: fields) ++ ' ' :: '}' :: rest))
      rw [writeFields, List.map_cons] at hread hcomma
      simp [writeFields, assignments?, hcomma, skipBlanks, isBlankChar, assignments?_blank, hread]

private theorem length_le_writeFields (bare : Bool) (fields : List (String × List Char)) :
    fields.length ≤ (writeFields bare fields).length := by
  have hne : ∀ item ∈ fields.map fun field =>
      writeAssignment (writeName bare field.1) field.2, item ≠ [] := by
    intro item hitem
    obtain ⟨field, -, rfl⟩ := List.mem_map.mp hitem
    simp [writeAssignment]
  simpa [writeFields] using length_le_commaSeparated hne

/-- Fields begin as the name of the first one does. -/
theorem writeFields_start (bare : Bool) {depth : Nat} {fields : List (String × List Char)}
    {entries : List (String × Node)} (h : ReadsFields depth fields entries) (hne : fields ≠ []) :
    ∃ c cs, writeFields bare fields = c :: cs ∧ startsKey c = true := by
  cases h with
  | nil => exact absurd rfl hne
  | @cons field entry fields entries hfield hothers =>
    obtain ⟨-, hbare, -⟩ := hfield
    obtain ⟨c, cs, hname, hc⟩ := (readsKey_writeName bare hbare).start
    cases fields with
    | nil => exact ⟨c, _, by simp [writeFields, writeAssignment, hname]; rfl, hc⟩
    | cons next fields => exact ⟨c, _, by simp [writeFields, writeAssignment, hname]; rfl, hc⟩

theorem readsValue_writeTable (bare : Bool) {depth : Nat} {fields : List (String × List Char)}
    {entries : List (String × Node)} (h : ReadsFields depth fields entries) (hne : fields ≠ [])
    (hkeys : (entries.map Prod.fst).Nodup) :
    ReadsValue (depth + 1) (writeTable bare fields) (.table entries) where
  start rest := skipBlanks_cons (by decide) _
  read := by
    intro rest _
    have hstart := writeFields_start bare h hne
    have hskip := skipBlanks_of_startsKey hstart (' ' :: '}' :: rest)
    obtain ⟨c, cs, hfields, hc⟩ := hstart
    have hfull : c ≠ '}' := ne_of_startsKey hc (by decide)
    have hfuel : fields.length ≤ cs.length + (rest.length + 2) + 1 := by
      have hlength := length_le_writeFields bare fields
      rw [hfields, List.length_cons] at hlength
      omega
    have hread := assignments?_written bare h hne hfuel rest
    have hvalue : value? (depth + 1) (writeTable bare fields ++ rest) =
        inlineTable? (value? depth) (' ' :: (writeFields bare fields ++ ' ' :: '}' :: rest)) := by
      simp [writeTable, value?]
    have htable : Entries.ofAssignments (entries.map plainAssignment) [] =
        some ([] ++ entries.map plainEntry) := ofAssignments_plain (by simpa using hkeys)
    have hblank : skipBlanks (' ' :: (writeFields bare fields ++ ' ' :: '}' :: rest)) =
        writeFields bare fields ++ ' ' :: '}' :: rest := hskip
    rw [hfields, List.cons_append] at hread hblank
    rw [hvalue, inlineTable?, hfields, List.cons_append, hblank]
    simp [hfull, hread, htable, entryNodes_plain]

end VersionCatalog.Toml
