import Mathlib.Tactic.SplitIfs
import VersionCatalog.Proofs.Toml.SoundEntries

namespace VersionCatalog.Toml

variable {P : String → Prop} {draft : Draft} {path : KeyPath} {root : Entries}

private theorem soundEntries_assign {node : Node} {entries entries' : Entries}
    (h : Entries.assign path node entries = some entries') (hentries : SoundEntries P entries)
    (hnode : node.IsSound P) : SoundEntries P entries' := by
  refine soundEntries_modifyAt h hentries ?_
  intro origin table hbefore hafter
  split at hafter
  · cases hafter
  · rename_i hfree
    simp only [Bool.or_eq_true, not_or, Option.isSome_iff_ne_none, not_not] at hfree
    cases hafter
    exact soundEntries_append hbefore hnode (KeyedList.lookup_eq_none_iff.mp hfree.2)

theorem soundEntries_ofAssignments {assignments : List (KeyPath × Node)}
    {entries entries' : Entries} (h : Entries.ofAssignments assignments entries = some entries')
    (hentries : SoundEntries P entries) (hnodes : ∀ a ∈ assignments, a.2.IsSound P) :
    SoundEntries P entries' := by
  induction assignments generalizing entries with
  | nil =>
    cases h
    exact hentries
  | cons a assignments ih =>
    obtain ⟨hnode, hothers⟩ := List.forall_mem_cons.mp hnodes
    obtain ⟨next, hassign, hrest⟩ := Option.bind_eq_some_iff.mp h
    exact ih hrest (soundEntries_assign hassign hentries hnode) hothers

/-- A statement that brings a sound node into the document, or none. -/
def Statement.IsSound (P : String → Prop) : Statement → Prop
  | .assignment _ node => node.IsSound P
  | _ => True

/-- A draft of sound tables. A table that has a header of its own is missing in its parent as long as
it is open. -/
structure Draft.IsSound (P : String → Prop) (draft : Draft) : Prop where
  root : SoundEntries P draft.root
  here : SoundEntries P draft.here
  free : ∀ path, draft.place = .entry path →
    path.name ∉ (Draft.tableAt path.parents draft.root).map Prod.fst

theorem Draft.IsSound.close (hdraft : draft.IsSound P) (h : draft.close = some root) :
    SoundEntries P root := by
  rw [Draft.close] at h
  split at h
  case h_1 =>
    cases h
    exact hdraft.here
  case h_2 path hplace =>
    refine soundEntries_modifyAt h hdraft.root ?_
    intro origin table hbefore hafter
    cases hafter
    exact soundEntries_append hbefore hdraft.here (hdraft.free path hplace)
  case h_3 path hplace =>
    refine soundEntries_modifyAt h hdraft.root ?_
    intro origin table hbefore hafter
    split at hafter
    · rename_i elements hlookup
      cases hafter
      have helements := isSound_tables.mp (isSound_of_lookup hbefore hlookup)
      refine soundEntries_put hbefore (isSound_tables.mpr ?_)
      exact List.forall_mem_append.mpr ⟨helements, List.forall_mem_singleton.mpr hdraft.here⟩
    · cases hafter

private theorem isSound_of_openTable (h : Draft.openTable path root = some draft)
    (hroot : SoundEntries P root) : draft.IsSound P := by
  obtain ⟨here, hhere, h⟩ := Option.bind_eq_some_iff.mp h
  obtain ⟨root', hmodify, heq⟩ := Option.bind_eq_some_iff.mp h
  cases heq
  have hparent := soundEntries_tableAt hroot path.parents
  constructor
  · refine soundEntries_modifyAt hmodify hroot ?_
    intro origin table hbefore hafter
    cases hafter
    exact soundEntries_erase hbefore path.name
  · rw [Draft.continued?] at hhere
    split at hhere
    · cases hhere
      exact soundEntries_nil
    · rename_i entries hlookup
      cases hhere
      exact isSound_of_lookup hparent hlookup
    · cases hhere
  · intro path' hplace
    cases hplace
    obtain ⟨origin, hchange⟩ := exists_change hmodify
    rw [← Option.some.inj hchange]
    exact notMem_keys_erase path.name _

private theorem isSound_of_openElement (h : Draft.openElement path root = some draft)
    (hroot : SoundEntries P root) : draft.IsSound P := by
  obtain ⟨root', hmodify, heq⟩ := Option.bind_eq_some_iff.mp h
  cases heq
  refine ⟨?_, soundEntries_nil, fun path' hplace => by cases hplace⟩
  refine soundEntries_modifyAt hmodify hroot ?_
  intro origin table hbefore hafter
  split at hafter
  · rename_i hlookup
    cases hafter
    exact soundEntries_append hbefore (isSound_tables.mpr (by simp))
      (KeyedList.lookup_eq_none_iff.mp hlookup)
  · cases hafter
    exact hbefore
  · cases hafter

theorem Draft.IsSound.add {next : Draft} {statement : Statement} (hdraft : draft.IsSound P)
    (hstatement : statement.IsSound P) (h : draft.add statement = some next) : next.IsSound P := by
  cases statement with
  | assignment path node =>
    obtain ⟨here, hassign, rfl⟩ := Option.map_eq_some_iff.mp h
    exact ⟨hdraft.root, soundEntries_assign hassign hdraft.here hstatement, hdraft.free⟩
  | tableHeader path =>
    obtain ⟨root, hclose, hopen⟩ := Option.bind_eq_some_iff.mp h
    exact isSound_of_openTable hopen (hdraft.close hclose)
  | elementHeader path =>
    obtain ⟨root, hclose, hopen⟩ := Option.bind_eq_some_iff.mp h
    exact isSound_of_openElement hopen (hdraft.close hclose)

theorem Draft.IsSound.addAll {last : Draft} {statements : List Statement}
    (hdraft : draft.IsSound P) (hstatements : ∀ statement ∈ statements, statement.IsSound P)
    (h : Draft.addAll statements draft = some last) : last.IsSound P := by
  induction statements generalizing draft with
  | nil =>
    cases h
    exact hdraft
  | cons statement statements ih =>
    obtain ⟨hstatement, hothers⟩ := List.forall_mem_cons.mp hstatements
    obtain ⟨next, hadd, hrest⟩ := Option.bind_eq_some_iff.mp h
    exact ih (hdraft.add hstatement hadd) hothers hrest

theorem isSound_of_ofStatements? {statements : List Statement} {document : Node}
    (h : ofStatements? statements = some document)
    (hstatements : ∀ statement ∈ statements, statement.IsSound P) : document.IsSound P := by
  obtain ⟨draft, hadd, h⟩ := Option.bind_eq_some_iff.mp h
  obtain ⟨entries, hclose, heq⟩ := Option.bind_eq_some_iff.mp h
  cases heq
  have hempty : Draft.IsSound P {} :=
    ⟨soundEntries_nil, soundEntries_nil, fun path hplace => by cases hplace⟩
  exact (hempty.addAll hstatements hadd).close hclose

end VersionCatalog.Toml
