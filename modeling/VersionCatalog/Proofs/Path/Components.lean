import VersionCatalog.Proofs.Path.FileName

namespace VersionCatalog.Path

variable {base path : Path}

/-- The pieces of a path that name something. -/
def components (p : Path) : List (List Char) :=
  p.segments.filter isName

theorem eq_of_text (h : base.text = path.text) : base = path := by
  cases base
  cases path
  exact congrArg mk h

theorem components_join (h : path.isAbsolute = false) :
    (base.join path).components = base.components ++ path.components := by
  obtain ⟨before, slashes, hbase, hslashes, hjoin⟩ := segments_join base
  have hnothing : slashes.filter isName = [] := by
    rw [List.filter_eq_nil_iff]
    intro segment hsegment
    simp [hslashes segment hsegment, isName]
  rw [components, components, hjoin path h, hbase, List.filter_append, List.filter_append,
    hnothing, List.append_nil, components]

theorem isAbsolute_join (base path : Path) :
    (base.join path).isAbsolute = (path.isAbsolute || base.isAbsolute) := by
  rw [join]
  cases hpath : path.isAbsolute with
  | true => simp [hpath]
  | false =>
    rw [isAbsolute] at hpath
    cases hbase : base.text.toList with
    | nil => simp [isAbsolute, isOpen, hbase, hpath]
    | cons c cs => cases hopen : base.isOpen <;> simp [isAbsolute, hbase]

theorem isAbsolute_join_of_base (h : base.isAbsolute = true) (path : Path) :
    (base.join path).isAbsolute = true := by
  rw [isAbsolute_join, h, Bool.or_true]

theorem join_of_isAbsolute (base : Path) (h : path.isAbsolute = true) : base.join path = path :=
  if_pos h

/-- What stands between a base and a relative path that is joined to it. -/
def slashAfter (base : Path) : String :=
  if base.isOpen then "" else "/"

theorem text_join (base : Path) (h : path.isAbsolute = false) :
    (base.join path).text = base.text ++ (base.slashAfter ++ path.text) := by
  rw [join, if_neg (by simp [h]), slashAfter]
  split
  · simp
  · exact String.append_assoc

theorem utf8ByteSize_join (base : Path) (h : path.isAbsolute = false) :
    (base.join path).text.utf8ByteSize =
      base.text.utf8ByteSize + (base.slashAfter.utf8ByteSize + path.text.utf8ByteSize) := by
  rw [text_join base h, String.utf8ByteSize_append, String.utf8ByteSize_append]

private theorem slashAfter_join (h : path.isAbsolute = false) :
    (base.join path).slashAfter = path.slashAfter := by
  have htext := congrArg String.toList (text_join base h)
  have hopen : (base.join path).isOpen = path.isOpen := by
    rw [isOpen, isOpen, htext, String.toList_append, String.toList_append, List.getLast?_append,
      List.getLast?_append]
    cases hlast : path.text.toList.getLast? with
    | some c => rfl
    | none =>
      -- an empty path leaves the base with a slash at its end, or empty
      rw [slashAfter, isOpen]
      cases base.text.toList.getLast? with
      | none => rfl
      | some c => by_cases hc : c = '/' <;> simp [hc]
  rw [slashAfter, slashAfter, hopen]

theorem join_assoc (base path other : Path) :
    (base.join path).join other = base.join (path.join other) := by
  cases hother : other.isAbsolute with
  | true => rw [join_of_isAbsolute _ hother, join_of_isAbsolute _ hother,
      join_of_isAbsolute _ hother]
  | false =>
    cases hpath : path.isAbsolute with
    | true =>
      have habsolute : (path.join other).isAbsolute = true := by simp [isAbsolute_join, hpath]
      rw [join_of_isAbsolute _ hpath, join_of_isAbsolute _ habsolute]
    | false =>
      have hrelative : (path.join other).isAbsolute = false := by
        simp [isAbsolute_join, hpath, hother]
      apply eq_of_text
      rw [text_join _ hother, text_join _ hpath, slashAfter_join hpath, text_join _ hrelative,
        text_join _ hother]
      simp only [String.append_assoc]

end VersionCatalog.Path
