import VolumeBroker.Store.Basic
import Mathlib.Data.List.TakeWhile
/-!
# Segments of paths

A path is looked at in two ways: `FilePath.segments` lists the segments that name something, and
`FilePath.fileName?` takes the last one by itself. `segments_of_fileName?` says that the two agree, and
`segments_join` that a name put below a path becomes one segment more. Together they say where the
temporary file of a record file stands: not at the place of the record file.
-/

namespace VolumeBroker

namespace Split

theorem splitAt_append_sep (sep : Char) (before behind : List Char) :
    splitAt sep (before ++ sep :: behind) = splitAt sep before ++ splitAt sep behind := by
  induction before with
  | nil => simp [splitAt]
  | cons c before ih =>
    rw [List.cons_append, splitAt, splitAt, ih]
    split
    · rfl
    · -- the first piece of the front part takes the character, and there is one
      cases h : splitAt sep before with
      | nil => exact absurd h (splitAt_ne_nil sep before)
      | cons piece pieces => rfl

theorem splitAt_of_notMem {sep : Char} {text : List Char} (h : sep ∉ text) :
    splitAt sep text = [text] := by
  induction text with
  | nil => rfl
  | cons c text ih =>
    rw [List.mem_cons, not_or] at h
    rw [splitAt, if_neg (Ne.symm h.1), ih h.2, consHead]

end Split

namespace FilePath

/-- The segments in the characters of a path. -/
def segmentsIn (path : List Char) : List String :=
  ((Split.splitAt '/' path).map String.ofList).filter fun s => s != "" && s != "."

theorem segments_eq (path : String) : segments path = segmentsIn path.toList := rfl

theorem segmentsIn_append (before behind : List Char) :
    segmentsIn (before ++ '/' :: behind) = segmentsIn before ++ segmentsIn behind := by
  unfold segmentsIn
  rw [Split.splitAt_append_sep, List.map_append, List.filter_append]

@[simp] theorem segmentsIn_nil : segmentsIn [] = [] := by decide

/-- A text without slashes that names something is a segment. -/
theorem segmentsIn_name {name : List Char} (hslash : '/' ∉ name) (hempty : String.ofList name ≠ "")
    (hdot : String.ofList name ≠ ".") : segmentsIn name = [String.ofList name] := by
  unfold segmentsIn
  rw [Split.splitAt_of_notMem hslash, List.map_singleton]
  simp [hempty, hdot]

/-- What is trimmed off a path names nothing. -/
theorem segmentsIn_trimReversed (reversed : List Char) :
    segmentsIn (trimReversed reversed).reverse = segmentsIn reversed.reverse := by
  fun_induction trimReversed reversed with
  | case1 => rfl
  | case2 rest _ ih => rw [ih, List.reverse_cons, segmentsIn_append, segmentsIn_nil, List.append_nil]
  | case3 => decide
  | case4 rest _ ih =>
    have hsplit : ('.' :: '/' :: rest).reverse = rest.reverse ++ '/' :: ['.'] := by simp
    rw [ih, hsplit, segmentsIn_append, show segmentsIn ['.'] = [] by decide, List.append_nil]
  | case5 => rfl

/-! ### The directory of a file -/

theorem trimReversed_suffix (reversed : List Char) : trimReversed reversed <:+ reversed := by
  fun_induction trimReversed reversed with
  | case1 => exact List.suffix_rfl
  | case2 rest _ ih => exact ih.trans (List.suffix_cons _ _)
  | case3 => exact List.suffix_cons _ _
  | case4 rest _ ih => exact ih.trans ((List.suffix_cons _ _).trans (List.suffix_cons _ _))
  | case5 => exact List.suffix_rfl

/-- The directory of a path stands at its beginning. -/
theorem parent_prefix (path : String) : (parent path).toList <+: path.toList := by
  let reversed := trimReversed path.toList.reverse
  have htrimmed : (trimmed path).reverse = reversed := List.reverse_reverse _
  have hsuffix : trimReversed (reversed.dropWhile (· != '/')) <:+ path.toList.reverse :=
    (trimReversed_suffix _).trans ((List.dropWhile_suffix _).trans (trimReversed_suffix _))
  unfold parent
  rw [htrimmed, String.toList_ofList]
  have hprefix := List.reverse_prefix.2 hsuffix
  rwa [List.reverse_reverse] at hprefix

/-- **The last segment.** A path with a file name has the segments of its directory, and then the name. -/
theorem segments_of_fileName? {path name : String} (h : fileName? path = some name) :
    segments path = segments (parent path) ++ [name] ∧ '/' ∉ name.toList ∧ name ≠ "" ∧ name ≠ "." ∧
      name ≠ ".." := by
  let reversed := (trimmed path).reverse
  let last := (reversed.takeWhile (· != '/')).reverse
  have hpath : segments path = segmentsIn reversed.reverse := by
    rw [segments_eq, ← List.reverse_reverse path.toList, ← segmentsIn_trimReversed]
    exact congrArg segmentsIn (List.reverse_reverse _).symm
  have hparent : segments (parent path) = segmentsIn (reversed.dropWhile (· != '/')).reverse := by
    rw [segments_eq, ← segmentsIn_trimReversed]
    exact congrArg segmentsIn String.toList_ofList
  unfold fileName? at h
  dsimp only at h
  split at h
  · cases h
  next hname =>
  obtain rfl : String.ofList last = name := Option.some.inj h
  rw [not_or, not_or] at hname
  have hslash : '/' ∉ last := by
    intro hmem
    simpa using List.mem_takeWhile_imp (List.mem_reverse.1 hmem)
  -- the last piece is a segment by itself, since the name is no dot
  have hlast : segmentsIn last = [String.ofList last] :=
    segmentsIn_name hslash hname.1 hname.2.1
  refine ⟨?_, by simpa using hslash, hname⟩
  have hsplit : reversed.reverse = (reversed.dropWhile (· != '/')).reverse ++ last := by
    rw [← List.reverse_append, List.takeWhile_append_dropWhile]
  rw [hpath, hparent, hsplit, ← hlast]
  cases hdrop : reversed.dropWhile (· != '/') with
  | nil => rfl
  | cons c rest =>
    -- the first character that is not taken is a slash
    have hc : c = '/' := by
      have hhead := List.head?_dropWhile_not (· != '/') reversed
      rw [hdrop] at hhead
      simpa using hhead
    rw [hc, List.reverse_cons, List.append_assoc, List.singleton_append, segmentsIn_append,
      segmentsIn_append, segmentsIn_nil, List.append_nil]

theorem isAbsolute_iff {path : String} : isAbsolute path = true ↔ ['/'] <+: path.toList :=
  String.startsWith_string_iff

/-- A path and its directory start at the same place. -/
theorem isAbsolute_parent {path : String} (h : parent path ≠ "") :
    isAbsolute (parent path) = isAbsolute path := by
  obtain ⟨rest, hrest⟩ := parent_prefix path
  rw [Bool.eq_iff_iff, isAbsolute_iff, isAbsolute_iff, ← hrest]
  cases hchars : (parent path).toList with
  | nil => exact absurd (String.toList_eq_nil_iff.1 hchars) h
  | cons c chars => simp [List.cons_prefix_cons]

theorem not_isAbsolute {name : String} (h : '/' ∉ name.toList) :
    ¬name.startsWith "/" = true := by
  rw [String.startsWith_string_iff]
  rintro ⟨rest, hrest⟩
  exact h (by simp [← hrest])

/-- A name below a path is one segment more. -/
theorem segments_join (base : String) {name : String} (hslash : '/' ∉ name.toList)
    (hempty : name ≠ "") (hdot : name ≠ ".") :
    segments (join base name) = segments base ++ [name] := by
  have hname : segmentsIn name.toList = [name] := by
    rw [segmentsIn_name hslash (by simpa using hempty) (by simpa using hdot), String.ofList_toList]
  unfold join
  rw [if_neg (not_isAbsolute hslash)]
  split
  · next hend =>
    rw [Bool.or_eq_true, String.isEmpty_iff, ← String.endsWith_toSlice,
      String.Slice.endsWith_string_iff] at hend
    -- the base is empty or ends with a slash, so none is put between
    rcases hend with rfl | ⟨rest, hrest⟩
    · simpa [segments_eq] using hname
    · rw [String.copy_toSlice] at hrest
      rw [segments_eq, segments_eq, String.toList_append, ← hrest, List.append_assoc]
      change segmentsIn (rest ++ '/' :: name.toList) = segmentsIn (rest ++ '/' :: []) ++ _
      rw [segmentsIn_append, segmentsIn_append, hname, segmentsIn_nil, List.append_nil]
  · rw [segments_eq, segments_eq, String.toList_append, String.toList_append, List.append_assoc]
    change segmentsIn (base.toList ++ '/' :: name.toList) = _
    rw [segmentsIn_append, hname]

theorem isAbsolute_join (base : String) {name : String} (h : '/' ∉ name.toList) :
    isAbsolute (join base name) = isAbsolute base := by
  have happend : ∀ behind : String, base ≠ "" →
      (['/'] <+: (base ++ behind).toList ↔ ['/'] <+: base.toList) := by
    intro behind hbase
    rw [String.toList_append]
    cases hchars : base.toList with
    | nil => exact absurd (String.toList_eq_nil_iff.1 hchars) hbase
    | cons c rest => simp [List.cons_prefix_cons]
  unfold join
  rw [if_neg (not_isAbsolute h), Bool.eq_iff_iff]
  -- below an empty path the name stands alone, and it has no slash in front
  by_cases hbase : base = ""
  · subst hbase
    rw [if_pos (by simp), String.empty_append, isAbsolute_iff, isAbsolute_iff]
    have hname := mt String.startsWith_string_iff.2 (not_isAbsolute h)
    exact iff_of_false hname (by simp)
  · split
    · rw [isAbsolute_iff, isAbsolute_iff, happend name hbase]
    · rw [isAbsolute_iff, isAbsolute_iff, String.append_assoc, happend ("/" ++ name) hbase]

end FilePath

namespace Store

/-- **The temporary file beside a record file.** It bears the name of the record file with an
ending, or stands below a path that ends with no name. -/
theorem segments_temporaryPath (path : String) :
    (∃ before below name, FilePath.segments path = before ++ [name] ∧ name ≠ ".." ∧
        '/' ∉ name.toList ∧ FilePath.segments (temporaryPath path) = below ++ [name ++ ".tmp"]) ∨
      (FilePath.segments (temporaryPath path) = FilePath.segments path ++ [".tmp"] ∧
        FilePath.isAbsolute (temporaryPath path) = FilePath.isAbsolute path) := by
  unfold temporaryPath FilePath.withFileName
  cases hname : FilePath.fileName? path with
  | none =>
    refine .inr ⟨?_, ?_⟩
    · exact FilePath.segments_join path (by decide) (by decide) (by decide)
    · exact FilePath.isAbsolute_join path (by decide)
  | some name =>
    obtain ⟨hsegments, hslash, -, -, hup⟩ := FilePath.segments_of_fileName? hname
    have hchars : (name ++ ".tmp").toList = name.toList ++ ['.', 't', 'm', 'p'] :=
      String.toList_append
    -- the ending makes the name too long for a dot, or for two
    have hlength : 4 ≤ (name ++ ".tmp").toList.length := by
      simp only [hchars, List.length_append, List.length_cons, List.length_nil]
      omega
    refine .inl ⟨_, FilePath.segments (FilePath.parent path), name, hsegments, hup, hslash, ?_⟩
    refine FilePath.segments_join _ ?_ ?_ ?_
    · simpa [hchars] using hslash
    · intro h
      change name ++ ".tmp" = "" at h
      rw [h] at hlength
      exact absurd hlength (by decide)
    · intro h
      change name ++ ".tmp" = "." at h
      rw [h] at hlength
      exact absurd hlength (by decide)

end Store

end VolumeBroker
