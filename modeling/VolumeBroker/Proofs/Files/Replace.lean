import VolumeBroker.Proofs.Files.Path
/-!
# Replacing a file

`Store.replaceFile` makes directories, writes a temporary file and moves it into place. Each of the
three can fail, and what matters of a failure is that the record file keeps what it held. Both main
results speak of the *lexical place* of a path, where its segments lead when nobody checks the
directories on the way (`FileSystem.lexicalPlace`):

* `Store.replaceFile_ok`: if it succeeds, the path reads as the new text;
* `Store.replaceFile_error`: if it fails, no directory has gone and the file at the place of the path
  is the one that was there (`FileSystem.Spares`), so a text that the path read as is still read.

A save of a file store replaces its record file by the document of its records, if there is one, so the
same holds of it (`Store.save_holds`, `Store.save_spares`).
-/

namespace VolumeBroker

namespace FileSystem

/-! ### Places -/

/-- Where segments lead from a place, whether there are directories on the way or not. -/
def walk (place segments : List String) : List String :=
  segments.foldl (fun place s => if s = ".." then place.dropLast else place ++ [s]) place

/-- Where a path leads, whether there are directories on the way or not. -/
def lexicalPlace (fs : FileSystem) (path : String) : List String :=
  walk (fs.origin path) (FilePath.segments path)

/-- The file at a place; a directory is none. -/
def fileAt (fs : FileSystem) (place : List String) : Option FileContent :=
  match fs.nodeAt place with
  | some (.file content) => some content
  | _ => none

theorem walk_concat (place before : List String) {name : String} (h : name ≠ "..") :
    walk place (before ++ [name]) = walk place before ++ [name] := by
  unfold walk
  rw [List.foldl_append, List.foldl_cons, List.foldl_nil, if_neg h]

/-- Directories on the way let segments lead where they would lead anyway. -/
theorem follow_eq {fs : FileSystem} {segments place target : List String}
    (h : fs.follow place segments = some target) : target = walk place segments := by
  induction segments generalizing place with
  | nil => exact (Option.some.inj h).symm
  | cons segment rest ih =>
    unfold follow at h
    -- a segment that leads nowhere would have ended the walk
    split at h
    · exact ih h
    · cases h

theorem place?_eq {fs : FileSystem} {path : String} {place : List String}
    (h : fs.place? path = some place) :
    fs.follow (fs.origin path) (FilePath.segments path) = some place ∧
      (FilePath.namesDirectory path = true → fs.isDirectoryAt place = true) := by
  unfold place? at h
  cases hfollow : fs.follow (fs.origin path) (FilePath.segments path) with
  | none => rw [hfollow] at h; cases h
  | some target =>
    rw [hfollow] at h
    change (if FilePath.namesDirectory path && !fs.isDirectoryAt target then none
      else some target) = some place at h
    split at h
    · cases h
    · next hcheck =>
      obtain rfl := Option.some.inj h
      exact ⟨rfl, fun hnames => by simpa [hnames] using hcheck⟩

theorem place?_eq_lexicalPlace {fs : FileSystem} {path : String} {place : List String}
    (h : fs.place? path = some place) : place = fs.lexicalPlace path :=
  follow_eq (place?_eq h).1

theorem readText?_eq_some_iff {fs : FileSystem} {path text : String} :
    fs.readText? path = some text ↔ fs.node? path = some (.file (.text text)) := by
  unfold readText?
  split
  · next content hnode =>
    rw [hnode]
    simp only [Option.some.injEq, FileNode.file.injEq, Content.text.injEq]
  · next hnode => exact iff_of_false nofun (hnode text)

/-- A path reads as a text if it leads to a file with the text. -/
theorem readText?_iff {fs : FileSystem} {path text : String} :
    fs.readText? path = some text ↔
      ∃ place, fs.place? path = some place ∧ fs.fileAt place = some (.text text) := by
  unfold readText? node? fileAt
  constructor
  · intro h
    cases hplace : fs.place? path with
    | none => rw [hplace] at h; cases h
    | some place =>
      rw [hplace, Option.bind_some] at h
      refine ⟨place, rfl, ?_⟩
      split at h
      · next hnode =>
        rw [hnode]
        exact congrArg (some ∘ Content.text) (Option.some.inj h)
      · cases h
  · rintro ⟨place, hplace, hfile⟩
    rw [hplace, Option.bind_some]
    split at hfile
    · next hnode =>
      rw [hnode]
      rw [Option.some.inj hfile]
    · cases hfile

/-! ### What is left alone -/

/-- No directory has gone, and the file at a place is the one that was there. -/
structure Spares (fs fs' : FileSystem) (place : List String) : Prop where
  workDir : fs'.workDir = fs.workDir
  directories : ∀ q, fs.isDirectoryAt q = true → fs'.isDirectoryAt q = true
  file : fs'.fileAt place = fs.fileAt place

theorem Spares.refl (fs : FileSystem) (place : List String) : fs.Spares fs place :=
  ⟨rfl, fun _ h => h, rfl⟩

theorem Spares.trans {fs₁ fs₂ fs₃ : FileSystem} {place : List String} (h₁ : fs₁.Spares fs₂ place)
    (h₂ : fs₂.Spares fs₃ place) : fs₁.Spares fs₃ place where
  workDir := h₂.workDir.trans h₁.workDir
  directories q hq := h₂.directories q (h₁.directories q hq)
  file := h₂.file.trans h₁.file

theorem Spares.of_nodes {fs fs' : FileSystem} (hnodes : fs'.nodes = fs.nodes)
    (hwork : fs'.workDir = fs.workDir) (place : List String) : fs.Spares fs' place := by
  have hnode : ∀ q, fs'.nodeAt q = fs.nodeAt q := by
    intro q
    unfold nodeAt
    rw [hnodes]
  refine ⟨hwork, fun q hq => ?_, ?_⟩
  · unfold isDirectoryAt at hq ⊢
    rw [hnode, hq]
  · unfold fileAt
    rw [hnode]

theorem lexicalPlace_congr {fs fs' : FileSystem} (h : fs'.workDir = fs.workDir) (path : String) :
    fs'.lexicalPlace path = fs.lexicalPlace path := by
  unfold lexicalPlace origin
  rw [h]

theorem follow_mono {fs fs' : FileSystem}
    (h : ∀ q, fs.isDirectoryAt q = true → fs'.isDirectoryAt q = true)
    {segments place target : List String} (hfollow : fs.follow place segments = some target) :
    fs'.follow place segments = some target := by
  induction segments generalizing place with
  | nil => exact hfollow
  | cons segment rest ih =>
    unfold follow at hfollow ⊢
    split at hfollow
    · next hdirectory =>
      rw [if_pos (h place hdirectory)]
      exact ih hfollow
    · cases hfollow

/-- A path leads where it led as long as no directory goes. -/
theorem place?_mono {fs fs' : FileSystem} (hwork : fs'.workDir = fs.workDir)
    (h : ∀ q, fs.isDirectoryAt q = true → fs'.isDirectoryAt q = true) {path : String}
    {place : List String} (hplace : fs.place? path = some place) :
    fs'.place? path = some place := by
  obtain ⟨hfollow, hnames⟩ := place?_eq hplace
  have horigin : fs'.origin path = fs.origin path := by
    unfold origin
    rw [hwork]
  unfold place?
  rw [horigin, follow_mono h hfollow]
  change (if FilePath.namesDirectory path && !fs'.isDirectoryAt place then none
    else some place) = some place
  -- a path that names a directory leads to one still
  rw [if_neg]
  intro hcheck
  rw [Bool.and_eq_true] at hcheck
  simp [h place (hnames hcheck.1)] at hcheck

theorem Spares.readText? {fs fs' : FileSystem} {path text : String}
    (h : fs.Spares fs' (fs.lexicalPlace path)) (hread : fs.readText? path = some text) :
    fs'.readText? path = some text := by
  obtain ⟨place, hplace, hfile⟩ := readText?_iff.1 hread
  obtain rfl := place?_eq_lexicalPlace hplace
  exact readText?_iff.2 ⟨_, place?_mono h.workDir h.directories hplace, h.file.trans hfile⟩

/-! ### Single operations -/

variable {fs fs' : FileSystem} {place q : List String} {node : FileNode}

theorem nodeAt_congr (fs : FileSystem) {p q : List String} (hp : p ≠ []) (hq : q ≠ [])
    (h : pathOf p = pathOf q) : fs.nodeAt p = fs.nodeAt q := by
  unfold nodeAt
  simp [hp, hq, h]

/-- What is put stands at its place, and at no other. -/
theorem nodeAt_put? (h : fs.put? place node = some fs') (q : List String) :
    fs'.nodeAt q = if q ≠ [] ∧ pathOf q = pathOf place then some node else fs.nodeAt q := by
  unfold put? at h
  split at h
  · cases h
  · obtain rfl := Option.some.inj h
    unfold nodeAt
    by_cases hq : q = []
    · simp [hq]
    · simp [hq, Dict.get?_insert]

theorem workDir_put? (h : fs.put? place node = some fs') : fs'.workDir = fs.workDir := by
  unfold put? at h
  split at h
  · cases h
  · obtain rfl := Option.some.inj h
    rfl

theorem ne_nil_of_put? (h : fs.put? place node = some fs') : place ≠ [] := by
  unfold put? at h
  split at h
  · cases h
  · next hcheck =>
    rintro rfl
    exact hcheck (.inl rfl)

theorem fileAt_put?_of_ne (h : fs.put? place node = some fs') (hne : pathOf q ≠ pathOf place) :
    fs'.fileAt q = fs.fileAt q := by
  unfold fileAt
  rw [nodeAt_put? h, if_neg fun hq => hne hq.2]

theorem fileAt_put?_self {content : FileContent} (h : fs.put? place (.file content) = some fs') :
    fs'.fileAt place = some content := by
  unfold fileAt
  rw [nodeAt_put? h, if_pos ⟨ne_nil_of_put? h, rfl⟩]

/-- What is put where no directory stands takes no directory away. -/
theorem isDirectoryAt_put? (h : fs.put? place node = some fs')
    (hplace : fs.isDirectoryAt place = false) (hq : fs.isDirectoryAt q = true) :
    fs'.isDirectoryAt q = true := by
  unfold isDirectoryAt at *
  rw [nodeAt_put? h, if_neg]
  · exact hq
  · rintro ⟨hne, hpath⟩
    rw [fs.nodeAt_congr hne (ne_nil_of_put? h) hpath, hplace] at hq
    cases hq

/-- A directory that comes where nothing stood leaves every file alone. -/
theorem spares_of_put_directory (h : fs.put? place .directory = some fs')
    (hnone : fs.nodeAt place = none) (q : List String) : fs.Spares fs' q := by
  refine ⟨workDir_put? h, fun q hq => isDirectoryAt_put? h ?_ hq, ?_⟩
  · unfold isDirectoryAt
    rw [hnone]
    rfl
  · unfold fileAt
    rw [nodeAt_put? h]
    by_cases hq : q ≠ [] ∧ pathOf q = pathOf place
    · rw [if_pos hq, fs.nodeAt_congr hq.1 (ne_nil_of_put? h) hq.2, hnone]
    · rw [if_neg hq]

/-- Making directories leaves every file alone. -/
theorem makeDirectories_spares {segments from' : List String}
    (h : fs.makeDirectories from' segments = some fs') (q : List String) : fs.Spares fs' q := by
  -- segment by segment: a directory is there, a file stands in the way, or one is made
  induction segments generalizing fs from' with
  | nil =>
    obtain rfl := Option.some.inj h
    exact Spares.refl fs q
  | cons segment rest ih =>
    unfold makeDirectories at h
    dsimp only at h
    split at h
    · exact ih h
    · cases h
    · next hnone =>
      obtain ⟨made, hput, hmade⟩ := Option.bind_eq_some_iff.1 h
      exact (spares_of_put_directory hput hnone q).trans (ih hmade)

theorem write_eq {path : String} {content : FileContent} (h : fs.write path content = some fs') :
    fs.place? path = some (fs.lexicalPlace path) ∧
      fs.isDirectoryAt (fs.lexicalPlace path) = false ∧
      fs.put? (fs.lexicalPlace path) (.file content) = some fs' := by
  unfold write at h
  obtain ⟨place, hplace, h⟩ := Option.bind_eq_some_iff.1 h
  obtain rfl := place?_eq_lexicalPlace hplace
  split at h
  · next hadmits =>
    refine ⟨hplace, ?_, h⟩
    simpa using (Bool.and_eq_true_iff.1 hadmits).2
  · cases h

/-- Writing a file leaves the files elsewhere alone. -/
theorem write_spares {path : String} {content : FileContent}
    (h : fs.write path content = some fs') (hne : pathOf q ≠ pathOf (fs.lexicalPlace path)) :
    fs.Spares fs' q := by
  obtain ⟨-, hfree, hput⟩ := write_eq h
  exact ⟨workDir_put? hput, fun q hq => isDirectoryAt_put? hput hfree hq, fileAt_put?_of_ne hput hne⟩

/-- A file that is moved is put at its target and taken away from its source. -/
theorem rename_eq {source target : String} (h : fs.rename source target = some fs') :
    ∃ content moved, fs.place? target = some (fs.lexicalPlace target) ∧
      fs.nodeAt (fs.lexicalPlace source) = some (.file content) ∧
      fs.isDirectoryAt (fs.lexicalPlace target) = false ∧
      fs.put? (fs.lexicalPlace target) (.file content) = some moved ∧
      fs' = { moved with nodes := moved.nodes.erase (pathOf (fs.lexicalPlace source)) } := by
  unfold rename at h
  obtain ⟨old, hold, h⟩ := Option.bind_eq_some_iff.1 h
  obtain ⟨new, hnew, h⟩ := Option.bind_eq_some_iff.1 h
  obtain rfl := place?_eq_lexicalPlace hold
  obtain rfl := place?_eq_lexicalPlace hnew
  split at h
  · next content hnode =>
    split at h
    · next hadmits =>
      obtain ⟨moved, hput, hmoved⟩ := Option.bind_eq_some_iff.1 h
      refine ⟨content, moved, hnew, hnode, ?_, hput, (Option.some.inj hmoved).symm⟩
      simpa using (Bool.and_eq_true_iff.1 hadmits).2
    · cases h
  · cases h

theorem workDir_rename {source target : String} (h : fs.rename source target = some fs') :
    fs'.workDir = fs.workDir := by
  obtain ⟨content, moved, -, -, -, hput, rfl⟩ := rename_eq h
  change moved.workDir = fs.workDir
  exact workDir_put? hput

/-- What is moved is no directory, so every directory is still there. -/
theorem isDirectoryAt_rename {source target : String} (h : fs.rename source target = some fs')
    {q : List String} (hq : fs.isDirectoryAt q = true) : fs'.isDirectoryAt q = true := by
  obtain ⟨content, moved, -, hnode, hfree, hput, rfl⟩ := rename_eq h
  -- the root is always there
  by_cases hempty : q = []
  · subst hempty
    rfl
  have hne : pathOf q ≠ pathOf (fs.lexicalPlace source) := by
    -- a directory at the source would be the file that is moved
    intro hpath
    have hsource : fs.lexicalPlace source ≠ [] := by
      intro hnil
      rw [hnil] at hnode
      cases hnode
    unfold isDirectoryAt at hq
    rw [fs.nodeAt_congr hempty hsource hpath, hnode] at hq
    cases hq
  have hmoved := isDirectoryAt_put? hput hfree hq
  unfold isDirectoryAt nodeAt at hmoved ⊢
  rw [Dict.get?_erase, if_neg hne]
  exact hmoved

/-- A file that is moved is read at its target. -/
theorem rename_readText? {source target text : String}
    (h : fs.rename source target = some fs')
    (hfile : fs.fileAt (fs.lexicalPlace source) = some (.text text))
    (hne : pathOf (fs.lexicalPlace source) ≠ pathOf (fs.lexicalPlace target)) :
    fs'.readText? target = some text := by
  have hdirectories := @isDirectoryAt_rename _ _ _ _ h
  have hwork := workDir_rename h
  obtain ⟨content, moved, hnew, hnode, -, hput, rfl⟩ := rename_eq h
  -- what is moved is the file whose text is given
  obtain rfl : content = .text text := by
    unfold fileAt at hfile
    rw [hnode] at hfile
    exact Option.some.inj hfile
  refine readText?_iff.2 ⟨fs.lexicalPlace target, ?_, ?_⟩
  · exact place?_mono hwork (fun q hq => hdirectories hq) hnew
  · have hput' := fileAt_put?_self hput
    unfold fileAt nodeAt at hput' ⊢
    rw [Dict.get?_erase, if_neg hne.symm]
    exact hput'

/-! ### The temporary file -/

theorem toList_pathOf_concat (place : List String) (name : String) :
    (pathOf (place ++ [name])).toList = (pathOf place).toList ++ '/' :: name.toList := by
  unfold pathOf
  simp [String.toList_join, String.toList_append]

/-- Two paths with last segments of their own differ if these do. -/
theorem pathOf_concat_ne {p q : List String} {a b : String} (ha : '/' ∉ a.toList)
    (hb : '/' ∉ b.toList) (hne : a ≠ b) : pathOf (p ++ [a]) ≠ pathOf (q ++ [b]) := by
  intro h
  have hpieces := congrArg (fun path : String => Split.splitAt '/' path.toList) h
  simp only [toList_pathOf_concat, Split.splitAt_append_sep, Split.splitAt_of_notMem ha,
    Split.splitAt_of_notMem hb] at hpieces
  have hlast := (List.append_inj' hpieces rfl).2
  exact hne (String.toList_inj.1 (List.cons.inj hlast).1)

/-- The temporary file does not stand at the place of the record file. -/
theorem pathOf_temporary_ne (fs : FileSystem) (path : String) :
    pathOf (fs.lexicalPlace path) ≠ pathOf (fs.lexicalPlace (Store.temporaryPath path)) := by
  rcases Store.segments_temporaryPath path with
    ⟨before, below, name, hpath, hup, hslash, htemporary⟩ | ⟨htemporary, habsolute⟩
  · have hchars : (name ++ ".tmp").toList = name.toList ++ ['.', 't', 'm', 'p'] :=
      String.toList_append
    -- the two names differ in length
    have hne : name ≠ name ++ ".tmp" := by
      intro h
      have := congrArg (fun s : String => s.toList.length) h
      simp only [hchars, List.length_append, List.length_cons] at this
      omega
    have hup' : name ++ ".tmp" ≠ ".." := by
      intro h
      have := congrArg (fun s : String => s.toList.length) h
      simp only [hchars, List.length_append, List.length_cons] at this
      exact absurd this (by simp)
    unfold lexicalPlace
    rw [hpath, htemporary, walk_concat _ _ hup, walk_concat _ _ hup']
    exact pathOf_concat_ne hslash (by simpa [hchars] using hslash) hne
  · unfold lexicalPlace origin
    rw [htemporary, habsolute, walk_concat _ _ (by decide)]
    -- the temporary file stands one segment below
    intro h
    have := congrArg (fun s : String => s.toList.length) h
    simp only [toList_pathOf_concat, List.length_append, List.length_cons] at this
    omega

end FileSystem

namespace Store

open FileSystem

variable {files files' : FileSystem} {path text : String}

theorem prepareDirectory_spares (h : prepareDirectory files path = .ok files')
    (q : List String) : files.Spares files' q := by
  unfold prepareDirectory at h
  dsimp only at h
  split at h
  · cases h
    exact Spares.refl files q
  · split at h
    · next made hmade =>
      cases h
      exact makeDirectories_spares hmade q
    · cases h

/-- What gets in the way of replacing a file is something about files. -/
theorem replaceFile_io {e : StoreError} (h : replaceFile files path text = (files', .error e)) :
    ∃ place reason, e = .io place reason := by
  unfold replaceFile at h
  split at h
  · -- the directory could not be made
    next failure hfailure =>
    obtain rfl : failure = e := Except.error.inj (congrArg Prod.snd h)
    unfold prepareDirectory at hfailure
    dsimp only at hfailure
    split at hfailure
    · cases hfailure
    · split at hfailure
      · cases hfailure
      · exact ⟨_, _, (Except.error.inj hfailure).symm⟩
  dsimp only at h
  split at h
  · exact ⟨_, _, (Except.error.inj (congrArg Prod.snd h)).symm⟩
  split at h
  · exact ⟨_, _, (Except.error.inj (congrArg Prod.snd h)).symm⟩
  · cases h

/-- **A file that is replaced is read.** -/
theorem replaceFile_ok (h : replaceFile files path text = (files', .ok ())) :
    files'.readText? path = some text := by
  unfold replaceFile at h
  split at h
  case h_1 => cases h
  next prepared _ =>
  dsimp only at h
  split at h
  case h_1 => cases h
  next written hwrite =>
  split at h
  case h_1 => cases h
  next moved hrename =>
  obtain rfl : moved = files' := congrArg Prod.fst h
  obtain ⟨-, -, hput⟩ := write_eq hwrite
  -- writing the temporary file has not changed where paths lead
  have hplace : ∀ p, written.lexicalPlace p = prepared.lexicalPlace p :=
    lexicalPlace_congr (workDir_put? hput)
  refine rename_readText? hrename ?_ ?_
  · rw [hplace]
    exact fileAt_put?_self hput
  · exact (pathOf_temporary_ne written path).symm

/-- **A file that cannot be replaced stays.** -/
theorem replaceFile_error {e : StoreError} (h : replaceFile files path text = (files', .error e)) :
    files.Spares files' (files.lexicalPlace path) := by
  unfold replaceFile at h
  split at h
  · -- no directory could be made, and nothing has been touched
    obtain rfl : files = files' := congrArg Prod.fst h
    exact Spares.refl files _
  next prepared hprepared =>
  have hprepare := prepareDirectory_spares hprepared (files.lexicalPlace path)
  dsimp only at h
  split at h
  · obtain rfl : prepared = files' := congrArg Prod.fst h
    exact hprepare
  next written hwrite =>
  -- until the last step only the temporary file has been touched
  have hne := pathOf_temporary_ne prepared path
  rw [lexicalPlace_congr hprepare.workDir path] at hne
  split at h
  · obtain rfl : written = files' := congrArg Prod.fst h
    exact hprepare.trans (write_spares hwrite hne)
  · cases h

end Store

/-! ### Saving records -/

/-- A path reads as the encoding of some records. -/
def FileSystem.Holds (fs : FileSystem) (path : String) (records : RecordSet) : Prop :=
  ∃ document, records.toDocument = .ok document ∧ fs.readText? path = some document.pretty

theorem FileSystem.Holds.of_spares {fs fs' : FileSystem} {path : String} {records : RecordSet}
    (h : fs.Holds path records) (hspares : fs.Spares fs' (fs.lexicalPlace path)) :
    fs'.Holds path records := by
  obtain ⟨document, hdocument, hread⟩ := h
  exact ⟨document, hdocument, hspares.readText? hread⟩

namespace Store

variable {s : Store} {files : FileSystem} {path : String}

/-- A save that begins replaces the record file. -/
theorem save_eq {document : Json} (hguard : s.guardOutage .save = .ok ())
    (hmedium : s.medium = .file path) (hdocument : s.records.toDocument = .ok document)
    (files : FileSystem) : s.save files = replaceFile files path document.pretty := by
  unfold save
  simp only [hguard, hmedium, hdocument]

/-- A save that begins on records without a document attempts nothing. -/
theorem save_eq_of_error {reason : String} (hguard : s.guardOutage .save = .ok ())
    (hmedium : s.medium = .file path) (hdocument : s.records.toDocument = .error reason)
    (files : FileSystem) : s.save files = (files, .error (.encode reason)) := by
  unfold save
  simp only [hguard, hmedium, hdocument]

/-- What a save does: it fails before it begins, or it replaces the record file. -/
theorem save_cases (hmedium : s.medium = .file path) (files : FileSystem) :
    (∃ e, s.save files = (files, .error e)) ∨
      ∃ document, s.records.toDocument = .ok document ∧
        s.save files = replaceFile files path document.pretty := by
  unfold save
  cases s.guardOutage .save with
  | error e => exact .inl ⟨e, rfl⟩
  | ok _ =>
    simp only [hmedium]
    cases s.records.toDocument with
    | error reason => exact .inl ⟨_, rfl⟩
    | ok document => exact .inr ⟨document, rfl, rfl⟩

/-- A save that succeeds leaves the encoding of the records. -/
theorem save_holds (hmedium : s.medium = .file path) (h : (s.save files).2 = .ok ()) :
    (s.save files).1.Holds path s.records := by
  rcases save_cases hmedium files with ⟨e, hsave⟩ | ⟨document, hdocument, hsave⟩
  · rw [hsave] at h
    cases h
  · have hreplace : replaceFile files path document.pretty = ((s.save files).1, .ok ()) := by
      rw [← hsave, ← h]
    exact ⟨document, hdocument, replaceFile_ok hreplace⟩

/-- A save that fails leaves the file that was there. -/
theorem save_spares (hmedium : s.medium = .file path) {e : StoreError}
    (h : (s.save files).2 = .error e) :
    files.Spares (s.save files).1 (files.lexicalPlace path) := by
  rcases save_cases hmedium files with ⟨e', hsave⟩ | ⟨document, -, hsave⟩
  · rw [hsave]
    exact FileSystem.Spares.refl files _
  · have hreplace : replaceFile files path document.pretty = ((s.save files).1, .error e) := by
      rw [← hsave, ← h]
    exact replaceFile_error hreplace

end Store

end VolumeBroker
