import VolumeBroker.Proofs.Files.Replace
/-!
# Files that nothing is in the way of

A record file can be replaced if its directory is there, no directory stands where it or its temporary
file has to go, and nothing is locked (`Store.Unhindered`). All of this is about directories and locks,
and replacing a file changes neither (`FileSystem.SameDirectories`), so a file that has been replaced
can be replaced again: `Store.Unhindered.replaceFile`.
-/

namespace VolumeBroker

namespace FileSystem

/-! ### The same directories -/

/-- The same directories, found in the same way, and the same locks. -/
structure SameDirectories (fs fs' : FileSystem) : Prop where
  workDir : fs'.workDir = fs.workDir
  locked : fs'.locked = fs.locked
  directories : ∀ q, fs'.isDirectoryAt q = fs.isDirectoryAt q

variable {fs fs' : FileSystem} {place : List String} {path : String} {content : FileContent}

theorem SameDirectories.trans {fs'' : FileSystem} (h : fs.SameDirectories fs')
    (h' : fs'.SameDirectories fs'') : fs.SameDirectories fs'' where
  workDir := h'.workDir.trans h.workDir
  locked := h'.locked.trans h.locked
  directories q := (h'.directories q).trans (h.directories q)

theorem sameDirectories_put? (h : fs.put? place (.file content) = some fs')
    (hfree : fs.isDirectoryAt place = false) : fs.SameDirectories fs' := by
  have hlocked : fs'.locked = fs.locked := by
    unfold put? at h
    split at h
    · cases h
    · obtain rfl := Option.some.inj h
      rfl
  refine ⟨workDir_put? h, hlocked, fun q => ?_⟩
  unfold isDirectoryAt at hfree ⊢
  rw [nodeAt_put? h]
  -- at the place itself a file stands where no directory stood
  by_cases hq : q ≠ [] ∧ pathOf q = pathOf place
  · rw [if_pos hq, fs.nodeAt_congr hq.1 (ne_nil_of_put? h) hq.2, hfree]
    rfl
  · rw [if_neg hq]

theorem sameDirectories_erase (hfree : fs.isDirectoryAt place = false) :
    fs.SameDirectories { fs with nodes := fs.nodes.erase (pathOf place) } := by
  have hplace : place ≠ [] := by
    rintro rfl
    cases hfree
  refine ⟨rfl, rfl, fun q => ?_⟩
  by_cases hq : q = []
  · subst hq
    rfl
  · unfold isDirectoryAt at hfree ⊢
    -- at the place itself nothing stands any more, and no directory stood
    by_cases hpath : pathOf q = pathOf place
    · rw [fs.nodeAt_congr hq hplace hpath, hfree]
      simp [nodeAt, hq, hpath]
    · simp [nodeAt, hq, Dict.get?_erase, hpath]

namespace SameDirectories

variable (h : fs.SameDirectories fs')

include h

theorem follow (segments place : List String) :
    fs'.follow place segments = fs.follow place segments := by
  induction segments generalizing place with
  | nil => rfl
  | cons segment rest ih =>
    unfold FileSystem.follow
    rw [h.directories, ih]

/-- Paths lead to the same places. -/
theorem place? (path : String) : fs'.place? path = fs.place? path := by
  unfold FileSystem.place? origin
  rw [h.workDir, h.follow]
  simp only [h.directories]

theorem admitsFile (place : List String) : fs'.admitsFile place = fs.admitsFile place := by
  unfold FileSystem.admitsFile
  rw [h.directories, h.directories]

/-- Where no directory has to be made, none has to be made. -/
theorem makeDirectories {segments place : List String}
    (hmade : fs.makeDirectories place segments = some fs) :
    fs'.makeDirectories place segments = some fs' := by
  induction segments generalizing place with
  | nil => rfl
  | cons segment rest ih =>
    unfold FileSystem.makeDirectories at hmade ⊢
    dsimp only at hmade ⊢
    generalize (if segment = ".." then place.dropLast else place ++ [segment]) = next at hmade ⊢
    split at hmade
    · next hnode =>
      have hnode' : fs'.nodeAt next = some .directory := by
        have hdirectory := h.directories next
        unfold isDirectoryAt at hdirectory
        rw [hnode] at hdirectory
        simpa using hdirectory
      rw [hnode']
      exact ih hmade
    · cases hmade
    · next hnode =>
      -- a directory that has been made is there, and nothing stood at its place
      obtain ⟨made, hput, hrest⟩ := Option.bind_eq_some_iff.1 hmade
      have hdirectory : made.isDirectoryAt next = true := by
        unfold isDirectoryAt
        rw [nodeAt_put? hput, if_pos ⟨ne_nil_of_put? hput, rfl⟩]
        rfl
      have hkept := (makeDirectories_spares hrest next).directories next hdirectory
      unfold isDirectoryAt at hkept
      rw [hnode] at hkept
      cases hkept

end SameDirectories

/-! ### Operations that succeed -/

/-- A file is put wherever no directory stands, as long as nothing is locked. -/
theorem exists_put? (hunlocked : fs.locked = []) (hfree : fs.isDirectoryAt place = false)
    (content : FileContent) : ∃ fs', fs.put? place (.file content) = some fs' := by
  have hne : place ≠ [] := by
    rintro rfl
    cases hfree
  unfold put?
  rw [if_neg (by simp [hne, hunlocked])]
  exact ⟨_, rfl⟩

theorem free_of_admitsFile (h : fs.admitsFile place = true) : fs.isDirectoryAt place = false := by
  simpa using (Bool.and_eq_true_iff.1 h).2

theorem exists_write (hunlocked : fs.locked = []) (hplace : fs.place? path = some place)
    (hadmits : fs.admitsFile place = true) (content : FileContent) :
    ∃ fs', fs.write path content = some fs' ∧ fs.SameDirectories fs' ∧
      fs'.nodeAt place = some (.file content) := by
  have hfree := free_of_admitsFile hadmits
  obtain ⟨fs', hput⟩ := exists_put? hunlocked hfree content
  refine ⟨fs', ?_, sameDirectories_put? hput hfree, ?_⟩
  · unfold write
    rw [hplace, Option.bind_eq_bind, Option.bind_some, if_pos hadmits, hput]
  · rw [nodeAt_put? hput, if_pos ⟨ne_nil_of_put? hput, rfl⟩]

theorem exists_rename {source : String} {old : List String} (hunlocked : fs.locked = [])
    (hsource : fs.place? source = some old) (hnode : fs.nodeAt old = some (.file content))
    (hplace : fs.place? path = some place) (hadmits : fs.admitsFile place = true) :
    ∃ fs', fs.rename source path = some fs' ∧ fs.SameDirectories fs' := by
  have hfree := free_of_admitsFile hadmits
  obtain ⟨moved, hput⟩ := exists_put? hunlocked hfree content
  have hmoved := sameDirectories_put? hput hfree
  -- what is moved is a file, so no directory goes with it
  have hold : moved.isDirectoryAt old = false := by
    rw [hmoved.directories]
    unfold isDirectoryAt
    rw [hnode]
    rfl
  refine ⟨_, ?_, hmoved.trans (sameDirectories_erase hold)⟩
  unfold rename
  rw [hsource, hplace]
  simp only [Option.bind_eq_bind, Option.bind_some, hnode]
  rw [if_pos hadmits, hput]
  rfl

end FileSystem

namespace Store

open FileSystem

/-- Nothing is in the way of replacing the file of a path. -/
structure Unhindered (files : FileSystem) (path : String) : Prop where
  unlocked : files.locked = []
  prepared : prepareDirectory files path = .ok files
  record : ∃ place, files.place? path = some place ∧ files.admitsFile place = true
  temporary : ∃ place, files.place? (temporaryPath path) = some place ∧ files.admitsFile place = true

variable {files files' : FileSystem} {path : String}

theorem Unhindered.of_sameDirectories (h : Unhindered files path)
    (hsame : files.SameDirectories files') : Unhindered files' path := by
  refine ⟨hsame.locked.trans h.unlocked, ?_, ?_, ?_⟩
  · have hprepared := h.prepared
    unfold prepareDirectory createDirectories origin at hprepared ⊢
    dsimp only at hprepared ⊢
    split at hprepared
    · next hempty => rw [if_pos hempty]
    · next hnonempty =>
      rw [if_neg hnonempty, hsame.workDir]
      split at hprepared
      · next made hmade =>
        rw [Except.ok.inj hprepared] at hmade
        rw [hsame.makeDirectories hmade]
      · cases hprepared
  · obtain ⟨place, hplace, hadmits⟩ := h.record
    exact ⟨place, (hsame.place? path).trans hplace, (hsame.admitsFile place).trans hadmits⟩
  · obtain ⟨place, hplace, hadmits⟩ := h.temporary
    exact ⟨place, (hsame.place? _).trans hplace, (hsame.admitsFile place).trans hadmits⟩

/-- **A file that can be replaced.** It is replaced, and can be replaced again. -/
theorem Unhindered.replaceFile (h : Unhindered files path) (text : String) :
    ∃ files', Store.replaceFile files path text = (files', .ok ()) ∧ Unhindered files' path := by
  obtain ⟨place, hplace, hadmits⟩ := h.record
  obtain ⟨temporary, htemporary, hadmits'⟩ := h.temporary
  obtain ⟨written, hwrite, hwritten, hnode⟩ :=
    exists_write h.unlocked htemporary hadmits' (.text text)
  have hwrittenPlace := (hwritten.place? path).trans hplace
  have hwrittenAdmits := (hwritten.admitsFile place).trans hadmits
  obtain ⟨moved, hrename, hmoved⟩ := exists_rename (hwritten.locked.trans h.unlocked)
    ((hwritten.place? _).trans htemporary) hnode hwrittenPlace hwrittenAdmits
  refine ⟨moved, ?_, h.of_sameDirectories (hwritten.trans hmoved)⟩
  unfold Store.replaceFile
  simp only [h.prepared, hwrite, hrename]

end Store

/-! ### A record file in the root directory -/

namespace Installation

/-- A record file that is an entry of the root directory. -/
def path : String := "/records.json"

theorem place?_path (fs : FileSystem) : fs.place? path = some ["records.json"] := by
  have habsolute : FilePath.isAbsolute path = true := by decide +kernel
  have hsegments : FilePath.segments path = ["records.json"] := by decide +kernel
  have hnames : FilePath.namesDirectory path = false := by decide +kernel
  unfold FileSystem.place? FileSystem.origin
  rw [habsolute, hsegments, hnames]
  rfl

theorem place?_temporary (fs : FileSystem) :
    fs.place? (Store.temporaryPath path) = some ["records.json.tmp"] := by
  have htemporary : Store.temporaryPath path = "/records.json.tmp" := by decide +kernel
  have habsolute : FilePath.isAbsolute "/records.json.tmp" = true := by decide +kernel
  have hsegments : FilePath.segments "/records.json.tmp" = ["records.json.tmp"] := by decide +kernel
  have hnames : FilePath.namesDirectory "/records.json.tmp" = false := by decide +kernel
  unfold FileSystem.place? FileSystem.origin
  rw [htemporary, habsolute, hsegments, hnames]
  rfl

/-- Nothing is in the way of the record file unless a directory is. -/
theorem unhindered {fs : FileSystem} (hunlocked : fs.locked = [])
    (hrecord : fs.isDirectoryAt ["records.json"] = false)
    (htemporary : fs.isDirectoryAt ["records.json.tmp"] = false) : Store.Unhindered fs path := by
  have hparent : FilePath.parent path = "/" := by decide +kernel
  have hsegments : FilePath.segments "/" = [] := by decide +kernel
  refine ⟨hunlocked, ?_, ⟨_, place?_path fs, ?_⟩, ⟨_, place?_temporary fs, ?_⟩⟩
  · unfold Store.prepareDirectory FileSystem.createDirectories
    rw [hparent]
    dsimp only
    rw [if_neg (by decide), hsegments]
    rfl
  · unfold FileSystem.admitsFile
    rw [hrecord]
    rfl
  · unfold FileSystem.admitsFile
    rw [htemporary]
    rfl

end Installation

end VolumeBroker
