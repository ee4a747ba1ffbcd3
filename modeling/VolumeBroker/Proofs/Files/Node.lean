import Mathlib.Data.List.Induction
import VolumeBroker.Proofs.Files.Replace
/-!
# What stands at a path

A record file that cannot be replaced keeps what it held (`Store.replaceFile_error`). Here the same is
said of whatever stands at its path, a file, a directory or nothing at all. What stood there still does
(`FileSystem.Spares.node?`), and where nothing stood nothing does (`Store.replaceFile_node?`), unless the
way to the file leads upwards somewhere: then a directory that is made on the way may come to stand at
the very place of the file, or uncover a file that was out of reach.

A path has to find what stands at its place (`FileSystem.Leads`). In a file system that is a tree every
path does that does not lead upwards (`FileSystem.IsTree.leads`).
-/

namespace VolumeBroker

namespace FileSystem

variable {fs fs' : FileSystem} {path : String} {place q : List String}

/-! ### Paths that find what they lead to -/

/-- Whatever stands at the place of a path is reached through directories. -/
def Leads (fs : FileSystem) (path : String) : Prop :=
  ∀ node, fs.nodeAt (fs.lexicalPlace path) = some node →
    ∃ place, fs.follow (fs.origin path) (FilePath.segments path) = some place

/-- Whatever stands anywhere stands in a directory. -/
def IsTree (fs : FileSystem) : Prop :=
  ∀ place segment, fs.nodeAt (place ++ [segment]) ≠ none → fs.isDirectoryAt place = true

theorem walk_eq_append {segments : List String} (hup : ".." ∉ segments) (place : List String) :
    walk place segments = place ++ segments := by
  induction segments generalizing place with
  | nil => exact (List.append_nil place).symm
  | cons segment rest ih =>
    rw [List.mem_cons, not_or] at hup
    have hwalk : walk place (segment :: rest) = walk (place ++ [segment]) rest := by
      unfold walk
      rw [List.foldl_cons, if_neg (Ne.symm hup.1)]
    rw [hwalk, ih hup.2, List.append_assoc, List.singleton_append]

/-- In a tree there are directories all the way. -/
theorem IsTree.isDirectoryAt (h : fs.IsTree) {rest : List String} {segment : String}
    (hnode : fs.nodeAt (place ++ segment :: rest) ≠ none) : fs.isDirectoryAt place = true := by
  -- from the bottom up: whatever stands somewhere stands in a directory
  induction rest using List.reverseRecOn with
  | nil => exact h place segment hnode
  | append_singleton rest last ih =>
    refine ih fun hnone => ?_
    rw [← List.cons_append, ← List.append_assoc] at hnode
    have hdirectory := h _ last hnode
    unfold FileSystem.isDirectoryAt at hdirectory
    rw [hnone] at hdirectory
    cases hdirectory

theorem IsTree.follow (h : fs.IsTree) {segments : List String} (hup : ".." ∉ segments)
    (hnode : fs.nodeAt (place ++ segments) ≠ none) :
    fs.follow place segments = some (place ++ segments) := by
  induction segments generalizing place with
  | nil => exact congrArg some (List.append_nil place).symm
  | cons segment rest ih =>
    rw [List.mem_cons, not_or] at hup
    rw [FileSystem.follow, if_pos (h.isDirectoryAt hnode), if_neg (Ne.symm hup.1)]
    have hplace : place ++ segment :: rest = place ++ [segment] ++ rest := List.append_cons ..
    rw [hplace] at hnode ⊢
    exact ih hup.2 hnode

/-- **Paths in a tree** find what they lead to, if they do not lead upwards. -/
theorem IsTree.leads (h : fs.IsTree) (hup : ".." ∉ FilePath.segments path) : fs.Leads path := by
  intro node hnode
  unfold lexicalPlace at hnode
  rw [walk_eq_append hup] at hnode
  exact ⟨_, h.follow hup (hnode ▸ nofun)⟩

theorem isTree_empty : empty.IsTree := by
  intro place segment hnode
  refine absurd ?_ hnode
  unfold nodeAt
  rw [if_neg (by simp)]
  rfl

/-! ### What is left alone -/

/-- What stands at a path is what stands at its place. -/
theorem node?_eq_some {node : FileNode} (h : fs.node? path = some node) :
    fs.place? path = some (fs.lexicalPlace path) ∧ fs.nodeAt (fs.lexicalPlace path) = some node := by
  obtain ⟨place, hplace, hnode⟩ := Option.bind_eq_some_iff.1 h
  obtain rfl := place?_eq_lexicalPlace hplace
  exact ⟨hplace, hnode⟩

/-- **What stands at a path** still stands there if it has been left alone. -/
theorem Spares.node? (h : fs.Spares fs' (fs.lexicalPlace path)) {node : FileNode}
    (hnode : fs.node? path = some node) : fs'.node? path = some node := by
  obtain ⟨hplace, hold⟩ := node?_eq_some hnode
  have hplace' := place?_mono h.workDir h.directories hplace
  have hnew : fs'.nodeAt (fs.lexicalPlace path) = some node := by
    cases node with
    -- directories stay, and so does the file at the place
    | directory =>
      have hdirectory := h.directories (fs.lexicalPlace path) (by unfold isDirectoryAt; rw [hold]; rfl)
      exact eq_of_beq hdirectory
    | file content =>
      have hfile := h.file
      unfold fileAt at hfile
      rw [hold] at hfile
      dsimp only at hfile
      split at hfile
      · next hnode' => rw [hnode', Option.some.inj hfile]
      · cases hfile
  exact Option.bind_eq_some_iff.2 ⟨_, hplace', hnew⟩

theorem Leads.of_node? {node : FileNode} (h : fs.node? path = some node) : fs.Leads path :=
  fun _ _ => ⟨_, (place?_eq (node?_eq_some h).1).1⟩

/-- Where nothing stood nothing stands, if nothing has been put there. -/
theorem Leads.node? (h : fs.Leads path) (hwork : fs'.workDir = fs.workDir)
    (hnode : fs'.nodeAt (fs.lexicalPlace path) = fs.nodeAt (fs.lexicalPlace path))
    (hnone : fs.node? path = none) : fs'.node? path = none := by
  cases hsome : fs'.node? path with
  | none => rfl
  | some node =>
    obtain ⟨hplace, hnew⟩ := node?_eq_some hsome
    rw [lexicalPlace_congr hwork path] at hplace hnew
    -- what stands there now stood there before, and was found
    have hold := hnode.symm.trans hnew
    obtain ⟨place, hfollow⟩ := h node hold
    obtain rfl : place = fs.lexicalPlace path := follow_eq hfollow
    have hnames : FilePath.namesDirectory path = true →
        fs.isDirectoryAt (fs.lexicalPlace path) = true := by
      intro hdirectory
      have hthere := (place?_eq hplace).2 hdirectory
      unfold isDirectoryAt at hthere ⊢
      rwa [← hnode]
    have hfound : fs.place? path = some (fs.lexicalPlace path) := by
      unfold place?
      rw [hfollow]
      change (if FilePath.namesDirectory path && !fs.isDirectoryAt (fs.lexicalPlace path) then none
        else some _) = _
      refine if_neg fun hcheck => ?_
      rw [Bool.and_eq_true, Bool.not_eq_true'] at hcheck
      exact nomatch (hnames hcheck.1).symm.trans hcheck.2
    have hstood : fs.node? path = some node := Option.bind_eq_some_iff.2 ⟨_, hfound, hold⟩
    exact nomatch hnone.symm.trans hstood

/-! ### Directories on the way -/

/-- A place further down has a longer path. -/
theorem pathOf_append_ne (place : List String) {below : List String} (h : below ≠ []) :
    pathOf (place ++ below) ≠ pathOf place := by
  obtain ⟨name, rest, rfl⟩ := List.exists_cons_of_ne_nil h
  intro hpath
  -- it is longer by a slash at least
  have hlength := congrArg (fun path : String => path.toList.length) hpath
  unfold pathOf at hlength
  simp only [String.toList_join, List.map_append, List.map_cons, List.flatMap_append,
    List.flatMap_cons, List.length_append, String.toList_append] at hlength
  have hslash : "/".toList.length = 1 := rfl
  omega

/-- Directories that are made on the way to a place are not made at the place. -/
theorem nodeAt_makeDirectories {segments below : List String} (hup : ".." ∉ segments)
    (hbelow : below ≠ []) (h : fs.makeDirectories place segments = some fs') :
    fs'.nodeAt (place ++ segments ++ below) = fs.nodeAt (place ++ segments ++ below) := by
  induction segments generalizing fs place with
  | nil => rw [Option.some.inj h]
  | cons segment others ih =>
    rw [List.mem_cons, not_or] at hup
    have hplace : place ++ segment :: others ++ below = place ++ [segment] ++ others ++ below := by
      rw [List.append_cons]
    rw [hplace]
    unfold makeDirectories at h
    dsimp only at h
    rw [if_neg (Ne.symm hup.1)] at h
    split at h
    · exact ih hup.2 h
    · cases h
    · obtain ⟨made, hput, hmade⟩ := Option.bind_eq_some_iff.1 h
      rw [ih hup.2 hmade, nodeAt_put? hput, if_neg]
      rintro ⟨-, hpath⟩
      -- the directory is made further up
      rw [List.append_assoc] at hpath
      exact pathOf_append_ne _ (List.append_ne_nil_of_right_ne_nil others hbelow) hpath

end FileSystem

namespace Store

open FileSystem

variable {files files' : FileSystem} {path name text : String}

/-- Making the directory of a record file puts nothing at the place of the file. -/
theorem nodeAt_prepareDirectory (hname : FilePath.fileName? path = some name)
    (hup : ".." ∉ FilePath.segments path) (h : prepareDirectory files path = .ok files') :
    files'.nodeAt (files.lexicalPlace path) = files.nodeAt (files.lexicalPlace path) := by
  have hsegments := (FilePath.segments_of_fileName? hname).1
  unfold prepareDirectory at h
  dsimp only at h
  split at h
  · rw [Except.ok.inj h]
  next hparent =>
  split at h
  · next made hmade =>
    rw [Except.ok.inj h] at hmade
    have horigin : files.origin (FilePath.parent path) = files.origin path := by
      unfold origin
      rw [FilePath.isAbsolute_parent fun hempty => hparent (String.isEmpty_iff.2 hempty)]
    unfold createDirectories at hmade
    rw [horigin] at hmade
    have hplace : files.lexicalPlace path
        = files.origin path ++ FilePath.segments (FilePath.parent path) ++ [name] := by
      unfold lexicalPlace
      rw [walk_eq_append hup, hsegments, List.append_assoc]
    rw [hplace]
    refine nodeAt_makeDirectories (fun hmem => hup ?_) (List.cons_ne_nil _ _) hmade
    rw [hsegments]
    exact List.mem_append_left _ hmem
  · cases h

/-- **Nothing comes to stand at the path** of a record file that cannot be replaced. -/
theorem replaceFile_node? {e : StoreError} (h : replaceFile files path text = (files', .error e))
    (hname : FilePath.fileName? path = some name) (hup : ".." ∉ FilePath.segments path)
    (hleads : files.Leads path) : files'.node? path = files.node? path ∧ files'.Leads path := by
  have hspares := replaceFile_error h
  have hnode : files'.nodeAt (files.lexicalPlace path) = files.nodeAt (files.lexicalPlace path) := by
    unfold replaceFile at h
    split at h
    · rw [show files = files' from congrArg Prod.fst h]
    next prepared hprepared =>
    have hprepare := nodeAt_prepareDirectory hname hup hprepared
    have hwork := (prepareDirectory_spares hprepared []).workDir
    dsimp only at h
    split at h
    · rw [← show prepared = files' from congrArg Prod.fst h, hprepare]
    next written hwrite =>
    split at h
    · obtain rfl : written = files' := congrArg Prod.fst h
      obtain ⟨-, -, hput⟩ := write_eq hwrite
      -- only the temporary file has been written
      rw [nodeAt_put? hput, if_neg, hprepare]
      rintro ⟨-, hpath⟩
      rw [← lexicalPlace_congr hwork path] at hpath
      exact pathOf_temporary_ne prepared path hpath
    · cases h
  constructor
  · cases hold : files.node? path with
    | some node => exact hspares.node? hold
    | none => exact hleads.node? hspares.workDir hnode hold
  · intro node hthere
    rw [lexicalPlace_congr hspares.workDir path, hnode] at hthere
    obtain ⟨place, hfollow⟩ := hleads node hthere
    have horigin : files'.origin path = files.origin path := by
      unfold origin
      rw [hspares.workDir]
    exact ⟨place, horigin ▸ follow_mono hspares.directories hfollow⟩

/-- **No temporary file** stays behind where a record file has been replaced. -/
theorem replaceFile_temporary (h : replaceFile files path text = (files', .ok ())) :
    files'.pathExists (temporaryPath path) = false := by
  unfold replaceFile at h
  split at h
  case h_1 => cases h
  next prepared _ =>
  dsimp only at h
  split at h
  case h_1 => cases h
  next written _ =>
  split at h
  case h_1 => cases h
  next moved hrename =>
  obtain rfl : moved = files' := congrArg Prod.fst h
  have hwork := workDir_rename hrename
  obtain ⟨content, put, -, hsource, -, -, rfl⟩ := rename_eq hrename
  unfold pathExists
  rw [Option.isSome_eq_false_iff, Option.isNone_iff_eq_none]
  by_contra hsome
  obtain ⟨node, hnode⟩ := Option.ne_none_iff_exists'.1 hsome
  obtain ⟨-, hthere⟩ := node?_eq_some hnode
  -- the place of the temporary file has been cleared
  rw [lexicalPlace_congr hwork] at hthere
  have hplace : written.lexicalPlace (temporaryPath path) ≠ [] := by
    intro hroot
    rw [hroot] at hsource
    cases hsource
  unfold nodeAt at hthere
  rw [if_neg (by simpa using hplace), Dict.get?_erase, if_pos rfl] at hthere
  cases hthere

end Store

end VolumeBroker
