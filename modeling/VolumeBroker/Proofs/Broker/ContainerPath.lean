import VolumeBroker.Broker.Parameters
import VolumeBroker.Proofs.Files.Path
/-!
# Container paths, resolved and cleaned

A directory is listed by the names that lead to it from the root. `ContainerPath.Leads` says where one
comes from a directory along the segments of a path: a name leads down, `..` leads up and stays at the
root, and empty segments and `.` lead nowhere. This is said without the stack by which a path is cleaned;
`leads_iff` says that the stack holds the directory that has been reached, the last name of it first.

A cleaned path lists the names of a directory (`clean_eq`), and a path that does so already is cleaned to
itself (`clean_pathOf`). Since cleaning may be done on the way, a path may be cleaned before another one
is put behind it (`clean_join`).

`default_path` puts together what this says about the path at which a volume is mounted when the caller
names none.
-/

namespace VolumeBroker

namespace Split

/-- Pieces that hold no separator are found again. -/
theorem splitAt_joinWith {sep : Char} {piece : List Char} {pieces : List (List Char)}
    (h : ∀ p ∈ piece :: pieces, sep ∉ p) : splitAt sep (joinWith sep (piece :: pieces)) = piece :: pieces := by
  induction pieces generalizing piece with
  | nil => exact splitAt_of_notMem (h piece List.mem_cons_self)
  | cons next pieces ih =>
    have hrest := ih fun p hp => h p (List.mem_cons_of_mem _ hp)
    rw [joinWith, splitAt_append_sep, splitAt_of_notMem (h piece List.mem_cons_self), hrest,
      List.singleton_append]
    exact List.cons_ne_nil _ _

end Split

namespace ContainerPath

/-! ### Directories and the ways between them -/

/-- A segment that names a directory within another one. -/
structure IsName (segment : List Char) : Prop where
  nonempty : segment ≠ []
  ne_dot : segment ≠ ['.']
  ne_parent : segment ≠ ['.', '.']
  no_slash : '/' ∉ segment

/-- From a directory one comes along the segments of a path to a directory. -/
inductive Leads : List (List Char) → List (List Char) → List (List Char) → Prop where
  | arrived (dir : List (List Char)) : Leads dir [] dir
  | stay {dir rest target : List (List Char)} {segment : List Char}
      (h : segment = [] ∨ segment = ['.']) (hrest : Leads dir rest target) :
      Leads dir (segment :: rest) target
  | up {dir rest target : List (List Char)} {name : List Char} (hrest : Leads dir rest target) :
      Leads (dir ++ [name]) (['.', '.'] :: rest) target
  /-- There is nothing above the root. -/
  | root {rest target : List (List Char)} (hrest : Leads [] rest target) :
      Leads [] (['.', '.'] :: rest) target
  | down {dir rest target : List (List Char)} {name : List Char} (hname : IsName name)
      (hrest : Leads (dir ++ [name]) rest target) : Leads dir (name :: rest) target

variable {segment : List Char} {segments dir target before : List (List Char)}

theorem step_stay (h : segment = [] ∨ segment = ['.']) : step before segment = before := if_pos h

theorem step_parent : step before ['.', '.'] = before.drop 1 := rfl

theorem step_name (h : IsName segment) : step before segment = segment :: before := by
  rw [step, if_neg (not_or.2 ⟨h.nonempty, h.ne_dot⟩), if_neg h.ne_parent]

/-- A segment leads nowhere, upwards or to a name. -/
theorem segment_cases (h : '/' ∉ segment) :
    (segment = [] ∨ segment = ['.']) ∨ segment = ['.', '.'] ∨ IsName segment := by
  by_cases hstay : segment = [] ∨ segment = ['.']
  · exact .inl hstay
  by_cases hparent : segment = ['.', '.']
  · exact .inr (.inl hparent)
  · rw [not_or] at hstay
    exact .inr (.inr ⟨hstay.1, hstay.2, hparent, h⟩)

/-- The stack takes one to a directory. -/
theorem leads_foldl (h : ∀ s ∈ segments, '/' ∉ s) :
    Leads dir segments (segments.foldl step dir.reverse).reverse := by
  -- one step of the stack for each segment; the stack holds the directory from its end
  induction segments generalizing dir with
  | nil =>
    rw [List.foldl_nil, List.reverse_reverse]
    exact .arrived dir
  | cons segment rest ih =>
    have hrest : ∀ s ∈ rest, '/' ∉ s := fun s hs => h s (List.mem_cons_of_mem _ hs)
    rw [List.foldl_cons]
    rcases segment_cases (h segment List.mem_cons_self) with hstay | rfl | hname
    · rw [step_stay hstay]
      exact .stay hstay (ih hrest)
    · rw [step_parent]
      rcases List.eq_nil_or_concat dir with rfl | ⟨above, name, rfl⟩
      · exact .root (ih hrest)
      · rw [List.concat_eq_append, List.reverse_append]
        exact .up (ih hrest)
    · -- the name is put behind the directory, in front of the stack
      have hstack : segment :: dir.reverse = (dir ++ [segment]).reverse := by
        rw [List.reverse_append]
        rfl
      rw [step_name hname, hstack]
      exact .down hname (ih hrest)

theorem Leads.eq_foldl (h : Leads dir segments target) :
    target = (segments.foldl step dir.reverse).reverse := by
  -- a rule for a segment is the step that the stack makes for it
  induction h with
  | arrived dir => rw [List.foldl_nil, List.reverse_reverse]
  | stay hstay _ ih => rw [List.foldl_cons, step_stay hstay, ih]
  | up _ ih =>
    rw [List.foldl_cons, step_parent, List.reverse_append]
    exact ih
  | root _ ih => exact ih
  | down hname _ ih =>
    rw [List.foldl_cons, step_name hname, ih, List.reverse_append]
    rfl

/-- **The stack holds the directory that has been reached**, and there is no other. -/
theorem leads_iff (h : ∀ s ∈ segments, '/' ∉ s) :
    Leads dir segments target ↔ target = (segments.foldl step dir.reverse).reverse :=
  ⟨Leads.eq_foldl, fun heq => heq ▸ leads_foldl h⟩

/-- Names lead to names only. -/
theorem Leads.names (h : Leads dir segments target) (hdir : ∀ name ∈ dir, IsName name) :
    ∀ name ∈ target, IsName name := by
  induction h with
  | arrived dir => exact hdir
  | stay _ _ ih => exact ih hdir
  | up _ ih => exact ih fun name hname => hdir name (List.mem_append_left _ hname)
  | root _ ih => exact ih hdir
  | down hname _ ih =>
    refine ih fun name hmem => ?_
    rcases List.mem_append.1 hmem with hmem | hmem
    · exact hdir name hmem
    · exact List.mem_singleton.1 hmem ▸ hname

/-- Along names one comes further down by all of them. -/
theorem foldl_names (h : ∀ name ∈ segments, IsName name) :
    segments.foldl step before = segments.reverse ++ before := by
  induction segments generalizing before with
  | nil => rfl
  | cons name rest ih =>
    rw [List.foldl_cons, step_name (h name List.mem_cons_self),
      ih fun s hs => h s (List.mem_cons_of_mem _ hs), List.reverse_cons, List.append_assoc]
    rfl

/-! ### The paths of directories -/

/-- The path that lists the names of a directory. -/
def pathOf (dir : List (List Char)) : String := String.ofList ('/' :: Split.joinWith '/' dir)

/-- The directory that a path leads to from the root. -/
def directory (path : String) : List (List Char) := resolve (Split.splitAt '/' path.toList)

theorem clean_eq (path : String) : clean path = pathOf (directory path) := rfl

theorem leads_directory (path : String) : Leads [] (Split.splitAt '/' path.toList) (directory path) :=
  (leads_iff (Split.sep_notMem_splitAt '/' _)).2 rfl

theorem directory_names (path : String) : ∀ name ∈ directory path, IsName name :=
  (leads_directory path).names fun _ h => nomatch h

/-- A path that lists names leads down along them. -/
theorem foldl_pathOf (h : ∀ name ∈ dir, IsName name) :
    (Split.splitAt '/' (pathOf dir).toList).foldl step before = dir.reverse ++ before := by
  -- in front of the first slash there is nothing
  have hslash : Split.splitAt '/' ('/' :: Split.joinWith '/' dir)
      = [] :: Split.splitAt '/' (Split.joinWith '/' dir) := if_pos rfl
  rw [pathOf, String.toList_ofList, hslash, List.foldl_cons, step_stay (.inl rfl)]
  cases dir with
  | nil => rfl
  | cons name rest =>
    rw [Split.splitAt_joinWith fun p hp => (h p hp).no_slash, foldl_names h]

/-- A path that lists names is cleaned to itself. -/
theorem clean_pathOf (h : ∀ name ∈ dir, IsName name) : clean (pathOf dir) = pathOf dir := by
  have hdirectory : directory (pathOf dir) = dir := by
    rw [directory, resolve, foldl_pathOf h, List.append_nil, List.reverse_reverse]
  rw [clean_eq, hdirectory]

/-- Cleaning a cleaned path changes nothing. -/
theorem clean_clean (path : String) : clean (clean path) = clean path :=
  clean_pathOf (directory_names path)

/-- A path may be cleaned before another one is put behind it. -/
theorem clean_join (a b : String) : clean (clean a ++ "/" ++ b) = clean (a ++ "/" ++ b) := by
  have hsplit : ∀ front : String, Split.splitAt '/' (front ++ "/" ++ b).toList
      = Split.splitAt '/' front.toList ++ Split.splitAt '/' b.toList := by
    intro front
    rw [String.toList_append, String.toList_append, List.append_assoc]
    exact Split.splitAt_append_sep '/' _ _
  -- both ways lead to the same directory before they go on along the segments behind
  have hfront : (Split.splitAt '/' (clean a).toList).foldl step []
      = (Split.splitAt '/' a.toList).foldl step [] := by
    rw [clean_eq, foldl_pathOf (directory_names a), List.append_nil, directory, resolve,
      List.reverse_reverse]
  have hdirectory : directory (clean a ++ "/" ++ b) = directory (a ++ "/" ++ b) := by
    rw [directory, directory, resolve, resolve, hsplit, hsplit, List.foldl_append, List.foldl_append,
      hfront]
  exact congrArg pathOf hdirectory

/-! ### Canonical paths -/

/-- A path from the root on whose segments name directories, without a slash behind them. -/
structure IsCanonical (path : String) : Prop where
  absolute : path.toList.head? = some '/'
  /-- Only the root ends in its slash. -/
  trailing : path.toList.getLast? = some '/' → path = "/"
  segments : path ≠ "/" → ∀ segment ∈ Split.splitAt '/' (path.toList.drop 1), IsName segment

/-- The last character of a path stands in its last name. -/
theorem getLast?_joinWith {name : List Char} {rest : List (List Char)}
    (h : ∀ s ∈ name :: rest, IsName s) :
    ∃ c ≠ '/', (Split.joinWith '/' (name :: rest)).getLast? = some c := by
  -- the last name decides, and a name holds no slash
  induction rest generalizing name with
  | nil =>
    have hname := h name List.mem_cons_self
    refine ⟨name.getLast hname.nonempty, fun hslash => ?_, List.getLast?_eq_some_getLast _⟩
    exact hname.no_slash (hslash ▸ List.getLast_mem hname.nonempty)
  | cons next rest ih =>
    obtain ⟨c, hc, hlast⟩ := ih fun s hs => h s (List.mem_cons_of_mem _ hs)
    refine ⟨c, hc, ?_⟩
    rw [Split.joinWith, List.getLast?_append, List.getLast?_cons, hlast]
    · rfl
    · exact List.cons_ne_nil _ _

theorem isCanonical_pathOf (h : ∀ name ∈ dir, IsName name) : IsCanonical (pathOf dir) := by
  cases dir with
  | nil => exact ⟨rfl, fun _ => rfl, fun hroot => absurd rfl hroot⟩
  | cons name rest =>
    have htext : (pathOf (name :: rest)).toList = '/' :: Split.joinWith '/' (name :: rest) :=
      String.toList_ofList
    refine ⟨by rw [htext]; rfl, fun hlast => ?_, fun _ segment hsegment => ?_⟩
    · obtain ⟨c, hc, hjoined⟩ := getLast?_joinWith h
      rw [htext, List.getLast?_cons, hjoined] at hlast
      exact absurd (Option.some.inj hlast) hc
    · rw [htext, List.drop_one, List.tail_cons,
        Split.splitAt_joinWith fun p hp => (h p hp).no_slash] at hsegment
      exact h segment hsegment

/-! ### The path of an instance -/

/-- The directory below which volumes are mounted. -/
def home : List (List Char) := ["var".toList, "vcap".toList, "data".toList]

/-- The directory of an instance is found from there along the segments of its id. -/
theorem leads_ofInstance (instanceId : String) :
    Leads home (Split.splitAt '/' instanceId.toList) target ↔
      target = directory (base ++ "/" ++ instanceId) := by
  have hsplit : Split.splitAt '/' (base ++ "/" ++ instanceId).toList
      = [] :: home ++ Split.splitAt '/' instanceId.toList := by
    rw [String.toList_append, String.toList_append, List.append_assoc]
    exact Split.splitAt_append_sep '/' base.toList _
  have hhome : ([] :: home).foldl step [] = home.reverse := by decide
  rw [leads_iff (Split.sep_notMem_splitAt '/' _), directory, resolve, hsplit, List.foldl_append, hhome]

/-- An id that is a name is the last name of the path. -/
theorem ofInstance_of_isName {instanceId : String} (h : IsName instanceId.toList) :
    ofInstance instanceId = base ++ "/" ++ instanceId := by
  -- the id is one segment and a name, so it leads one step down from the base
  have hdirectory : home ++ [instanceId.toList] = directory (base ++ "/" ++ instanceId) := by
    rw [← leads_ofInstance, Split.splitAt_of_notMem h.no_slash]
    exact .down h (.arrived _)
  have htext : base.toList ++ '/' :: instanceId.toList
      = (pathOf (home ++ [instanceId.toList])).toList := by
    rw [pathOf, String.toList_ofList]
    rfl
  rw [ofInstance, clean_eq, ← hdirectory, ← String.toList_inj, ← htext, String.toList_append,
    String.toList_append, List.append_assoc]
  rfl

end ContainerPath

/-- The caller names no path to mount the volume at, or an empty one. -/
def Parameters.Unmounted (parameters : Dict Json) : Prop :=
  parameters.get? "mount" = none ∨ parameters.get? "mount" = some (.str "")

theorem Parameters.Unmounted.containerPath {parameters : Dict Json} (h : Parameters.Unmounted parameters)
    (instanceId : String) :
    Parameters.containerPath parameters instanceId = .ok (ContainerPath.ofInstance instanceId) := by
  unfold Parameters.containerPath
  rcases h with h | h
  · rw [h]
  · rw [h]
    exact congrArg Except.ok (if_pos rfl)

namespace ContainerPath

/-- **The path of an instance by default.** If the caller names none, the path is canonical and lists the
directory, and no other, to which the id leads from the directory of all volumes. An id that is a name
stands at the end of it as it is, so ids that are names have paths of their own. Cleaning is idempotent,
and what stands in front may be cleaned first. -/
theorem default_path (parameters : Dict Json) (h : Parameters.Unmounted parameters) :
    (∀ instanceId, ∃ dir, Parameters.containerPath parameters instanceId = .ok (pathOf dir) ∧
      IsCanonical (pathOf dir) ∧
      ∀ target, Leads home (Split.splitAt '/' instanceId.toList) target ↔ target = dir) ∧
    (∀ instanceId, IsName instanceId.toList →
      Parameters.containerPath parameters instanceId = .ok ("/var/vcap/data/" ++ instanceId)) ∧
    (∀ a b, IsName a.toList → IsName b.toList →
      Parameters.containerPath parameters a = Parameters.containerPath parameters b → a = b) ∧
    (∀ path, clean (clean path) = clean path) ∧
    ∀ a b, clean (a ++ "/" ++ b) = clean (clean a ++ "/" ++ b) := by
  have hname : ∀ instanceId, IsName instanceId.toList →
      Parameters.containerPath parameters instanceId = .ok (base ++ "/" ++ instanceId) := by
    intro instanceId hid
    rw [h.containerPath, ofInstance_of_isName hid]
  refine ⟨fun instanceId => ?_, hname, fun a b ha hb heq => ?_, clean_clean,
    fun a b => (clean_join a b).symm⟩
  · refine ⟨directory (base ++ "/" ++ instanceId), h.containerPath instanceId, ?_, ?_⟩
    · exact isCanonical_pathOf (directory_names _)
    · exact fun target => leads_ofInstance instanceId
  · rw [hname a ha, hname b hb, Except.ok.injEq] at heq
    exact (String.append_right_inj _).1 heq

end ContainerPath

namespace EmptyMount

/-- Parameters that give no path, though they speak of it. -/
def parameters : Dict Json := Dict.empty.insert "mount" (.str "")

theorem unmounted : Parameters.Unmounted parameters := .inr rfl

theorem leads_upwards :
    ContainerPath.Leads ContainerPath.home (Split.splitAt '/' "../../../../etc".toList)
      ["etc".toList] :=
  (ContainerPath.leads_iff (Split.sep_notMem_splitAt '/' _)).2 (by decide)

/-- An id may lead out of the directory of all volumes, but not above the root; a plain one stays. -/
theorem default_path_upwards :
    Parameters.Unmounted parameters ∧
      Parameters.containerPath parameters "../../../../etc" = .ok "/etc" ∧
      ContainerPath.IsCanonical "/etc" ∧
      Parameters.containerPath parameters "inst-1" = .ok "/var/vcap/data/inst-1" := by
  obtain ⟨hids, hnames, -⟩ := ContainerPath.default_path parameters unmounted
  obtain ⟨dir, hpath, hcanonical, hdir⟩ := hids "../../../../etc"
  obtain rfl : ["etc".toList] = dir := (hdir _).1 leads_upwards
  exact ⟨unmounted, hpath, hcanonical,
    hnames "inst-1" ⟨by decide, by decide, by decide, by decide⟩⟩

end EmptyMount

end VolumeBroker
