import CommandUpgrade.Proofs.Text.Split
import CommandUpgrade.Workspace

/-!
# Paths and files

A path of plain names leads to the place of those names (`resolve?_join`), and a file that is put at a
place is read back there and changes nothing elsewhere. `copyFolder` makes every place below the source
readable below the target.
-/

namespace CommandUpgrade

open Text

/-! ## Paths of plain names -/

/-- A name on a path: not empty, without a slash, and no name that stays in place or leads back. -/
@[mk_iff]
structure IsName (name : Text) : Prop where
  filled : name ≠ []
  solid : '/' ∉ name
  notHere : name ≠ ['.']
  notBack : name ≠ ['.', '.']

instance (name : Text) : Decidable (IsName name) := decidable_of_iff _ (isName_iff name).symm

theorem IsName.exists_cons {name : Text} (h : IsName name) : ∃ c r, name = c :: r ∧ c ≠ '/' := by
  obtain ⟨c, r, rfl⟩ := List.exists_cons_of_ne_nil h.filled
  exact ⟨c, r, rfl, (List.ne_of_not_mem_cons h.solid).symm⟩

theorem startsWith_slash {c : Char} (h : c ≠ '/') (r : Text) : startsWith (c :: r) ['/'] = false := by
  unfold startsWith
  simp [List.isPrefixOf, h.symm]

/-- A path of plain names does not start at the root. -/
theorem join_names_eq_cons {names : List Text} (hne : names ≠ []) (h : ∀ name ∈ names, IsName name) :
    ∃ c r, join ['/'] names = c :: r ∧ c ≠ '/' := by
  obtain ⟨name, rest, rfl⟩ := List.exists_cons_of_ne_nil hne
  obtain ⟨c, r, rfl, hc⟩ := (h name List.mem_cons_self).exists_cons
  cases rest with
  | nil => exact ⟨c, r, rfl, hc⟩
  | cons next rest =>
    exact ⟨c, r ++ ('/' :: join ['/'] (next :: rest)), by rw [join_cons_cons, List.cons_append], hc⟩

theorem join_names_eq_append {names : List Text} (hne : names ≠ [])
    (h : ∀ name ∈ names, IsName name) : ∃ r c, join ['/'] names = r ++ [c] ∧ c ≠ '/' := by
  induction names with
  | nil => exact absurd rfl hne
  | cons name rest ih =>
    obtain ⟨hname, hrest⟩ := List.forall_mem_cons.1 h
    cases rest with
    | nil =>
      refine ⟨_, _, (List.dropLast_append_getLast hname.filled).symm, fun heq => ?_⟩
      exact hname.solid (heq ▸ List.getLast_mem hname.filled)
    | cons next rest =>
      obtain ⟨r, c, hjoin, hc⟩ := ih (List.cons_ne_nil _ _) hrest
      exact ⟨name ++ '/' :: r, c, by rw [join_cons_cons, hjoin, List.append_assoc, List.cons_append], hc⟩

theorem filter_names {names : List Text} (h : ∀ name ∈ names, IsName name) :
    names.filter (fun name => !name.isEmpty && name != ['.']) = names := by
  refine List.filter_eq_self.2 fun name hname => ?_
  have hplain := h name hname
  rw [Bool.and_eq_true, Bool.not_eq_true', List.isEmpty_eq_false_iff, bne_iff_ne]
  exact ⟨hplain.filled, hplain.notHere⟩

namespace Path

theorem tidy_join {names : List Text} (hne : names ≠ []) (h : ∀ name ∈ names, IsName name) :
    tidy (join ['/'] names) = join ['/'] names := by
  obtain ⟨c, r, hjoin, hc⟩ := join_names_eq_cons hne h
  unfold tidy
  rw [split_join hne fun name hname => (h name hname).solid]
  dsimp only
  rw [filter_names h, hjoin, startsWith_slash hc, if_neg Bool.false_ne_true, if_neg, ← hjoin]
  rw [List.isEmpty_iff]
  exact hne

theorem under_join {names : List Text} (hne : names ≠ []) (h : ∀ name ∈ names, IsName name)
    {name : Text} (hname : IsName name) :
    under (join ['/'] names) name = join ['/'] (names ++ [name]) := by
  obtain ⟨c, r, rfl, hc⟩ := hname.exists_cons
  obtain ⟨q, d, hend, hd⟩ := join_names_eq_append hne h
  have hfolder : ((join ['/'] names).isEmpty || endsWith (join ['/'] names) ['/']) = false := by
    rw [hend]
    unfold endsWith
    simp [List.isSuffixOf, List.isPrefixOf, hd.symm]
  unfold under
  rw [startsWith_slash hc, if_neg Bool.false_ne_true, hfolder, if_neg Bool.false_ne_true,
    join_concat '/' hne]

end Path

namespace Workspace

/-! ## Places -/

theorem follow?_cons (workspace : Workspace) (start : Path) {name : Text} (h : IsName name)
    (rest : List Text) : workspace.follow? start (name :: rest) =
      if workspace.isFolder start then workspace.follow? (start ++ [name]) rest else none := by
  have hplain : (name.isEmpty || name == ['.']) = false := by
    rw [Bool.or_eq_false_iff, List.isEmpty_eq_false_iff, beq_eq_false_iff_ne]
    exact ⟨h.filled, h.notHere⟩
  rw [follow?, hplain, if_neg Bool.false_ne_true, beq_eq_false_iff_ne.2 h.notBack,
    if_neg Bool.false_ne_true]
  cases workspace.isFolder start <;> rfl

theorem follow?_eq_some {workspace : Workspace} {names : List Text}
    (h : ∀ name ∈ names, IsName name) {start : Path}
    (hfolders : ∀ front, front ≠ names → front <+: names →
      workspace.isFolder (start ++ front) = true) :
    workspace.follow? start names = some (start ++ names) := by
  induction names generalizing start with
  | nil => rw [follow?, List.append_nil]
  | cons name rest ih =>
    obtain ⟨hname, hrest⟩ := List.forall_mem_cons.1 h
    have hstart : workspace.isFolder start = true := by
      have := hfolders [] (List.cons_ne_nil _ _).symm (List.nil_prefix)
      rwa [List.append_nil] at this
    rw [workspace.follow?_cons start hname, if_pos hstart, ih hrest, List.append_assoc,
      List.singleton_append]
    intro front hne hpre
    rw [List.append_assoc, List.singleton_append]
    exact hfolders (name :: front) (fun heq => hne (List.cons.inj heq).2)
      (List.cons_prefix_cons.2 ⟨rfl, hpre⟩)

theorem follow?_names {workspace : Workspace} {names : List Text} (h : ∀ name ∈ names, IsName name)
    (start : Path) : workspace.follow? start names = none ∨
      workspace.follow? start names = some (start ++ names) := by
  induction names generalizing start with
  | nil => exact Or.inr (by rw [follow?, List.append_nil])
  | cons name rest ih =>
    obtain ⟨hname, hrest⟩ := List.forall_mem_cons.1 h
    rw [workspace.follow?_cons start hname]
    split
    · simpa using ih hrest (start ++ [name])
    · exact Or.inl rfl

section Names

variable {workspace : Workspace} {names : List Text} (hne : names ≠ [])
  (h : ∀ name ∈ names, IsName name)

include hne h

theorem resolve?_join_eq :
    workspace.resolve? (join ['/'] names) = workspace.follow? [] names := by
  obtain ⟨c, r, hjoin, hc⟩ := join_names_eq_cons hne h
  have hstart : ((join ['/'] names).isEmpty || startsWith (join ['/'] names) ['/']) = false := by
    rw [hjoin, startsWith_slash hc]
    rfl
  unfold resolve?
  rw [hstart, if_neg Bool.false_ne_true, split_join hne fun name hname => (h name hname).solid]

/-- A path of plain names leads to their place if it goes through folders. -/
theorem resolve?_join
    (hfolders : ∀ front, front ≠ names → front <+: names → workspace.isFolder front = true) :
    workspace.resolve? (join ['/'] names) = some names := by
  rw [resolve?_join_eq hne h]
  exact follow?_eq_some h hfolders

/-- There is nothing at a path of plain names if there is nothing at their place. -/
theorem has_join_eq_false (hfolder : workspace.isFolder names = false)
    (hfile : workspace.isFile names = false) : workspace.has (join ['/'] names) = false := by
  unfold has
  rw [resolve?_join_eq hne h]
  rcases follow?_names h [] with hnone | hsome
  · rw [hnone]
    rfl
  · rw [hsome, List.nil_append, Option.any_some, hfolder, hfile]
    rfl

end Names

/-- A plain name leads to the place of that name. -/
theorem resolve?_name (workspace : Workspace) {name : Text} (h : IsName name) :
    workspace.resolve? name = some [name] := by
  have heq := @resolve?_join_eq workspace [name] (List.cons_ne_nil _ _) (by simpa using h)
  rw [workspace.follow?_cons [] h] at heq
  exact heq

theorem isFolder_iff {workspace : Workspace} {place : Path} :
    workspace.isFolder place = true ↔ place = [] ∨ place ∈ workspace.folders := by
  unfold isFolder
  rw [Bool.or_eq_true, List.isEmpty_iff, List.contains_iff_mem]

theorem isFile_iff {workspace : Workspace} {place : Path} :
    workspace.isFile place = true ↔ place ∈ workspace.files.map (·.1) := by
  unfold isFile
  rw [← Bool.not_eq_false, Option.isSome_eq_false_iff, Option.isNone_iff_eq_none,
    List.lookup_eq_none_iff]
  simp only [bne_iff_ne, ne_eq, not_forall, not_not, List.mem_map]
  constructor
  · rintro ⟨file, hfile, rfl⟩
    exact ⟨file, hfile, rfl⟩
  · rintro ⟨file, hfile, rfl⟩
    exact ⟨file, hfile, rfl⟩

/-- A workspace that a tool can meet: the folder around each folder and file is there, and no place
is both. -/
structure IsSound (workspace : Workspace) : Prop where
  folders : ∀ place, workspace.isFolder place = true → workspace.isFolder place.dropLast = true
  files : ∀ place, workspace.isFile place = true →
    place ≠ [] ∧ workspace.isFolder place.dropLast = true ∧ workspace.isFolder place = false

/-- Only the folders and files that there are have to be looked at. -/
theorem isSound_iff {workspace : Workspace} : workspace.IsSound ↔
    (∀ place ∈ workspace.folders, workspace.isFolder place.dropLast = true) ∧
      ∀ place ∈ workspace.files.map (·.1), place ≠ [] ∧
        workspace.isFolder place.dropLast = true ∧ workspace.isFolder place = false := by
  constructor
  · intro h
    exact ⟨fun place hplace => h.folders place (isFolder_iff.2 (Or.inr hplace)),
      fun place hplace => h.files place (isFile_iff.2 hplace)⟩
  · rintro ⟨hfolders, hfiles⟩
    refine ⟨fun place hplace => ?_, fun place hplace => hfiles place (isFile_iff.1 hplace)⟩
    rcases isFolder_iff.1 hplace with rfl | hmem
    · rfl
    · exact hfolders place hmem

instance (workspace : Workspace) : Decidable workspace.IsSound := decidable_of_iff _ isSound_iff.symm

theorem IsSound.isFolder_of_prefix {workspace : Workspace} (h : workspace.IsSound) {front place : Path}
    (hplace : workspace.isFolder place = true) (hpre : front <+: place) :
    workspace.isFolder front = true := by
  obtain ⟨rest, rfl⟩ := hpre
  induction rest using List.reverseRecOn with
  | nil => rwa [List.append_nil] at hplace
  | append_singleton rest name ih =>
    refine ih ?_
    have := h.folders _ hplace
    rwa [← List.append_assoc, List.dropLast_concat] at this

/-- A path leads to its place if the place around it is a folder. -/
theorem IsSound.resolve?_join {workspace : Workspace} (h : workspace.IsSound) {names : List Text}
    {name : Text} (hnames : ∀ n ∈ names ++ [name], IsName n)
    (hfolder : workspace.isFolder names = true) :
    workspace.resolve? (join ['/'] (names ++ [name])) = some (names ++ [name]) := by
  refine Workspace.resolve?_join (by simp) hnames fun front hne hpre => ?_
  refine h.isFolder_of_prefix hfolder ?_
  rcases List.prefix_concat_iff.1 hpre with heq | hfront
  · exact absurd heq hne
  · exact hfront

/-! ## Files -/

/-- The workspace with a file at a place. -/
def put (workspace : Workspace) (place : Path) (content : Content) : Workspace :=
  { workspace with files := setFile place content workspace.files }

theorem lookup_setFile_self (place : Path) (content : Content) (files : List (Path × Content)) :
    (setFile place content files).lookup place = some content := by
  induction files with
  | nil => rw [setFile, List.lookup_cons_self]
  | cons file rest ih =>
    obtain ⟨p, c⟩ := file
    rw [setFile]
    by_cases h : p = place
    · rw [if_pos h, h, List.lookup_cons_self]
    · rw [if_neg h, List.lookup_cons, beq_eq_false_iff_ne.2 (Ne.symm h), ih]

theorem lookup_setFile_of_ne {place other : Path} (h : other ≠ place) (content : Content)
    (files : List (Path × Content)) :
    (setFile place content files).lookup other = files.lookup other := by
  induction files with
  | nil => rw [setFile, List.lookup_cons, beq_eq_false_iff_ne.2 h]
  | cons file rest ih =>
    obtain ⟨p, c⟩ := file
    rw [setFile]
    by_cases hp : p = place
    · rw [if_pos hp, List.lookup_cons, List.lookup_cons, beq_eq_false_iff_ne.2 (hp ▸ h)]
    · rw [if_neg hp, List.lookup_cons, List.lookup_cons, ih]

theorem setFile_setFile (place : Path) (first second : Content) (files : List (Path × Content)) :
    setFile place second (setFile place first files) = setFile place second files := by
  induction files with
  | nil => rw [setFile, setFile, setFile, if_pos rfl]
  | cons file rest ih =>
    obtain ⟨p, c⟩ := file
    rw [setFile, setFile]
    by_cases h : p = place
    · rw [if_pos h, if_pos h, setFile, if_pos h]
    · rw [if_neg h, if_neg h, setFile, if_neg h, ih]

theorem setFile_eq_self {place : Path} {content : Content} {files : List (Path × Content)}
    (h : files.lookup place = some content) : setFile place content files = files := by
  induction files with
  | nil => cases h
  | cons file rest ih =>
    obtain ⟨p, c⟩ := file
    rw [setFile]
    by_cases hp : p = place
    · rw [hp, List.lookup_cons_self] at h
      rw [if_pos hp, Option.some.inj h]
    · rw [List.lookup_cons, beq_eq_false_iff_ne.2 (Ne.symm hp)] at h
      rw [if_neg hp, ih h]

theorem map_fst_setFile (place : Path) (content : Content) (files : List (Path × Content)) :
    (setFile place content files).map (·.1) = files.map (·.1) ∨
      (setFile place content files).map (·.1) = files.map (·.1) ++ [place] := by
  induction files with
  | nil => exact Or.inr rfl
  | cons file rest ih =>
    obtain ⟨p, c⟩ := file
    rw [setFile]
    by_cases h : p = place
    · rw [if_pos h]
      exact Or.inl rfl
    · rw [if_neg h, List.map_cons, List.map_cons, List.cons_append]
      exact ih.imp (congrArg (p :: ·)) (congrArg (p :: ·))

section Folders

variable {before after : Workspace} (h : after.folders = before.folders)

include h

theorem isFolder_of_folders (place : Path) : after.isFolder place = before.isFolder place := by
  unfold isFolder
  rw [h]

theorem follow?_of_folders (start : Path) (names : List Text) :
    after.follow? start names = before.follow? start names := by
  induction names generalizing start with
  | nil => rfl
  | cons name rest ih =>
    rw [follow?, follow?, ih, ih, ih, isFolder_of_folders h]

theorem resolve?_of_folders (path : Text) : after.resolve? path = before.resolve? path := by
  unfold resolve?
  rw [follow?_of_folders h]

end Folders

theorem isFolder_put (workspace : Workspace) (place : Path) (content : Content) (other : Path) :
    (workspace.put place content).isFolder other = workspace.isFolder other := rfl

theorem resolve?_put (workspace : Workspace) (place : Path) (content : Content) (path : Text) :
    (workspace.put place content).resolve? path = workspace.resolve? path :=
  @resolve?_of_folders workspace (workspace.put place content) rfl path

theorem put_put (workspace : Workspace) (place : Path) (first second : Content) :
    (workspace.put place first).put place second = workspace.put place second := by
  unfold put
  rw [setFile_setFile]

theorem put_eq_self {workspace : Workspace} {place : Path} {content : Content}
    (h : workspace.files.lookup place = some content) : workspace.put place content = workspace := by
  unfold put
  rw [setFile_eq_self h]

theorem lookup_put_self (workspace : Workspace) (place : Path) (content : Content) :
    (workspace.put place content).files.lookup place = some content :=
  lookup_setFile_self place content workspace.files

theorem lookup_put_of_ne (workspace : Workspace) {place other : Path} (h : other ≠ place)
    (content : Content) :
    (workspace.put place content).files.lookup other = workspace.files.lookup other :=
  lookup_setFile_of_ne h content workspace.files

theorem isFile_put_of_ne (workspace : Workspace) {place other : Path} (h : other ≠ place)
    (content : Content) : (workspace.put place content).isFile other = workspace.isFile other :=
  congrArg Option.isSome (workspace.lookup_put_of_ne h content)

/-- A file that is put beside other files leaves them readable as they were. -/
theorem read_put_of_ne (workspace : Workspace) {path : Text} {place : Path}
    (h : workspace.resolve? path ≠ some place) (content : Content) :
    (workspace.put place content).read path = workspace.read path := by
  unfold read
  rw [resolve?_put]
  cases hpath : workspace.resolve? path with
  | none => rfl
  | some other =>
    have hne : other ≠ place := fun heq => h (hpath.trans (congrArg some heq))
    dsimp only
    rw [isFolder_put, workspace.lookup_put_of_ne hne]

theorem names_put (workspace : Workspace) {path : Text} {folder place : Path}
    (hpath : workspace.resolve? path = some folder) (hfolder : workspace.isFolder folder = true)
    (hplace : place.dropLast ≠ folder) (content : Content) :
    (workspace.put place content).names path = workspace.names path := by
  unfold names
  rw [resolve?_put, hpath]
  dsimp only
  rw [isFolder_put, hfolder, if_pos rfl, if_pos rfl]
  unfold put
  dsimp only
  rcases map_fst_setFile place content workspace.files with hmap | hmap
  · rw [hmap]
  · rw [hmap, ← List.append_assoc, List.filterMap_append, List.filterMap_cons,
      beq_eq_false_iff_ne.2 hplace, Bool.and_false, if_neg Bool.false_ne_true, List.filterMap_nil,
      List.append_nil]

theorem IsSound.put {workspace : Workspace} (h : workspace.IsSound) {place : Path} (hne : place ≠ [])
    (hparent : workspace.isFolder place.dropLast = true)
    (hfolder : workspace.isFolder place = false) (content : Content) :
    (workspace.put place content).IsSound where
  folders := h.folders
  files other hother := by
    by_cases heq : other = place
    · rw [heq]
      exact ⟨hne, hparent, hfolder⟩
    · rw [workspace.isFile_put_of_ne heq] at hother
      exact h.files other hother

section File

variable {workspace : Workspace} {path : Text} {place : Path}
  (hpath : workspace.resolve? path = some place) (hfolder : workspace.isFolder place = false)

include hpath hfolder

theorem write_eq (content : Content) :
    workspace.write path content = .ok (workspace.put place content) := by
  unfold write
  rw [hpath]
  dsimp only
  rw [hfolder, if_neg Bool.false_ne_true]
  rfl

theorem read_eq {content : Content} (h : workspace.files.lookup place = some content) :
    workspace.read path = .ok content := by
  unfold read
  rw [hpath]
  dsimp only
  rw [hfolder, if_neg Bool.false_ne_true, h]

omit hfolder in
theorem has_of_lookup {content : Content} (h : workspace.files.lookup place = some content) :
    workspace.has path = true := by
  unfold has isFile
  rw [hpath, Option.any_some, h, Option.isSome_some, Bool.or_true]

end File

theorem isFile_of_lookup {workspace : Workspace} {place : Path} {content : Content}
    (h : workspace.files.lookup place = some content) : workspace.isFile place = true := by
  unfold isFile
  rw [h]
  rfl

/-- A path that leads to no file cannot be read. -/
theorem read_eq_error {workspace : Workspace} {path : Text}
    (h : ∀ place, workspace.resolve? path = some place → workspace.files.lookup place = none) :
    ∃ fault, workspace.read path = .error fault := by
  unfold read
  cases hpath : workspace.resolve? path with
  | none => exact ⟨_, rfl⟩
  | some place =>
    dsimp only
    rw [h place hpath]
    split <;> exact ⟨_, rfl⟩

theorem has_of_isFolder {workspace : Workspace} {path : Text} {place : Path}
    (hpath : workspace.resolve? path = some place) (hfolder : workspace.isFolder place = true) :
    workspace.has path = true := by
  unfold has
  rw [hpath, Option.any_some, hfolder, Bool.true_or]

/-! ## Copies of folders -/

theorem namesOf_join {names : List Text} (hne : names ≠ []) (h : ∀ name ∈ names, IsName name) :
    namesOf (join ['/'] names) = names := by
  unfold namesOf
  rw [split_join hne fun name hname => (h name hname).solid]
  exact filter_names h

/-- The places on the way to a name and beyond: the place of the name, and those behind it. -/
theorem forall_place_cons {places : List Path} {start : Path} {name : Text} {rest : List Text}
    (hname : start ++ [name] ∈ places)
    (hrest : ∀ front, front ≠ [] → front <+: rest → start ++ [name] ++ front ∈ places) :
    ∀ front, front ≠ [] → front <+: name :: rest → start ++ front ∈ places := by
  intro front hne hfront
  obtain ⟨first, front, rfl⟩ := List.exists_cons_of_ne_nil hne
  obtain ⟨rfl, hbelow⟩ := List.cons_prefix_cons.1 hfront
  by_cases hnil : front = []
  · rw [hnil]
    exact hname
  · simpa using hrest front hnil hbelow

theorem addFolders_eq {workspace : Workspace} {start : Path} {names : List Text}
    (hfiles : ∀ front, front ≠ [] → front <+: names → workspace.isFile (start ++ front) = false) :
    ∃ new, workspace.addFolders start names =
        .ok { workspace with folders := workspace.folders ++ new } ∧
      (∀ place ∈ new, place <+: start ++ names) ∧
      ∀ front, front ≠ [] → front <+: names → start ++ front ∈ workspace.folders ++ new := by
  induction names generalizing workspace start with
  | nil =>
    refine ⟨[], by rw [addFolders, List.append_nil], by simp, fun front hne hfront => ?_⟩
    exact absurd (List.prefix_nil.1 hfront) hne
  | cons name rest ih =>
    have hfile : workspace.isFile (start ++ [name]) = false :=
      hfiles [name] (List.cons_ne_nil _ _) (List.cons_prefix_cons.2 ⟨rfl, List.nil_prefix⟩)
    have hrest : ∀ front, front ≠ [] → front <+: rest →
        workspace.isFile (start ++ [name] ++ front) = false := by
      intro front _ hfront
      rw [List.append_assoc]
      exact hfiles (name :: front) (List.cons_ne_nil _ _) (List.cons_prefix_cons.2 ⟨rfl, hfront⟩)
    have hplace : start ++ [name] <+: start ++ name :: rest := ⟨rest, by simp⟩
    rw [addFolders, hfile, if_neg Bool.false_ne_true]
    by_cases hfolder : workspace.isFolder (start ++ [name]) = true
    · rw [if_pos hfolder]
      obtain ⟨new, hadd, hnew, hall⟩ := ih hrest
      refine ⟨new, hadd, by simpa using hnew, forall_place_cons ?_ hall⟩
      rcases isFolder_iff.1 hfolder with heq | hmem
      · exact absurd heq (by simp)
      · exact List.mem_append_left _ hmem
    · rw [if_neg hfolder]
      obtain ⟨new, hadd, hnew, hall⟩ :=
        @ih { workspace with folders := workspace.folders ++ [start ++ [name]] } _ hrest
      refine ⟨(start ++ [name]) :: new, ?_, List.forall_mem_cons.2 ⟨hplace, by simpa using hnew⟩,
        forall_place_cons (List.mem_append_right _ List.mem_cons_self) (by simpa using hall)⟩
      rw [hadd, List.append_assoc, List.singleton_append]

theorem rebase?_eq_some {source target place new : Path} :
    rebase? source target place = some new ↔
      ∃ rest, place = source ++ rest ∧ new = target ++ rest := by
  unfold rebase?
  by_cases h : source <+: place
  · obtain ⟨rest, rfl⟩ := h
    rw [if_pos (List.isPrefixOf_iff_prefix.2 ⟨rest, rfl⟩), List.drop_left, Option.some_inj]
    constructor
    · rintro rfl
      exact ⟨rest, rfl, rfl⟩
    · rintro ⟨other, hother, rfl⟩
      rw [List.append_cancel_left hother]
  · rw [if_neg (mt List.isPrefixOf_iff_prefix.1 h)]
    constructor
    · nofun
    · rintro ⟨rest, rfl, -⟩
      exact absurd ⟨rest, rfl⟩ h

/-- What is below the source is found below the target, once moved. -/
theorem lookup_rebase (source target rest : Path) (files : List (Path × Content)) :
    (files.filterMap fun (file, content) => (rebase? source target file).map (·, content)).lookup
      (target ++ rest) = files.lookup (source ++ rest) := by
  induction files with
  | nil => rfl
  | cons file others ih =>
    obtain ⟨place, content⟩ := file
    rw [List.filterMap_cons, List.lookup_cons]
    dsimp only
    cases hbase : rebase? source target place with
    | none =>
      have hne : source ++ rest ≠ place := by
        rintro rfl
        rw [rebase?_eq_some.2 ⟨rest, rfl, rfl⟩] at hbase
        cases hbase
      rw [beq_eq_false_iff_ne.2 hne]
      exact ih
    | some new =>
      obtain ⟨other, rfl, rfl⟩ := rebase?_eq_some.1 hbase
      dsimp only [Option.map_some]
      rw [List.lookup_cons, ih]
      by_cases heq : rest = other
      · rw [heq, beq_self_eq_true, beq_self_eq_true]
      · rw [beq_eq_false_iff_ne.2 fun h => heq (List.append_cancel_left h),
          beq_eq_false_iff_ne.2 fun h => heq (List.append_cancel_left h)]

theorem lookup_rebase_of_not_prefix {source target place : Path} (h : ¬ target <+: place)
    (files : List (Path × Content)) :
    (files.filterMap fun (file, content) => (rebase? source target file).map (·, content)).lookup
      place = none := by
  refine List.lookup_eq_none_iff.2 fun file hfile => ?_
  obtain ⟨⟨old, content⟩, -, hmap⟩ := List.mem_filterMap.1 hfile
  obtain ⟨new, hnew, rfl⟩ := Option.map_eq_some_iff.1 hmap
  obtain ⟨rest, -, rfl⟩ := rebase?_eq_some.1 hnew
  rw [bne_iff_ne]
  rintro rfl
  exact h ⟨rest, rfl⟩

/-- A workspace with a copy of the source at the target, and otherwise as it was but for the folders on
the way there. -/
structure IsCopy (workspace : Workspace) (source target : Path) (copy : Workspace) : Prop where
  isFolder : ∀ rest, copy.isFolder (target ++ rest) = workspace.isFolder (source ++ rest)
  files : ∀ rest, copy.files.lookup (target ++ rest) = workspace.files.lookup (source ++ rest)
  isFolder_before : ∀ front, front <+: target → copy.isFolder front = true
  isFolder_elsewhere : ∀ place, ¬ place <+: target → ¬ target <+: place →
    copy.isFolder place = workspace.isFolder place
  files_elsewhere : ∀ place, ¬ target <+: place →
    copy.files.lookup place = workspace.files.lookup place

/-- Nothing lies below a place that is no folder. -/
theorem IsSound.isFolder_append {workspace : Workspace} (h : workspace.IsSound) {place : Path}
    (hplace : workspace.isFolder place = false) (rest : Path) :
    workspace.isFolder (place ++ rest) = false := by
  refine Bool.eq_false_iff.2 fun hfolder => ?_
  rw [h.isFolder_of_prefix hfolder ⟨rest, rfl⟩] at hplace
  cases hplace

theorem IsSound.lookup_append {workspace : Workspace} (h : workspace.IsSound) {place : Path}
    (hfolder : workspace.isFolder place = false) (hfile : workspace.isFile place = false)
    (rest : Path) : workspace.files.lookup (place ++ rest) = none := by
  refine Option.isNone_iff_eq_none.1 (Option.isSome_eq_false_iff.1 ?_)
  refine Bool.eq_false_iff.2 fun hrest => ?_
  cases rest using List.reverseRecOn with
  | nil =>
    rw [List.append_nil] at hrest
    exact Bool.false_ne_true (hfile.symm.trans hrest)
  | append_singleton rest name =>
    obtain ⟨-, hparent, -⟩ := h.files _ hrest
    rw [← List.append_assoc, List.dropLast_concat, h.isFolder_append hfolder] at hparent
    cases hparent

/-- The workspace with new folders and everything below the source moved along to the target. -/
def copied (workspace : Workspace) (source target : Path) (new : List Path) : Workspace where
  folders := workspace.folders ++ new ++
    (workspace.folders.filterMap (rebase? source target)).filter
      (!(workspace.folders ++ new).contains ·)
  files := workspace.files ++ workspace.files.filterMap fun (file, content) =>
    (rebase? source target file).map (·, content)

theorem isFolder_copied_iff {workspace : Workspace} {source target : Path} {new : List Path}
    {place : Path} : (workspace.copied source target new).isFolder place = true ↔
      workspace.isFolder place = true ∨ place ∈ new ∨
        ∃ rest, source ++ rest ∈ workspace.folders ∧ place = target ++ rest := by
  have hmoved : place ∈ workspace.folders.filterMap (rebase? source target) ↔
      ∃ rest, source ++ rest ∈ workspace.folders ∧ place = target ++ rest := by
    simp only [List.mem_filterMap, rebase?_eq_some]
    constructor
    · rintro ⟨-, hold, rest, rfl, rfl⟩
      exact ⟨rest, hold, rfl⟩
    · rintro ⟨rest, hold, rfl⟩
      exact ⟨_, hold, rest, rfl, rfl⟩
  rw [isFolder_iff, isFolder_iff, ← hmoved]
  unfold copied
  simp only [List.mem_append, List.mem_filter, Bool.not_eq_true', List.contains_eq_mem,
    decide_eq_false_iff_not]
  tauto

section Copy

variable {workspace : Workspace} (h : workspace.IsSound) {source target : List Text}
  (hsource : source ≠ []) (hfolder : workspace.isFolder source = true)
  (hnew : workspace.isFolder target = false)
  (hfree : ∀ front, front <+: target → workspace.isFile front = false)

include h hsource hfolder hnew hfree

theorem isCopy_copied {new : List Path} (hbefore : ∀ place ∈ new, place <+: target)
    (hall : ∀ front, front ≠ [] → front <+: target → front ∈ workspace.folders ++ new) :
    workspace.IsCopy source target (workspace.copied source target new) where
  isFolder rest := by
    refine Bool.eq_iff_iff.2 ⟨fun hcopy => ?_, fun hold => isFolder_copied_iff.2 ?_⟩
    · rcases isFolder_copied_iff.1 hcopy with hold | hmem | ⟨other, hold, heq⟩
      · rw [h.isFolder_append hnew] at hold
        cases hold
      · obtain rfl : rest = [] := by
          have := (hbefore _ hmem).length_le
          rw [List.length_append] at this
          exact List.length_eq_zero_iff.1 (by omega)
        rwa [List.append_nil]
      · rw [List.append_cancel_left heq]
        exact isFolder_iff.2 (Or.inr hold)
    · rcases isFolder_iff.1 hold with hnil | hmem
      · exact absurd (List.append_eq_nil_iff.1 hnil).1 hsource
      · exact Or.inr (Or.inr ⟨rest, hmem, rfl⟩)
  files rest := by
    have hnone : workspace.files.lookup (target ++ rest) = none :=
      h.lookup_append hnew (hfree target List.prefix_rfl) rest
    unfold copied
    dsimp only
    rw [List.lookup_append, hnone, Option.none_or, lookup_rebase]
  isFolder_before front hpre := by
    by_cases hnil : front = []
    · rw [hnil]
      rfl
    · rcases List.mem_append.1 (hall front hnil hpre) with hmem | hmem
      · exact isFolder_copied_iff.2 (Or.inl (isFolder_iff.2 (Or.inr hmem)))
      · exact isFolder_copied_iff.2 (Or.inr (Or.inl hmem))
  isFolder_elsewhere place hbelow habove := by
    refine Bool.eq_iff_iff.2 ⟨fun hcopy => ?_, fun hold => isFolder_copied_iff.2 (Or.inl hold)⟩
    rcases isFolder_copied_iff.1 hcopy with hold | hmem | ⟨rest, -, rfl⟩
    · exact hold
    · exact absurd (hbefore _ hmem) hbelow
    · exact absurd ⟨rest, rfl⟩ habove
  files_elsewhere place hplace := by
    unfold copied
    dsimp only
    rw [List.lookup_append, lookup_rebase_of_not_prefix hplace, Option.or_none]

/-- A folder is copied to a place where nothing is. -/
theorem exists_copyFolder (hsourceNames : ∀ name ∈ source, IsName name) (htarget : target ≠ [])
    (htargetNames : ∀ name ∈ target, IsName name) : ∃ copy,
    workspace.copyFolder (join ['/'] source) (join ['/'] target) = .ok copy ∧
      workspace.IsCopy source target copy := by
  have hresolve : workspace.resolve? (join ['/'] source) = some source :=
    resolve?_join hsource hsourceNames fun front _ hpre => h.isFolder_of_prefix hfolder hpre
  obtain ⟨new, hmade, hbefore, hall⟩ :=
    @addFolders_eq workspace [] target fun front _ hpre => hfree front hpre
  refine ⟨workspace.copied source target new, ?_,
    isCopy_copied h hsource hfolder hnew hfree hbefore hall⟩
  unfold copyFolder makeFolder
  rw [hresolve, namesOf_join htarget htargetNames, hmade]
  dsimp only
  rw [hfolder, Bool.not_true, if_neg Bool.false_ne_true]
  rfl

end Copy

end Workspace

end CommandUpgrade
