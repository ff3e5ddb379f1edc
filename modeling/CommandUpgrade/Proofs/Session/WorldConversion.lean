import CommandUpgrade.Proofs.Session.Runs
import CommandUpgrade.Proofs.World.Transfer
import CommandUpgrade.Session.Sheet

/-!
# Converting a world of one region

The three tools in a row: the commands of the world are listed, the list is converted, and the new
commands are put into a copy of the world. In the copy the command of every command block is converted,
and everything else is as it was.
-/

namespace CommandUpgrade.Session

open Text World

/-- The place of a region file of a world. -/
def regionFile (world : Path) (name : Text) : Path := world ++ ["region".toList, name]

/-- A world of one region file, whose chunks can be read. -/
structure HasWorld (workspace : Workspace) (world name : Text) (chunks : List Placed) : Prop where
  worldName : IsName world
  regionName : IsName name
  folder : workspace.isFolder [sourceFolder, world, "region"] = true
  /-- The folder has no other region file. -/
  only : ∃ names, workspace.names (join ['/'] [sourceFolder, world, "region"]) = .ok names ∧
    names.filter isRegionName = [name]
  file : workspace.files.lookup (regionFile [sourceFolder, world] name) =
    some (.region (.ofChunks chunks))
  placed : WellPlaced chunks
  readable : ∀ placed ∈ chunks, placed.chunk.IsReadable

/-- The name of a sheet that can be written into the workspace. -/
structure IsSheetName (workspace : Workspace) (name : Text) : Prop where
  plain : IsName name
  notFolder : workspace.isFolder [name] = false

theorem IsSheetName.resolve? {workspace : Workspace} {name : Text}
    (h : IsSheetName workspace name) : workspace.resolve? name = some [name] :=
  workspace.resolve?_name h.plain

theorem IsSheetName.put {workspace : Workspace} {name : Text} (h : IsSheetName workspace name)
    (place : Path) (content : Content) : IsSheetName (workspace.put place content) name :=
  ⟨h.plain, h.notFolder⟩

theorem isName_sourceFolder : IsName sourceFolder := by decide

theorem isName_region : IsName "region" := by decide

/-! ## Listing the commands -/

section Extract

variable {workspace : Workspace} {world name extracted : Text} {chunks : List Placed}

theorem HasWorld.names (h : HasWorld workspace world name chunks) :
    ∀ n ∈ [sourceFolder, world, "region"] ++ [name], IsName n := by
  simp only [List.cons_append, List.nil_append, List.mem_cons, List.not_mem_nil, or_false,
    forall_eq_or_imp, forall_eq]
  exact ⟨isName_sourceFolder, h.worldName, isName_region, h.regionName⟩

theorem under_sourceFolder (h : IsName world) :
    Path.under sourceFolder world = join ['/'] [sourceFolder, world] :=
  Path.under_join (List.cons_ne_nil sourceFolder []) (by simpa using isName_sourceFolder) h

variable (h : workspace.IsSound) (hworld : HasWorld workspace world name chunks)

include hworld in
theorem HasWorld.regionFolder : Path.tidy (Path.under (Path.under sourceFolder world) "region") =
    join ['/'] [sourceFolder, world, "region"] := by
  have hnames : ∀ n ∈ [sourceFolder, world], IsName n := by
    simpa using ⟨isName_sourceFolder, hworld.worldName⟩
  rw [under_sourceFolder hworld.worldName,
    Path.under_join (List.cons_ne_nil _ _) hnames isName_region]
  refine Path.tidy_join (List.cons_ne_nil _ _) fun n hn => hworld.names n ?_
  exact List.mem_append_left _ hn

include h hworld

theorem HasWorld.resolve?_folder :
    workspace.resolve? (join ['/'] [sourceFolder, world, "region"]) =
      some [sourceFolder, world, "region"] := by
  refine Workspace.resolve?_join (List.cons_ne_nil _ _)
    (fun n hn => hworld.names n (List.mem_append_left _ hn)) ?_
  intro front _ hfront
  exact h.isFolder_of_prefix hworld.folder hfront

theorem HasWorld.resolve?_file :
    workspace.resolve? (join ['/'] (regionFile [sourceFolder, world] name)) =
      some (regionFile [sourceFolder, world] name) :=
  h.resolve?_join hworld.names hworld.folder

theorem HasWorld.notFolder : workspace.isFolder (regionFile [sourceFolder, world] name) = false :=
  (h.files _ (Workspace.isFile_of_lookup hworld.file)).2.2

/-- What is read from the region file of a world while a sheet is written beside it. -/
theorem HasWorld.extractRegion_put (content : Content) :
    extractRegion (workspace.put [extracted] content) (join ['/'] [sourceFolder, world, "region"])
      name = Extraction.ofRegion name (.ofChunks chunks) := by
  have hpath : Path.under (join ['/'] [sourceFolder, world, "region"]) name =
      join ['/'] (regionFile [sourceFolder, world] name) :=
    Path.under_join (List.cons_ne_nil _ _)
      (fun n hn => hworld.names n (List.mem_append_left _ hn)) hworld.regionName
  have hread : (workspace.put [extracted] content).read
      (join ['/'] (regionFile [sourceFolder, world] name)) = .ok (.region (.ofChunks chunks)) := by
    rw [workspace.read_put_of_ne]
    · exact Workspace.read_eq (hworld.resolve?_file h) (hworld.notFolder h) hworld.file
    · rw [hworld.resolve?_file h]
      simp [regionFile]
  unfold extractRegion
  rw [hpath, hread]
  rfl

/-- Listing the commands writes the rows of the command blocks of the region. -/
theorem runs_extractWorld (hextracted : IsSheetName workspace extracted) :
    Runs (extractWorld (Path.under sourceFolder world) extracted) workspace ()
      (workspace.put [extracted] (.text ((Extraction.header ::
        (listing chunks).map (rowAt name)).flatMap Sheet.writeRow))) := by
  obtain ⟨names, hnames, hregions⟩ := hworld.only
  have hfolder := hworld.resolve?_folder h
  have hhas : (workspace.put [extracted] (.text ({} : Extraction).sheet)).has
      (join ['/'] [sourceFolder, world, "region"]) = true :=
    Workspace.has_of_isFolder ((workspace.resolve?_put _ _ _).trans hfolder) hworld.folder
  have hlisted : (workspace.put [extracted] (.text ({} : Extraction).sheet)).names
      (join ['/'] [sourceFolder, world, "region"]) = .ok names :=
    (workspace.names_put hfolder hworld.folder (by simp) _).trans hnames
  obtain ⟨hrows, hfault⟩ := Extraction.append_eq
    (Extraction.ofRegion_eq hworld.placed hworld.readable name).2 {}
  rw [rows_ofRegion hworld.placed hworld.readable, List.append_nil] at hrows
  unfold extractWorld
  refine (Runs.print _ _).bind ?_
  refine (runs_writeText hextracted.resolve? hextracted.notFolder _).bind ?_
  refine (Runs.workspace _).bind ?_
  rw [hworld.regionFolder]
  dsimp only
  rw [hhas, Bool.not_true, if_neg Bool.false_ne_true, hlisted]
  dsimp only
  rw [hregions, List.foldr_cons, List.foldr_nil, hworld.extractRegion_put h, hfault]
  have hsheet := hextracted.put [extracted] (.text ({} : Extraction).sheet)
  refine (runs_writeText hsheet.resolve? hsheet.notFolder _).bind ?_
  rw [Workspace.put_put]
  unfold Extraction.sheet
  rw [hrows]
  refine (Runs.printAll _ _).bind ((Runs.check _).bind (Runs.printAll _ _))

end Extract

/-! ## Converting the sheet -/

/-- The files of the workspace that tables are read from. -/
def tableFiles : List Text :=
  ["entity_conversion.csv", "sound_conversion.csv", "particle_conversion.csv"]

/-- The conversion tables that a tool has in a workspace. -/
def tablesIn (setting : Setting) (workspace : Workspace) : Tables :=
  Tables.load {
    entities := workspace.text? "entity_conversion.csv"
    blocks := setting.blocks
    sounds := workspace.text? "sound_conversion.csv"
    particles := workspace.text? "particle_conversion.csv"
    states := setting.states } true

theorem runs_tables (setting : Setting) (workspace : Workspace) :
    Runs (tables setting) workspace (tablesIn setting workspace) workspace :=
  (Runs.workspace workspace).bind (Runs.pure workspace _)

theorem isName_of_mem_tableFiles : ∀ name ∈ tableFiles, IsName name := by decide

/-- A sheet that is no table leaves the tables as they are. -/
theorem tablesIn_put (setting : Setting) (workspace : Workspace) {sheet : Text}
    (h : sheet ∉ tableFiles) (content : Content) :
    tablesIn setting (workspace.put [sheet] content) = tablesIn setting workspace := by
  have htext : ∀ name ∈ tableFiles,
      (workspace.put [sheet] content).text? name = workspace.text? name := by
    intro name hname
    unfold Workspace.text?
    rw [workspace.read_put_of_ne]
    rw [workspace.resolve?_name (isName_of_mem_tableFiles name hname)]
    intro heq
    cases heq
    exact h hname
  unfold tablesIn
  rw [htext _ (by decide), htext _ (by decide), htext _ (by decide)]

/-- Converting a sheet writes what the conversion of its commands gives, up to a fault. -/
theorem ends_convertSheet {setting : Setting} {workspace : Workspace} {input output : Text}
    (hinput : IsSheetName workspace input) (houtput : IsSheetName workspace output)
    (hne : input ≠ output) {content : Content}
    (hfile : workspace.files.lookup [input] = some content) {pass : Sheet.Pass}
    (hpass : pass =
      Sheet.convertCommands (Command.convert (tablesIn setting workspace)) content.toText) :
    Ends (convertSheet setting input output) workspace (pass.fault.elim (.ok ()) .error)
      (workspace.put [output] (.text pass.sheet)) := by
  have hsheet := houtput.put [output] (.text [])
  have hagain := hinput.put [output] (.text [])
  have hkept : (workspace.put [output] (.text [])).files.lookup [input] = some content := by
    rw [workspace.lookup_put_of_ne, hfile]
    simpa using hne
  have hopen : Runs (openBoth input output) workspace content.toText
      (workspace.put [output] (.text [])) :=
    (runs_readText hinput.resolve? hinput.notFolder hfile).bind
      ((runs_writeText houtput.resolve? houtput.notFolder []).bind
        (runs_readText hagain.resolve? hagain.notFolder hkept))
  subst hpass
  unfold convertSheet
  refine (runs_tables setting workspace).ends (hopen.ends ?_)
  refine (runs_writeText hsheet.resolve? hsheet.notFolder _).ends ((Runs.printAll _ _).ends ?_)
  rw [Workspace.put_put]
  exact Ends.check _ _

/-- Converting a sheet goes through if the conversion of its commands does. -/
theorem runs_convertSheet {setting : Setting} {workspace : Workspace} {extracted converted s : Text}
    (hextracted : IsSheetName workspace extracted) (hconverted : IsSheetName workspace converted)
    (hne : extracted ≠ converted) (hfile : workspace.files.lookup [extracted] = some (.text s))
    (hfault : (Sheet.convertCommands (Command.convert (tablesIn setting workspace)) s).fault = none) :
    Runs (convertSheet setting extracted converted) workspace ()
      (workspace.put [converted] (.text
        (Sheet.convertCommands (Command.convert (tablesIn setting workspace)) s).sheet)) := by
  have hends := @ends_convertSheet setting _ _ _ hextracted hconverted hne _ hfile _ rfl
  rwa [Content.toText, hfault] at hends

/-! ## Importing the commands -/

/-- A region in which no chunk changed is the same region. -/
theorem region_change_of_chunks {region : Region} {group : Import.Group}
    (h : ¬ 0 < (Import.change region group).chunks) :
    (Import.change region group).region = region := by
  revert h
  unfold Import.change Import.changeChunk
  split
  · exact fun _ => rfl
  split
  · exact fun _ => rfl
  split
  · exact fun _ => rfl
  split
  · split
    · exact fun _ => rfl
    split
    · exact fun _ => rfl
    · exact fun _ => rfl
    · exact fun h => absurd Nat.one_pos h
  · split <;> exact fun _ => rfl

/-- A file after a group: it is written only if a chunk changed. -/
def contentAfter (content : Content) (group : Import.Group) : Content :=
  if 0 < (Import.change content.toRegion group).chunks then
    .region (Import.change content.toRegion group).region
  else content

theorem toRegion_contentAfter (content : Content) (group : Import.Group) :
    (contentAfter content group).toRegion = (Import.change content.toRegion group).region := by
  unfold contentAfter
  split
  case isTrue => rfl
  case isFalse hnone => exact (region_change_of_chunks hnone).symm

theorem contentAfter_region (region : Region) (group : Import.Group) :
    contentAfter (.region region) group = .region (Import.change region group).region := by
  unfold contentAfter
  split
  case isTrue => rfl
  case isFalse hnone => exact congrArg Content.region (region_change_of_chunks hnone).symm

/-- The path of a region file, by the name that a sheet has for it. -/
def regionPath (target : List Text) (name : Text) : Text :=
  Path.tidy (Path.under (Path.under (join ['/'] target) "region") name)

section Group

variable {workspace : Workspace} (target : List Text) {group : Import.Group} {name : Text}
  (hgroup : group.region = some name)

include hgroup

theorem runs_importGroup_of_region {after : Workspace} {totals totals' : Totals}
    (h : Runs (importRegion (regionPath target name) group totals) workspace totals' after) :
    Runs (importGroup (join ['/'] target) totals group) workspace totals' after := by
  refine (Runs.print _ _).bind ?_
  rw [hgroup]
  exact h

/-- A group whose name leads to a file changes that file. -/
theorem runs_importGroup_of_lookup {place : Path} {content : Content}
    (hplace : workspace.resolve? (regionPath target name) = some place)
    (hfolder : workspace.isFolder place = false)
    (hfile : workspace.files.lookup place = some content) (totals : Totals) :
    ∃ totals', Runs (importGroup (join ['/'] target) totals group) workspace totals'
      (workspace.put place (contentAfter content group)) := by
  refine ⟨⟨totals.chunks + (Import.change content.toRegion group).chunks,
    totals.commands + (Import.change content.toRegion group).commands⟩, ?_⟩
  refine runs_importGroup_of_region target hgroup ((Runs.workspace _).bind ?_)
  rw [Workspace.has_of_lookup hplace hfile, Bool.not_true, if_neg Bool.false_ne_true,
    Workspace.read_eq hplace hfolder hfile]
  dsimp only
  unfold contentAfter
  by_cases hchanged : 0 < (Import.change content.toRegion group).chunks
  · rw [if_pos hchanged, if_pos hchanged]
    exact (Runs.change (Workspace.write_eq hplace hfolder _)).bind
      ((Runs.printAll _ _).bind (Runs.pure _ _))
  · rw [if_neg hchanged, if_neg hchanged, Workspace.put_eq_self hfile]
    exact (Runs.printAll _ _).bind (Runs.pure _ _)

end Group

section Groups

variable {workspace : Workspace} {target : List Text} {name : Text} (htarget : target ≠ [])
  (hnames : ∀ n ∈ target, IsName n) (hname : IsName name)

include htarget hnames hname

theorem regionPath_eq : regionPath target name = join ['/'] (regionFile target name) := by
  have hregion : ∀ n ∈ target ++ ["region".toList], IsName n := by
    simpa [or_imp, forall_and] using ⟨hnames, isName_region⟩
  have hall : ∀ n ∈ target ++ ["region".toList] ++ [name], IsName n := by
    simpa [or_imp, forall_and] using ⟨hnames, isName_region, hname⟩
  unfold regionPath
  rw [Path.under_join htarget hnames isName_region, Path.under_join (by simp) hregion hname,
    Path.tidy_join (by simp) hall, List.append_assoc]
  rfl

variable (hplace : workspace.resolve? (join ['/'] (regionFile target name)) =
    some (regionFile target name))
  (hfolder : workspace.isFolder (regionFile target name) = false)

include hplace hfolder

/-- Groups for the region file of a world change that file one after the other. -/
theorem runs_importGroups {groups : List Import.Group}
    (hgroups : ∀ group ∈ groups, group.region = some name) (region : Region) (totals : Totals) :
    ∃ totals', Runs (groups.foldlM (importGroup (join ['/'] target)) totals)
      (workspace.put (regionFile target name) (.region region)) totals'
      (workspace.put (regionFile target name) (.region
        (groups.foldl (fun region group => (Import.change region group).region) region))) := by
  induction groups generalizing region totals with
  | nil => exact ⟨totals, Runs.pure _ _⟩
  | cons group rest ih =>
    obtain ⟨hgroup, hrest⟩ := List.forall_mem_cons.1 hgroups
    have hpath := (workspace.resolve?_put (regionFile target name) (.region region) _).trans hplace
    rw [← regionPath_eq htarget hnames hname] at hpath
    obtain ⟨next, hfirst⟩ := runs_importGroup_of_lookup target hgroup hpath hfolder
      (workspace.lookup_put_self _ _) totals
    rw [Workspace.put_put, contentAfter_region] at hfirst
    obtain ⟨last, hlast⟩ := ih hrest (Import.change region group).region next
    refine ⟨last, ?_⟩
    rw [List.foldlM_cons, List.foldl_cons]
    exact hfirst.bind hlast

end Groups

/-- A folder for new worlds in which there is none of a name yet. -/
structure IsOutput (workspace : Workspace) (output : List Text) (world : Text) : Prop where
  filled : output ≠ []
  plain : ∀ name ∈ output, IsName name
  notFolder : workspace.isFolder (output ++ [world]) = false
  notFile : ∀ front, front <+: output ++ [world] → workspace.isFile front = false

theorem HasWorld.put {workspace : Workspace} (h : workspace.IsSound) {world name : Text}
    {chunks : List Placed} (hworld : HasWorld workspace world name chunks) (sheet : Text)
    (content : Content) : HasWorld (workspace.put [sheet] content) world name chunks where
  worldName := hworld.worldName
  regionName := hworld.regionName
  folder := hworld.folder
  only := by
    obtain ⟨names, hnames, hregions⟩ := hworld.only
    refine ⟨names, ?_, hregions⟩
    rw [workspace.names_put (hworld.resolve?_folder h) hworld.folder (by simp), hnames]
  file := by
    rw [workspace.lookup_put_of_ne, hworld.file]
    simp [regionFile]
  placed := hworld.placed
  readable := hworld.readable

section Apart

variable {workspace : Workspace} {output : List Text} {world sheet : Text}
  (h : IsOutput workspace output world)

include h

/-- A sheet that is no folder on the way to the new world lies apart from it. -/
theorem IsOutput.not_prefix (hne : output.head? ≠ some sheet) : ¬ [sheet] <+: output ++ [world] := by
  obtain ⟨first, rest, rfl⟩ := List.exists_cons_of_ne_nil h.filled
  intro hfront
  exact hne (congrArg some (List.cons_prefix_cons.1 hfront).1.symm)

theorem IsOutput.not_below : ¬ output ++ [world] <+: [sheet] := by
  obtain ⟨first, rest, rfl⟩ := List.exists_cons_of_ne_nil h.filled
  intro hbelow
  have := hbelow.length_le
  simp at this

/-- The copy has the sheet as it is. -/
theorem IsOutput.copy_sheet {source : Path} {copy : Workspace}
    (hcopy : workspace.IsCopy source (output ++ [world]) copy) (hsheet : IsSheetName workspace sheet)
    (hhead : output.head? ≠ some sheet) {content : Content}
    (hfile : workspace.files.lookup [sheet] = some content) :
    IsSheetName copy sheet ∧ copy.files.lookup [sheet] = some content := by
  refine ⟨⟨hsheet.plain, ?_⟩, ?_⟩
  · rw [hcopy.isFolder_elsewhere _ (h.not_prefix hhead) h.not_below, hsheet.notFolder]
  · rw [hcopy.files_elsewhere _ h.not_below, hfile]

end Apart

theorem IsOutput.put {workspace : Workspace} {output : List Text} {world : Text}
    (h : IsOutput workspace output world) {sheet : Text} (hne : output.head? ≠ some sheet)
    (content : Content) : IsOutput (workspace.put [sheet] content) output world where
  filled := h.filled
  plain := h.plain
  notFolder := h.notFolder
  notFile front hfront := by
    rw [workspace.isFile_put_of_ne, h.notFile front hfront]
    rintro rfl
    exact h.not_prefix hne hfront

section Copy

variable {workspace : Workspace} {world : Text} {output : List Text} (h : workspace.IsSound)
  (houtput : IsOutput workspace output world)

include h houtput

/-- The import copies the world. It ends there with a fault if the sheet cannot be loaded, and else
goes on with the groups of the sheet. -/
theorem exists_copy_importWorld {sheet s : Text} {content : Content} (hworld : IsName world)
    (hsource : workspace.isFolder [sourceFolder, world] = true)
    (hsheet : IsSheetName workspace sheet) (hhead : output.head? ≠ some sheet)
    (hfile : workspace.files.lookup [sheet] = some content) (htext : content.toText? = some s) :
    ∃ copy, workspace.IsCopy [sourceFolder, world] (output ++ [world]) copy ∧
      (∀ fault, Import.load s = .error fault →
        Ends (importWorld world sheet (join ['/'] output)) workspace (.error fault) copy) ∧
      ∀ groups totals after, Import.load s = .ok groups →
        Runs (groups.foldlM (importGroup (join ['/'] (output ++ [world]))) {}) copy totals after →
        Runs (importWorld world sheet (join ['/'] output)) workspace () after := by
  have hsourceNames : ∀ n ∈ [sourceFolder, world], IsName n := by
    simpa using ⟨isName_sourceFolder, hworld⟩
  have htargetNames : ∀ n ∈ output ++ [world], IsName n := by
    simpa [or_imp, forall_and] using ⟨houtput.plain, hworld⟩
  have htarget : output ++ [world] ≠ [] := by simp
  obtain ⟨copy, hmade, hcopy⟩ := Workspace.exists_copyFolder h (List.cons_ne_nil _ _) hsource
    houtput.notFolder houtput.notFile hsourceNames htarget htargetNames
  have hhas : workspace.has (join ['/'] [sourceFolder, world]) = true :=
    Workspace.has_of_isFolder (Workspace.resolve?_join (List.cons_ne_nil _ _) hsourceNames
      fun front _ hfront => h.isFolder_of_prefix hsource hfront) hsource
  have hnew : workspace.has (join ['/'] (output ++ [world])) = false :=
    Workspace.has_join_eq_false htarget htargetNames houtput.notFolder
      (houtput.notFile _ List.prefix_rfl)
  obtain ⟨hsheetCopy, hfileCopy⟩ := houtput.copy_sheet hcopy hsheet hhead hfile
  have htidy : Path.tidy sheet = sheet :=
    Path.tidy_join (List.cons_ne_nil sheet []) (by simpa using hsheet.plain)
  refine ⟨copy, hcopy, fun fault hload => ?_, fun groups totals after hload hrun => ?_⟩
  -- Up to the loading of the sheet both go the same way.
  all_goals
    unfold importWorld
    rw [under_sourceFolder hworld, Path.under_join houtput.filled houtput.plain hworld]
    refine (Runs.printAll _ _).ends ((Runs.workspace _).ends ?_)
    rw [hhas, Bool.not_true, if_neg Bool.false_ne_true]
    refine (Runs.workspace _).ends ?_
    rw [hnew, Bool.not_false, if_pos rfl]
    refine (Runs.change hmade).ends ((Runs.workspace _).ends ?_)
    rw [htidy, Workspace.has_of_lookup hsheetCopy.resolve? hfileCopy, Bool.not_true,
      if_neg Bool.false_ne_true]
    refine (Runs.print _ _).ends ?_
    refine (runs_readStrictly hsheetCopy.resolve? hsheetCopy.notFolder hfileCopy htext).ends ?_
    rw [hload]
  · exact Ends.throw copy fault
  · exact (Runs.print _ _).ends (hrun.ends (Runs.printAll _ _))

end Copy

section Import

variable {workspace : Workspace} {world name : Text} {chunks : List Placed} {output : List Text}
  (h : workspace.IsSound) (hworld : HasWorld workspace world name chunks)
  (houtput : IsOutput workspace output world)

include h hworld houtput

/-- The copy of a world has its region file at the new place. -/
theorem IsOutput.copy {copy : Workspace}
    (hcopy : workspace.IsCopy [sourceFolder, world] (output ++ [world]) copy) :
    copy.resolve? (join ['/'] (regionFile (output ++ [world]) name)) =
        some (regionFile (output ++ [world]) name) ∧
      copy.isFolder (regionFile (output ++ [world]) name) = false ∧
      copy.files.lookup (regionFile (output ++ [world]) name) =
        some (.region (.ofChunks chunks)) := by
  refine ⟨Workspace.resolve?_join (by simp [regionFile]) ?_ fun front hne hfront => ?_, ?_, ?_⟩
  · simpa [regionFile, or_imp, forall_and] using
      ⟨houtput.plain, hworld.worldName, isName_region, hworld.regionName⟩
  · -- The folders on the way are those before the target, the target and its folder of regions.
    have hplace : regionFile (output ++ [world]) name =
        output ++ [world] ++ ["region".toList] ++ [name] := by simp [regionFile]
    rw [hplace] at hne hfront
    rcases List.prefix_concat_iff.1 hfront with heq | hbelow
    · exact absurd heq hne
    rcases List.prefix_concat_iff.1 hbelow with rfl | habove
    · exact (hcopy.isFolder _).trans hworld.folder
    · exact hcopy.isFolder_before front habove
  · exact (hcopy.isFolder _).trans (hworld.notFolder h)
  · exact (hcopy.files _).trans hworld.file

/-- The import copies the world, and changes the region file of the copy by the groups of the
sheet. -/
theorem runs_importWorld {converted s : Text} {groups : List Import.Group}
    (hsheet : IsSheetName workspace converted) (hhead : output.head? ≠ some converted)
    (hfile : workspace.files.lookup [converted] = some (.text s))
    (hload : Import.load s = .ok groups) (hgroups : ∀ group ∈ groups, group.region = some name) :
    ∃ copy, workspace.IsCopy [sourceFolder, world] (output ++ [world]) copy ∧
      Runs (importWorld world converted (join ['/'] output)) workspace ()
        (copy.put (regionFile (output ++ [world]) name) (.region (groups.foldl
          (fun region group => (Import.change region group).region) (.ofChunks chunks)))) := by
  have htargetNames : ∀ n ∈ output ++ [world], IsName n := by
    simpa [or_imp, forall_and] using ⟨houtput.plain, hworld.worldName⟩
  have hsource : workspace.isFolder [sourceFolder, world] = true :=
    h.isFolder_of_prefix hworld.folder ⟨[_], rfl⟩
  obtain ⟨copy, hcopy, -, hruns⟩ := exists_copy_importWorld h houtput hworld.worldName hsource
    hsheet hhead hfile rfl
  obtain ⟨hplace, hnotFolder, hregion⟩ := IsOutput.copy h hworld houtput hcopy
  obtain ⟨totals, hrun⟩ := runs_importGroups (by simp) htargetNames hworld.regionName hplace
    hnotFolder hgroups (.ofChunks chunks) {}
  rw [Workspace.put_eq_self hregion] at hrun
  exact ⟨copy, hcopy, hruns groups totals _ hload hrun⟩

end Import

/-! ## The whole conversion -/

theorem region_of_mem_groupsOf {convert : Text → Outcome Text} {name : Text} {chunks : List Placed}
    {group : Import.Group} (h : group ∈ Import.groupsOf convert name chunks) :
    group.region = some name := by
  obtain ⟨place, -, rfl⟩ := List.mem_map.1 h
  rfl

/-- A world of one region file whose commands a sheet and the chunks can take, and the names of the
sheets and of the new world. -/
structure Convertible (setting : Setting) (workspace : Workspace) (world name : Text)
    (chunks : List Placed) (extracted converted : Text) (output : List Text) : Prop where
  sound : workspace.IsSound
  hasWorld : HasWorld workspace world name chunks
  keptName : IsKept name
  kept : ∀ placed ∈ chunks, ∀ block ∈ placed.chunk.blocks,
    block.IsKept (Command.convert (tablesIn setting workspace))
  fits : ∀ placed ∈ chunks, placed.chunk.Fits (Command.convert (tablesIn setting workspace))
  extractedSheet : IsSheetName workspace extracted
  convertedSheet : IsSheetName workspace converted
  apart : extracted ≠ converted
  noTable : extracted ∉ tableFiles
  newWorld : IsOutput workspace output world
  extractedApart : output.head? ≠ some extracted
  convertedApart : output.head? ≠ some converted

section Convertible

variable {setting : Setting} {workspace : Workspace} {world name : Text} {chunks : List Placed}
  {extracted converted : Text} {output : List Text}

/-- The sheet of the commands of a region. -/
def listingSheet (name : Text) (chunks : List Placed) : Text :=
  (Extraction.header :: (listing chunks).map (rowAt name)).flatMap Sheet.writeRow

/-- The workspace with the sheet of the commands, and with the converted sheet as well. -/
def withListing (workspace : Workspace) (extracted name : Text) (chunks : List Placed) : Workspace :=
  workspace.put [extracted] (.text (listingSheet name chunks))

def withSheets (convert : Text → Outcome Text) (workspace : Workspace)
    (extracted converted name : Text) (chunks : List Placed) : Workspace :=
  (withListing workspace extracted name chunks).put [converted]
    (.text (Sheet.convertCommands convert (listingSheet name chunks)).sheet)

theorem lookup_withSheets (convert : Text → Outcome Text) (rest : Path) :
    (withSheets convert workspace extracted converted name chunks).files.lookup
      ([sourceFolder, world] ++ rest) = workspace.files.lookup ([sourceFolder, world] ++ rest) := by
  unfold withSheets withListing
  rw [Workspace.lookup_put_of_ne _ (by simp), Workspace.lookup_put_of_ne _ (by simp)]

variable (h : Convertible setting workspace world name chunks extracted converted output)

include h

theorem Convertible.runs_convertSheet : Runs (convertSheet setting extracted converted)
    (withListing workspace extracted name chunks) ()
    (withSheets (Command.convert (tablesIn setting workspace)) workspace extracted converted name
      chunks) := by
  have htables : tablesIn setting (withListing workspace extracted name chunks) =
      tablesIn setting workspace := tablesIn_put setting workspace h.noTable _
  unfold withSheets
  rw [← htables]
  refine Session.runs_convertSheet (h.extractedSheet.put _ _) (h.convertedSheet.put _ _) h.apart
    (workspace.lookup_put_self _ _) ?_
  rw [htables]
  exact (convertCommands_listing h.hasWorld.readable h.keptName h.kept).1

/-- With the sheets written the workspace still has the world, and no new world yet. -/
theorem Convertible.written (convert : Text → Outcome Text) :
    (withSheets convert workspace extracted converted name chunks).IsSound ∧
      HasWorld (withSheets convert workspace extracted converted name chunks) world name chunks ∧
      IsOutput (withSheets convert workspace extracted converted name chunks) output world := by
  have hsound : (withListing workspace extracted name chunks).IsSound :=
    h.sound.put (List.cons_ne_nil _ _) rfl h.extractedSheet.notFolder _
  refine ⟨hsound.put (List.cons_ne_nil _ _) rfl h.convertedSheet.notFolder _, ?_, ?_⟩
  · exact (h.hasWorld.put h.sound extracted _).put hsound converted _
  · exact (h.newWorld.put h.extractedApart _).put h.convertedApart _

theorem Convertible.runs_importWorld : ∃ copy,
    (withSheets (Command.convert (tablesIn setting workspace)) workspace extracted converted name
      chunks).IsCopy [sourceFolder, world] (output ++ [world]) copy ∧
    Runs (importWorld world converted (join ['/'] output))
      (withSheets (Command.convert (tablesIn setting workspace)) workspace extracted converted name
        chunks) ()
      (copy.put (regionFile (output ++ [world]) name) (.region (.ofChunks
        (chunks.map (Placed.withCommands (Command.convert (tablesIn setting workspace))))))) := by
  obtain ⟨hsound, hworld, houtput⟩ := h.written (Command.convert (tablesIn setting workspace))
  rw [← Import.foldl_change_groupsOf h.hasWorld.placed h.hasWorld.readable h.fits name]
  exact Session.runs_importWorld hsound hworld houtput ((h.convertedSheet.put _ _).put _ _)
    h.convertedApart (Workspace.lookup_put_self _ _ _)
    (load_convertCommands h.hasWorld.readable h.keptName h.kept) fun _ => region_of_mem_groupsOf

end Convertible

/-- A chunk with a chest and two command blocks, one of them empty. -/
def towerChunk (command : Text) : Placed :=
  ⟨3, 1, 1, 2, some (.compound [("Level".toList, .compound [("TileEntities".toList, .list [
    .compound [("id".toList, .string "minecraft:chest"), ("Command".toList, .string "testfor @a[r=3]")],
    .compound [("id".toList, .string "minecraft:command_block"), ("Command".toList, .string [])],
    .compound [("id".toList, .string "command_block"), ("Command".toList, .string command),
      ("x".toList, .int 50)]])])])⟩

/-- A workspace with the world of that chunk. -/
def towerWorkspace : Workspace where
  folders := [[sourceFolder], [sourceFolder, "tower"], [sourceFolder, "tower", "region"]]
  files := [([sourceFolder, "tower", "level.dat"], .bytes [1]),
    (regionFile [sourceFolder, "tower"] "r.0.0.mca",
      .region (.ofChunks [towerChunk "testfor @a[r=3]"]))]

theorem readable_towerChunk (command : Text) : (towerChunk command).chunk.IsReadable := by
  refine ⟨_, rfl, ?_, ?_⟩
  · intro node h
    cases h
    exact ⟨_, rfl⟩
  · intro path node hpath hnode
    cases hpath
    cases hnode
    refine ⟨_, rfl, by simp, ?_⟩
    simp only [List.mem_cons, List.not_mem_nil, or_false, forall_eq_or_imp, forall_eq]
    refine ⟨⟨⟨_, rfl⟩, ?_⟩, ⟨⟨_, rfl⟩, ?_⟩, ⟨_, rfl⟩, ?_⟩ <;>
    · intro node h
      cases h
      exact ⟨_, rfl⟩

theorem withCommands_towerChunk (convert : Text → Outcome Text) :
    (towerChunk "testfor @a[r=3]").withCommands convert =
      towerChunk (Sheet.convertedOr convert "testfor @a[r=3]") := rfl

theorem convertible_tower : Convertible ⟨none, none, false⟩ towerWorkspace "tower" "r.0.0.mca"
    [towerChunk "testfor @a[r=3]"] "list.csv" "new.csv" ["out".toList] where
  sound := by decide
  hasWorld :=
    { worldName := by decide
      regionName := by decide
      folder := by decide
      only := ⟨_, rfl, by decide⟩
      file := rfl
      placed := by decide
      readable := by
        intro placed hplaced
        rw [List.mem_singleton.1 hplaced]
        exact readable_towerChunk _ }
  keptName := by decide
  kept := by
    intro placed hplaced
    rw [List.mem_singleton.1 hplaced]
    decide +kernel
  fits := by
    intro placed hplaced root hroot
    rw [List.mem_singleton.1 hplaced] at hroot
    cases hroot
    decide +kernel
  extractedSheet := ⟨by decide, by decide⟩
  convertedSheet := ⟨by decide, by decide⟩
  apart := by decide
  noTable := by decide
  newWorld :=
    { filled := by decide
      plain := by decide
      notFolder := by decide
      notFile := by
        intro front hfront
        have hall : ∀ front ∈ List.inits ["out".toList, "tower".toList],
            towerWorkspace.isFile front = false := by decide
        exact hall front ((List.mem_inits _ _).2 hfront) }
  extractedApart := by decide
  convertedApart := by decide

end CommandUpgrade.Session
