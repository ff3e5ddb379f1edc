import CommandUpgrade.Proofs.Session.WorldConversion
import CommandUpgrade.Proofs.World.Loading

/-!
# Importing any sheet

The tool that puts the commands of a sheet into a copy of a world. If the sheet cannot be loaded as a
whole, the copy is as the world was. Otherwise each group changes the file that its name leads to and
no other one (`updates_importGroup`), so a chunk of the copy is what the rows for its place make of
it (`importWorld_updates`).
-/

namespace CommandUpgrade.Session

open Text World

/-! ## Workspaces with the same folders -/

/-- The second workspace has the folders of the first one, and its files changed place by place. -/
structure Updates (before after : Workspace) (edit : Path → Content → Content) : Prop where
  folders : after.folders = before.folders
  files : ∀ place, after.files.lookup place = (before.files.lookup place).map (edit place)

/-- No file lies where a folder is. -/
def Apart (workspace : Workspace) : Prop :=
  ∀ place content, workspace.files.lookup place = some content → workspace.isFolder place = false

theorem Updates.apart {before after : Workspace} {edit : Path → Content → Content}
    (h : Updates before after edit) (hapart : Apart before) : Apart after := by
  intro place content hfile
  rw [h.files] at hfile
  obtain ⟨old, hold, -⟩ := Option.map_eq_some_iff.1 hfile
  rw [Workspace.isFolder_of_folders h.folders]
  exact hapart place old hold

/-! ## One group -/

/-- Whether the name that a sheet has for a region leads to a place. -/
def leads (workspace : Workspace) (target : List Text) (place : Path) (name : Text) : Bool :=
  workspace.resolve? (regionPath target name) = some place

theorem leads_of_folders {before after : Workspace} (h : after.folders = before.folders)
    (target : List Text) (place : Path) : leads after target place = leads before target place := by
  funext name
  unfold leads
  rw [Workspace.resolve?_of_folders h]

section Group

variable {workspace : Workspace} (target : List Text) {group : Import.Group} {name : Text}
  (hgroup : group.region = some name)

include hgroup

/-- A group whose name leads to no file changes nothing. -/
theorem runs_importGroup_of_none
    (hnone : ∀ place, workspace.resolve? (regionPath target name) = some place →
      workspace.files.lookup place = none) (totals : Totals) :
    Runs (importGroup (join ['/'] target) totals group) workspace totals workspace := by
  refine runs_importGroup_of_region target hgroup ((Runs.workspace _).bind ?_)
  split
  · exact (Runs.print _ _).bind (Runs.pure _ _)
  · obtain ⟨fault, hfault⟩ := Workspace.read_eq_error hnone
    rw [hfault]
    exact (Runs.print _ _).bind (Runs.pure _ _)

/-- A group changes the file that its name leads to, and no other one. -/
theorem updates_importGroup (hapart : Apart workspace) (totals : Totals) : ∃ totals' after,
    Runs (importGroup (join ['/'] target) totals group) workspace totals' after ∧
      Updates workspace after fun place content =>
        if leads workspace target place name then contentAfter content group else content := by
  -- A name that leads to no file may lead to a folder or nowhere: nothing is written for either.
  by_cases hfile : ∃ place content, workspace.resolve? (regionPath target name) = some place ∧
      workspace.files.lookup place = some content
  · obtain ⟨place, content, hplace, hfile⟩ := hfile
    obtain ⟨totals', hrun⟩ := runs_importGroup_of_lookup target hgroup hplace
      (hapart place content hfile) hfile totals
    refine ⟨totals', _, hrun, rfl, fun other => ?_⟩
    by_cases hother : other = place
    · have hleads : leads workspace target place name = true := decide_eq_true hplace
      rw [hother, workspace.lookup_put_self, hfile, Option.map_some, if_pos hleads]
    · have hleads : leads workspace target other name = false := by
        refine decide_eq_false fun hleads => hother ?_
        exact Option.some.inj (hleads.symm.trans hplace)
      rw [workspace.lookup_put_of_ne hother, hleads]
      exact Option.map_id'.symm
  · have hnone : ∀ place, workspace.resolve? (regionPath target name) = some place →
        workspace.files.lookup place = none := by
      intro place hplace
      exact Option.eq_none_iff_forall_ne_some.2 fun content hcontent =>
        hfile ⟨place, content, hplace, hcontent⟩
    refine ⟨totals, workspace, runs_importGroup_of_none target hgroup hnone totals, rfl,
      fun other => ?_⟩
    by_cases hleads : workspace.resolve? (regionPath target name) = some other
    · rw [hnone other hleads]
      rfl
    · have hleads : leads workspace target other name = false := decide_eq_false hleads
      rw [hleads]
      exact Option.map_id'.symm

end Group

/-! ## All groups -/

/-- Groups change the files that their names lead to, one after the other. -/
theorem updates_importGroups (target : List Text) {groups : List Import.Group}
    (hgroups : ∀ group ∈ groups, group.region ≠ none) {workspace : Workspace}
    (hapart : Apart workspace) (totals : Totals) : ∃ totals' after,
    Runs (groups.foldlM (importGroup (join ['/'] target)) totals) workspace totals' after ∧
      Updates workspace after fun place content =>
        (groups.filter (·.region.any (leads workspace target place))).foldl contentAfter content := by
  induction groups generalizing workspace totals with
  | nil => exact ⟨totals, workspace, Runs.pure _ _, rfl, fun place => Option.map_id'.symm⟩
  | cons group rest ih =>
    obtain ⟨hgroup, hrest⟩ := List.forall_mem_cons.1 hgroups
    obtain ⟨name, hname⟩ := Option.ne_none_iff_exists'.1 hgroup
    obtain ⟨next, middle, hrun, hfirst⟩ := updates_importGroup target hname hapart totals
    obtain ⟨last, after, hlast, hothers⟩ := ih hrest (hfirst.apart hapart) next
    refine ⟨last, after, ?_, hothers.folders.trans hfirst.folders, fun place => ?_⟩
    · rw [List.foldlM_cons]
      exact hrun.bind hlast
    · -- The folders stay, so a name leads to the same place after the first group as before it.
      rw [hothers.files, hfirst.files, Option.map_map, List.filter_cons, hname, Option.any_some,
        leads_of_folders hfirst.folders]
      refine congrArg (Option.map · _) (funext fun content => ?_)
      cases leads workspace target place name <;> rfl

theorem toRegion_foldl_contentAfter (groups : List Import.Group) (content : Content) :
    (groups.foldl contentAfter content).toRegion =
      groups.foldl (fun region group => (Import.change region group).region) content.toRegion := by
  induction groups generalizing content with
  | nil => rfl
  | cons group rest ih => rw [List.foldl_cons, List.foldl_cons, ih, toRegion_contentAfter]

/-! ## The rows of a file -/

open Import (Row Flawed)

/-- The changes of the rows for a chunk of the file that some names lead to, in their order. -/
def changesOf (rows : List Row) (here : Text → Bool) (x z : Int) : List Import.Change :=
  (rows.filter fun row => here row.region && decide (row.x = x ∧ row.z = z)).map Row.change

/-- What rows make of a file, where some names lead to it. A file to which none of them leads stays as
it is. In any other the header stays, and so do all chunks but those for which there are rows. Of
names that lead to one file all rows have to use the same. -/
structure IsImport (rows : List Row) (here : Text → Bool) (before after : Content) : Prop where
  unaddressed : (∀ row ∈ rows, here row.region = false) → after = before
  slots : after.toRegion.slots = before.toRegion.slots
  chunks : before.toRegion.Separate →
    (∀ row ∈ rows, ∀ other ∈ rows, here row.region = true → here other.region = true →
      row.region = other.region) →
    ∀ x z, Inside x z → Option.Rel (Import.IsUpdate (changesOf rows here x z))
      (before.toRegion.chunkAt? x z) (after.toRegion.chunkAt? x z)

theorem flatMap_changes (rows : List Row) (here : Text → Bool) (x z : Int) :
    ((rows.map Row.group).filter (·.isFor (·.any here) x z)).flatMap (·.changes) =
      changesOf rows here x z := by
  unfold changesOf
  rw [List.filter_map, List.flatMap_map]
  exact List.flatMap_pure_eq_map Row.change _

theorem exists_row_of_mem {rows : List Row} {group : Import.Group}
    (h : group ∈ Import.addGroups [] (rows.map Row.group)) :
    ∃ row ∈ rows, group.region = some row.region := by
  obtain ⟨_, hmem, hkey⟩ := Import.exists_key_eq h
  obtain ⟨row, hrow, rfl⟩ := List.mem_map.1 hmem
  exact ⟨row, hrow, ((Import.key_eq_iff _ group).1 hkey).1.symm⟩

/-- The groups of rows make of a file what the rows do. -/
theorem isImport_foldl {rows : List Row} (hinside : ∀ row ∈ rows, Inside row.x row.z)
    (here : Text → Bool) (content : Content) :
    IsImport rows here content
      (((Import.addGroups [] (rows.map Row.group)).filter (·.region.any here)).foldl contentAfter
        content) where
  unaddressed hnone := by
    have hfilter : (Import.addGroups [] (rows.map Row.group)).filter (·.region.any here) = [] := by
      refine List.filter_eq_nil_iff.2 fun group hgroup => ?_
      obtain ⟨row, hrow, hregion⟩ := exists_row_of_mem hgroup
      rw [hregion, Option.any_some, hnone row hrow]
      exact Bool.false_ne_true
    rw [hfilter]
    rfl
  slots := by rw [toRegion_foldl_contentAfter, Import.header_foldl]
  chunks hseparate hname x z hin := by
    rw [toRegion_foldl_contentAfter, ← flatMap_changes]
    refine @Import.rel_chunkAt? _ (·.any here) ?_ x z (List.forall_mem_map.2 hinside) _ hseparate hin
    refine List.forall_mem_map.2 fun row hrow => List.forall_mem_map.2 fun other hother => ?_
    exact fun hrowHere hotherHere => congrArg some (hname row hrow other hother hrowHere hotherHere)

/-! ## The whole import -/

/-- The files of a copy lie apart from its folders. -/
theorem IsOutput.apart {workspace copy : Workspace} {output : List Text} {world : Text}
    (houtput : IsOutput workspace output world) (h : workspace.IsSound) {source : Path}
    (hcopy : workspace.IsCopy source (output ++ [world]) copy) : Apart copy := by
  have hsound : Apart workspace := fun place content hfile =>
    (h.files place (Workspace.isFile_of_lookup hfile)).2.2
  intro place content hfile
  by_cases hbelow : output ++ [world] <+: place
  · obtain ⟨rest, rfl⟩ := hbelow
    rw [hcopy.files] at hfile
    rw [hcopy.isFolder]
    exact hsound _ content hfile
  · rw [hcopy.files_elsewhere place hbelow] at hfile
    have hbefore : ¬ place <+: output ++ [world] := by
      intro hfront
      cases (Workspace.isFile_of_lookup hfile).symm.trans (houtput.notFile place hfront)
    rw [hcopy.isFolder_elsewhere place hbefore hbelow]
    exact hsound place content hfile

/-- A file that is there is no folder on the way to the new world. -/
theorem IsOutput.head_ne {workspace : Workspace} {output : List Text} {world sheet : Text}
    (houtput : IsOutput workspace output world) {content : Content}
    (hfile : workspace.files.lookup [sheet] = some content) : output.head? ≠ some sheet := by
  obtain ⟨first, rest, rfl⟩ := List.exists_cons_of_ne_nil houtput.filled
  intro hhead
  cases hhead
  have hnone := houtput.notFile [sheet] ⟨rest ++ [world], rfl⟩
  cases (Workspace.isFile_of_lookup hfile).symm.trans hnone

section Whole

variable {workspace : Workspace} {world sheet s : Text} {output : List Text} {content : Content}
  (h : workspace.IsSound) (hworld : IsName world)
  (hsource : workspace.isFolder [sourceFolder, world] = true)
  (houtput : IsOutput workspace output world) (hsheet : IsName sheet)
  (hfile : workspace.files.lookup [sheet] = some content) (htext : content.toText? = some s)

include h hsheet hfile in
theorem isSheetName_of_lookup : IsSheetName workspace sheet :=
  ⟨hsheet, (h.files [sheet] (Workspace.isFile_of_lookup hfile)).2.2⟩

include h hworld hsource houtput hsheet hfile htext

/-- From a flawed sheet nothing is imported. -/
theorem importWorld_of_flawed (hflawed : Flawed (Sheet.records s)) :
    (run (importWorld world sheet (join ['/'] output)) workspace).fault ≠ none ∧ ∀ rest,
      (run (importWorld world sheet (join ['/'] output)) workspace).workspace.files.lookup
        (output ++ [world] ++ rest) = workspace.files.lookup ([sourceFolder, world] ++ rest) := by
  obtain ⟨copy, hcopy, hfaults, -⟩ := exists_copy_importWorld h houtput hworld hsource
    (isSheetName_of_lookup h hsheet hfile) (houtput.head_ne hfile) hfile htext
  obtain ⟨fault, hload⟩ := Import.load_of_flawed hflawed
  obtain ⟨hworkspace, hfault⟩ := @Ends.run_eq _ _ _ (some fault) (hfaults fault hload)
  rw [hworkspace, hfault]
  exact ⟨Option.some_ne_none fault, hcopy.files⟩

/-- Rows are imported into the files that their names lead to. -/
theorem importWorld_of_rows {rows : List Row} (hnone : (Sheet.records s).fault = none)
    (hrows : List.Forall₂ Row.IsOf rows (Sheet.records s).records) :
    (run (importWorld world sheet (join ['/'] output)) workspace).fault = none ∧
      ((∀ row ∈ rows, Inside row.x row.z) → ∀ rest,
        Option.Rel (IsImport rows
          (leads (run (importWorld world sheet (join ['/'] output)) workspace).workspace
            (output ++ [world]) (output ++ [world] ++ rest)))
          (workspace.files.lookup ([sourceFolder, world] ++ rest))
          ((run (importWorld world sheet (join ['/'] output)) workspace).workspace.files.lookup
            (output ++ [world] ++ rest))) := by
  obtain ⟨copy, hcopy, -, hruns⟩ := exists_copy_importWorld h houtput hworld hsource
    (isSheetName_of_lookup h hsheet hfile) (houtput.head_ne hfile) hfile htext
  have hgroups : ∀ group ∈ Import.addGroups [] (rows.map Row.group), group.region ≠ none := by
    intro group hgroup
    obtain ⟨row, -, hregion⟩ := exists_row_of_mem hgroup
    rw [hregion]
    exact Option.some_ne_none _
  obtain ⟨totals, after, hrun, hupdates⟩ := updates_importGroups (output ++ [world]) hgroups
    (houtput.apart h hcopy) {}
  obtain ⟨hworkspace, hfault⟩ := (hruns _ totals after (Import.load_eq hnone hrows) hrun).run_eq
  rw [hworkspace, hfault]
  refine ⟨rfl, fun hinside rest => ?_⟩
  rw [leads_of_folders hupdates.folders, hupdates.files, hcopy.files]
  cases workspace.files.lookup ([sourceFolder, world] ++ rest) with
  | none => exact .none
  | some content => exact .some (isImport_foldl hinside _ content)

end Whole

/-- A chunk with command blocks. -/
def blockChunk (x z : Int) (commands : List Text) : Placed :=
  ⟨x, z, 1, ⟨2, some (.compound [("Level", .compound [("TileEntities", .list (commands.map
    fun command => .compound [("id", .string "minecraft:command_block"),
      ("Command", .string command)]))])])⟩⟩

/-- A world of one region, and a sheet beside it. -/
def blockWorkspace (chunks : List Placed) (sheet : Text) : Workspace where
  folders := [[sourceFolder], [sourceFolder, "tower"], [sourceFolder, "tower", "region"]]
  files := [(regionFile [sourceFolder, "tower"] "r.0.0.mca", .region (.ofChunks chunks)),
    (["new.csv".toList], .text sheet)]

theorem isSound_blockWorkspace (chunks : List Placed) (sheet : Text) :
    (blockWorkspace chunks sheet).IsSound := of_decide_eq_true rfl

theorem isOutput_blockWorkspace (chunks : List Placed) (sheet : Text) :
    IsOutput (blockWorkspace chunks sheet) ["out".toList] "tower" where
  filled := List.cons_ne_nil _ _
  plain := by decide
  notFolder := rfl
  notFile := by
    intro front hfront
    have hall : ∀ front ∈ List.inits ["out".toList, "tower".toList],
        (blockWorkspace chunks sheet).isFile front = false := of_decide_eq_true rfl
    exact hall front ((List.mem_inits _ _).2 hfront)

/-- The place of the region file in the new world. -/
def newRegionFile : Path := regionFile ["out".toList, "tower".toList] "r.0.0.mca"

def twoChunks : List Placed :=
  [blockChunk 0 0 ["say 1".toList, "say 2".toList], blockChunk 1 0 ["say 3".toList]]

/-- Rows for two chunks in turn. A block is addressed twice, a row lies behind the end and one before
the beginning. -/
def turnsSheet : Text :=
  "region_file,chunk_x,chunk_z,command_index,converted_command\n" ++
    "r.0.0.mca,0,0,-1,say a\nr.0.0.mca,1,0,0,say b\nr.0.0.mca,0,0,1,say c\n" ++
    "r.0.0.mca,0,0,2,say d\nr.0.0.mca,1,0,-2,say e\n"

def turnsRows : List Row :=
  [⟨"r.0.0.mca", 0, 0, -1, some "say a"⟩, ⟨"r.0.0.mca", 1, 0, 0, some "say b"⟩,
    ⟨"r.0.0.mca", 0, 0, 1, some "say c"⟩, ⟨"r.0.0.mca", 0, 0, 2, some "say d"⟩,
    ⟨"r.0.0.mca", 1, 0, -2, some "say e"⟩]

theorem isOf_turnsRows :
    List.Forall₂ Row.IsOf turnsRows (Sheet.records turnsSheet).records := by decide +kernel

theorem IsImport.turns {here : Text → Bool} {region : Region} {after : Content}
    (h : IsImport turnsRows here (.region region) after) (hhere : here "r.0.0.mca" = true)
    (hseparate : region.Separate) :
    Option.Rel (Import.IsUpdate [⟨-1, some "say a"⟩, ⟨1, some "say c"⟩, ⟨2, some "say d"⟩])
      (region.chunkAt? 0 0) (after.toRegion.chunkAt? 0 0) ∧
    Option.Rel (Import.IsUpdate [⟨0, some "say b"⟩, ⟨-2, some "say e"⟩])
      (region.chunkAt? 1 0) (after.toRegion.chunkAt? 1 0) := by
  have hregion : ∀ row ∈ turnsRows, row.region = "r.0.0.mca" := by decide +kernel
  have hchanges : ∀ x z, changesOf turnsRows here x z =
      (turnsRows.filter fun row => decide (row.x = x ∧ row.z = z)).map Row.change := by
    intro x z
    refine congrArg (List.map Row.change) (List.filter_congr fun row hrow => ?_)
    rw [hregion row hrow, hhere, Bool.true_and]
  have hchunks := h.chunks hseparate fun row hrow other hother _ _ =>
    (hregion row hrow).trans (hregion other hother).symm
  have hzero := hchunks 0 0 (by decide)
  have hone := hchunks 1 0 (by decide)
  rw [hchanges] at hzero hone
  exact ⟨hzero, hone⟩

theorem exists_of_rel {R : Content → Content → Prop} {content : Content} {found : Option Content}
    (h : Option.Rel R (some content) found) : ∃ after, found = some after ∧ R content after := by
  cases h with
  | some h => exact ⟨_, rfl, h⟩

/-- The commands of a chunk of the new world. -/
def newCommands (workspace : Workspace) (x z : Int) : List Text :=
  (((workspace.files.lookup newRegionFile).bind (·.toRegion.chunkAt? x z)).map
    fun chunk => chunk.blocks.map (·.command)).getD []

/-- What the import of a sheet makes of a world with a block at two places. -/
def importBlocks (sheet : Text) : Ending :=
  run (importWorld "tower" "new.csv" "out")
    (blockWorkspace [blockChunk 0 0 ["say 1".toList], blockChunk 0 1 ["say 2".toList]] sheet)

/-- Three rows for one block, with two spellings of the name of its region. -/
def spellingSheet : Text :=
  "region_file,chunk_x,chunk_z,command_index,converted_command\n" ++
    "r.0.0.mca,0,0,0,say a\n./r.0.0.mca,0,0,0,say b\nr.0.0.mca,0,0,0,say c\n"

def spellingRows : List Row :=
  [⟨"r.0.0.mca", 0, 0, 0, some "say a"⟩, ⟨"./r.0.0.mca", 0, 0, 0, some "say b"⟩,
    ⟨"r.0.0.mca", 0, 0, 0, some "say c"⟩]

/-- A row that cannot be made, and one whose place outside the region has the same entry. -/
def outsideSheet : Text :=
  "region_file,chunk_x,chunk_z,command_index,converted_command\n" ++
    "r.0.0.mca,0,1,-2,say a\nr.0.0.mca,32,0,0,say b\n"

/-- A row without a region before another one. -/
def gapSheet : Text :=
  "chunk_x,chunk_z,command_index,region_file,converted_command\n" ++
    "0,1,0\n0,0,0,r.0.0.mca,say a\n"

/-- The columns of a sheet with notes. -/
def noteColumns : List Text :=
  ["region_file", "chunk_x", "chunk_z", "command_index", "converted_command", "note"]

/-- The row of a note with one character more than the limit. -/
def noteRow : List Text :=
  ["r.0.0.mca", "0", "0", "0", "say a", List.replicate (Sheet.cellLimit + 1) 'a']

def noteSheet : Text := [noteColumns, noteRow].flatMap Sheet.writeRow

theorem flawed_noteSheet : Flawed (Sheet.records noteSheet) := by
  refine .fault fun hnone => ?_
  have hcell : normalLines (List.replicate (Sheet.cellLimit + 1) 'a') =
      List.replicate (Sheet.cellLimit + 1) 'a' :=
    normalLines_eq_self fun hmem => absurd (List.eq_of_mem_replicate hmem) (by decide)
  have hmem : List.replicate (Sheet.cellLimit + 1) 'a' ∈ noteRow.map normalLines :=
    List.mem_map.2 ⟨_, List.mem_of_getLast? rfl, hcell⟩
  have hshort := (Sheet.fault_records_eq_none_iff noteSheet).1 hnone (noteRow.map normalLines) (by
    rw [noteSheet, Sheet.decode_flatMap_writeRow]
    exact List.mem_cons_of_mem _ List.mem_cons_self)
  have hlength := of_decide_eq_true (List.all_eq_true.1 hshort _ hmem)
  rw [List.length_replicate] at hlength
  omega

theorem fault_importBlocks_noteSheet : (importBlocks noteSheet).fault ≠ none :=
  (importWorld_of_flawed (isSound_blockWorkspace _ noteSheet) (by decide) rfl
    (isOutput_blockWorkspace _ noteSheet) (by decide) rfl rfl flawed_noteSheet).1

end CommandUpgrade.Session
