import CommandUpgrade.Proofs.Outcome
import CommandUpgrade.Proofs.World.Import

/-!
# From a region to the sheet and back

The rows of the extraction, converted and read again, are the groups that convert the commands of the
region (`load_convertCommands`). A cell comes back as it was written if it holds no carriage return and
is not longer than a sheet allows.
-/

namespace CommandUpgrade.World

open Text Sheet Number

/-- A cell that a sheet keeps as it is. -/
def IsKept (cell : Text) : Prop := '\r' ∉ cell ∧ cell.length ≤ cellLimit

instance (cell : Text) : Decidable (IsKept cell) :=
  inferInstanceAs (Decidable ('\r' ∉ cell ∧ cell.length ≤ cellLimit))

/-- A command block whose row a sheet keeps, with its command and what that is converted to. -/
@[mk_iff]
structure CommandBlock.IsKept (convert : Text → Outcome Text) (block : CommandBlock) : Prop where
  command : World.IsKept block.command
  converted : World.IsKept (convertedOr convert block.command)
  x : block.x.length ≤ cellLimit
  y : block.y.length ≤ cellLimit
  z : block.z.length ≤ cellLimit

instance (convert : Text → Outcome Text) (block : CommandBlock) :
    Decidable (block.IsKept convert) :=
  decidable_of_iff _ (CommandBlock.isKept_iff convert block).symm

/-! ## Cells -/

theorem normalLines_ofNat (n : Nat) : normalLines (ofNat n) = ofNat n := by
  refine normalLines_eq_self fun hmem => ?_
  have := isDigit_of_mem_ofNat hmem
  exact absurd this (by decide)

theorem normalLines_triggerName (trigger : Trigger) : normalLines trigger.name = trigger.name := by
  cases trigger <;> decide

theorem length_ofNat_le {n : Nat} (h : n < 10 ^ 10) : (ofNat n).length ≤ cellLimit :=
  ((length_ofNat_le_iff (by decide)).2 h).trans (by decide)

/-- What is listed of a chunk that can be read has its position and length in few digits. -/
theorem index_lt_of_mem_blocks {chunk : Chunk} (h : chunk.IsReadable) {block : CommandBlock}
    (hblock : block ∈ chunk.blocks) :
    block.index < 10 ^ 10 ∧ block.length = block.command.length := by
  obtain ⟨root, rfl, hroot⟩ := h
  have hmem : block ∈ (CommandBlock.list root).1 := hblock
  rcases hroot.blocks_cases with ⟨-, hlist⟩ | ⟨path, items, -, -, hlength, hlist⟩
  · rw [hlist] at hmem
    cases hmem
  · rw [hlist] at hmem
    obtain ⟨i, entity, command, hi, -, rfl⟩ := Node.exists_of_mem_listedFrom hmem
    have hlt := (List.getElem?_eq_some_iff.1 hi).1
    unfold Node.listed
    dsimp only
    omega

/-! ## Rows -/

/-- The listed command blocks of a region with their places, in the order of the rows. -/
def listing (chunks : List Placed) : List ((Nat × Nat) × CommandBlock) :=
  places.flatMap fun place => (blocksAt chunks (place.1, place.2)).map (place, ·)

/-- The row of a listed command block. -/
def rowAt (name : Text) (entry : (Nat × Nat) × CommandBlock) : List Text :=
  Extraction.row name entry.1.1 entry.1.2 entry.2

/-- The row of a listed command block as it is read again, with what its command is converted to. -/
def readRow (convert : Text → Outcome Text) (name : Text) (entry : (Nat × Nat) × CommandBlock) :
    List Text :=
  [name, ofNat entry.1.1, ofNat entry.1.2, normalLines entry.2.x, normalLines entry.2.y,
    normalLines entry.2.z, ofNat entry.2.index, entry.2.command, ofNat entry.2.length,
    entry.2.trigger.name, convertedOr convert entry.2.command]

theorem mem_blocksAt {chunks : List Placed} {place : Int × Int} {block : CommandBlock}
    (h : block ∈ blocksAt chunks place) : ∃ placed ∈ chunks, block ∈ placed.chunk.blocks := by
  unfold blocksAt at h
  cases hfind : chunks.find? (fun placed => placed.place = place) with
  | none => rw [hfind] at h; cases h
  | some placed =>
    rw [hfind] at h
    exact ⟨placed, List.mem_of_find?_eq_some hfind, h⟩

theorem mem_listing {chunks : List Placed} {entry : (Nat × Nat) × CommandBlock}
    (h : entry ∈ listing chunks) :
    entry.1 ∈ places ∧ ∃ placed ∈ chunks, entry.2 ∈ placed.chunk.blocks := by
  obtain ⟨place, hplace, hentry⟩ := List.mem_flatMap.1 h
  obtain ⟨block, hblock, rfl⟩ := List.mem_map.1 hentry
  exact ⟨hplace, mem_blocksAt hblock⟩

theorem rows_ofRegion {chunks : List Placed} (h : WellPlaced chunks)
    (hreadable : ∀ placed ∈ chunks, placed.chunk.IsReadable) (name : Text) :
    (Extraction.ofRegion name (.ofChunks chunks)).rows = (listing chunks).map (rowAt name) := by
  rw [(Extraction.ofRegion_eq h hreadable name).1]
  unfold listing
  rw [List.map_flatMap]
  refine List.flatMap_congr fun place _ => ?_
  rw [List.map_map]
  rfl

/-- The columns of the converted sheet. -/
def convertedColumns : List Text := Extraction.header ++ [convertedColumn]

section Rows

variable {convert : Text → Outcome Text} {name : Text} {entry : (Nat × Nat) × CommandBlock}
  (hname : IsKept name) (hplace : entry.1 ∈ places) (hblock : entry.2.IsKept convert)
  (hindex : entry.2.index < 10 ^ 10) (hlength : entry.2.length = entry.2.command.length)

include hname hplace hblock hindex hlength

theorem length_rowAt : ∀ cell ∈ rowAt name entry, cell.length ≤ cellLimit := by
  obtain ⟨hx, hz⟩ : entry.1.1 < 32 ∧ entry.1.2 < 32 := mem_places_iff.1 hplace
  have hcommand := hblock.command.2
  have htrigger : entry.2.trigger.name.length ≤ cellLimit := by
    cases entry.2.trigger <;> decide
  have hlen : (ofNat entry.2.length).length ≤ cellLimit := by
    refine length_ofNat_le ?_
    have : cellLimit < 10 ^ 10 := by decide
    omega
  unfold rowAt Extraction.row
  simp only [List.mem_cons, List.not_mem_nil, or_false, forall_eq_or_imp, forall_eq]
  exact ⟨hname.2, length_ofNat_le (by omega), length_ofNat_le (by omega), hblock.x, hblock.y,
    hblock.z, length_ofNat_le hindex, hcommand, hlen, htrigger⟩

omit hplace hindex hlength in
theorem map_normalLines_rowAt :
    (rowAt name entry).map normalLines ++
      [convertedOr convert (cellOf Extraction.header ((rowAt name entry).map normalLines)
        commandColumn)] = readRow convert name entry := by
  have hcommand : cellOf Extraction.header ((rowAt name entry).map normalLines) commandColumn =
      normalLines entry.2.command := rfl
  rw [hcommand, normalLines_eq_self hblock.command.1]
  unfold rowAt Extraction.row readRow
  simp only [List.map_cons, List.map_nil, normalLines_ofNat, normalLines_triggerName,
    normalLines_eq_self hname.1, normalLines_eq_self hblock.command.1]
  rfl

theorem length_readRow : ∀ cell ∈ readRow convert name entry, cell.length ≤ cellLimit := by
  intro cell hcell
  rw [← map_normalLines_rowAt hname hblock] at hcell
  rcases List.mem_append.1 hcell with hmem | hmem
  · obtain ⟨old, hold, rfl⟩ := List.mem_map.1 hmem
    exact (length_normalLines_le old).trans
      (length_rowAt hname hplace hblock hindex hlength old hold)
  · rw [List.mem_singleton.1 hmem]
    have hcommand : cellOf Extraction.header ((rowAt name entry).map normalLines) commandColumn =
        normalLines entry.2.command := rfl
    rw [hcommand, normalLines_eq_self hblock.command.1]
    exact hblock.converted.2

omit hplace hindex hlength in
theorem map_normalLines_readRow :
    (readRow convert name entry).map normalLines = readRow convert name entry := by
  unfold readRow
  simp only [List.map_cons, List.map_nil, normalLines_ofNat, normalLines_triggerName,
    normalLines_normalLines, normalLines_eq_self hname.1, normalLines_eq_self hblock.command.1,
    normalLines_eq_self hblock.converted.1]

omit hname hblock hlength in
/-- A row of the converted sheet is read as the change of its command block. -/
theorem readRecord_readRow :
    Import.readRecord (.ofRow convertedColumns (readRow convert name entry)) =
      .ok ⟨some name, entry.1.1, entry.1.2, [Node.changeOf convert entry.2]⟩ := by
  obtain ⟨hx, hz⟩ : entry.1.1 < 32 ∧ entry.1.2 < 32 := mem_places_iff.1 hplace
  have hinteger : ∀ n < 10 ^ 10, readInt (ofNat n) = .ok (n : Int) := fun n hn =>
    readInt_ofNat (((length_ofNat_le_iff (by decide)).2 hn).trans (by decide))
  have hrow : Record.ofRow convertedColumns (readRow convert name entry) =
      ⟨convertedColumns.zip ((readRow convert name entry).map some), false⟩ :=
    ofRow_eq (by decide) rfl
  rw [hrow]
  have hgetx : Import.integer ⟨convertedColumns.zip ((readRow convert name entry).map some), false⟩
      "chunk_x" = .ok entry.1.1 := hinteger entry.1.1 (by omega)
  have hgetz : Import.integer ⟨convertedColumns.zip ((readRow convert name entry).map some), false⟩
      "chunk_z" = .ok entry.1.2 := hinteger entry.1.2 (by omega)
  have hgeti : Import.integer ⟨convertedColumns.zip ((readRow convert name entry).map some), false⟩
      "command_index" = .ok entry.2.index := hinteger entry.2.index hindex
  unfold Import.readRecord
  rw [hgetx, hgetz, hgeti]
  rfl

end Rows

/-! ## Sheets -/

/-- The listed commands, place by place. -/
theorem map_listing (convert : Text → Outcome Text) (name : Text) (chunks : List Placed) :
    (listing chunks).map (fun entry =>
      (⟨some name, entry.1.1, entry.1.2, [Node.changeOf convert entry.2]⟩ : Import.Group)) =
      places.flatMap fun place => Import.singles (some name) place.1 place.2
        (Import.changesAt convert chunks place) := by
  unfold listing
  rw [List.map_flatMap]
  refine List.flatMap_congr fun place _ => ?_
  unfold Import.singles Import.changesAt
  rw [List.map_map, List.map_map]
  rfl

section Sheets

variable {convert : Text → Outcome Text} {name : Text} {chunks : List Placed}
  (hreadable : ∀ placed ∈ chunks, placed.chunk.IsReadable) (hname : IsKept name)
  (hkept : ∀ placed ∈ chunks, ∀ block ∈ placed.chunk.blocks, block.IsKept convert)

include hreadable hkept in
theorem kept_of_mem_listing {entry : (Nat × Nat) × CommandBlock} (h : entry ∈ listing chunks) :
    entry.1 ∈ places ∧ entry.2.IsKept convert ∧ entry.2.index < 10 ^ 10 ∧
      entry.2.length = entry.2.command.length := by
  obtain ⟨hplace, placed, hplaced, hblock⟩ := mem_listing h
  exact ⟨hplace, hkept placed hplaced _ hblock,
    index_lt_of_mem_blocks (hreadable placed hplaced) hblock⟩

include hreadable hname hkept

/-- The converted sheet of the listed commands. -/
theorem convertCommands_listing :
    (convertCommands convert ((Extraction.header :: (listing chunks).map (rowAt name)).flatMap
      writeRow)).fault = none ∧
    (convertCommands convert ((Extraction.header :: (listing chunks).map (rowAt name)).flatMap
      writeRow)).rows = convertedColumns :: (listing chunks).map (readRow convert name) := by
  have hcells : ∀ row ∈ Extraction.header :: (listing chunks).map (rowAt name),
      ∀ cell ∈ row, cell.length ≤ cellLimit := by
    refine List.forall_mem_cons.2 ⟨by decide, fun row hrow => ?_⟩
    obtain ⟨entry, hentry, rfl⟩ := List.mem_map.1 hrow
    obtain ⟨hplace, hblock, hindex, hlength⟩ := kept_of_mem_listing hreadable hkept hentry
    exact length_rowAt hname hplace hblock hindex hlength
  have hrows : ∀ row ∈ (listing chunks).map (rowAt name), row.length = Extraction.header.length := by
    intro row hrow
    obtain ⟨entry, -, rfl⟩ := List.mem_map.1 hrow
    rfl
  obtain ⟨hfault, htable⟩ := convertCommands_flatMap_writeRow (by decide) (by decide) convert
    (by decide) hcells hrows
  refine ⟨hfault, htable.trans ?_⟩
  rw [List.map_map, List.map_map]
  refine congrArg (convertedColumns :: ·) (List.map_congr_left fun entry hentry => ?_)
  exact map_normalLines_rowAt hname (kept_of_mem_listing hreadable hkept hentry).2.1

/-- The sheet of the listed commands, converted and read again, is the groups that convert the
commands of the region. -/
theorem load_convertCommands :
    Import.load (convertCommands convert
      ((Extraction.header :: (listing chunks).map (rowAt name)).flatMap writeRow)).sheet =
      .ok (Import.groupsOf convert name chunks) := by
  have hcells : ∀ row ∈ convertedColumns :: (listing chunks).map (readRow convert name),
      ∀ cell ∈ row, cell.length ≤ cellLimit := by
    refine List.forall_mem_cons.2 ⟨by decide, fun row hrow => ?_⟩
    obtain ⟨entry, hentry, rfl⟩ := List.mem_map.1 hrow
    obtain ⟨hplace, hblock, hindex, hlength⟩ := kept_of_mem_listing hreadable hkept hentry
    exact length_readRow hname hplace hblock hindex hlength
  have hrows : ∀ row ∈ (listing chunks).map (readRow convert name),
      row.length = convertedColumns.length := by
    intro row hrow
    obtain ⟨entry, -, rfl⟩ := List.mem_map.1 hrow
    rfl
  have hrecords := records_flatMap_writeRow (by decide : convertedColumns ≠ []) (by decide) hcells hrows
  have hread : ∀ entry ∈ listing chunks,
      Import.readRecord (.ofRow convertedColumns ((readRow convert name entry).map normalLines)) =
        .ok ⟨some name, entry.1.1, entry.1.2, [Node.changeOf convert entry.2]⟩ := by
    intro entry hentry
    obtain ⟨hplace, hblock, hindex, -⟩ := kept_of_mem_listing hreadable hkept hentry
    rw [map_normalLines_readRow hname hblock]
    exact readRecord_readRow hplace hindex
  have hmapM : ((((listing chunks).map (readRow convert name)).map (·.map normalLines)).map
      (Record.ofRow convertedColumns)).mapM Import.readRecord = .ok ((listing chunks).map fun entry =>
        ⟨some name, entry.1.1, entry.1.2, [Node.changeOf convert entry.2]⟩) := by
    rw [List.map_map, List.map_map]
    refine Outcome.mapM_eq_ok_iff.2 (List.forall₂_map_left_iff.2 (List.forall₂_map_right_iff.2 ?_))
    exact List.forall₂_same.2 hread
  unfold Import.load Pass.sheet
  rw [(convertCommands_listing hreadable hname hkept).2, hrecords]
  dsimp only
  rw [hmapM, map_listing]
  exact congrArg Except.ok (Import.addGroups_places (some name) (Import.changesAt convert chunks)
    nodup_places [] (by simp))

end Sheets

end CommandUpgrade.World
