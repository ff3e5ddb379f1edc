import CommandUpgrade.Proofs.Outcome
import CommandUpgrade.Proofs.Sheet.AnySheet
import CommandUpgrade.Proofs.Text.Nesting
import CommandUpgrade.Proofs.Table.Lookup
import CommandUpgrade.Table.Standard

/-!
# Names in loaded tables

The names of a table are cut out of its sheet: a character that is not in the sheet is in none of its
cells (`Sheet.notMem_rows`), and so in no name of the table (`Table.notMem_pairs`, `Table.notMem_blocks`).
The standard sheet of entities has no exclamation mark, so no negated name is found in the table.
-/

namespace CommandUpgrade

open Text

/-! ## Cells -/

namespace Sheet

variable {c : Char}

namespace Reading

variable {reading next : Reading}

/-- A character that is in no cell read so far. -/
structure Lacks (c : Char) (reading : Reading) : Prop where
  cells : ∀ cell ∈ reading.cells, c ∉ cell
  cell : c ∉ reading.cell

theorem Lacks.row (h : reading.Lacks c) : ∀ cell ∈ reading.row, c ∉ cell := by
  intro cell hcell
  rcases List.mem_cons.1 (List.mem_reverse.1 hcell) with rfl | hcell
  · exact fun hc => h.cell (List.mem_reverse.1 hc)
  · exact h.cells cell hcell

theorem Lacks.nextCell (h : reading.Lacks c) : reading.nextCell.Lacks c where
  cells := List.forall_mem_cons.2 ⟨fun hc => h.cell (List.mem_reverse.1 hc), h.cells⟩
  cell := List.not_mem_nil

theorem Lacks.push (h : reading.Lacks c) {d : Char} (hd : c ≠ d) (mode : Mode) :
    (reading.push mode d).Lacks c where
  cells := h.cells
  cell := List.not_mem_cons_of_ne_of_not_mem hd h.cell

theorem Lacks.step (h : reading.Lacks c) {d : Char} (hd : c ≠ d) (hstep : reading.step? d = some next) :
    next.Lacks c := by
  have hmode (mode : Mode) : Lacks c { reading with mode := mode } := ⟨h.cells, h.cell⟩
  unfold step? at hstep
  dsimp only at hstep
  split at hstep <;> split_ifs at hstep
  all_goals first
    | exact Option.some.inj hstep ▸ h.push hd _
    | exact Option.some.inj hstep ▸ h.nextCell
    | exact Option.some.inj hstep ▸ hmode _

/-- A character that is not in a text comes into no row of it. -/
theorem Lacks.rows {s : Text} (h : reading.Lacks c) (hs : c ∉ s) :
    ∀ row ∈ (reading.run s).rows, ∀ cell ∈ row, c ∉ cell := by
  have hnone : ∀ cell ∈ ([] : List Text), c ∉ cell := fun cell hcell => absurd hcell List.not_mem_nil
  induction s generalizing reading with
  | nil =>
    unfold run
    dsimp only
    split_ifs
    · exact fun row hrow => absurd hrow List.not_mem_nil
    · exact List.forall_mem_singleton.2 h.row
  | cons d rest ih =>
    have hd := List.ne_of_not_mem_cons hs
    have hrest := List.not_mem_of_not_mem_cons hs
    unfold run
    split
    · dsimp only
      refine List.forall_mem_cons.2 ⟨?_, ih ⟨hnone, List.not_mem_nil⟩ hrest⟩
      split_ifs
      · exact hnone
      · exact h.row
    · split
      · rename_i next hstep
        exact ih (h.step hd hstep) hrest
      · exact fun row hrow => absurd hrow List.not_mem_nil

end Reading

theorem notMem_normalLines {s : Text} (hline : c ≠ '\n') (hs : c ∉ s) : c ∉ normalLines s := by
  induction s using lines_induction with
  | nil => rw [normalLines]; exact List.not_mem_nil
  | crlf r ih =>
    rw [normalLines_crlf]
    have hr := List.not_mem_of_not_mem_cons (List.not_mem_of_not_mem_cons hs)
    exact List.not_mem_cons_of_ne_of_not_mem hline (ih hr)
  | cr r hr ih =>
    rw [normalLines_cr hr]
    exact List.not_mem_cons_of_ne_of_not_mem hline (ih (List.not_mem_of_not_mem_cons hs))
  | cons d r hd ih =>
    rw [normalLines_cons hd]
    exact List.not_mem_cons_of_ne_of_not_mem (List.ne_of_not_mem_cons hs)
      (ih (List.not_mem_of_not_mem_cons hs))

/-- A character that is not in a sheet is in none of its cells. -/
theorem notMem_rows {s : Text} (hline : c ≠ '\n') (hs : c ∉ s) :
    ∀ row ∈ (rows s).rows, ∀ cell ∈ row, c ∉ cell :=
  Reading.Lacks.rows ⟨fun _ hcell => absurd hcell List.not_mem_nil, List.not_mem_nil⟩
    (notMem_normalLines hline hs)

/-- The cells of a record are those of its row. -/
theorem mem_of_cell_ofRow {header row : List Text} {name cell : Text}
    (h : (Record.ofRow header row).cell name = .ok cell) : cell ∈ row := by
  have hfold : ∀ entries cells : List (Text × Option Text),
      (entries.foldl (fun cells entry => setCell entry.1 entry.2 cells) cells).lookup name =
        some (some cell) → cells.lookup name = some (some cell) ∨ ∃ n, (n, some cell) ∈ entries := by
    intro entries
    induction entries with
    | nil => exact fun cells h => Or.inl h
    | cons entry rest ih =>
      intro cells h
      rw [List.foldl_cons] at h
      rcases ih _ h with h | ⟨n, hn⟩
      · rw [lookup_setCell] at h
        split_ifs at h with hname
        · exact Or.inr ⟨entry.1, by rw [← Option.some.inj h]; exact List.mem_cons_self⟩
        · exact Or.inl h
      · exact Or.inr ⟨n, List.mem_cons_of_mem _ hn⟩
  have hlookup : (Record.ofRow header row).cells.lookup name = some (some cell) := by
    unfold Record.cell Record.get at h
    cases hfound : (Record.ofRow header row).cells.lookup name with
    | none => rw [hfound] at h; cases h
    | some found =>
      rw [hfound] at h
      cases found with
      | none => cases h
      | some found => rw [Except.ok.inj h]
  rw [cells_ofRow_eq_foldl] at hlookup
  rcases hfold _ _ hlookup with h | ⟨n, hn⟩
  · cases h
  · unfold entriesOf at hn
    rcases List.mem_append.1 hn with hn | hn
    · obtain ⟨found, hfound, heq⟩ := List.mem_map.1 (List.of_mem_zip hn).2
      exact Option.some.inj heq ▸ hfound
    · obtain ⟨other, -, heq⟩ := List.mem_map.1 hn
      cases heq

end Sheet

/-! ## Names -/

namespace Table

variable {c : Char}

theorem notMem_trimmed {record : Sheet.Record} {column : String} {cell : Text}
    (hrecord : ∀ name cell, record.cell name = .ok cell → c ∉ cell)
    (h : trimmed record column = .ok cell) : c ∉ cell := by
  unfold trimmed at h
  cases hcell : record.cell column.toList with
  | error fault => rw [hcell] at h; cases h
  | ok found =>
    rw [hcell] at h
    intro hmem
    rw [← Except.ok.inj h] at hmem
    exact hrecord _ found hcell (mem_of_mem_stripBoth hmem)

/-- A character that is in no cell of the records comes into no name. -/
theorem notMem_pairs {old new : String} {records : List Sheet.Record} {table : Lookup Text}
    (hrecords : ∀ record ∈ records, ∀ name cell, record.cell name = .ok cell → c ∉ cell)
    (htable : ∀ key ∈ table.map Prod.fst, c ∉ key) :
    ∀ key ∈ (pairs old new table records).map Prod.fst, c ∉ key := by
  induction records generalizing table with
  | nil => exact htable
  | cons record rest ih =>
    obtain ⟨hrecord, hrest⟩ := List.forall_mem_cons.1 hrecords
    unfold pairs
    split
    · rename_i key value hkey _
      refine ih hrest ?_
      rw [Lookup.map_fst_set]
      split_ifs
      · exact htable
      · exact List.forall_mem_append.2
          ⟨htable, List.forall_mem_singleton.2 (notMem_trimmed hrecord hkey)⟩
    · exact htable

theorem notMem_newName {record : Sheet.Record} {row : BlockRow}
    (hrecord : ∀ name cell, record.cell name = .ok cell → c ∉ cell) (h : blockRow record = .ok row) :
    c ∉ row.newName := by
  obtain ⟨number, -, h⟩ := Outcome.bind_eq_ok h
  obtain ⟨digits, -, h⟩ := Outcome.bind_eq_ok h
  obtain ⟨data, -, h⟩ := Outcome.bind_eq_ok h
  obtain ⟨newName, hnew, h⟩ := Outcome.bind_eq_ok h
  obtain ⟨name, -, h⟩ := Outcome.bind_eq_ok h
  obtain ⟨rawName, -, h⟩ := Outcome.bind_eq_ok h
  cases h
  exact notMem_trimmed hrecord hnew

/-- A character that is in no cell of the records comes into no new name of a block. -/
theorem notMem_blocks {silent : Bool} {records : List Sheet.Record} {table : Lookup (Text × Int)}
    (hrecords : ∀ record ∈ records, ∀ name cell, record.cell name = .ok cell → c ∉ cell)
    (htable : ∀ value ∈ table.map Prod.snd, c ∉ value) :
    ∀ value ∈ (blocks silent table records).map Prod.snd, c ∉ value := by
  have hkeys {row : BlockRow} (hnew : c ∉ row.newName) (keys : List Text) :
      ∀ table : Lookup (Text × Int), (∀ value ∈ table.map Prod.snd, c ∉ value) →
        ∀ value ∈ (keys.foldl (fun table key => Lookup.set (key, row.data) row.newName table)
          table).map Prod.snd, c ∉ value := by
    induction keys with
    | nil => exact fun table h => h
    | cons key keys ih =>
      intro table h
      refine ih _ fun value hvalue => ?_
      rcases Lookup.mem_of_mem_set hvalue with rfl | hvalue
      · exact hnew
      · exact h value hvalue
  induction records generalizing table with
  | nil => exact htable
  | cons record rest ih =>
    obtain ⟨hrecord, hrest⟩ := List.forall_mem_cons.1 hrecords
    unfold blocks
    split
    · rename_i row hrow
      exact ih hrest (hkeys (notMem_newName hrecord hrow) _ _ htable)
    · split_ifs
      · exact ih hrest htable
      · exact htable

theorem notMem_fileRecords {s : Text} (hline : c ≠ '\n') (hs : c ∉ s) :
    ∀ record ∈ fileRecords (some s), ∀ name cell, record.cell name = .ok cell → c ∉ cell := by
  have hrows := Sheet.notMem_rows hline hs
  intro record hrecord name cell hcell
  unfold fileRecords Sheet.records at hrecord
  dsimp only at hrecord
  split at hrecord
  · cases hrecord
  · rename_i header rest hall
    obtain ⟨row, hrow, rfl⟩ := List.mem_map.1 hrecord
    refine hrows row ?_ cell (Sheet.mem_of_cell_ofRow hcell)
    rw [hall]
    exact List.mem_cons_of_mem _ (List.mem_of_mem_filter hrow)

/-- The old names of entities are made of the characters of their sheet. -/
theorem notMem_entities {files : TableFiles} {s : Text} (hfile : files.entities = some s)
    (hline : c ≠ '\n') (hs : c ∉ s) (silent : Bool) :
    ∀ key ∈ (Tables.load files silent).entities.map Prod.fst, c ∉ key := by
  unfold Tables.load
  dsimp only
  rw [hfile]
  exact notMem_pairs (notMem_fileRecords hline hs) fun key hkey => absurd hkey List.not_mem_nil

/-- The new names of blocks are made of the characters of their sheet. -/
theorem notMem_newNames {files : TableFiles} {s : Text} (hfile : files.blocks = some s)
    (hline : c ≠ '\n') (hs : c ∉ s) (silent : Bool) :
    ∀ value ∈ (Tables.load files silent).blocks.map Prod.snd, c ∉ value := by
  unfold Tables.load
  dsimp only
  rw [hfile]
  exact notMem_blocks (notMem_fileRecords hline hs) fun value hvalue => absurd hvalue List.not_mem_nil

end Table

/-! ## The standard sheet of entities -/

set_option maxRecDepth 8192 in
theorem notMem_entitySheet : '!' ∉ Table.Standard.entitySheet.toList := by
  obtain ⟨l, hl, hfree⟩ : ∃ l, Table.Standard.entitySheet = String.ofList l ∧ '!' ∉ l :=
    ⟨_, rfl, by decide +kernel⟩
  rw [hl, String.toList_ofList]
  exact hfree

/-- No entity of the standard tables has a name that begins with an exclamation mark. -/
theorem get?_standard_negated (name : Text) :
    Lookup.get? ('!' :: name) Tables.standard.entities = none := by
  refine (Lookup.get?_eq_none_iff _ _).2 fun hkey => ?_
  exact Table.notMem_entities rfl (by decide) notMem_entitySheet true _ hkey List.mem_cons_self

end CommandUpgrade
