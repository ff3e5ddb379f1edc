import CommandUpgrade.Proofs.Sheet.RoundTrip
import CommandUpgrade.Sheet.Conversion

/-!
# Converting written sheets

What the conversion makes of a sheet that was written with whole rows: every row keeps its cells and
gains the converted command, and no fault ends the pass.
-/

namespace CommandUpgrade.Sheet

open Text

/-! ## Records of rows -/

theorem setCell_of_notMem {name : Text} {cells : List (Text × Option Text)}
    (h : name ∉ cells.map (·.1)) (cell : Option Text) :
    setCell name cell cells = cells ++ [(name, cell)] := by
  induction cells with
  | nil => rfl
  | cons entry rest ih =>
    obtain ⟨n, c⟩ := entry
    rw [List.map_cons, List.mem_cons, not_or] at h
    rw [setCell, if_neg (Ne.symm h.1), ih h.2, List.cons_append]

/-- The names and cells of a row, with gaps where it is too short. -/
def entriesOf (header row : List Text) : List (Text × Option Text) :=
  header.zip (row.map some) ++ (header.drop row.length).map (·, none)

theorem names_entriesOf (header row : List Text) : (entriesOf header row).map (·.1) = header := by
  unfold entriesOf
  induction header generalizing row with
  | nil => simp
  | cons name rest ih =>
    cases row with
    | nil => simp [Function.comp_def]
    | cons cell row =>
      rw [List.map_cons, List.zip_cons_cons, List.cons_append, List.length_cons,
        List.drop_succ_cons, List.map_cons, ih]

theorem cells_ofRow_eq_foldl (header row : List Text) :
    (Record.ofRow header row).cells =
      (entriesOf header row).foldl (fun cells entry => setCell entry.1 entry.2 cells) [] := by
  unfold Record.ofRow entriesOf
  rw [List.foldl_append, List.foldl_map, List.zip_map_right, List.foldl_map]
  rfl

theorem foldl_setCell_of_nodup (entries cells : List (Text × Option Text))
    (h : ((cells ++ entries).map (·.1)).Nodup) :
    entries.foldl (fun cells entry => setCell entry.1 entry.2 cells) cells = cells ++ entries := by
  induction entries generalizing cells with
  | nil => rw [List.foldl_nil, List.append_nil]
  | cons entry rest ih =>
    have hnew : entry.1 ∉ cells.map (·.1) := fun hmem => by
      rw [List.map_append, List.map_cons] at h
      exact (List.nodup_append.1 h).2.2 entry.1 hmem entry.1 List.mem_cons_self rfl
    rw [List.foldl_cons, setCell_of_notMem hnew, ih, List.append_assoc, List.singleton_append]
    rw [List.append_assoc]
    exact h

theorem cells_ofRow {header : List Text} (h : header.Nodup) (row : List Text) :
    (Record.ofRow header row).cells = entriesOf header row := by
  rw [cells_ofRow_eq_foldl, foldl_setCell_of_nodup, List.nil_append]
  rw [List.nil_append, names_entriesOf]
  exact h

/-- The record of a row that has a cell for each column. -/
theorem ofRow_eq {header row : List Text} (hdistinct : header.Nodup)
    (hlength : row.length = header.length) :
    Record.ofRow header row = ⟨header.zip (row.map some), false⟩ := by
  have hcells : (Record.ofRow header row).cells = header.zip (row.map some) := by
    rw [cells_ofRow hdistinct, entriesOf, hlength, List.drop_length, List.map_nil, List.append_nil]
  have hsurplus : (Record.ofRow header row).surplus = false := by simp [Record.ofRow, hlength]
  calc Record.ofRow header row
      = ⟨(Record.ofRow header row).cells, (Record.ofRow header row).surplus⟩ := rfl
    _ = ⟨header.zip (row.map some), false⟩ := by rw [hcells, hsurplus]

/-- Under each column of a whole row stands its cell. -/
theorem map_lookup_zip {header : List Text} {cells : List (Option Text)} (hdistinct : header.Nodup)
    (hlength : cells.length = header.length) :
    header.map (fun name => (header.zip cells).lookup name) = cells.map some := by
  induction header generalizing cells with
  | nil => rw [List.eq_nil_of_length_eq_zero hlength]; rfl
  | cons name rest ih =>
    cases cells with
    | nil => cases hlength
    | cons cell cells =>
      obtain ⟨hname, hrest⟩ := List.nodup_cons.1 hdistinct
      rw [List.zip_cons_cons, List.map_cons, List.map_cons, List.lookup_cons_self,
        ← ih hrest (Nat.succ.inj hlength)]
      congr 1
      refine List.map_congr_left fun n hn => ?_
      have hne : n ≠ name := by
        rintro rfl
        exact hname hn
      rw [List.lookup_cons, beq_eq_false_iff_ne.2 hne]

/-! ## The pass -/

/-- What a command is converted to: itself, where its conversion stops. -/
def convertedOr (convert : Text → Outcome Text) (command : Text) : Text :=
  match convert command with
  | .ok new => new
  | .error _ => command

theorem convertedCell_some (convert : Text → Outcome Text) (command : Text) :
    (convertedCell convert (some command)).1 = some (convertedOr convert command) := by
  unfold convertedCell convertedOr
  rw [convertCell]
  cases convert command <;> rfl

theorem rowOf_zip {columns : List Text} {cells : List (Option Text)} (hdistinct : columns.Nodup)
    (hlength : cells.length = columns.length) :
    rowOf columns (columns.zip cells) = cells.map (·.getD []) := by
  have hlookup := congrArg (List.map fun found : Option (Option Text) => (found.getD none).getD [])
    (map_lookup_zip hdistinct hlength)
  rw [List.map_map, List.map_map] at hlookup
  exact hlookup

/-- A whole row gains the converted command as its last cell. -/
theorem rowOf_setCell {header row : List Text} (hdistinct : (header ++ [convertedColumn]).Nodup)
    (hlength : row.length = header.length) (new : Text) :
    rowOf (header ++ [convertedColumn])
      (setCell convertedColumn (some new) (header.zip (row.map some))) = row ++ [new] := by
  have hcells : (row.map some).length = header.length := by rw [List.length_map, hlength]
  have hnew : convertedColumn ∉ (header.zip (row.map some)).map (·.1) := by
    rw [List.map_fst_zip (by omega)]
    exact fun hmem => (List.nodup_append.1 hdistinct).2.2 _ hmem _ List.mem_cons_self rfl
  have hzip : header.zip (row.map some) ++ [(convertedColumn, some new)] =
      (header ++ [convertedColumn]).zip ((row ++ [new]).map some) := by
    rw [List.map_append, List.zip_append hcells.symm]
    rfl
  rw [setCell_of_notMem hnew, hzip, rowOf_zip hdistinct (by simp [hlength]), List.map_map]
  exact List.map_id _

/-- The cell of a row under a column. -/
def cellOf (header row : List Text) (name : Text) : Text := ((header.zip row).lookup name).getD []

theorem lookup_zip_some {header : List Text} {name : Text} (hname : name ∈ header) {row : List Text}
    (hlength : row.length = header.length) :
    (header.zip (row.map some)).lookup name = some (some (cellOf header row name)) := by
  unfold cellOf
  induction header generalizing row with
  | nil => cases hname
  | cons n rest ih =>
    cases row with
    | nil => cases hlength
    | cons cell row =>
      rw [List.map_cons, List.zip_cons_cons, List.zip_cons_cons, List.lookup_cons, List.lookup_cons]
      by_cases heq : name = n
      · rw [heq, beq_self_eq_true]
        rfl
      · rw [beq_eq_false_iff_ne.2 heq]
        exact ih ((List.mem_cons.1 hname).resolve_left heq) (Nat.succ.inj hlength)

/-- The records of a written sheet of whole rows. -/
theorem records_flatMap_writeRow {header : List Text} (hne : header ≠ [])
    (hnormal : ∀ name ∈ header, '\r' ∉ name) {table : List (List Text)}
    (hcells : ∀ row ∈ header :: table, ∀ cell ∈ row, cell.length ≤ cellLimit)
    (hrows : ∀ row ∈ table, row.length = header.length) :
    records ((header :: table).flatMap writeRow) =
      ⟨some header, (table.map (·.map normalLines)).map (Record.ofRow header), none⟩ := by
  have hheader : header.map normalLines = header := by
    rw [List.map_congr_left fun name hname => normalLines_eq_self (hnormal name hname), List.map_id']
  have hfilled : (table.map (·.map normalLines)).filter (!·.isEmpty) = table.map (·.map normalLines) := by
    refine List.filter_eq_self.2 fun row hrow => ?_
    obtain ⟨row, hmem, rfl⟩ := List.mem_map.1 hrow
    have hlength : (row.map normalLines).length = header.length := by
      rw [List.length_map, hrows row hmem]
    cases hcase : row.map normalLines with
    | nil => exact absurd (List.eq_nil_of_length_eq_zero (by rw [← hlength, hcase]; rfl)) hne
    | cons cell rest => rfl
  unfold records
  rw [rows_flatMap_writeRow hcells, List.map_cons, hheader]
  dsimp only
  rw [hfilled]

section Pass

variable {header : List Text} (hdistinct : (header ++ [convertedColumn]).Nodup)
  (hcommand : commandColumn ∈ header)

include hdistinct hcommand

theorem convertRecords_ofRow (convert : Text → Outcome Text) {table : List (List Text)}
    (hrows : ∀ row ∈ table, row.length = header.length) :
    (convertRecords convert (header ++ [convertedColumn]) none
      (table.map (Record.ofRow header))).fault = none ∧
    (convertRecords convert (header ++ [convertedColumn]) none
      (table.map (Record.ofRow header))).rows =
        table.map fun row => row ++ [convertedOr convert (cellOf header row commandColumn)] := by
  have hheader : header.Nodup := (List.nodup_append.1 hdistinct).1
  induction table with
  | nil => exact ⟨rfl, rfl⟩
  | cons row rest ih =>
    obtain ⟨hrow, hrest⟩ := List.forall_mem_cons.1 hrows
    obtain ⟨hfault, htable⟩ := ih hrest
    have hget : (Record.ofRow header row).get commandColumn =
        .ok (some (cellOf header row commandColumn)) := by
      rw [ofRow_eq hheader hrow, Record.get, lookup_zip_some hcommand hrow]
    rw [List.map_cons, convertRecords, hget]
    dsimp only
    rw [ofRow_eq hheader hrow]
    dsimp only
    rw [if_neg Bool.false_ne_true, convertedCell_some, rowOf_setCell hdistinct hrow]
    exact ⟨hfault, congrArg _ htable⟩

/-- What the conversion makes of a written sheet of whole rows. -/
theorem convertCommands_flatMap_writeRow (convert : Text → Outcome Text)
    (hnormal : ∀ name ∈ header, '\r' ∉ name) {table : List (List Text)}
    (hcells : ∀ row ∈ header :: table, ∀ cell ∈ row, cell.length ≤ cellLimit)
    (hrows : ∀ row ∈ table, row.length = header.length) :
    (convertCommands convert ((header :: table).flatMap writeRow)).fault = none ∧
    (convertCommands convert ((header :: table).flatMap writeRow)).rows =
      (header ++ [convertedColumn]) :: (table.map (·.map normalLines)).map fun row =>
        row ++ [convertedOr convert (cellOf header row commandColumn)] := by
  have hcolumns : convertedHeader header = header ++ [convertedColumn] := by
    unfold convertedHeader
    rw [if_neg]
    intro hmem
    exact (List.nodup_append.1 hdistinct).2.2 _ (List.contains_iff_mem.1 hmem) _
      List.mem_cons_self rfl
  have hnormalRows : ∀ row ∈ table.map (·.map normalLines), row.length = header.length := by
    intro row hrow
    obtain ⟨row, hmem, rfl⟩ := List.mem_map.1 hrow
    rw [List.length_map, hrows row hmem]
  obtain ⟨hfault, htable⟩ := convertRecords_ofRow hdistinct hcommand convert hnormalRows
  unfold convertCommands
  rw [records_flatMap_writeRow (List.ne_nil_of_mem hcommand) hnormal hcells hrows]
  dsimp only
  rw [hcolumns]
  exact ⟨hfault, congrArg _ htable⟩

end Pass

end CommandUpgrade.Sheet
