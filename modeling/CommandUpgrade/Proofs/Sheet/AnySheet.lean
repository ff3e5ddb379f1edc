import CommandUpgrade.Command.Convert
import CommandUpgrade.Proofs.Sheet.Conversion
import CommandUpgrade.Proofs.Sheet.Decode

/-!
# Converting any sheet

The pass over a sheet with distinct column names writes one row for each row that is not blank, up
to the first row that does not fit: one with a cell beyond the limit or with more cells than there
are columns (`convertCommands_eq`). A row that fits keeps its cells, with an empty one where it is
too short, and gains the converted command (`convertedRow`).
-/

namespace CommandUpgrade.Sheet

open Text

/-! ## Records of any row -/

theorem lookup_map_none (names : List Text) (name : Text) :
    (names.map (·, (none : Option Text))).lookup name = if name ∈ names then some none else none := by
  induction names with
  | nil => rfl
  | cons n rest ih =>
    rw [List.map_cons, List.lookup_cons]
    by_cases heq : name = n
    · rw [heq, beq_self_eq_true, if_pos List.mem_cons_self]
    · rw [beq_eq_false_iff_ne.2 heq, ih]
      simp [heq]

/-- Under a column stands the cell of the row, or a gap where the row is too short. -/
theorem lookup_ofRow {header : List Text} (h : header.Nodup) (row : List Text) (name : Text) :
    (Record.ofRow header row).cells.lookup name =
      if name ∈ header then some ((header.zip row).lookup name) else none := by
  rw [cells_ofRow h]
  clear h
  unfold entriesOf
  induction header generalizing row with
  | nil => simp
  | cons n rest ih =>
    cases row with
    | nil => exact lookup_map_none (n :: rest) name
    | cons cell row =>
      rw [List.map_cons, List.zip_cons_cons, List.zip_cons_cons, List.cons_append, List.lookup_cons,
        List.lookup_cons, List.length_cons, List.drop_succ_cons, ih]
      by_cases heq : name = n
      · rw [heq, beq_self_eq_true, if_pos List.mem_cons_self]
      · rw [beq_eq_false_iff_ne.2 heq]
        simp [heq]

theorem lookup_setCell (name other : Text) (cell : Option Text) (cells : List (Text × Option Text)) :
    (setCell other cell cells).lookup name =
      if name = other then some cell else cells.lookup name := by
  induction cells with
  | nil =>
    rw [setCell, List.lookup_cons]
    by_cases heq : name = other
    · rw [heq, beq_self_eq_true, if_pos rfl]
    · rw [beq_eq_false_iff_ne.2 heq, if_neg heq]
  | cons entry rest ih =>
    obtain ⟨n, c⟩ := entry
    rw [setCell]
    by_cases hn : n = other
    · rw [if_pos hn, List.lookup_cons, List.lookup_cons, hn]
      by_cases heq : name = other
      · rw [heq, beq_self_eq_true, if_pos rfl]
      · rw [beq_eq_false_iff_ne.2 heq, if_neg heq]
    · rw [if_neg hn, List.lookup_cons, List.lookup_cons, ih]
      by_cases heq : name = n
      · rw [heq, if_neg hn, if_neg hn, beq_self_eq_true]
      · rw [beq_eq_false_iff_ne.2 heq]

/-- A record has a cell or a gap under each column, and under nothing else. -/
theorem isSome_lookup_ofRow (header row : List Text) (name : Text) :
    ((Record.ofRow header row).cells.lookup name).isSome ↔ name ∈ header := by
  have hfold : ∀ entries cells : List (Text × Option Text),
      ((entries.foldl (fun cells entry => setCell entry.1 entry.2 cells) cells).lookup
        name).isSome ↔ (cells.lookup name).isSome ∨ name ∈ entries.map (·.1) := by
    intro entries
    induction entries with
    | nil => simp
    | cons entry rest ih =>
      intro cells
      rw [List.foldl_cons, ih, lookup_setCell, List.map_cons, List.mem_cons]
      by_cases heq : name = entry.1 <;> simp [heq]
  rw [cells_ofRow_eq_foldl, hfold, names_entriesOf]
  simp

/-- The records can be read to the end if no cell is beyond the limit. -/
theorem fault_records_eq_none_iff (s : Text) :
    (records s).fault = none ↔ ∀ row ∈ withFeeds (decode s), isShort row = true := by
  have hfault : (records s).fault = (rows s).fault := by
    unfold records
    dsimp only
    split <;> rfl
  rw [hfault, rows_eq, limited, ← List.all_eq_true]
  cases (withFeeds (decode s)).all isShort <;> simp

/-! ## Rows of the converted sheet -/

/-- The row of the converted sheet: under each column the cell that was there, a missing one being
empty, and under the column of the converted commands what the command is converted to. -/
def convertedRow (convert : Text → Outcome Text) (header row : List Text) : List Text :=
  (convertedHeader header).map fun name =>
    if name = convertedColumn then convertedOr convert (cellOf header row commandColumn)
    else cellOf header row name

/-- The converted sheet: blank rows are left out. -/
def convertedRows (convert : Text → Outcome Text) (header : List Text) (data : List (List Text)) :
    List (List Text) :=
  convertedHeader header :: (data.filter (!·.isEmpty)).map (convertedRow convert header)

/-- Whether a row has no cell beyond the limit and none beyond the columns. -/
def fits (header row : List Text) : Bool := isShort row && row.length ≤ header.length

/-- The fault at a row that does not fit. -/
def unfit (row : List Text) : Fault := if isShort row then .surplusCells else .cellTooLong

section Fits

variable {header row : List Text}

theorem fits_of_short (hshort : isShort row = true) (hlength : row.length ≤ header.length) :
    fits header row = true := by
  rw [fits, hshort, Bool.true_and, decide_eq_true hlength]

theorem fits_of_long (hlong : isShort row = false) : fits header row = false := by
  rw [fits, hlong, Bool.false_and]

theorem fits_of_surplus (hlength : header.length < row.length) : fits header row = false := by
  rw [fits, decide_eq_false (Nat.not_le_of_lt hlength), Bool.and_false]

theorem unfit_of_long (hlong : isShort row = false) : unfit row = .cellTooLong := by
  rw [unfit, hlong, if_neg Bool.false_ne_true]

theorem unfit_of_short (hshort : isShort row = true) : unfit row = .surplusCells := if_pos hshort

end Fits

section Pass

variable {convert : Text → Outcome Text} (hconvert : convert [] = .ok [])
  {header : List Text} (hheader : header.Nodup)

include hconvert in
theorem convertedCell_getD (command : Option Text) :
    (convertedCell convert command).1.getD [] = convertedOr convert (command.getD []) := by
  cases command with
  | some command => rw [convertedCell_some]; rfl
  | none =>
    unfold convertedOr
    rw [Option.getD_none, hconvert]
    rfl

include hconvert hheader

theorem rowOf_convertedCell (row : List Text) :
    rowOf (convertedHeader header) (setCell convertedColumn
      (convertedCell convert ((header.zip row).lookup commandColumn)).1
      (Record.ofRow header row).cells) = convertedRow convert header row := by
  unfold rowOf convertedRow
  refine List.map_congr_left fun name hname => ?_
  rw [lookup_setCell]
  by_cases heq : name = convertedColumn
  · rw [if_pos heq, if_pos heq, Option.getD_some, convertedCell_getD hconvert]
    rfl
  · have hmem : name ∈ header := by
      unfold convertedHeader at hname
      split at hname
      · exact hname
      · rcases List.mem_append.1 hname with hmem | hmem
        · exact hmem
        · exact absurd (List.mem_singleton.1 hmem) heq
    rw [if_neg heq, if_neg heq, lookup_ofRow hheader, if_pos hmem]
    rfl

variable (hcommand : commandColumn ∈ header)

include hcommand

/-- A row that is not blank is written, unless it has too many cells. -/
theorem convertRecords_cons (last : Option Fault) (row : List Text) (rest : List Record) :
    (header.length < row.length →
      (convertRecords convert (convertedHeader header) last (Record.ofRow header row :: rest)).rows =
        [] ∧
      (convertRecords convert (convertedHeader header) last (Record.ofRow header row :: rest)).fault =
        some .surplusCells) ∧
    (row.length ≤ header.length →
      (convertRecords convert (convertedHeader header) last (Record.ofRow header row :: rest)).rows =
        convertedRow convert header row ::
          (convertRecords convert (convertedHeader header) last rest).rows ∧
      (convertRecords convert (convertedHeader header) last (Record.ofRow header row :: rest)).fault =
        (convertRecords convert (convertedHeader header) last rest).fault) := by
  have hget : (Record.ofRow header row).get commandColumn =
      .ok ((header.zip row).lookup commandColumn) := by
    rw [Record.get, lookup_ofRow hheader, if_pos hcommand]
  have hsurplus : (Record.ofRow header row).surplus = decide (header.length < row.length) := rfl
  rw [convertRecords, hget]
  dsimp only
  rw [rowOf_convertedCell hconvert hheader, hsurplus]
  constructor
  · intro hlong
    rw [if_pos (decide_eq_true hlong)]
    exact ⟨rfl, rfl⟩
  · intro hshort
    rw [if_neg (by simpa using hshort)]
    exact ⟨rfl, rfl⟩

/-- The pass over the records of the rows that the reader gives. -/
theorem convertRecords_limited (data : List (List Text)) :
    (convertRecords convert (convertedHeader header) (limited data).fault
      (((limited data).rows.filter (!·.isEmpty)).map (Record.ofRow header))).rows =
        ((data.takeWhile (fits header)).filter (!·.isEmpty)).map (convertedRow convert header) ∧
    (convertRecords convert (convertedHeader header) (limited data).fault
      (((limited data).rows.filter (!·.isEmpty)).map (Record.ofRow header))).fault =
        (data.find? (!fits header ·)).map unfit := by
  induction data with
  | nil => exact ⟨rfl, rfl⟩
  | cons row rest ih =>
    cases hshort : isShort row with
    | false =>
      rw [limited_of_long hshort, List.takeWhile_cons, List.find?_cons, fits_of_long hshort]
      exact ⟨rfl, congrArg some (unfit_of_long hshort).symm⟩
    | true =>
      rw [limited_cons hshort]
      cases row with
      | nil =>
        -- A blank line is read, but is no record.
        rw [List.takeWhile_cons, List.find?_cons, fits_of_short hshort (Nat.zero_le _)]
        exact ih
      | cons cell cells =>
        obtain ⟨hlong, hfit⟩ := convertRecords_cons hconvert hheader hcommand (limited rest).fault
          (cell :: cells) (((limited rest).rows.filter (!·.isEmpty)).map (Record.ofRow header))
        rw [List.filter_cons_of_pos rfl, List.map_cons, List.takeWhile_cons, List.find?_cons]
        by_cases hlength : (cell :: cells).length ≤ header.length
        · obtain ⟨hrows, hfault⟩ := hfit hlength
          rw [hrows, hfault, fits_of_short hshort hlength, ih.1, ih.2]
          exact ⟨rfl, rfl⟩
        · have hsurplus := Nat.lt_of_not_le hlength
          obtain ⟨hrows, hfault⟩ := hlong hsurplus
          rw [hrows, hfault, fits_of_surplus hsurplus]
          exact ⟨rfl, congrArg some (unfit_of_short hshort).symm⟩

/-- What the conversion makes of a sheet: the rows up to the first one that does not fit. -/
theorem convertCommands_eq {s : Text} {data : List (List Text)}
    (hs : withFeeds (decode s) = header :: data) (hshort : isShort header = true) :
    (convertCommands convert s).rows =
      convertedRows convert header (data.takeWhile (fits header)) ∧
    (convertCommands convert s).fault = (data.find? (!fits header ·)).map unfit := by
  obtain ⟨hrows, hfault⟩ := convertRecords_limited hconvert hheader hcommand data
  unfold convertCommands records
  rw [rows_eq, hs, limited_cons hshort]
  exact ⟨congrArg _ hrows, hfault⟩

end Pass

/-- A header with a cell beyond the limit leaves nothing to convert. -/
theorem convertCommands_of_long_header (convert : Text → Outcome Text) {s : Text}
    {header : List Text} {data : List (List Text)} (hs : withFeeds (decode s) = header :: data)
    (hlong : isShort header = false) :
    (convertCommands convert s).rows = [] ∧
      (convertCommands convert s).fault = some .cellTooLong := by
  unfold convertCommands records
  rw [rows_eq, hs, limited_of_long hlong]
  exact ⟨rfl, rfl⟩

/-- An empty command stays empty, as a command that is missing does. -/
theorem convert_nil (tables : Tables) : Command.convert tables [] = .ok [] := by
  have hname : (Command.Call.ofText []).name ≠ "execute".toList := by decide +kernel
  have hplain : Command.convertPlain tables (Command.Call.ofText []) = .ok [] := rfl
  rw [Command.convert]
  dsimp only
  rw [if_neg hname, hplain]
  rfl

end CommandUpgrade.Sheet
