import CommandUpgrade.Proofs.Outcome
import CommandUpgrade.Proofs.Sheet.AnySheet
import CommandUpgrade.Proofs.World.RegionUpdate

/-!
# Loading rows

A sheet is loaded as a whole or not at all: a missing column, a cell that is no integer where there
should be one and a fault in the sheet leave nothing loaded (`load_of_flawed`). Any other sheet gives
the groups of its rows (`load_eq`).
-/

namespace CommandUpgrade.World.Import

open Text
open Sheet (Record Records records convertedColumn)

/-- A row of a sheet of converted commands. -/
structure Row where
  region : Text
  x : Int
  z : Int
  index : Int
  /-- The converted command, unless the row was too short. -/
  command : Option Text
  deriving Inhabited

namespace Row

def change (row : Row) : Change := ⟨row.index, row.command⟩

/-- The group of a row alone. -/
def group (row : Row) : Group := ⟨some row.region, row.x, row.z, [row.change]⟩

/-- What the record of a row has in its cells. -/
@[mk_iff]
structure IsOf (row : Row) (record : Record) : Prop where
  region : record.get "region_file" = .ok (some row.region)
  x : integer record "chunk_x" = .ok row.x
  z : integer record "chunk_z" = .ok row.z
  index : integer record "command_index" = .ok row.index
  command : record.get convertedColumn = .ok row.command

instance (row : Row) (record : Record) : Decidable (row.IsOf record) :=
  decidable_of_iff _ (isOf_iff row record).symm

/-- A record is that of one row only. -/
theorem leftUnique_isOf : Relator.LeftUnique IsOf := by
  rintro ⟨region, x, z, index, command⟩ ⟨region', x', z', index', command'⟩ record h h'
  obtain rfl := Option.some.inj (Except.ok.inj (h.region.symm.trans h'.region))
  obtain rfl := Except.ok.inj (h.x.symm.trans h'.x)
  obtain rfl := Except.ok.inj (h.z.symm.trans h'.z)
  obtain rfl := Except.ok.inj (h.index.symm.trans h'.index)
  obtain rfl := Except.ok.inj (h.command.symm.trans h'.command)
  rfl

end Row

/-- The columns that hold integers. -/
def integerColumns : List Text := ["chunk_x", "chunk_z", "command_index"]

/-- The columns without which a sheet is not loaded. -/
def neededColumns : List Text := "region_file" :: convertedColumn :: integerColumns

/-- Nothing is loaded from the sheet: it has a row but not all columns, or a row without an integer
in its place, or it cannot be read to the end. -/
inductive Flawed (sheet : Records) : Prop
  | column {header : List Text} {name : Text} (hheader : sheet.header = some header)
      (hrow : sheet.records ≠ []) (hneeded : name ∈ neededColumns) (hmissing : name ∉ header)
  | integer {record : Record} {name : Text} (hrecord : record ∈ sheet.records)
      (hname : name ∈ integerColumns) (hinteger : ∀ n, integer record name ≠ .ok n)
  | fault (hfault : sheet.fault ≠ none)

/-! ## Records -/

theorem readRecord_eq {row : Row} {record : Record} (h : row.IsOf record) :
    readRecord record = .ok row.group := by
  unfold readRecord
  rw [h.region, h.x, h.z, h.index, h.command]
  rfl

theorem get_of_integer {record : Record} {name : Text} {n : Int} (h : integer record name = .ok n) :
    ∃ cell, record.get name = .ok cell := by
  obtain ⟨cell, hcell, -⟩ := Outcome.bind_eq_ok h
  exact ⟨cell, hcell⟩

/-- A record that is read has all columns, and integers where there should be. -/
theorem columns_of_readRecord {record : Record} {group : Group}
    (h : readRecord record = .ok group) :
    (∀ name ∈ neededColumns, ∃ cell, record.get name = .ok cell) ∧
      ∀ name ∈ integerColumns, ∃ n, integer record name = .ok n := by
  obtain ⟨region, hregion, h⟩ := Outcome.bind_eq_ok h
  obtain ⟨x, hx, h⟩ := Outcome.bind_eq_ok h
  obtain ⟨z, hz, h⟩ := Outcome.bind_eq_ok h
  obtain ⟨index, hindex, h⟩ := Outcome.bind_eq_ok h
  obtain ⟨command, hcommand, -⟩ := Outcome.bind_eq_ok h
  have hintegers : ∀ name ∈ integerColumns, ∃ n, integer record name = .ok n :=
    List.forall_mem_cons.2 ⟨⟨x, hx⟩, List.forall_mem_cons.2 ⟨⟨z, hz⟩,
      List.forall_mem_singleton.2 ⟨index, hindex⟩⟩⟩
  refine ⟨List.forall_mem_cons.2 ⟨⟨region, hregion⟩, List.forall_mem_cons.2 ⟨⟨command, hcommand⟩,
    fun name hname => ?_⟩⟩, hintegers⟩
  obtain ⟨n, hn⟩ := hintegers name hname
  exact get_of_integer hn

theorem get_ofRow_iff (header row : List Text) (name : Text) :
    (∃ cell, (Record.ofRow header row).get name = .ok cell) ↔ name ∈ header := by
  rw [← Sheet.isSome_lookup_ofRow header row name, Record.get]
  cases (Record.ofRow header row).cells.lookup name <;> simp

/-- Every record has the columns of the header. -/
theorem header_of_mem {s : Text} {record : Record} (h : record ∈ (records s).records) :
    ∃ header, (records s).header = some header ∧
      ∀ name, (∃ cell, record.get name = .ok cell) ↔ name ∈ header := by
  unfold records at h ⊢
  dsimp only at h ⊢
  split at h
  case h_1 => cases h
  case h_2 header rest hrows =>
    obtain ⟨row, -, rfl⟩ := List.mem_map.1 h
    exact ⟨header, rfl, get_ofRow_iff header row⟩

/-! ## Sheets -/

/-- From a flawed sheet nothing is loaded. -/
theorem load_of_flawed {s : Text} (h : Flawed (records s)) : ∃ fault, load s = .error fault := by
  refine Outcome.error_of_ne_ok fun groups hload => ?_
  obtain ⟨all, hall, hload⟩ := Outcome.bind_eq_ok hload
  have hread : ∀ record ∈ (records s).records, ∃ group, readRecord record = .ok group := by
    intro record hrecord
    by_contra hnone
    obtain ⟨fault, hfault⟩ := Outcome.mapM_eq_error hrecord (not_exists.1 hnone)
    cases hall.symm.trans hfault
  cases h with
  | column hheader hrow hneeded hmissing =>
    obtain ⟨record, hrecord⟩ := List.exists_mem_of_ne_nil _ hrow
    obtain ⟨group, hgroup⟩ := hread record hrecord
    obtain ⟨header, hheader', hcolumns⟩ := header_of_mem hrecord
    obtain rfl := Option.some.inj (hheader'.symm.trans hheader)
    exact hmissing ((hcolumns _).1 ((columns_of_readRecord hgroup).1 _ hneeded))
  | integer hrecord hname hinteger =>
    obtain ⟨group, hgroup⟩ := hread _ hrecord
    obtain ⟨n, hn⟩ := (columns_of_readRecord hgroup).2 _ hname
    exact hinteger n hn
  | fault hfault =>
    cases hsheet : (records s).fault with
    | none => exact hfault hsheet
    | some fault =>
      rw [hsheet] at hload
      cases hload

section Rows

variable {s : Text} {rows : List Row}

/-- A sheet without a flaw has rows, if each names its region. -/
theorem exists_rows (h : ¬Flawed (records s))
    (hregion : ∀ record ∈ (records s).records, ∃ name, record.get "region_file" = .ok (some name)) :
    ∃ rows, List.Forall₂ Row.IsOf rows (records s).records := by
  have hrow : ∀ record ∈ (records s).records, ∃ row : Row, row.IsOf record := by
    intro record hrecord
    have hinteger : ∀ name ∈ integerColumns, ∃ n, integer record name = .ok n := by
      intro name hname
      by_contra hnone
      exact h (.integer hrecord hname (not_exists.1 hnone))
    obtain ⟨region, hregion⟩ := hregion record hrecord
    obtain ⟨x, hx⟩ := hinteger "chunk_x" (by decide +kernel)
    obtain ⟨z, hz⟩ := hinteger "chunk_z" (by decide +kernel)
    obtain ⟨index, hindex⟩ := hinteger "command_index" (by decide +kernel)
    obtain ⟨header, hheader, hcolumns⟩ := header_of_mem hrecord
    obtain ⟨command, hcommand⟩ : ∃ cell, record.get convertedColumn = .ok cell := by
      refine (hcolumns _).2 ?_
      by_contra hmissing
      exact h (.column hheader (List.ne_nil_of_mem hrecord) (by decide +kernel) hmissing)
    exact ⟨⟨region, x, z, index, command⟩, hregion, hx, hz, hindex, hcommand⟩
  choose! row hrow using hrow
  exact ⟨(records s).records.map row, List.forall₂_map_left_iff.2 (List.forall₂_same.2 hrow)⟩

/-- Rows are loaded as their groups. -/
theorem load_eq (hfault : (records s).fault = none)
    (hrows : List.Forall₂ Row.IsOf rows (records s).records) :
    load s = .ok (addGroups [] (rows.map Row.group)) := by
  have hread : (records s).records.mapM readRecord = .ok (rows.map Row.group) := by
    refine Outcome.mapM_eq_ok_iff.2 (List.forall₂_map_right_iff.2 ?_)
    exact (hrows.imp fun row record h => readRecord_eq h).flip
  unfold load
  dsimp only
  rw [hread, hfault]
  rfl

theorem region_of_rows (hrows : List.Forall₂ Row.IsOf rows (records s).records) :
    ∀ record ∈ (records s).records, ∃ name, record.get "region_file" = .ok (some name) :=
  ((List.forall₂_and_left (records s).records rows).1
    (hrows.flip.imp fun _ row h => ⟨⟨row.region, h.region⟩, h⟩)).1

theorem not_flawed (hfault : (records s).fault = none)
    (hrows : List.Forall₂ Row.IsOf rows (records s).records) : ¬Flawed (records s) := by
  intro hflawed
  obtain ⟨fault, hload⟩ := load_of_flawed hflawed
  cases (load_eq hfault hrows).symm.trans hload

end Rows

end CommandUpgrade.World.Import
