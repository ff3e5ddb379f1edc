import CommandUpgrade.Sheet.Reader

/-!
# Records

The first row of a sheet names its columns, and each later row that is not blank is a record. A
record has a cell, or a gap, under each column name, and knows whether cells were left over.
-/

namespace CommandUpgrade.Sheet

/-- A row by its column names. -/
structure Record where
  /-- Each column name once, with its cell unless the row was too short. -/
  cells : List (Text × Option Text)
  /-- Whether the row had more cells than there are columns. -/
  surplus : Bool

/-- Puts a cell under a name, in the place of the cell already there. -/
def setCell (name : Text) (cell : Option Text) :
    List (Text × Option Text) → List (Text × Option Text)
  | [] => [(name, cell)]
  | (n, c) :: rest => if n = name then (n, cell) :: rest else (n, c) :: setCell name cell rest

namespace Record

/-- The record of a row. Of columns of one name the last one counts. -/
def ofRow (header row : List Text) : Record :=
  let given := (header.zip row).foldl (fun cells (name, cell) => setCell name (some cell) cells) []
  let missing := header.drop row.length
  ⟨missing.foldl (fun cells name => setCell name none cells) given, header.length < row.length⟩

/-- The cell under a name, or the gap there. -/
def get (record : Record) (name : Text) : Outcome (Option Text) :=
  match record.cells.lookup name with
  | some cell => .ok cell
  | none => .error (.missingField name)

/-- The cell under a name, which a gap is not. -/
def cell (record : Record) (name : Text) : Outcome Text := do
  match ← record.get name with
  | some cell => .ok cell
  | none => .error (.noMember "NoneType" "strip")

end Record

/-- The records of a sheet. -/
structure Records where
  /-- The column names, unless the sheet is empty. -/
  header : Option (List Text)
  records : List Record
  /-- What kept further records from being read. -/
  fault : Option Fault

/-- The records of a text. -/
def records (s : Text) : Records :=
  let all := rows s
  match all.rows with
  | [] => ⟨none, [], all.fault⟩
  | header :: rest =>
    ⟨some header, (rest.filter (!·.isEmpty)).map (Record.ofRow header), all.fault⟩

end CommandUpgrade.Sheet
