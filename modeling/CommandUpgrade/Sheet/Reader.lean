import CommandUpgrade.Fault
import CommandUpgrade.Text.Utf8

/-!
# Reading sheets

A sheet is a text of rows, a row a line of cells with commas between them. A cell in double quotes
may hold commas and line ends, and a double quote written twice. A quote inside a cell that does
not start with one stands for itself, and a quoted cell may go on after its closing quote.
-/

namespace CommandUpgrade.Sheet

/-- Where a reader stands in a row. -/
inductive Mode
  | rowStart
  | cellStart
  | plain
  | quoted
  /-- Behind a quote in a quoted cell: it closes the cell, or is the first of two. -/
  | quoteSeen

/-- A row that is being read, its cells and the characters of the last one backwards. -/
structure Reading where
  mode : Mode := .rowStart
  cells : List Text := []
  cell : Text := []
  size : Nat := 0

/-- Rows, and the fault that ended them. -/
structure Rows where
  rows : List (List Text)
  fault : Option Fault

/-- The most characters that a cell may hold. -/
def cellLimit : Nat := 131072

namespace Reading

/-- The row as it stands, its last cell included. -/
def row (reading : Reading) : List Text := (reading.cell.reverse :: reading.cells).reverse

/-- Ends a cell at a comma. -/
def nextCell (reading : Reading) : Reading :=
  ⟨.cellStart, reading.cell.reverse :: reading.cells, [], 0⟩

/-- Adds a character to the cell. -/
def push (reading : Reading) (mode : Mode) (c : Char) : Reading :=
  ⟨mode, reading.cells, c :: reading.cell, reading.size + 1⟩

/-- The reading behind a character that does not end the row; none if the cell is full. -/
def step? (reading : Reading) (c : Char) : Option Reading :=
  let add (mode : Mode) := if reading.size < cellLimit then some (reading.push mode c) else none
  match reading.mode with
  | .rowStart | .cellStart =>
    if c == '"' then some { reading with mode := .quoted }
    else if c == ',' then some reading.nextCell
    else add .plain
  | .plain => if c == ',' then some reading.nextCell else add .plain
  | .quoted => if c == '"' then some { reading with mode := .quoteSeen } else add .quoted
  | .quoteSeen =>
    if c == '"' then add .quoted
    else if c == ',' then some reading.nextCell
    else add .plain

/-- Whether a line end is a character of the cell. -/
def inQuotes (reading : Reading) : Bool := reading.mode matches .quoted

/-- Whether nothing of the row has been read. -/
def atStart (reading : Reading) : Bool := reading.mode matches .rowStart

/-- The rows from here on. -/
def run (reading : Reading) : Text → Rows
  | [] => ⟨if reading.atStart then [] else [reading.row], none⟩
  | c :: r =>
    if c == '\n' && !reading.inQuotes then
      let rest := run {} r
      ⟨(if reading.atStart then [] else reading.row) :: rest.rows, rest.fault⟩
    else
      match reading.step? c with
      | some reading => run reading r
      | none => ⟨[], some .cellTooLong⟩

end Reading

/-- The rows of a text, whatever its line ends are. A blank line is a row without cells. -/
def rows (s : Text) : Rows := Reading.run {} (Text.normalLines s)

end CommandUpgrade.Sheet
