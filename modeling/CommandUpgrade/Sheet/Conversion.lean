import CommandUpgrade.Sheet.Pass
import CommandUpgrade.Sheet.Record

/-!
# Converting a sheet of commands

Each record keeps its cells and gains the converted command under `converted_command`. A command
whose conversion stops is kept as it is, and a line says so. Columns come in the order of the header,
a new one at the end; a record with more cells than there are columns ends the pass.
-/

namespace CommandUpgrade.Sheet

/-- The column of the commands. -/
def commandColumn : Text := "command"

/-- The column of the converted commands. -/
def convertedColumn : Text := "converted_command"

/-- The columns of the converted sheet. -/
def convertedHeader (header : List Text) : List Text :=
  if header.contains convertedColumn then header else header ++ [convertedColumn]

/-- Converts a cell, which a gap does not allow. -/
def convertCell (convert : Text → Outcome Text) : Option Text → Outcome Text
  | some command => convert command
  | none => .error (.noMember "NoneType" "strip")

/-- The line that says why a command was kept. -/
def keptLine (command : Option Text) (fault : Fault) : Text :=
  "Error converting command: " ++ command.getD "None" ++ " -- " ++ fault.message

/-- The converted cell, or the cell itself and the line that says why. -/
def convertedCell (convert : Text → Outcome Text) (command : Option Text) :
    Option Text × List Text :=
  match convertCell convert command with
  | .ok new => (some new, [])
  | .error fault => (command, [keptLine command fault])

/-- The row of cells under the columns, a gap being an empty cell. -/
def rowOf (columns : List Text) (cells : List (Text × Option Text)) : List Text :=
  columns.map fun name => ((cells.lookup name).getD none).getD []

/-- The pass over the records, `last` being the fault behind them. -/
def convertRecords (convert : Text → Outcome Text) (columns : List Text) (last : Option Fault) :
    List Record → Pass
  | [] => { fault := last }
  | record :: rest =>
    match record.get commandColumn with
    | .error fault => .stop fault
    | .ok command =>
      let (new, lines) := convertedCell convert command
      if record.surplus then (Pass.stop .surplusCells).print lines
      else
        ((convertRecords convert columns last rest).write
          (rowOf columns (setCell convertedColumn new record.cells))).print lines

/-- The pass that converts the commands of a sheet. A sheet without a header has none to add to. -/
def convertCommands (convert : Text → Outcome Text) (s : Text) : Pass :=
  let all := records s
  match all.header with
  | none => .stop (all.fault.getD .wrongKind)
  | some header =>
    let columns := convertedHeader header
    (convertRecords convert columns all.fault all.records).write columns

end CommandUpgrade.Sheet
