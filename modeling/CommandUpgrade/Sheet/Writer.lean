import CommandUpgrade.Text.Basic

/-!
# Writing sheets

A cell is written in double quotes only if it holds a comma, a double quote or a line end, and a
double quote in it is written twice. A row of one empty cell is a pair of quotes, so that it is
not a blank line. Every row ends in a carriage return and a line feed.
-/

namespace CommandUpgrade.Sheet

def needsQuotes (cell : Text) : Bool :=
  cell.any fun c => c == ',' || c == '"' || c == '\r' || c == '\n'

def writeCell (cell : Text) : Text :=
  if needsQuotes cell then
    '"' :: cell.flatMap (fun c => if c == '"' then ['"', '"'] else [c]) ++ ['"']
  else cell

def writeRow (cells : List Text) : Text :=
  if cells == [[]] then ['"', '"', '\r', '\n']
  else Text.join [','] (cells.map writeCell) ++ ['\r', '\n']

end CommandUpgrade.Sheet
