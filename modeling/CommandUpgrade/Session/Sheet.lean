import CommandUpgrade.Command.Convert
import CommandUpgrade.Session.Basic
import CommandUpgrade.Sheet.Unanchored

/-!
# Tools on sheets

Both open their input before their output, and empty the output before they read.
-/

namespace CommandUpgrade.Session

open Text

/-- Opens a file to read and one to write, and gives the text of the first. -/
def openBoth (input output : Text) : Session Text := do
  let _ ← readText input
  writeText output []
  readText input

/-- Converts the commands of a sheet. -/
def convertSheet (setting : Setting) (input output : Text) : Session Unit := do
  let tables ← tables setting
  let s ← openBoth input output
  let pass := Sheet.convertCommands (Command.convert tables) s
  writeText output pass.sheet
  printAll pass.printed
  check pass.fault

/-- Lists the commands of a sheet whose selectors have a volume but no position. -/
def listUnanchored (input output world : Text) : Session Unit := do
  print "Starting extraction..."
  let s ← openBoth input output
  print "Files opened successfully."
  let pass := Sheet.listUnanchored world s
  writeText output pass.sheet
  printAll pass.printed
  check pass.fault
  print ("Extraction complete. See " ++ output ++ " for results.")

end CommandUpgrade.Session
