import CommandUpgrade.Session.Sheet
import CommandUpgrade.Session.World

/-!
# Converting worlds

A world is converted in steps: its commands are listed, the list is converted, and the new commands
are put into a copy of the world. The lists end up in a folder of logs.
-/

namespace CommandUpgrade.Session

open Text

/-- The folder of the new worlds. -/
def targetFolder : Text := "1-20 worlds"

/-- The folder of the lists. -/
def logFolder : Text := Path.under targetFolder "logs"

/-- The names of the lists of a world. -/
def extractedName (world : Text) : Text := world ++ "_extracted.csv"

def convertedName (world : Text) : Text := world ++ "_converted.csv"

def unanchoredName (world : Text) : Text := world ++ "_dx_only.csv"

/-- Moves a list to the logs, if it is there, and says whether it was. -/
def moveToLogs (name : Text) : Session Bool := do
  if (← workspace).has name then
    change (·.move name (Path.under logFolder name))
    return true
  return false

/-- A line across the output. -/
def doubleRule : Text := List.replicate 80 '='

/-- A text cut off behind 80 characters. -/
def shortened (s : Text) : Text := if 80 < s.length then s.take 80 ++ "..." else s

/-- The lines on one conversion. -/
def exampleLines (command converted : Text) : List Text :=
  ["\nOriginal: " ++ shortened command, "Converted: " ++ shortened converted]

/-- The lines on the conversions with a data argument, three at most, and the fault that ended
them. -/
def exampleRecords (left : Nat) (last : Option Fault) : List Sheet.Record → List Text × Option Fault
  | [] => ([], last)
  | record :: rest =>
    match record.get Sheet.convertedColumn with
    | .error fault => ([], some fault)
    | .ok none => ([], some .wrongKind)
    | .ok (some converted) =>
      if has "nbt=" converted && 0 < left then
        match record.get Sheet.commandColumn with
        | .error fault => ([], some fault)
        | .ok none => ([], some .wrongKind)
        | .ok (some command) =>
          let (lines, fault) := exampleRecords (left - 1) last rest
          (exampleLines command converted ++ lines, fault)
      else exampleRecords left last rest

/-- Prints conversions from the list at a path. -/
def showExamples (path : Text) : Session Unit := do
  let lines (fault : Fault) : Text := "Could not display examples: " ++ fault.message
  match (← workspace).read path with
  | .error fault => print (lines fault)
  | .ok content =>
    match content.toText? with
    | none => print (lines .notUtf8)
    | some s =>
      let all := Sheet.records s
      let (examples, fault) := exampleRecords 3 all.fault all.records
      printAll examples
      match fault with
      | some fault => print (lines fault)
      | none => return ()

/-- Makes the folders of the new worlds and of the lists. -/
def makeFolders : Session Unit := do
  change (·.makeFolder targetFolder)
  change (·.makeFolder logFolder)

/-- Converts a world. -/
def convertWorld (setting : Setting) (world : Text) : Session Unit := do
  makeFolders
  let source := Path.under sourceFolder world
  let extracted := extractedName world
  let converted := convertedName world
  if !(← workspace).hasFolder source then
    refuse ["Error: World '" ++ world ++ "' not found in '" ++ sourceFolder ++ "' directory"]
  printAll [
    '\n' :: doubleRule,
    "Converting world: " ++ world,
    doubleRule ++ ['\n'],
    "Step 1: Extracting commands from " ++ world ++ "..."]
  step setting (extractWorld source extracted)
  print ("\nStep 2: Converting commands for " ++ world ++ "...")
  step setting (convertSheet setting extracted converted)
  print "\nStep 3: Reimporting commands to 1.20 world..."
  step setting (importWorld world converted targetFolder)
  for name in [extracted, converted] do
    if ← moveToLogs name then print ("Moved " ++ name ++ " to " ++ logFolder)
  printAll [
    '\n' :: doubleRule,
    "[SUCCESS] Conversion complete!".toList,
    "  Source: " ++ sourceFolder ++ "/" ++ world,
    "  Output: " ++ targetFolder ++ "/" ++ world,
    "  Logs: " ++ logFolder ++ "/" ++ extracted ++ ", " ++ logFolder ++ "/" ++ converted,
    doubleRule ++ ['\n'],
    "Sample conversions with NBT selectors:".toList,
    List.replicate 80 '-']
  showExamples (Path.under logFolder converted)
  print ('\n' :: doubleRule)

/-- Converts one world of many. -/
def convertOne (setting : Setting) (world : Text) : Session Unit := do
  let source := Path.under sourceFolder world
  if !(← workspace).hasFolder source then return
  let extracted := extractedName world
  let converted := convertedName world
  let unanchored := unanchoredName world
  printAll [
    "\n=== Processing world: " ++ world ++ " ===",
    "Extracting commands from " ++ world ++ "..."]
  step setting (extractWorld source extracted)
  print ("Converting commands for " ++ world ++ "...")
  step setting (convertSheet setting extracted converted)
  print ("Reimporting commands for " ++ world ++ "...")
  step setting (importWorld world converted targetFolder)
  print ("Extracting dx-only selectors for " ++ world ++ "...")
  step setting (listUnanchored extracted unanchored world)
  for name in [extracted, converted, unanchored] do
    let _ ← moveToLogs name

/-- Converts every world. -/
def convertWorlds (setting : Setting) : Session Unit := do
  print "Batch conversion script started..."
  makeFolders
  match (← workspace).names sourceFolder with
  | .error fault => throw fault
  | .ok worlds =>
    worlds.forM (convertOne setting)
    print "\nAll worlds processed."

end CommandUpgrade.Session
