import CommandUpgrade.Session.Basic
import CommandUpgrade.World.Import

/-!
# Tools on worlds

A world is a folder with region files in its folder `region`. One tool lists the commands of a world
in a sheet, and one puts the converted commands of a sheet into a copy of the world.
-/

namespace CommandUpgrade.Session

open Text World

/-- The folder of the old worlds. -/
def sourceFolder : Text := "1-12 worlds"

/-! ## Extracting -/

/-- Whether a file name is that of a region. -/
def isRegionName (name : Text) : Bool :=
  startsWith name "r." && endsWith (name.drop 2) ".mca"

/-- The extraction from the region file of a name in a folder. -/
def extractRegion (workspace : Workspace) (folder name : Text) : Extraction :=
  match workspace.read (Path.under folder name) with
  | .ok content => Extraction.ofRegion name content.toRegion
  | .error fault => { printed := ["\nProcessing region: " ++ name], fault := some fault }

/-- Lists the commands of a world. -/
def extractWorld (world output : Text) : Session Unit := do
  print "=== Extracting Commands from Original World ==="
  writeText output ({} : Extraction).sheet
  let workspace ← workspace
  let folder := Path.tidy (Path.under world "region")
  if !workspace.has folder then
    print "Region directory not found!"
    return
  let names := match workspace.names folder with
    | .ok names => names.filter isRegionName
    | .error _ => []
  let extraction := names.foldr (fun name rest => extractRegion workspace folder name ++ rest)
    ({} : Extraction)
  writeText output extraction.sheet
  printAll extraction.printed
  check extraction.fault
  printAll [
    "\n=== Extraction Complete ===".toList,
    "Total chunks with commands: " ++ ofNat extraction.chunks,
    "Total commands extracted: " ++ ofNat extraction.commands,
    "Commands saved to: " ++ output,
    "\nNext step: Run the command converter on " ++ output]

/-! ## Importing -/

/-- How many chunks and commands were changed. -/
structure Totals where
  chunks : Nat := 0
  commands : Nat := 0

/-- Puts the commands of a group into the region file at a path. -/
def importRegion (path : Text) (group : Import.Group) (totals : Totals) : Session Totals := do
  let workspace ← workspace
  if !workspace.has path then
    print ("  Region file not found: " ++ path)
    return totals
  match workspace.read path with
  | .error fault =>
    print (Import.keptLine fault)
    return totals
  | .ok content =>
    let imported := Import.change content.toRegion group
    if 0 < imported.chunks then change (·.write path (.region imported.region))
    printAll imported.printed
    return ⟨totals.chunks + imported.chunks, totals.commands + imported.commands⟩

/-- Puts the commands of a group into a world. -/
def importGroup (world : Text) (totals : Totals) (group : Import.Group) : Session Totals := do
  print ("\nProcessing " ++ group.region.getD "None" ++ " chunk " ++ group.place ++ " with " ++
    ofNat group.changes.length ++ " commands")
  match group.region with
  | none => throw .wrongKind
  | some name =>
    importRegion (Path.tidy (Path.under (Path.under world "region") name)) group totals

/-- Puts the commands of a sheet into a copy of a world. -/
def importWorld (world sheet output : Text) : Session Unit := do
  let source := Path.under sourceFolder world
  let target := Path.under output world
  printAll [
    "=== Re-importing Converted Commands ===".toList,
    "DEBUG: Looking for source world at: " ++ source,
    "DEBUG: Output world path will be: " ++ target]
  if !(← workspace).has source then
    print ("Error: Source world not found: " ++ source)
    return
  if !(← workspace).has target then change (·.copyFolder source target)
  if !(← workspace).has (Path.tidy sheet) then
    print ("Error: Converted commands file not found: " ++ sheet)
    return
  print ("Loading converted commands from " ++ sheet)
  let s ← readStrictly sheet
  match Import.load s with
  | .error fault => throw fault
  | .ok groups =>
    print ("Loaded " ++ ofNat groups.length ++ " chunks with commands")
    let totals ← groups.foldlM (importGroup target) {}
    printAll [
      "\n=== Re-import Complete ===".toList,
      "Total chunks processed: " ++ ofNat totals.chunks,
      "Total commands imported: " ++ ofNat totals.commands,
      "World saved to: " ++ target,
      "The world is now ready for Minecraft 1.20!".toList,
      "Script completed successfully - exiting cleanly".toList]

end CommandUpgrade.Session
