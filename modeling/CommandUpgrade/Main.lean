import CommandUpgrade.Table.Standard
import CommandUpgrade.Tool

/-!
# The program

Runs a tool in the current folder. The folder is taken into a workspace, the tool runs there, and
what it printed and changed is then printed and written back. The blocks and the block states are
the standard ones; the other tables are files of the folder.

Region files are packed, and the program does not unpack them: a tool that opens worlds is not run
in a folder that holds region files.
-/

namespace CommandUpgrade

/-- The tool of a name on the command line. -/
def Tool.ofName? : String → Option Tool
  | "self-test" => some selfTest
  | "convert-sheet" => some convertSheet
  | "list-unanchored" => some listUnanchored
  | "extract-world" => some extractWorld
  | "import-world" => some importWorld
  | "convert-world" => some convertWorld
  | "convert-worlds" => some convertWorlds
  | _ => none

/-- Whether a tool opens worlds. -/
def Tool.opensWorlds : Tool → Bool
  | selfTest | convertSheet | listUnanchored => false
  | extractWorld | importWorld | convertWorld | convertWorlds => true

/-- Whether a workspace holds a region file. -/
def Workspace.hasRegions (workspace : Workspace) : Bool :=
  workspace.files.any fun (path, _) => Text.endsWith (path.getLastD []) ".mca".toList

namespace Program

/-- The path of a place, from the current folder. -/
def pathOf (place : Path) : String := String.ofList (Text.join ['/'] place)

/-- Takes a folder of the current folder into a workspace, with all that is below it. -/
partial def load (place : Path) (workspace : Workspace) : IO Workspace := do
  let folder := (← IO.currentDir) / pathOf place
  let mut loaded := workspace
  for entry in ← folder.readDir do
    let inside := place ++ [entry.fileName.toList]
    if ← entry.path.isDir then
      loaded ← load inside { loaded with folders := loaded.folders ++ [inside] }
    else
      let bytes ← IO.FS.readBinFile entry.path
      let content := Content.bytes (bytes.toList.map UInt8.toNat)
      loaded := { loaded with files := loaded.files ++ [(inside, content)] }
  return loaded

/-- Writes what a workspace holds and the folder did not hold before. -/
def store (before after : Workspace) : IO Unit := do
  for folder in after.folders do
    IO.FS.createDirAll (pathOf folder)
  for (place, content) in after.files do
    match content with
    | .text s => IO.FS.writeFile (pathOf place) (String.ofList s)
    | .bytes bytes =>
      unless before.isFile place do
        IO.FS.writeBinFile (pathOf place) ⟨(bytes.map UInt8.ofNat).toArray⟩
    | .region _ => pure ()
  for (place, _) in before.files do
    unless after.isFile place do
      IO.FS.removeFile (pathOf place)

/-- Runs a tool with arguments in the current folder. -/
def runTool (tool : Tool) (args : List String) : IO UInt32 := do
  let before ← load [] {}
  if tool.opensWorlds && before.hasRegions then
    IO.eprintln "region files are packed and cannot be opened here"
    return 1
  let standard := TableFiles.standard
  let setting : Setting := ⟨standard.blocks, standard.states, true⟩
  let ending := (tool.run setting (args.map String.toList)).run before
  IO.print (String.ofList ending.output)
  store before ending.workspace
  match ending.fault with
  | none | some .refused => pure ()
  | some fault => IO.eprintln (String.ofList fault.message)
  return ending.exitCode.toUInt32

end Program

end CommandUpgrade

/-- Runs the tool that the first argument names with the other arguments. -/
def main (args : List String) : IO UInt32 := do
  match args with
  | name :: rest =>
    match CommandUpgrade.Tool.ofName? name with
    | some tool => CommandUpgrade.Program.runTool tool rest
    | none =>
      IO.eprintln s!"there is no tool {name}"
      return 1
  | [] =>
    IO.eprintln "no tool is named"
    return 1
