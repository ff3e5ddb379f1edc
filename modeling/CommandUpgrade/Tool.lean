import CommandUpgrade.SelfTest
import CommandUpgrade.Session.Pipeline

/-!
# The command line

The tools by the arguments that they take. A tool that gets the wrong number of arguments says which
ones it takes and ends.
-/

namespace CommandUpgrade

open Session

/-- The tools. -/
inductive Tool
  /-- Converts the commands of the self test. -/
  | selfTest
  /-- Converts a sheet of commands. -/
  | convertSheet
  /-- Lists the commands whose selectors have a volume but no position. -/
  | listUnanchored
  /-- Lists the commands of a world. -/
  | extractWorld
  /-- Puts converted commands into a copy of a world. -/
  | importWorld
  /-- Converts a world. -/
  | convertWorld
  /-- Converts every world. -/
  | convertWorlds
  deriving DecidableEq, Repr

namespace Tool

/-- Runs the self test, which empties its log. -/
def runSelfTest (setting : Setting) : Session Unit := do
  writeText "method_calls.log" []
  let tables ← tables setting
  printAll (SelfTest.report (Command.convert tables))

/-- The lines on the arguments of a tool. -/
def usage : Tool → List Text
  | selfTest | convertWorlds => []
  | convertSheet =>
    ["Usage: python convert_extracted.py <input_extracted_csv> <output_converted_csv>".toList]
  | listUnanchored =>
    [("Usage: python extract_dx_only_selectors.py <input_extracted_csv> <output_dx_only_csv> " ++
      "<world_name>").toList]
  | extractWorld => ["Usage: python extract_commands.py <world_folder> <output_csv>".toList]
  | importWorld =>
    [("Usage: python reimport_commands_simple.py <world_name> <converted_csv> " ++
      "<output_world_folder>").toList]
  | convertWorld =>
    ["Usage: python convert_single_world.py <world_name>".toList,
      "Example: python convert_single_world.py dcs_refresh".toList]

/-- Runs a tool with arguments. -/
def run (setting : Setting) (tool : Tool) (args : List Text) : Session Unit :=
  match tool, args with
  | selfTest, _ => runSelfTest setting
  | convertSheet, [input, output] => Session.convertSheet setting input output
  | listUnanchored, [input, output, world] => Session.listUnanchored input output world
  | extractWorld, [world, output] => Session.extractWorld world output
  | importWorld, [world, sheet, output] => Session.importWorld world sheet output
  | convertWorld, world :: _ => Session.convertWorld setting world
  | convertWorlds, _ => Session.convertWorlds setting
  | tool, _ => refuse tool.usage

end Tool

end CommandUpgrade
