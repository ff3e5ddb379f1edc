import CommandUpgrade.Json.Writer
import CommandUpgrade.Table.Load
import CommandUpgrade.Table.Standard.Blocks
import CommandUpgrade.Table.Standard.Entities
import CommandUpgrade.Table.Standard.Particles
import CommandUpgrade.Table.Standard.Sounds
import CommandUpgrade.Table.Standard.States

/-!
# The standard tables

The tables that come with the library.
-/

namespace CommandUpgrade

open Table.Standard Text

/-- The block states under `id:data`. -/
def Table.Standard.stateEntries : Entries :=
  blockStates.map fun (number, data, state) => (ofNat number ++ ':' :: ofNat data, .text state)

/-- The file of block states, which is JSON. -/
def Table.Standard.stateFile : Text :=
  (Tag.compound [("blocks", .compound stateEntries)]).toJson

/-- The files that come with the library. -/
def TableFiles.standard : TableFiles where
  entities := some entitySheet.toList
  blocks := some blockSheet.toList
  sounds := some soundSheet.toList
  particles := some particleSheet.toList
  states := some stateFile

/-- The tables that come with the library. -/
def Tables.standard : Tables := Tables.load .standard true

end CommandUpgrade
