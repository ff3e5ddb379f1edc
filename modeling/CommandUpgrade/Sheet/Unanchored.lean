import CommandUpgrade.Selector.Unanchored
import CommandUpgrade.Sheet.Conversion

/-!
# Listing unanchored selectors

The records of a sheet of commands whose selectors have a volume but no position, each with the name
of its world.
-/

namespace CommandUpgrade.Sheet

/-- The columns of the list. -/
def unanchoredHeader : List Text :=
  ["world_name".toList, "region_file".toList, "chunk_x".toList, "chunk_z".toList,
    "block_x".toList, "block_y".toList, "block_z".toList, "command_index".toList,
    "block_type".toList, commandColumn]

/-- The row of a record. The place of the block may be missing. -/
def unanchoredRow (world : Text) (command : Text) (record : Record) : Outcome (List Text) := do
  let region ← record.get "region_file"
  let x ← record.get "chunk_x"
  let z ← record.get "chunk_z"
  let place := ["block_x".toList, "block_y".toList, "block_z".toList].map fun name =>
    ((record.cells.lookup name).getD none).getD []
  let index ← record.get "command_index"
  let kind ← record.get "block_type"
  return [world, region.getD [], x.getD [], z.getD []] ++ place ++
    [index.getD [], kind.getD [], command]

/-- The rows that a record adds. -/
def unanchoredRows (world : Text) (record : Record) : Outcome (List (List Text)) := do
  match ← record.get commandColumn with
  | none => .error .wrongKind
  | some command =>
    if Selector.hasUnanchored command then return [← unanchoredRow world command record]
    else return []

/-- The line that is printed before every hundredth record. -/
def progressLine (i : Nat) : List Text :=
  if i % 100 = 0 then ["Processing line " ++ Text.ofNat i ++ "..."] else []

/-- The pass over the records from number `i` on, `last` being the fault behind them. -/
def listRecords (world : Text) (last : Option Fault) (i : Nat) : List Record → Pass
  | [] => { fault := last }
  | record :: rest =>
    match unanchoredRows world record with
    | .error fault => (Pass.stop fault).print (progressLine i)
    | .ok rows =>
      (rows.foldr Pass.write (listRecords world last (i + 1) rest)).print (progressLine i)

/-- The pass that lists the unanchored selectors of a sheet. -/
def listUnanchored (world : Text) (s : Text) : Pass :=
  let all := records s
  (listRecords world all.fault 0 all.records).write unanchoredHeader

end CommandUpgrade.Sheet
