import CommandUpgrade.Number.Integer
import CommandUpgrade.Sheet.Conversion
import CommandUpgrade.World.Extraction

/-!
# Importing commands

The rows of a sheet of converted commands are grouped by chunk, and each group is applied to its
chunk as a whole: a fault in one row keeps the chunk as it was. A row addresses a block entity by its
position; a negative position counts from the end, and one behind the end is passed over.
-/

namespace CommandUpgrade.World.Import

open Text
open Sheet (Record records convertedColumn)

/-! ## Loading -/

/-- A new command and the position of its block. -/
structure Change where
  index : Int
  command : Option Text

/-- The changes of a chunk, in the order of the sheet. -/
structure Group where
  region : Option Text
  x : Int
  z : Int
  changes : List Change

/-- The integer in a cell, which a gap is not. -/
def integer (record : Record) (column : Text) : Outcome Int := do
  match ← record.get column with
  | some cell => Number.readInt cell
  | none => .error .wrongKind

/-- The group of a record alone. -/
def readRecord (record : Record) : Outcome Group := do
  let region ← record.get "region_file"
  let x ← integer record "chunk_x"
  let z ← integer record "chunk_z"
  let index ← integer record "command_index"
  let command ← record.get convertedColumn
  return ⟨region, x, z, [⟨index, command⟩]⟩

/-- Adds the changes of a group to those of the same chunk, or else at the end. -/
def addGroup (new : Group) : List Group → List Group
  | [] => [new]
  | group :: rest =>
    if group.region = new.region ∧ group.x = new.x ∧ group.z = new.z then
      { group with changes := group.changes ++ new.changes } :: rest
    else group :: addGroup new rest

/-- The groups of a sheet, in the order in which their chunks come first. -/
def load (s : Text) : Outcome (List Group) := do
  let all := records s
  let groups ← all.records.mapM readRecord
  match all.fault with
  | some fault => .error fault
  | none => return groups.foldl (fun all group => addGroup group all) []

/-! ## Changing a chunk -/

/-- The position of a block entity in a list of a length; none if it is behind the end. -/
def position (length : Nat) (index : Int) : Outcome (Option Nat) :=
  if (length : Int) ≤ index then .ok none
  else if 0 ≤ index then .ok (some index.toNat)
  else if 0 ≤ index + length then .ok (some (index + length).toNat)
  else .error (.pastEnd .list)

/-- The command block with its new command, and the line that says so. -/
def changeBlock (change : Change) (entity : Node) : Outcome (Node × Text) := do
  match change.command with
  | none => .error .wrongKind
  | some command =>
    let length ← entity.command.size
    return (entity.set "Command" (.string command),
      "    Updated command " ++ ofInt change.index ++ ": " ++ ofNat length ++ " -> " ++
        ofNat command.length ++ " chars")

/-- The block entities after a change, and its line; none if it does not concern a command block. -/
def applyChange (entities : List Node) (change : Change) : Outcome (Option (List Node × Text)) := do
  match ← position entities.length change.index with
  | none => return none
  | some i =>
    let entity := entities.getD i default
    if ← entity.isCommandBlock then
      let (new, line) ← changeBlock change entity
      return some (entities.set i new, line)
    else return none

/-- The block entities after changes, with their count, and the lines up to the first fault. -/
def applyChanges (entities : List Node) : List Change → List Text × Outcome (List Node × Nat)
  | [] => ([], .ok (entities, 0))
  | change :: rest =>
    match applyChange entities change with
    | .error fault => ([], .error fault)
    | .ok none => applyChanges entities rest
    | .ok (some (entities, line)) =>
      let (lines, result) := applyChanges entities rest
      (line :: lines, result.map fun (entities, count) => (entities, count + 1))

/-- Whether changes leave alone what is not a list of block entities: all lie behind its end. -/
def passedOver (entities : Node) (changes : List Change) : Outcome Bool :=
  entities.size.map fun size => changes.all fun change => decide ((size : Int) ≤ change.index)

/-- The data of a chunk after changes, with their count; none if nothing changed. -/
def changeRoot (root : Node) (changes : List Change) :
    List Text × Outcome (Option (Node × Nat)) :=
  match root.entities with
  | .error fault => ([], .error fault)
  | .ok none => ([], .ok none)
  | .ok (some (path, .list entities)) =>
    let (lines, result) := applyChanges entities changes
    (lines, do
      let (entities, count) ← result
      if count = 0 then return none
      let new := Node.setAt (.list entities) path root
      if new.fits then return some (new, count) else .error .textTooLong)
  | .ok (some (_, entities)) =>
    ([], do if ← passedOver entities changes then return none else .error .wrongKind)

/-! ## Changing a region -/

/-- A region after a group, and how many commands of how many chunks changed. -/
structure Imported where
  region : Region
  printed : List Text := []
  chunks : Nat := 0
  commands : Nat := 0

/-- The place of a group in a message. -/
def Group.place (group : Group) : Text := "(" ++ ofInt group.x ++ ", " ++ ofInt group.z ++ ")"

/-- The line that says why a chunk was kept. -/
def keptLine (fault : Fault) : Text := "  [ERROR] Error processing chunk: " ++ fault.message

/-- The region after a group that concerns the chunk at a location. -/
def changeChunk (region : Region) (group : Group) (location : Nat) (chunk : Chunk) : Imported :=
  if chunk.packing = 2 then
    match chunk.root? with
    | none => { region, printed := [keptLine .unreadableChunk] }
    | some root =>
      match changeRoot root group.changes with
      | (lines, .error fault) => { region, printed := lines ++ [keptLine fault] }
      | (lines, .ok none) => { region, printed := lines }
      | (lines, .ok (some (new, count))) =>
        { region := region.setChunk location ⟨2, some new⟩
          printed := lines ++ ["  [OK] Updated " ++ ofNat count ++ " commands in chunk"]
          chunks := 1
          commands := count }
  else if chunk.packing = 0 then
    { region, printed := ["  [ERROR] Chunk " ++ group.place ++ " is corrupted"] }
  else
    { region
      printed := ["  [ERROR] Unsupported compression type: " ++ ofNat chunk.packing] }

/-- The region after a group. -/
def change (region : Region) (group : Group) : Imported :=
  match region.slot (slotIndex group.x group.z) with
  | .error fault => { region, printed := [keptLine fault] }
  | .ok slot =>
    if slot.isEmpty then
      { region, printed := ["  Chunk " ++ group.place ++ " not found in region"] }
    else
      match region.chunk slot.location with
      | .error fault => { region, printed := [keptLine fault] }
      | .ok chunk => changeChunk region group slot.location chunk

end CommandUpgrade.World.Import
