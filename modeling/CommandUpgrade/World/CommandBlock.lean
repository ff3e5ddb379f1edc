import CommandUpgrade.World.Region

/-!
# Command blocks

A chunk lists its block entities under `Level.TileEntities`, or under `block_entities`. A command
block is a block entity with one of two ids; it is found by its position in that list.
-/

namespace CommandUpgrade.World

namespace Node

/-- The path to the block entities of a chunk, if it has them. -/
def entitiesPath (root : Node) : Outcome (Option (List Text)) := do
  let inLevel ← match root.get? "Level" with
    | some level => level.mentions "TileEntities"
    | none => .ok false
  if inLevel then return some ["Level", "TileEntities"]
  else if (root.get? "block_entities").isSome then return some ["block_entities"]
  else return none

/-- The block entities of a chunk and the path to them, if there are any. -/
def entities (root : Node) : Outcome (Option (List Text × Node)) := do
  match ← root.entitiesPath with
  | none => return none
  | some path =>
    match root.at? path with
    | none => .error .wrongKind
    | some entities => return if entities.isFilled then some (path, entities) else none

/-- Whether a block entity is a command block. Only a compound has an id. -/
def isCommandBlock (entity : Node) : Outcome Bool :=
  match entity with
  | compound _ =>
    .ok ((entity.get? "id").any fun id =>
      id.isText "minecraft:command_block" || id.isText "command_block")
  | _ => .error (.noMember entity.kindName "get")

/-- The command of a block entity, empty if there is none. -/
def command (entity : Node) : Node := (entity.get? "Command").getD (.string [])

end Node

/-- When a command block runs. -/
inductive Trigger
  | impulse
  | chain
  | repeating
  deriving DecidableEq, Repr

/-- The name of a trigger. -/
def Trigger.name : Trigger → Text
  | impulse => "impulse"
  | chain => "chain"
  | repeating => "repeating"

/-- The trigger of a command block. -/
def Trigger.of (entity : Node) : Trigger :=
  if (entity.get? "auto").any (·.isNumber 1) then .repeating
  else if (entity.get? "powered").any (·.isNumber 1) then .chain
  else .impulse

/-- A command block with a command, as it is listed. -/
structure CommandBlock where
  /-- The position among the block entities of the chunk. -/
  index : Nat
  x : Text
  y : Text
  z : Text
  command : Text
  length : Nat
  trigger : Trigger

namespace CommandBlock

/-- The cell of a coordinate, which may be missing. -/
def coordinate (entity : Node) (name : Text) : Text := ((entity.get? name).map Node.toCell).getD []

/-- The command block that a block entity is, if it is one and has a command. -/
def of? (index : Nat) (entity : Node) : Outcome (Option CommandBlock) := do
  if !(← entity.isCommandBlock) then return none
  let command := entity.command
  if !command.isFilled then return none
  return some ⟨index, coordinate entity "x", coordinate entity "y", coordinate entity "z",
    command.toCell, ← command.size, .of entity⟩

/-- The command blocks among block entities from a position on, and the fault that ended them. -/
def listFrom (index : Nat) : List Node → List CommandBlock × Option Fault
  | [] => ([], none)
  | entity :: rest =>
    match of? index entity with
    | .error fault => ([], some fault)
    | .ok found =>
      let (blocks, fault) := listFrom (index + 1) rest
      (found.toList ++ blocks, fault)

/-- The command blocks of a chunk, and the fault that ended them. -/
def list (root : Node) : List CommandBlock × Option Fault :=
  match root.entities with
  | .error fault => ([], some fault)
  | .ok none => ([], none)
  | .ok (some (_, .list entities)) => listFrom 0 entities
  | .ok (some (_, _)) => ([], some .wrongKind)

end CommandBlock

end CommandUpgrade.World
