import CommandUpgrade.Sheet.Pass
import CommandUpgrade.World.CommandBlock

/-!
# Extracting commands

The command blocks of a region become the rows of a sheet, chunk by chunk. A chunk that cannot be
read is passed over; the rows that it gave before stay.
-/

namespace CommandUpgrade.World

open Text

/-- What the reading of chunks gave. -/
structure Extraction where
  rows : List (List Text) := []
  printed : List Text := []
  /-- How many chunks have commands. -/
  chunks : Nat := 0
  /-- How many commands there are in chunks that were read to their end. -/
  commands : Nat := 0
  /-- What ended the reading. -/
  fault : Option Fault := none

namespace Extraction

/-- Reads on, unless a fault ended the reading. -/
def append (first second : Extraction) : Extraction :=
  if first.fault.isSome then first
  else
    ⟨first.rows ++ second.rows, first.printed ++ second.printed, first.chunks + second.chunks,
      first.commands + second.commands, second.fault⟩

instance : Append Extraction := ⟨append⟩

/-- The columns of the sheet of commands. -/
def header : List Text :=
  ["region_file".toList, "chunk_x".toList, "chunk_z".toList, "block_x".toList, "block_y".toList,
    "block_z".toList, "command_index".toList, "command".toList, "command_length".toList,
    "block_type".toList]

/-- The row of a command block. -/
def row (region : Text) (x z : Nat) (block : CommandBlock) : List Text :=
  [region, ofNat x, ofNat z, block.x, block.y, block.z, ofNat block.index, block.command,
    ofNat block.length, block.trigger.name]

/-- A place in a message. -/
def place (x z : Nat) : Text := "(" ++ ofNat x ++ ", " ++ ofNat z ++ ")"

/-- The line that says why a chunk was passed over. -/
def unreadLine (x z : Nat) (fault : Fault) : Text :=
  "  Error reading chunk " ++ place x z ++ ": " ++ fault.message

/-- The extraction from the data of a chunk. -/
def ofRoot (region : Text) (x z : Nat) (root : Node) : Extraction :=
  let (blocks, fault) := CommandBlock.list root
  let rows := blocks.map (row region x z)
  match fault with
  | some fault => { rows, printed := [unreadLine x z fault] }
  | none =>
    if blocks.isEmpty then {}
    else
      { rows
        printed := ["  Chunk " ++ place x z ++ ": " ++ ofNat blocks.length ++ " commands"]
        chunks := 1
        commands := blocks.length }

/-- The extraction from a chunk. -/
def ofChunk (region : Text) (x z : Nat) (chunk : Chunk) : Extraction :=
  if chunk.packing = 2 then
    match chunk.root? with
    | some root => ofRoot region x z root
    | none => { printed := [unreadLine x z .unreadableChunk] }
  else if chunk.packing = 0 then
    { printed := ["  Chunk " ++ place x z ++ " is corrupted (compression type 0)"] }
  else
    { printed := ["  Chunk " ++ place x z ++ " has unsupported compression type: " ++
        ofNat chunk.packing] }

/-- The extraction from a place of a region. -/
def ofPlace (name : Text) (region : Region) (x z : Nat) : Extraction :=
  match region.slot (slotIndex x z) with
  | .error fault => { fault := some fault }
  | .ok slot =>
    if slot.isEmpty then {}
    else
      match region.chunk slot.location with
      | .ok chunk => ofChunk name x z chunk
      | .error fault => { printed := [unreadLine x z fault] }

/-- The extraction from a region. -/
def ofRegion (name : Text) (region : Region) : Extraction :=
  let start : Extraction := { printed := ["\nProcessing region: " ++ name] }
  start ++ places.foldr (fun (x, z) rest => ofPlace name region x z ++ rest) {}

/-- The sheet of an extraction. -/
def sheet (extraction : Extraction) : Text :=
  (header :: extraction.rows).flatMap Sheet.writeRow

end Extraction

end CommandUpgrade.World
