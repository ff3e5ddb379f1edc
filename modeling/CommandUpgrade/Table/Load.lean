import CommandUpgrade.Json.Reader
import CommandUpgrade.Number.Integer
import CommandUpgrade.Sheet.Record
import CommandUpgrade.Table.Basic
import CommandUpgrade.Text.LowerCase

/-!
# Loading tables

Four tables are sheets and one is JSON. A sheet is read up to the first row that lacks a cell. A row
of the block sheet whose data value is not an integer, or that lacks a column, is passed over when
loading is silent and ends the table when it is not.
-/

namespace CommandUpgrade

open Sheet Text

/-- The contents of the files that tables are loaded from, where there is such a file. -/
structure TableFiles where
  entities : Option Text := none
  blocks : Option Text := none
  sounds : Option Text := none
  particles : Option Text := none
  states : Option Text := none

namespace Table

/-- The records of a file, none if there is no file. -/
def fileRecords (file : Option Text) : List Record :=
  match file with
  | some s => (records s).records
  | none => []

/-- The trimmed cell of a record. -/
def trimmed (record : Record) (column : String) : Outcome Text :=
  (record.cell column).map trim

/-- A table of two columns, up to the first record that lacks one of them. -/
def pairs (old new : String) (table : Lookup Text) : List Record → Lookup Text
  | [] => table
  | record :: rest =>
    match trimmed record old, trimmed record new with
    | .ok key, .ok value => pairs old new (Lookup.set key value table) rest
    | _, _ => table

/-- A row of the block sheet. -/
structure BlockRow where
  number : Text
  data : Int
  name : Text
  rawName : Text
  newName : Text

/-- The block row of a record. -/
def blockRow (record : Record) : Outcome BlockRow := do
  let number ← trimmed record "id"
  let data ← Number.readInt (← trimmed record "data")
  let newName ← trimmed record "conversion name"
  let name ← trimmed record "block"
  let rawName ← trimmed record "raw_block"
  return ⟨number, data, name, rawName, newName⟩

/-- The names under which a block row is found. -/
def BlockRow.keys (row : BlockRow) : List Text :=
  [row.number, row.rawName, namespaced row.rawName, row.name, namespaced row.name]

/-- Whether a row with this fault is passed over, rather than ending the table. -/
def passesOver (silent : Bool) : Fault → Bool
  | .notInteger _ | .tooManyDigits _ | .missingField _ => silent
  | _ => false

/-- The block table of a sheet. -/
def blocks (silent : Bool) (table : Lookup (Text × Int)) : List Record → Lookup (Text × Int)
  | [] => table
  | record :: rest =>
    match blockRow record with
    | .ok row =>
      blocks silent
        (row.keys.foldl (fun table key => Lookup.set (key, row.data) row.newName table) table) rest
    | .error fault => if passesOver silent fault then blocks silent table rest else table

/-- Gives a block name its number: the first number counts, save for a name that is written with
`minecraft:`, whose rest takes the last one. -/
def addNumber (number name : Text) (table : Lookup Text) : Lookup Text :=
  if name.isEmpty then table
  else
    let name := lower name
    let table := if (Lookup.get? name table).isSome then table else Lookup.set name number table
    match after? "minecraft:" name with
    | some rest => Lookup.set rest number table
    | none => table

/-- The block numbers of a sheet. -/
def numbers (table : Lookup Text) : List Record → Lookup Text
  | [] => table
  | record :: rest =>
    match trimmed record "id", trimmed record "block", trimmed record "raw_block" with
    | .ok number, .ok name, .ok rawName =>
      numbers (addNumber number rawName (addNumber number name table)) rest
    | .error fault, _, _ | _, .error fault, _ | _, _, .error fault =>
      if passesOver true fault then numbers table rest else table

/-- Whether a tag can be counted: a text, a list or a compound. -/
def countable : Tag → Bool
  | .text _ | .list _ | .compound _ => true
  | _ => false

/-- The member `blocks` of a JSON object, and nothing of any other text. Loading that is not silent
tells how many states there are, so a member that cannot be counted is then left out too. -/
def states (silent : Bool) (file : Option Text) : Tag :=
  match file.bind Json.read? with
  | some (.compound entries) =>
    let found := (Entries.get? "blocks" entries).getD (.compound [])
    if silent || countable found then found else .compound []
  | _ => .compound []

end Table

/-- The tables of a set of files. -/
def Tables.load (files : TableFiles) (silent : Bool) : Tables where
  entities := Table.pairs "original" "converted" [] (Table.fileRecords files.entities)
  blocks := Table.blocks silent [] (Table.fileRecords files.blocks)
  sounds := Table.pairs "1.12_sound" "1.20_sound" [] (Table.fileRecords files.sounds)
  particles := Table.pairs "1.12_particle" "1.20_particle" [] (Table.fileRecords files.particles)
  states := Table.states silent files.states
  numbers := Table.numbers [] (Table.fileRecords files.blocks)

end CommandUpgrade
