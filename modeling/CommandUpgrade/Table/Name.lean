import CommandUpgrade.Number.Integer
import CommandUpgrade.Table.Basic
import CommandUpgrade.Text.LowerCase

/-!
# New names

The new name of an entity, a block, a sound or a particle, and the block state of a block name. A
name that the tables do not hold stays, in the namespace `minecraft` where its kind needs one.
-/

namespace CommandUpgrade

open Text

namespace Text

/-- The name with `minecraft:` in front, unless it has a namespace. -/
def withNamespace (name : Text) : Text := if name.contains ':' then name else namespaced name

/-- The name without `minecraft:`. -/
def bareName (name : Text) : Text := replace "minecraft:" [] name

/-- A block name with `minecraft:` in front, unless it has that or is a coordinate. -/
def blockNamespaced (name : Text) : Text :=
  if startsWith name "minecraft:" || name.any (fun c => c == '~' || c == '^') then name
  else namespaced name

end Text

namespace Tables

/-- The new name of an entity. -/
def entityName (tables : Tables) (name : Text) : Text :=
  withNamespace ((Lookup.get? (bareName name) tables.entities).getD name)

/-- The new name of a particle. -/
def particleName (tables : Tables) (name : Text) : Text :=
  withNamespace ((Lookup.get? (bareName name) tables.particles).getD name)

/-- The new name of a sound, looked up first with its namespace and then without. -/
def soundName (tables : Tables) (name : Text) : Text :=
  let converted := (Lookup.get? (namespaced (bareName name)) tables.sounds).getD name
  if converted = name then (Lookup.get? (bareName name) tables.sounds).getD name else converted

/-- The data value that a text stands for: any is the first. -/
def dataValue (data : Text) : Outcome Int := if data = "-1" then .ok 0 else Number.readInt data

/-- A table entry that is not empty. -/
def block? (tables : Tables) (name : Text) (data : Int) : Option Text :=
  (Lookup.get? (name, data) tables.blocks).filter (!·.isEmpty)

/-- The new name of a block. -/
def blockName (tables : Tables) (name : Text) (data : Text := ['0']) : Text :=
  let name := unquote name
  match dataValue data with
  | .error _ => blockNamespaced name
  | .ok data =>
    let found := tables.block? name data <|>
      if startsWith name "minecraft:" then none else tables.block? (namespaced name) data
    blockNamespaced (found.getD name)

/-- The number of a block, empty if it is not known. -/
def blockNumber (tables : Tables) (name : Text) : Text := (Lookup.get? name tables.numbers).getD []

/-- The tag under a key of the block states. -/
def state (tables : Tables) (key : Text) : Outcome Tag :=
  match tables.states with
  | .compound entries => .ok ((Entries.get? key entries).getD .null)
  | .list _ => .error (.noMember "list" "get")
  | .text _ => .error (.noMember "str" "get")
  | .int _ => .error (.noMember "int" "get")
  | .float _ => .error (.noMember "float" "get")
  | .bool _ => .error (.noMember "bool" "get")
  | .null => .error (.noMember "NoneType" "get")

/-- The block state of a block name and data value: by the number of the block, or else by the
first entry of the block table that has the name in capital or small letters. -/
def stateName (tables : Tables) (name : Text) (data : Text := ['0']) : Outcome Tag :=
  let name := unquote name
  match dataValue data with
  | .error _ => .ok (.text (blockNamespaced name))
  | .ok value => do
    let key := lower name
    let bare := (after? "minecraft:" key).getD key
    let number := tables.blockNumber key
    let (key, number) := if number.isEmpty then (bare, tables.blockNumber bare) else (key, number)
    if number.isEmpty then
      match tables.blocks.find? fun ((old, data), _) => lower old = key ∧ data = value with
      | some (_, new) => return .text new
      | none => return .text (blockNamespaced name)
    else
      let state ← tables.state (number ++ [':'] ++ ofInt value)
      return if state.isFilled then state else .text (tables.blockName name data)

/-! ## Packed numbers -/

/-- The number and the data value of a block that are packed into one number. -/
def unpack (packed : Int) : Int × Int := (packed % 4096, packed / 4096)

/-- The block of a packed number, and stone for what is none. -/
def packedBlock (tables : Tables) (packed : Tag) : Text :=
  let find (packed : Int) : Text :=
    let (number, data) := unpack packed
    match tables.block? (ofInt number) data with
    | some name => withNamespace name
    | none => "minecraft:stone"
  match packed with
  | .int n => find n
  | .bool b => find (if b then 1 else 0)
  | _ => "minecraft:stone"

end Tables

end CommandUpgrade
