import CommandUpgrade.Entity.Rule
import CommandUpgrade.Style.Data
import CommandUpgrade.Tag.Reader
import CommandUpgrade.Tag.Writer

/-!
# Item data in commands

The data of an item in a command becomes a list of components in brackets. Data without components
keeps its text, with its styled texts renewed.
-/

namespace CommandUpgrade.Item

open Text Style

/-- Moves a skull owner that stands beside the tag into it. -/
def moveOwner (item : Entries) : Outcome Entries := do
  let some owner := Entries.get? "SkullOwner" item | return item
  let tag := (Entries.get? "tag" item).getD (.compound [])
  let item := Entries.set "tag" tag item
  if ← tag.mentions "SkullOwner" then return item
  match tag with
  | .compound entries =>
    return Entries.erase "SkullOwner"
      (Entries.set "tag" (.compound (Entries.set "SkullOwner" owner entries)) item)
  | _ => throw .wrongKind

/-- Whether the name of the item has a namespace; the new identity counts if no name is given. -/
def isNamespaced (name : Option Text) (new : Entries) : Outcome Bool :=
  match name with
  | some (c :: r) => .ok ((c :: r).contains ':')
  | _ =>
    match Entries.get? "id" new with
    | some id => if id.isFilled then id.mentions [':'] else .ok false
    | none => .ok false

/-- The name of a component in a command. -/
def commandName (isNamespaced : Bool) (name : Text) : Text :=
  if isNamespaced then
    if name = "minecraft:custom_name" then "minecraft:item_name" else name
  else if name = "minecraft:item_name" ∨ name = "minecraft:custom_name" then "custom_name"
  else if name = "minecraft:lore" then "lore"
  else name

/-- The value of a component for an item without a namespace: no list around a single name, and all
lore lines in one list. -/
def unnested (name : Text) (tag : Tag) : Tag :=
  match tag with
  | .list items =>
    if name = "custom_name" ∧ items.length = 1 then items.headD tag
    else if name = "lore" then .list (Rule.flatten items)
    else tag
  | _ => tag

/-- The tag with the text of each component in front. -/
def textInFront (tag : Tag) : Tag :=
  match tag with
  | .compound entries => .compound (textFirst entries)
  | .list items => .list (listInFront items)
  | tag => tag
where
  /-- The items of a list with the text of each component in front. -/
  listInFront : List Tag → List Tag
    | [] => []
    | tag :: rest => textInFront tag :: listInFront rest

/-- A component as it stands in a command. -/
def writeComponent (isNamespaced : Bool) (name : Text) (tag : Tag) : Text :=
  if name = "minecraft:profile" then name ++ '=' :: tag.write
  else
    let new := commandName isNamespaced name
    let tag := textInFront (if isNamespaced then tag else unnested new tag)
    new ++ '=' :: if isNamespaced then tag.toCompactJson else tag.toJson

/-- The components of the data of an item, none if it has none. -/
def commandComponents? (data : Text) (name : Option Text) : Outcome (Option Text) := do
  let .compound item := Tag.read data | return none
  let some new ← upgrade (← moveOwner item) | return none
  let some (.compound components) := Entries.get? "components" new | return none
  let isNamespaced ← isNamespaced name new
  return some ('[' :: join [','] (components.map fun (name, tag) =>
    writeComponent isNamespaced name tag) ++ [']'])

/-- The data of an item in a command. `restyle` says whether styled texts of other data are
renewed. -/
def upgradeData (restyle : Bool) (data : Text) (name : Option Text := none) : Outcome Text :=
  match commandComponents? data name with
  | .ok (some components) => .ok components
  | _ => if isStyled data && restyle then Style.upgradeData .item data else .ok data

end CommandUpgrade.Item
