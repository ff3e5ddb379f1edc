import CommandUpgrade.Style.Component
import CommandUpgrade.Tag.Number
import CommandUpgrade.Tag.Shown
import CommandUpgrade.Text.Blank
import CommandUpgrade.Text.Pattern

/-!
# Item components

An old item keeps its damage, colour, name, lore, enchantments and skull owner in several places; a
new one has a component for each. `Item.upgrade` makes the new item of an old one. Data that has no
component is dropped.
-/

namespace CommandUpgrade.Item

open Text Style

/-! ## Names and numbers -/

/-- The name of an enchantment by its number. -/
def enchantment? (number : Int) : Option String :=
  match number with
  | 0 => some "protection" | 1 => some "fire_protection" | 2 => some "feather_falling"
  | 3 => some "blast_protection" | 4 => some "projectile_protection" | 5 => some "respiration"
  | 6 => some "aqua_affinity" | 7 => some "thorns" | 8 => some "depth_strider"
  | 9 => some "frost_walker" | 10 => some "binding_curse"
  | 16 => some "sharpness" | 17 => some "smite" | 18 => some "bane_of_arthropods"
  | 19 => some "knockback" | 20 => some "fire_aspect" | 21 => some "looting"
  | 22 => some "sweeping" | 32 => some "efficiency" | 33 => some "silk_touch"
  | 34 => some "unbreaking" | 35 => some "fortune" | 48 => some "power"
  | 49 => some "punch" | 50 => some "flame" | 51 => some "infinity"
  | 61 => some "luck_of_the_sea" | 62 => some "lure"
  | 70 => some "mending" | 71 => some "vanishing_curse"
  | _ => none

/-- The head that a damage value makes of a skull. -/
def skull? (damage : Int) : Option Text :=
  match damage with
  | 0 => some "minecraft:skeleton_skull"
  | 1 => some "minecraft:wither_skeleton_skull"
  | 2 => some "minecraft:zombie_head"
  | 3 => some "minecraft:player_head"
  | 4 => some "minecraft:creeper_head"
  | 5 => some "minecraft:dragon_head"
  | _ => none

/-- The letters that may end a number. -/
def isKind (c : Char) : Bool := Pattern.kinds.contains c

/-- A damage value; the kind of a number may be written behind a text. -/
def damageValue : Tag → Outcome Int
  | .text s => Number.readInt (stripEnd isKind s)
  | tag => tag.toInt

/-- The component of a name. -/
def component (name : String) (tag : Tag) : Text × Tag := (namespaced name.toList, tag)

/-! ## Identity -/

/-- The name of an item in a namespace. -/
def itemName (id : Tag) : Outcome Tag := do
  if ← id.mentions [':'] then return id
  return .text (namespaced id.asName)

/-- The identity of an item: a skull takes the name of its head. -/
def identity (item : Entries) : Outcome Entries := do
  match Entries.get? "id" item with
  | none => return []
  | some id =>
    let name ← itemName id
    match Entries.get? "Damage" item with
    | none | some .null => return [("id".toList, name)]
    | some damage =>
      if name.isText "skull" || name.isText "minecraft:skull" then
        let head := skull? (← damage.toInt)
        return [("id".toList, (head.map Tag.text).getD name)]
      return [("id".toList, name)]

/-- The count of an item. -/
def count (item : Entries) : Outcome Entries := do
  match Entries.get? "Count" item with
  | none => return []
  | some count => return [("count".toList, .int (← count.toInt))]

/-! ## Display -/

/-- The tag of a styled name: one component, or the list of several. -/
def displayName (name : Tag) : Outcome Tag := do
  let name := name.asName
  if !isStyled name then return .text name
  match ← nameTag name with
  | .list [component] => return component
  | tag => return tag

/-- The components of a lore line, in a list. A line that is no text is one empty component. -/
def loreLine : Tag → Outcome Tag
  | .text line =>
    if isStyled line then (lineComponents line).map fun parts => .list (parts.map .compound)
    else if (trim line).isEmpty then .ok (.list [.compound (plainComponent [])])
    else .ok (.list [.compound (plainComponent line)])
  | _ => .ok (.compound (plainComponent []))

/-- The lines of a lore. -/
def loreLines (lines : List Tag) : Outcome (List Tag) := lines.mapM loreLine

/-- The components of a display: colour, name and lore. -/
def displayComponents (display : Entries) : Outcome Entries := do
  let color ← (Entries.get? "color" display).mapM fun color =>
    return component "dyed_color" (.int (← color.toInt))
  let name ← (Entries.get? "Name" display).mapM fun name =>
    return component "custom_name" (← displayName name)
  let lore ←
    match Entries.get? "Lore" display with
    | some (.list (line :: lines)) =>
      some <$> return component "lore" (.list (← loreLines (line :: lines)))
    | _ => pure none
  return color.toList ++ name.toList ++ lore.toList

/-- The display of an item: beside its tag, or else in it. -/
def display (item : Entries) : Tag :=
  let beside := (Entries.get? "display" item).getD (.compound [])
  match Entries.get? "tag" item with
  | some (.compound tag) =>
    if beside.isFilled then beside else (Entries.get? "display" tag).getD (.compound [])
  | some _ => beside
  | none => if beside.isFilled then beside else .compound []

/-! ## Enchantments and owners -/

/-- The number that an enchantment's identity is. -/
def enchantmentNumber? : Tag → Option Int
  | .int n => some n
  | .bool b => some (if b then 1 else 0)
  | _ => none

/-- The new form of an enchantment, if it has a number. -/
def enchantment (tag : Tag) : Outcome (Option Tag) := do
  match tag with
  | .compound entries =>
    match (Entries.get? "id" entries).bind enchantmentNumber? with
    | none => return none
    | some number =>
      let name := (enchantment? number).getD "protection"
      let level ← ((Entries.get? "lvl" entries).getD (.int 1)).toInt
      return some (.compound
        [("id".toList, .text (namespaced name.toList)), ("lvl".toList, .int level)])
  | _ => return none

/-- The enchantments of a list that have a number. -/
def enchantments (tags : List Tag) : Outcome (List Tag) := do
  return (← tags.mapM enchantment).filterMap id

/-- The profile of a skull owner that has a texture. -/
def profile? (owner : Entries) : Option Tag := do
  let .compound properties := (Entries.get? "Properties" owner).getD (.compound []) | none
  let .list (texture :: _) := (Entries.get? "textures" properties).getD (.list []) | none
  let .compound texture := texture | none
  let value ← Entries.get? "Value" texture
  if value.isFilled then
    some (.compound [("properties".toList,
      .list [.compound [("name".toList, .lit "textures"), ("value".toList, value)]])])
  else none

/-- The components of a tag: enchantments, owner and damage. -/
def tagComponents (tag : Entries) : Outcome Entries := do
  let enchanted ←
    match Entries.get? "ench" tag with
    | some (.list tags) =>
      let new ← enchantments tags
      pure (if new.isEmpty then [] else [component "enchantments" (.list new)])
    | _ => pure []
  let owner :=
    match Entries.get? "SkullOwner" tag with
    | some (.compound owner) => ((profile? owner).map (component "profile")).toList
    | _ => []
  let damage ← (Entries.get? "Damage" tag).mapM fun damage =>
    return component "damage" (.int (← damageValue damage))
  return enchanted ++ owner ++ damage.toList

/-! ## Items -/

/-- All components of an item. -/
def components (item : Entries) : Outcome Entries := do
  let damage ← (Entries.get? "Damage" item).mapM fun damage =>
    return component "damage" (.int (← damageValue damage))
  let shown ←
    match display item with
    | .compound display => displayComponents display
    | _ => pure []
  let inner ←
    match Entries.get? "tag" item with
    | some (.compound tag) => tagComponents tag
    | _ => pure []
  return Entries.merge (damage.toList ++ shown) inner

/-- The new form of an item, none if nothing of it is left. -/
def upgrade (item : Entries) : Outcome (Option Entries) := do
  let identity ← identity item
  let count ← count item
  let components ← components item
  let new := identity ++ count ++
    if components.isEmpty then [] else [("components".toList, .compound components)]
  return if new.isEmpty then none else some new

/-- The new form of a tag that is an item. -/
def upgradeTag : Tag → Outcome (Option Entries)
  | .compound item => upgrade item
  | _ => .ok none

end CommandUpgrade.Item
