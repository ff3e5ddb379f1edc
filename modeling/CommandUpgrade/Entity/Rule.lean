import CommandUpgrade.Entity.Edit
import CommandUpgrade.Item.Components

/-!
# Rules for entity fields

Each rule renews one field of an entity: worn and held items become `equipment`, their drop chances
`drop_chances`, names and carried items take their component form.
-/

namespace CommandUpgrade

open Text Style

/-- The fields of an entity that have a new form. -/
inductive Rule
  | armorItems
  | handItems
  | armorChances
  | handChances
  | customName
  | inventory
  | selectedItem
  deriving DecidableEq, Repr

namespace Rule

/-- The field that a rule renews. -/
def field : Rule → Text
  | armorItems => "ArmorItems"
  | handItems => "HandItems"
  | armorChances => "ArmorDropChances"
  | handChances => "HandDropChances"
  | customName => "CustomName"
  | inventory => "Inventory"
  | selectedItem => "SelectedItem"

/-! ## Equipment -/

def armorSlots : List Text := ["feet".toList, "legs".toList, "chest".toList, "head".toList]

def handSlots : List Text := ["mainhand".toList, "offhand".toList]

/-- Puts an item that is not empty into a slot. -/
def equip (slot : Text) (item : Tag) : Edit Unit := do
  if item.isFilled then
    if let some new ← Item.upgradeTag item then
      Edit.putIn "equipment" slot (.compound new)

/-- Puts the worn items into their slots. -/
def editArmor : Edit Unit := do
  let some (.list items) ← Edit.find "ArmorItems" | return
  Edit.ensure "equipment"
  (armorSlots.zip items).forM fun (slot, item) => equip slot item
  Edit.erase "ArmorItems"

/-- Puts the held items into their slots. A second item alone goes into the main hand. -/
def editHands : Edit Unit := do
  let some (.list items) ← Edit.find "HandItems" | return
  Edit.ensure "equipment"
  match items with
  | first :: .compound (entry :: entries) :: _ =>
    if first.isFilled then (handSlots.zip items).forM fun (slot, item) => equip slot item
    else equip "mainhand" (.compound (entry :: entries))
  | _ => (handSlots.zip items).forM fun (slot, item) => equip slot item
  Edit.erase "HandItems"

/-! ## Drop chances -/

/-- A drop chance, zero where none is given. -/
def chance : Tag → Outcome Tag
  | .null => .ok (.float (.ofInt 0))
  | tag => tag.toFloat.map .float

/-- Puts drop chances into their slots, and zero into every other slot. -/
def editChances (field : Text) (slots : List Text) : Edit Unit := do
  let some (.list chances) ← Edit.find field | return
  Edit.ensure "drop_chances"
  (slots.zip chances).forM fun (slot, tag) => do
    Edit.putIn "drop_chances" slot (← chance tag)
  (slots ++ armorSlots ++ handSlots).forM fun slot =>
    Edit.ensureIn "drop_chances" slot (.float (.ofInt 0))
  Edit.erase field

/-! ## Names -/

/-- The component form of a name. -/
def newName (name : Text) : Outcome Tag := do
  let name := unquote name
  if !isStyled name then return .compound [words name]
  match ← lineComponents name with
  | [component] => return .compound component
  | components => return .list (components.map .compound)

def editName : Edit Unit := do
  let some (.text name) ← Edit.find "CustomName" | return
  Edit.put "CustomName" (← newName name)

/-! ## Carried items -/

/-- The components of all lines in one list. -/
def flatten (lines : List Tag) : List Tag :=
  lines.flatMap fun
    | .list components => components
    | line => [line]

/-- The components of an item with its lore changed. -/
def mapLore (change : List Tag → List Tag) (components : Entries) : Entries :=
  match Entries.get? "minecraft:lore" components with
  | some (.list lines) => Entries.set "minecraft:lore" (.list (change lines)) components
  | _ => components

/-- An item of an inventory. If it got components, fields of the old item that are missing come
behind. -/
def inventoryItem (tag : Tag) : Outcome Tag := do
  let .compound item := tag | return tag
  let some new ← Item.upgrade item | return tag
  let some (.compound components) := Entries.get? "components" new | return .compound new
  let new := Entries.set "components" (.compound (mapLore flatten components)) new
  let missing := ["id", "count", "Slot"].map String.toList |>.filterMap fun name =>
    if Entries.has name new then none else (Entries.get? name item).map (name, ·)
  return .compound (new ++ missing)

def editInventory : Edit Unit := do
  let some (.list items) ← Edit.find "Inventory" | return
  Edit.put "Inventory" (.list (← items.mapM (inventoryItem ·)))

/-- Whether a component says nothing: its text is empty, and it has no formatting. -/
def isEmptyComponent : Tag → Bool
  | .compound entries =>
    ((Entries.get? "text" entries).any (·.isText [])) &&
      entries.all fun (name, _) => name = "text".toList ∨ name = "italic".toList
  | _ => false

/-- The lore of a held item: one list, without empty components, fields in order. -/
def selectedLore (lines : List Tag) : List Tag :=
  ((flatten lines).filter (!isEmptyComponent ·)).map fun
    | .compound entries => .compound (reordered entries)
    | tag => tag

/-- The held item. If it got components, it has a count. -/
def newSelected (item : Entries) : Outcome (Option Entries) := do
  let some new ← Item.upgrade item | return none
  let some (.compound components) := Entries.get? "components" new | return some new
  let new := Entries.set "components" (.compound (mapLore selectedLore components)) new
  return some (if Entries.has "count" new then new else new ++ [("count".toList, .int 1)])

def editSelected : Edit Unit := do
  let some (.compound item) ← Edit.find "SelectedItem" | return
  if let some new ← newSelected item then Edit.put "SelectedItem" (.compound new)

/-! ## Rules -/

/-- What a rule does to the entries of an entity. -/
def edit : Rule → Edit Unit
  | armorItems => editArmor
  | handItems => editHands
  | armorChances => editChances "ArmorDropChances" armorSlots
  | handChances => editChances "HandDropChances" handSlots
  | customName => editName
  | inventory => editInventory
  | selectedItem => editSelected

/-- A rule applied to a tag. On a tag that is no compound it does nothing, unless the field is
mentioned there, which is a fault. -/
def apply (rule : Rule) (tag : Tag) : Outcome Tag := do
  match tag with
  | .compound entries =>
    match rule.edit.run entries with
    | (new, none) => return .compound new
    | (_, some fault) => throw fault
  | tag =>
    if ← tag.mentions rule.field then
      throw (if rule = inventory ∨ rule = selectedItem then
        .noMember (if tag.text?.isSome then "str" else "list") "get" else .wrongKind)
    return tag

end Rule

end CommandUpgrade
