import CommandUpgrade.Entity.Rule
import CommandUpgrade.Memory.Item

/-!
# Rules in memory

A rule changes an entity in place, and also the `equipment` and the `drop_chances` that the entity holds.
Items are replaced by new objects.
-/

namespace CommandUpgrade.Heap

open Text Style

/-! ## Slots -/

/-- Makes sure that a name has a value, a new compound if it has none. -/
def ensure (entity : Address) (name : Text) : Heap Unit := do
  if (← find entity name).isNone then put entity name (.ref (← alloc (.compound [])))

/-- Puts a value under a name of the compound `owner`. -/
def putIn (entity : Address) (owner name : Text) (value : Value) : Heap Unit := do
  let some address ← findCompound entity owner | throw .wrongKind
  put address name value

/-- Puts a value under a name of `owner`, unless the name is there. -/
def ensureIn (entity : Address) (owner name : Text) (value : Value) : Heap Unit := do
  let some inner ← find entity owner | throw .wrongKind
  if !(← (← view inner).mentions name) then putIn entity owner name value

/-- Fills slots of `owner` with what is made of the items of a list, and free slots of the padding with
zero. Then the list is removed. -/
def fillSlots (field owner : Text) (pairs : List Value → Heap (List (Text × Value)))
    (made : Value → Heap (Option Value)) (padding : List Text) (entity : Address) : Heap Unit := do
  let some items ← findList entity field | return
  ensure entity owner
  (← pairs items).forM fun (slot, item) => do
    if let some new ← made item then putIn entity owner slot new
  padding.forM fun slot => ensureIn entity owner slot (.float (.ofInt 0))
  erase entity field

/-! ## Equipment -/

/-- The new form of an item that is not empty. -/
def newItem (value : Value) : Heap (Option Value) := do
  if !(← view value).isFilled then return none
  let some item ← compound? value | return none
  return (← upgrade item).map .ref

/-- Whether the second hand alone holds an item. -/
def isSecondAlone (first second : Value) : Heap Bool := do
  if (← view first).isFilled then return false
  if !(← view second).isFilled then return false
  return (← compound? second).isSome

/-- Held items with their slots. A second item alone goes into the main hand. -/
def handPairs (items : List Value) : Heap (List (Text × Value)) := do
  match items with
  | first :: second :: _ =>
    if ← isSecondAlone first second then return [("mainhand".toList, second)]
    return Rule.handSlots.zip items
  | _ => return Rule.handSlots.zip items

/-! ## Drop chances -/

/-- A drop chance. -/
def newChance (value : Value) : Heap (Option Value) := do
  return some (← store (← Rule.chance (← view value)))

def editChances (field : Text) (slots : List Text) : Address → Heap Unit :=
  fillSlots field "drop_chances" (return slots.zip ·) newChance (slots ++ Rule.armorSlots ++ Rule.handSlots)

/-! ## Names -/

def editName (entity : Address) : Heap Unit := do
  let some (.text name) ← find entity "CustomName" | return
  put entity "CustomName" (← store (← Rule.newName name))

/-! ## Carried items -/

/-- The components of all lines, strung together. -/
def flatten (lines : List Value) : Heap (List Value) := do
  let parts ← lines.mapM fun line => return (← list? line).getD [line]
  return parts.flatten

/-- Changes the lore of the components at an address. -/
def changeLore (components : Address) (change : List Value → Heap (List Value)) : Heap Unit := do
  let some lines ← findList components "minecraft:lore" | return
  put components "minecraft:lore" (.ref (← alloc (.list (← change lines))))

/-- Shares fields of the old item that the new one lacks. -/
def share (new item : Address) (names : List Text) : Heap Unit :=
  names.forM fun name => do
    if (← find new name).isNone then
      if let some value ← find item name then put new name value

/-- An item of an inventory. If it got components, fields of the old item that are missing come
behind. -/
def inventoryItem (value : Value) : Heap Value := do
  let some item ← compound? value | return value
  let some new ← upgrade item | return value
  if let some components ← findCompound new "components" then
    changeLore components flatten
    share new item (["id", "count", "Slot"].map String.toList)
  return .ref new

def editInventory (entity : Address) : Heap Unit := do
  let some items ← findList entity "Inventory" | return
  let new ← items.mapM inventoryItem
  put entity "Inventory" (.ref (← alloc (.list new)))

/-- A component whose first fields are colour, italic and text, in a new object. -/
def reorder (value : Value) : Heap Value := do
  let some component ← compound? value | return value
  let old ← fields component
  let first := ["color", "italic", "text"].map String.toList
  return .ref (← alloc (.compound
    (first.filterMap (fun name => (old.lookup name).map (name, ·)) ++
      old.filter fun (name, _) => !first.contains name)))

/-- The lore of a held item: one list, without empty components, fields in order. -/
def selectedLore (lines : List Value) : Heap (List Value) := do
  let parts ← flatten lines
  let filled ← parts.filterM fun part => return !Rule.isEmptyComponent (← view part)
  filled.mapM reorder

/-- The held item. If it got components, it has a count. -/
def newSelected (item : Address) : Heap (Option Address) := do
  let some new ← upgrade item | return none
  if let some components ← findCompound new "components" then
    changeLore components selectedLore
    if (← find new "count").isNone then put new "count" (.int 1)
  return some new

def editSelected (entity : Address) : Heap Unit := do
  let some item ← findCompound entity "SelectedItem" | return
  if let some new ← newSelected item then put entity "SelectedItem" (.ref new)

/-! ## Rules -/

/-- What a rule does to an entity. -/
def edit : Rule → Address → Heap Unit
  | .armorItems => fillSlots "ArmorItems" "equipment" (return Rule.armorSlots.zip ·) newItem []
  | .handItems => fillSlots "HandItems" "equipment" handPairs newItem []
  | .armorChances => editChances "ArmorDropChances" Rule.armorSlots
  | .handChances => editChances "HandDropChances" Rule.handSlots
  | .customName => editName
  | .inventory => editInventory
  | .selectedItem => editSelected

end CommandUpgrade.Heap
