import CommandUpgrade.Item.Components
import CommandUpgrade.Memory.Basic

/-!
# Items in memory

An item is renewed object by object: the new item and its components are filled in place, and
what does not change is shared with the old item.
-/

namespace CommandUpgrade.Heap

open Text Style

/-- Puts the new form of a field, if the field is there, under a name of a new object. -/
def putField (new owner : Address) (field name : Text) (renew : Tag → Heap Value) : Heap Unit := do
  let some value ← find owner field | return
  put new name (← renew (← view value))

/-! ## Identity -/

/-- A skull takes the name of its head. -/
def putHead (new : Address) (name damage : Value) : Heap Unit := do
  let tag ← view name
  if tag.isText "skull" || tag.isText "minecraft:skull" then
    if let some head := Item.skull? (← (← view damage).toInt) then put new "id" (.text head)

/-- Names the new item. A name with a namespace is shared. -/
def putIdentity (new item : Address) : Heap Unit := do
  let some id ← find item "id" | return
  let tag ← view id
  let name := if ← tag.mentions [':'] then id else .text (namespaced tag.asName)
  put new "id" name
  match ← find item "Damage" with
  | none | some .null => return
  | some damage => putHead new name damage

def putCount (new item : Address) : Heap Unit :=
  putField new item "Count" "count" fun count => return .int (← count.toInt)

/-! ## Components -/

def putDamage (components owner : Address) : Heap Unit :=
  putField components owner "Damage" (namespaced "damage") fun damage =>
    return .int (← Item.damageValue damage)

/-- Whether a value is there and holds anything. -/
def isFilled (value? : Option Value) : Heap Bool := do
  let some value := value? | return false
  return (← view value).isFilled

/-- The display of an item: beside its tag, or else in it. -/
def display (item : Address) : Heap (Option Value) := do
  let beside ← find item "display"
  if ← isFilled beside then return beside
  match ← find item "tag" with
  | none => return none
  | some tag =>
    match ← compound? tag with
    | some tag => find tag "display"
    | none => return beside

def storeComponent (component : Entries) : Heap Address := do
  alloc (.compound (← storeEntries component))

/-- Makes the component at an address upright, unless it says whether it is italic. -/
def settle (component : Address) : Heap Unit := do
  if (← find component "italic").isNone then put component "italic" (.bool false)

/-- The components of a lore line, in a list. -/
def loreLine (line : Value) : Heap Value := do
  match line with
  | .text line =>
    if isStyled line then
      let parts ← (← lineComponents line).mapM storeComponent
      if !(Text.has "§o" line || Text.has "§O" line) then parts.forM settle
      return .ref (← alloc (.list (parts.map .ref)))
    else if (trim line).isEmpty then store (.list [.compound (plainComponent [])])
    else store (.list [.compound (plainComponent line)])
  | _ => store (.compound (plainComponent []))

def putColor (components display : Address) : Heap Unit :=
  putField components display "color" (namespaced "dyed_color") fun color => return .int (← color.toInt)

def putName (components display : Address) : Heap Unit :=
  putField components display "Name" (namespaced "custom_name") fun name => do
    store (← Item.displayName name)

def putLore (components display : Address) : Heap Unit := do
  let some lines ← findList display "Lore" | return
  let new ← lines.mapM loreLine
  if !new.isEmpty then put components (namespaced "lore") (.ref (← alloc (.list new)))

def putEnchantments (components tag : Address) : Heap Unit := do
  let some tags ← findList tag "ench" | return
  let new ← Item.enchantments (← tags.mapM view)
  if !new.isEmpty then put components (namespaced "enchantments") (← store (.list new))

/-- What a texture is, if it is filled. -/
def textureValue? (texture : Value) : Heap (Option Value) := do
  let some texture ← compound? texture | return none
  let value ← find texture "Value"
  return if ← isFilled value then value else none

/-- The texture of a skull owner. -/
def texture? (owner : Address) : Heap (Option Value) := do
  let some properties ← findCompound owner "Properties" | return none
  let some (first :: _) ← findList properties "textures" | return none
  textureValue? first

/-- The profile that shares a texture. -/
def profile (texture : Value) : Heap Value := do
  let entry ← alloc (.compound [("name".toList, .text "textures"), ("value".toList, texture)])
  let entries ← alloc (.list [.ref entry])
  return .ref (← alloc (.compound [("properties".toList, .ref entries)]))

/-- Puts the profile of the skull owner. -/
def putProfile (components tag : Address) : Heap Unit := do
  let some owner ← findCompound tag "SkullOwner" | return
  let some texture ← texture? owner | return
  put components (namespaced "profile") (← profile texture)

/-! ## Items -/

/-- Puts the components of the display of an item. -/
def putDisplay (components item : Address) : Heap Unit := do
  let some shown ← display item | return
  let some shown ← compound? shown | return
  putColor components shown
  putName components shown
  putLore components shown

/-- Puts the components of the tag of an item. -/
def putTag (components item : Address) : Heap Unit := do
  let some tag ← findCompound item "tag" | return
  putEnchantments components tag
  putProfile components tag
  putDamage components tag

/-- Puts all components of an item. -/
def putComponents (components item : Address) : Heap Unit := do
  putDamage components item
  putDisplay components item
  putTag components item

/-- The new form of the item at an address, none if nothing of it is left. -/
def upgrade (item : Address) : Heap (Option Address) := do
  let new ← alloc (.compound [])
  putIdentity new item
  putCount new item
  let components ← alloc (.compound [])
  putComponents components item
  if !(← fields components).isEmpty then put new "components" (.ref components)
  return if (← fields new).isEmpty then none else some new

end CommandUpgrade.Heap
