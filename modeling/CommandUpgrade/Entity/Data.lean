import CommandUpgrade.Entity.DisplayQuotes
import CommandUpgrade.Entity.Effects
import CommandUpgrade.Entity.Equipment
import CommandUpgrade.Entity.FallingBlock
import CommandUpgrade.Entity.Registry
import CommandUpgrade.Item.Carried
import CommandUpgrade.Style.Data
import CommandUpgrade.Tag.Reader
import CommandUpgrade.Tag.Writer
import CommandUpgrade.Text.Enclosure

/-!
# Entity data

The data of an entity is read as a tag, its fields are renewed by the rules, and the written tag has
its effects, falling blocks and displays renewed on the text. Data that is no compound or list takes
the second way, on the text alone.
-/

namespace CommandUpgrade.Entity

open Text Style

/-- Renames misspelt and renamed fields. -/
def renameFields (s : Text) : Text :=
  replace "Fuse:" "fuse:" (replace "MaxHeatlh:" "MaxHealth:" s)

/-! ## By tags -/

/-- Whether the tag can be converted by the rules: a compound, or a list that does not name a carried
item. -/
def isConvertible : Tag → Bool
  | .compound _ => true
  | .list items => !items.any fun tag => tag.isText "Inventory" || tag.isText "SelectedItem"
  | _ => false

/-- The written form of a converted tag, renewed on the text. -/
def finish (tables : Tables) (tag : Tag) : Text :=
  DisplayQuotes.fix (FallingBlock.upgrade tables (Effects.upgrade (renameFields tag.write)))

/-! ## By text -/

/-- The numbers of enchantments replaced by names. -/
def nameEnchantments (s : Text) : Text :=
  if has "ench:" s then
    let s := (Pattern.wordEdge ++ ("ench:" : String) : Pattern).replace
      (fun _ => "Enchantments:") s
    let rest : Pattern := .many 0 (Pattern.no ['{', '}'])
    let number : Pattern := ("id:" : String) ++ .group .digits
    let entry : Pattern :=
      ("\x7b" : String) ++ .group (rest ++ ("id:" : String) ++ .digits ++ rest) ++ ("\x7d" : String)
    let name (digits : Text) : Text :=
      ((List.range 72).findSome? fun i =>
        if ofNat i = digits then (Item.enchantment? i).map String.toList else none).getD "protection"
    entry.replace (fun m => '{' :: number.replace (fun m =>
      "id:\"" ++ name (m.group 1) ++ "\"") (m.group 1) ++ ['}']) s
  else s

/-- The identity of a skull, quoted or followed by the next field. -/
def skullId : Pattern :=
  let skull : Pattern := .opt ("minecraft:" : String) ++ ("skull" : String)
  ("id:" : String) ++
    .alt (("\"" : String) ++ skull ++ ("\"" : String)) (skull ++ .before [',', '}'])

/-- A damage value with its kind. -/
def damageField : Pattern :=
  ("Damage:" : String) ++ .opt ("-" : String) ++ .digits ++ .opt (.one (Pattern.of Pattern.kinds))

/-- An item without its damage, once with a comma in front, once with one behind, and once alone. -/
def dropDamage (item : Text) : Text :=
  let none (_ : Match) : Text := []
  let item := (("," : String) ++ .blanks ++ damageField : Pattern).replaceFirst none item
  let item := (damageField ++ ("," : String) ++ .blanks : Pattern).replaceFirst none item
  damageField.replaceFirst none item

/-- The item with the name of its head in place of a skull, if its damage tells the head. -/
def nameSkull (item : Text) : Outcome (Option Text) := do
  let some m := (("Damage:" : String) ++ .group .digits : Pattern).search? item | return none
  let some head := Item.skull? (← Number.readInt (m.group 1)) | return none
  let new := dropDamage (skullId.replaceFirst (fun _ => "id:\"" ++ head ++ "\"") item)
  return if new = item then none else some new

/-- The positions at which a pattern matches. -/
def starts (p : Pattern) (s : Text) : List Nat :=
  (p.findAll s).map fun m => s.length - m.rest.length - m.whole.length

/-- Each skull of a text replaced by the head that its damage tells. -/
def nameSkulls (s : Text) : Outcome Text := do
  if !(has "skull" s && has "Damage:" s) then return s
  let (done, last) ← (starts skullId s).foldlM (fun (done, last) i => do
    let some (start, stop) ← enclosing s i | return (done, last)
    let some new ← nameSkull (slice start stop s) | return (done, last)
    return (done ++ slice last start s ++ new, stop)) (([] : Text), 0)
  return done ++ s.drop last

/-- Puts item names into the namespace. -/
def namespaceItems (s : Text) : Text :=
  let quoted : Pattern :=
    Pattern.wordEdge ++ ("id:\"" : String) ++ .group (.many 1 (Pattern.no ['"'])) ++ ("\"" : String)
  let isLetter (c : Char) : Bool := c.isLower || c == '_'
  let bare : Pattern :=
    Pattern.wordEdge ++ ("id:" : String) ++
      .group (.one isLetter ++ .many 0 fun c => isLetter c || c.isDigit) ++ .before [',', '}']
  let s := quoted.replace (fun m =>
    if (m.group 1).contains ':' then m.whole else "id:\"minecraft:" ++ m.group 1 ++ "\"") s
  bare.replace (fun m => "id:\"minecraft:" ++ m.group 1 ++ "\"") s

/-- The tag of a text converted by the rules and written, or else its equipment and drop chances
renewed on the text. -/
def convertEquipment (s : Text) : Outcome Text :=
  match Registry.standard.convert (Tag.read s) with
  | .ok tag => .ok tag.write
  | .error _ => do Equipment.upgradeChances (← Equipment.upgrade s)

/-- The data of an entity renewed on its text. -/
def upgradeText (tables : Tables) (restyle : Bool) (s : Text) : Outcome Text := do
  let s ← nameSkulls (nameEnchantments (Effects.upgrade (renameFields s)))
  let s ← convertEquipment (FallingBlock.upgrade tables (namespaceItems s))
  let s := if has "Inventory:" s || has "inventory:" s then Carried.upgradeAll s else s
  if isStyled s && restyle then Style.upgradeData .entity s else return s

/-! ## Data -/

/-- The new form of the data of an entity. `restyle` says whether styled texts are renewed where the
data is renewed on its text. -/
def upgradeData (tables : Tables) (restyle : Bool) (data : Text) : Outcome Text :=
  let tag := Tag.read data
  if isConvertible tag then
    match Registry.standard.convert tag with
    | .ok tag => .ok (finish tables tag)
    | .error _ => upgradeText tables restyle data
  else upgradeText tables restyle data

end CommandUpgrade.Entity
