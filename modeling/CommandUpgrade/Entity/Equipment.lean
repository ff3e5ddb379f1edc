import CommandUpgrade.Entity.Rule
import CommandUpgrade.Item.Worn

/-!
# Equipment and drop chances in text form

Where an entity cannot be read as a tag, its worn and held items and their drop chances are renewed
on the text.
-/

namespace CommandUpgrade.Equipment

open Text

/-- The start of a named list, its content and the position of its closing bracket. -/
structure Found where
  start : Nat
  content : Text
  stop : Nat

/-- The first list under a name that ends in a bracket, if it is closed. -/
def list? (name : String) (s : Text) : Option Found := do
  let start ← find? name.toList s
  let i := start + name.length - 1
  let stop ← closingFrom? '[' ']' s i
  some ⟨start, slice (i + 1) stop s, stop⟩

/-- Whether the text of an item says nothing. -/
def isEmpty (item : Text) : Bool := (trim item).isEmpty || trim item = "\x7b\x7d"

/-- The new items by slot. -/
def upgradeItems (items : List (Text × Text)) : Outcome (List (Text × Text)) := do
  let items ← (items.filter fun (_, item) => !isEmpty item).mapM fun (slot, item) =>
    return (← Worn.upgrade item).map (slot, ·)
  return items.filterMap (·)

/-- The held items by slot. A second item alone goes into the main hand. -/
def handItems (items : List Text) : List (Text × Text) :=
  match items with
  | first :: second :: _ =>
    if isEmpty first then [("mainhand".toList, second)] else Rule.handSlots.zip items
  | _ => Rule.handSlots.zip items

/-- The text behind a list: gaps are left out, and so is one comma. -/
def behindList (s : Text) : Text :=
  match s.dropWhile (fun c => c == ' ' || c == '\n' || c == '\t') with
  | ',' :: r => r
  | r => r

/-- The text without the worn items, which end at the first closing bracket. -/
def dropArmor (s : Text) : Text :=
  match find? "ArmorItems:[" s with
  | none => s
  | some start =>
    match findFrom? "]" (start + 12) s with
    | none => s
    | some stop => s.take start ++ behindList (s.drop (stop + 1))

/-- The text without the held items. -/
def dropHands (s : Text) : Text :=
  match list? "HandItems:[" s with
  | none => s
  | some found => s.take found.start ++ behindList (s.drop (found.stop + 1))

/-- Puts a field in front of the others. -/
def prepend (field s : Text) : Text :=
  match s with
  | '{' :: r => '{' :: field ++ (if (trim r).isEmpty then [] else [',']) ++ r
  | _ => field ++ ',' :: s

/-- The worn and held items as equipment. -/
def upgrade (s : Text) : Outcome Text := do
  let armor := list? "ArmorItems:[" s
  let worn ← upgradeItems (Rule.armorSlots.zip (armor.elim [] fun found => parts ',' found.content))
  let hands := list? "HandItems:[" s
  let held ← upgradeItems (hands.elim [] fun found => handItems (parts ',' found.content))
  let equipment := worn ++ held
  if equipment.isEmpty then return s
  let field : Text := "equipment:\x7b" ++ join [','] (equipment.map fun (slot, item) =>
    slot ++ ":\x7b" ++ item ++ "\x7d") ++ "\x7d"
  let rest := dropArmor s
  return prepend field (if has "HandItems:[" s then dropHands rest else rest)

/-! ## Drop chances -/

/-- A list of drop chances under a name. -/
def chances (name : String) : Pattern :=
  .lit name.toList ++ (":[" : String) ++ .group (.many 1 (Pattern.no [']'])) ++ ("]" : String)

/-- The chances of a list, with three places. -/
def readChances (s : Text) : Outcome (List Text) := do
  let items := (split ',' s).map trim |>.filter (!·.isEmpty)
  items.mapM fun item =>
    return (← Binary64.read (stripEnd (fun c => c == 'F' || c == 'f') item)).toFixed 3

/-- The text without the first match. -/
def dropFirst (p : Pattern) (s : Text) : Text := p.replaceFirst (fun _ => []) s

/-- The drop chances of all slots in one field. -/
def upgradeChances (s : Text) : Outcome Text := do
  let armor := chances "ArmorDropChances"
  let hand := chances "HandDropChances"
  let worn := armor.search? s
  let held := hand.search? s
  if worn.isNone && held.isNone then return s
  let wornChances ← worn.elim (pure []) fun m => readChances (m.group 1)
  let heldChances ← held.elim (pure []) fun m => readChances (m.group 1)
  let slots (slots chances : List Text) : List Text :=
    (slots.zipIdx).map fun (slot, i) => slot ++ ':' :: chances.getD i "0.000"
  let field : Text := "drop_chances:\x7b" ++
    join [','] (slots Rule.armorSlots wornChances ++ slots Rule.handSlots heldChances) ++ "\x7d"
  let rest := dropFirst armor s
  return prepend field (if held.isSome then dropFirst hand rest else rest)

end CommandUpgrade.Equipment
