import CommandUpgrade.Style.Component
import CommandUpgrade.Text.Nesting
import CommandUpgrade.Text.Pattern
import CommandUpgrade.Text.Settle

/-!
# Carried items in text form

An item of an inventory has its display moved into components, here on the text of the item. An
item whose display cannot be converted stays as it is.
-/

namespace CommandUpgrade.Carried

open Text Style

/-- A display without inner compounds. -/
def display : Pattern :=
  ("display:\x7b" : String) ++ .group (.many 0 (Pattern.no ['}'])) ++ ("\x7d" : String)

/-- A tag that has a display. -/
def tag : Pattern :=
  let rest : Pattern := .many 0 (Pattern.no ['}'])
  ("tag:\x7b" : String) ++ .group (rest ++ ("display:\x7b" : String) ++ rest ++ ("\x7d" : String) ++ rest) ++
    ("\x7d" : String)

/-- A name in quotes of either kind. -/
def name : Pattern :=
  ("Name:" : String) ++ .one isQuote ++ .group (.many 0 (!isQuote ·)) ++ .one isQuote

/-- A lore up to the first closing bracket. -/
def lore : Pattern := ("Lore:[" : String) ++ .group (.few fun _ => true) ++ ("]" : String)

/-- The tag of a lore line: one component, or the list of several. -/
def line (s : Text) : Outcome Tag := do
  let s := unquote s
  if isStyled s then
    match ← lineComponents s with
    | [component] => return .compound component
    | components => return .list (components.map .compound)
  return .compound (plainComponent (if (trim s).isEmpty then [] else s))

/-- The components of a display. -/
def components (display : Text) : Outcome (List (Text × Tag)) := do
  let name ← (name.search? display).mapM fun m => do
    let value := m.group 1
    return (("minecraft:item_name".toList : Text),
      ← if isStyled value then nameTag value else pure (.text value))
  let lore ← (lore.search? display).mapM fun m => do
    let lines := solid (splitOutside ',' (fun _ => false) (fun _ => false) (m.group 1))
    return (("minecraft:lore".toList : Text), Tag.list (← lines.mapM line))
  return name.toList ++ (lore.filter fun (_, tag) => tag.items?.any (!·.isEmpty)).toList

/-- How many characters a text has up to the brace that closes one more than it opens, or to its
end. Quotes do not count. -/
def tagLength (s : Text) : Nat := go 1 s
where
  /-- `depth` braces are open. -/
  go (depth : Nat) : Text → Nat
    | [] => 0
    | c :: r =>
      if c == '{' then go (depth + 1) r + 1
      else if c == '}' then if depth = 1 then 1 else go (depth - 1) r + 1
      else go depth r + 1

/-- The item with the components in place of its display. -/
def place (item display : Text) (components : List (Text × Tag)) : Text :=
  match cut? "tag:\x7b" item with
  | none => item
  | some (front, rest) =>
    let rest := '{' :: rest
    let length := tagLength rest - 1
    let other := trim (stripBoth (· == ',') (replace display [] (rest.take length)))
    let new : Text := "components:\x7b" ++ join [','] (components.map fun (name, tag) =>
      "\"" ++ name ++ "\":" ++ tag.toJson) ++ "\x7d"
    front ++ (if other.isEmpty then new else "tag:\x7b" ++ other ++ "\x7d," ++ new) ++
      rest.drop length

/-- The item with the display of its tag in components. -/
def upgradeOutcome (item : Text) : Outcome Text := do
  let some m := tag.search? item | return item
  let some m := display.search? (m.group 1) | return item
  let components ← components (m.group 1)
  return if components.isEmpty then item else place item m.whole components

/-- The new form of an item. -/
def upgrade (item : Text) : Text :=
  if has "display:\x7b" item then
    match upgradeOutcome item with
    | .ok new => new
    | .error _ => item
  else item

/-! ## Inventories -/

/-- Stands for the name of an inventory that is done. -/
def mark : Text := "___PROCESSED_INVENTORY___"

/-- The text before and behind the name of the first inventory. -/
def cutInventory? (s : Text) : Option (Text × Text × Text) :=
  match cut? "Inventory:" s with
  | some (front, rest) => some (front, "Inventory:".toList, rest)
  | none => (cut? "inventory:" s).map fun (front, rest) => (front, "inventory:".toList, rest)

/-- The end of the list at the head of a text; a list that is not closed counts as empty. -/
def listEnd (s : Text) : Nat := (closing? '[' ']' none s).getD 1

/-- Renews the items of the first inventory. An inventory in which nothing changes is marked. -/
def upgradeFirst? (s : Text) : Option Text :=
  (cutInventory? s).map fun (front, name, rest) =>
    match rest with
    | '[' :: _ =>
      let stop := listEnd rest
      let items := join [','] ((parts ',' (slice 1 stop rest)).map upgrade)
      let new := '[' :: items ++ rest.drop stop
      if new = rest then front ++ mark ++ rest else front ++ name ++ new
    | _ => front ++ mark ++ rest

/-- Renews the inventories of a text, in a hundred steps at most. -/
def upgradeAll (s : Text) : Text := replace mark "Inventory:" (settle upgradeFirst? 100 s)

end CommandUpgrade.Carried
