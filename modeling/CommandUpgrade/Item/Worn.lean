import CommandUpgrade.Item.Carried
import CommandUpgrade.Item.Components
import CommandUpgrade.Json.Reader
import CommandUpgrade.Table.Name

/-!
# Worn items in text form

The text of an old worn or held item gives the fields of the new one: name, count, and components
for colour, name, lore and skull owner.
-/

namespace CommandUpgrade.Worn

open Text Style

/-- The identity of an item, quoted or not. -/
def id : Pattern :=
  ("id:" : String) ++ .opt ("\"" : String) ++
    .group (.many 1 fun c => c != '"' && c != ',' && !isBlank c) ++ .opt ("\"" : String)

/-- A number under a name. -/
def numberOf (name : String) : Pattern := .lit name.toList ++ .group .digits

/-- The colour of a display. -/
def color : Pattern :=
  let rest : Pattern := .many 0 (Pattern.no ['}'])
  ("display:\x7b" : String) ++ rest ++ ("color:" : String) ++ .group .digits ++ rest ++ ("\x7d" : String)

/-- The texture of a skull owner. -/
def texture : Pattern :=
  ("Properties:\x7btextures:[\x7bValue:\"" : String) ++ .group (.many 1 (Pattern.no ['"'])) ++
    ("\"\x7d]\x7d" : String)

/-- The text inside the braces that follow the name, and whether they are closed. -/
inductive Inside
  | missing
  | unclosed
  | found (s : Text)

/-- What stands in the braces behind a name that ends in a brace. -/
def inside (name : String) (s : Text) : Inside :=
  match cut? name.toList s with
  | none => .missing
  | some (_, rest) =>
    match closing? '{' '}' none ('{' :: rest) with
    | none => .unclosed
    | some stop => .found (rest.take (stop - 1))

/-- The identity of an item: a skull takes the name of its head. -/
def itemName (id : Text) (damage : Option Text) : Outcome Text := do
  let id ←
    match damage with
    | some damage =>
      if id = "skull" ∨ id = "minecraft:skull" then
        pure ((Item.skull? (← Number.readInt damage)).getD id)
      else pure id
    | none => pure id
  return withNamespace id

/-- The plain text of a name, which may be a JSON text with a member `text`. -/
def plainName (name : Text) : Outcome Text := do
  let name := replace "\\'" "'" (replace "\\\"" "\"" name)
  if startsWith name "\x7b" then
    match (Json.read? name).bind Tag.entries? with
    | some entries =>
      match Entries.get? "text" entries with
      | some (.text s) => return plain s
      | some _ => throw .wrongKind
      | none => return plain name
    | none => return plain name
  return plain name

/-- The lines of a lore as JSON lists of components. -/
def loreLines (s : Text) : Outcome (List Text) := (parts ',' s).mapM fun line => loreJson (unquote line)

/-- The lore of a display, if its list is closed and has a line. -/
def lore (display : Text) : Outcome (Option Text) := do
  let some (_, rest) := cut? "Lore:[" display | return none
  let some stop := closing? '[' ']' none ('[' :: rest) | return none
  let lines ← loreLines (rest.take (stop - 1))
  return if lines.isEmpty then none else some ('[' :: join [','] lines ++ [']'])

/-- The components of a display: name and lore. -/
def displayComponents (tag : Text) : Outcome (List (String × Text)) := do
  match inside "display:\x7b" tag with
  | .missing => return []
  | .unclosed => throw (.unset "display_content")
  | .found display =>
    let name ← (Carried.name.search? display).mapM fun m => do
      return ("item_name", (Tag.text (← plainName (m.group 1))).toJson)
    let lore ← lore display
    return name.toList ++ (lore.map ("lore", ·)).toList

/-- The profile of a skull owner. -/
def profile (tag : Text) : List (String × Text) :=
  match inside "SkullOwner:\x7b" tag with
  | .found owner =>
    match texture.search? owner with
    | some m =>
      let value : Tag := .compound [("properties".toList, .list [.compound
        [("name".toList, .lit "textures"), ("value".toList, .text (m.group 1))]])]
      [("profile", value.toJson)]
    | none => []
  | _ => []

/-- The components of a tag. -/
def components (item : Text) : Outcome (List (String × Text)) := do
  match inside "tag:\x7b" item with
  | .found tag =>
    let color := (color.search? tag).map fun m => ("dyed_color", m.group 1)
    return color.toList ++ (← displayComponents tag) ++ profile tag
  | _ => return []

/-- The fields of the new item, none if the old one has no identity. -/
def upgrade (item : Text) : Outcome (Option Text) := do
  let some id := id.search? item | return none
  let name ← itemName (id.group 1) (((numberOf "Damage:").search? item).map (·.group 1))
  let count ←
    match (numberOf "Count:").search? item with
    | some m => Number.readInt (m.group 1)
    | none => pure 1
  let components ← components item
  let fields : List Text := ["id:\"" ++ name ++ "\"", "count:" ++ ofInt count] ++
    if components.isEmpty then []
    else ["components:\x7b" ++ join [','] (components.map fun (name, value) =>
      "\"minecraft:" ++ name.toList ++ "\":" ++ value) ++ "\x7d"]
  return some (join [','] fields)

end CommandUpgrade.Worn
