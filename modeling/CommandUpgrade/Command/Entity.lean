import CommandUpgrade.Command.Argument

/-!
# Commands on entities

Summoning, testing, tagging, killing, moving and scoring entities.
-/

namespace CommandUpgrade.Command

open Text

/-! ## Summoning and data -/

/-- An entity, where it appears, and its data. -/
def summon (tables : Tables) (args : List Text) : Outcome Text := do
  match args with
  | [] => return "summon"
  | entity :: x :: y :: z :: rest =>
    let data ← (rest.head?).mapM (entityData tables)
    return line "summon"
      ([tables.entityName entity] ++ Coordinate.upgradeAll [x, y, z] ++ data.toList)
  | entity :: _ => return line "summon" [tables.entityName entity]

/-- Whether a selector in its new form selects one entity. -/
def isSingle (selector : Text) : Bool :=
  selector = "@p".toList || selector = "@r".toList || selector = "@s".toList ||
    (!startsWith selector "@" && !selector.contains '[')

/-- Data merged into one entity, or into each of several. -/
def entitydata (tables : Tables) (args : List Text) : Outcome Text := do
  match args with
  | target :: data :: _ =>
    let target ← selector tables target
    let data ← entityData tables data
    if isSingle target then return line "data merge entity" [target, data]
    return line "execute as" [target, "run data merge entity @s", data]
  | _ => return "execute as"

/-! ## Testing -/

/-- An inventory of which an item is asked for. -/
def inventoryItem : Pattern :=
  .anyCase "Inventory:" ++ .blanks ++ ("[" : String) ++
    .group (("\x7b" : String) ++ .many 1 (Pattern.no [']']) ++ ("\x7d" : String)) ++ ("]" : String)

/-- Data that asks for the first item of an inventory asks for the held item. The item is read as a
replacement text, so its backslashes have a meaning. -/
def askHeld (data : Text) : Outcome Text := do
  if !(has "Inventory:" data || has "inventory:" data) then return data
  match inventoryItem.search? data with
  | none => return data
  | some m =>
    let new := "SelectedItem:" ++ m.group 1
    inventoryItem.replaceBy 1 new (← inventoryItem.replaceBy 1 new data)

/-- A test for entities, with data as a part of the selector. -/
def testfor (tables : Tables) (args : List Text) : Outcome Text := do
  match args with
  | [] => return "execute if entity @s"
  | [target] => return line "execute if entity" [← selector tables target]
  | target :: data :: _ =>
    let target ← selector tables target
    let data ← entityData tables (← askHeld data)
    return line "execute if entity" [withData target data]

/-! ## Tags and scores -/

/-- A tag, with data as a part of the selector. The action may be left out. -/
def tag (tables : Tables) (args : List Text) : Outcome Text := do
  match args with
  | target :: action :: rest =>
    let target ← selector tables target
    let asked (rest : List Text) : Text :=
      match rest with
      | data :: _ => if startsWith data "\x7b" then withDataAtEnd target data else target
      | [] => target
    if action = "list" then return line "tag" [target, action]
    if action = "add" ∨ action = "remove" then
      match rest with
      | name :: rest => return line "tag" [asked rest, action, name]
      | [] => return line "tag" [target, action]
    return line "tag" [asked rest, "add", action]
  | _ => return "tag"

/-- The scores and tags of players. -/
def scoreboardPlayers (tables : Tables) (args : List Text) : Outcome Text := do
  match args with
  | action :: target :: third :: rest =>
    let target ← selector tables target
    if action = "tag" then
      match rest with
      | [] => return line "tag" [target, "list"]
      | [name] => return line "tag" [target, third, name]
      | name :: data :: _ =>
        return line "tag" [withData target (← entityData tables data), third, name]
    else if action = "test" then
      match rest with
      | [] => return line "scoreboard players test" [target, third]
      | [low] => return line "execute if score" [target, third, "matches", low ++ ['.', '.']]
      | low :: high :: _ =>
        return line "execute if score" [target, third, "matches", low ++ ['.', '.'] ++ high]
    else if action = "add" ∨ action = "remove" ∨ action = "set" then
      return line "scoreboard players" ([action, target, third] ++ rest.take 1)
    else return line "scoreboard players" [action, target, third]
  | _ => return "scoreboard players"

/-- Scores; all but those of players stay. -/
def scoreboard (tables : Tables) (args : List Text) : Outcome Text := do
  match args with
  | first :: second :: rest =>
    if first = "players" then scoreboardPlayers tables (second :: rest)
    else return line "scoreboard" args
  | _ => return "scoreboard"

/-! ## Effects and movement -/

/-- An effect, which a duration of zero takes away. -/
def effect (tables : Tables) (args : List Text) : Outcome Text := do
  match args with
  | target :: effect :: rest =>
    let target ← selector tables target
    let effect := withNamespace effect
    if rest.head? = some ['0'] then return line "effect clear" [target, effect]
    return line "effect give" ([target, effect] ++ rest.take 2)
  | _ => return "effect"

/-- A move to a place, with a rotation if both angles are given, or to an entity. -/
def tp (tables : Tables) (args : List Text) : Outcome Text := do
  match args with
  | [] => return "tp"
  | [target] => return line "tp" [← selector tables target]
  | target :: x :: y :: z :: rest =>
    let target ← selector tables target
    return line "tp" ([target] ++ Coordinate.upgradeAll [x, y, z] ++
      if 2 ≤ rest.length then rest.take 2 else [])
  | target :: goal :: _ =>
    let target ← selector tables target
    return line "tp" [target, ← selector tables goal]

def kill (tables : Tables) (args : List Text) : Outcome Text := do
  match args with
  | [] => return "kill"
  | target :: _ => return line "kill" [← selector tables target]

end CommandUpgrade.Command
