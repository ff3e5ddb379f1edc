import CommandUpgrade.Coordinate
import CommandUpgrade.Entity.Data
import CommandUpgrade.Selector

/-!
# Arguments

What the commands share: selectors and entity data in their new form, and data moved into a
selector.
-/

namespace CommandUpgrade.Command

open Text

/-- The new form of the data of an entity. -/
def entityData (tables : Tables) (s : Text) : Outcome Text := Entity.upgradeData tables true s

/-- The new form of a selector. -/
def selector (tables : Tables) (s : Text) : Outcome Text :=
  Selector.upgrade tables (entityData tables) s

/-- A selector in its new form; other arguments stay. -/
def selectorOrWord (tables : Tables) (s : Text) : Outcome Text :=
  if startsWith s "@" then selector tables s else .ok s

/-- A selector that also asks for data. -/
def withData (selector data : Text) : Text :=
  match selector.contains '[', findLast? "]" selector with
  | true, some i => selector.take i ++ ",nbt=" ++ data ++ "]"
  | _, _ => selector ++ "[nbt=" ++ data ++ "]"

/-- A selector that also asks for data, if it ends in a bracket; its own bracket stays otherwise. -/
def withDataAtEnd (selector data : Text) : Text :=
  if selector.contains '[' && endsWith selector "]" then
    dropLast 1 selector ++ ",nbt=" ++ data ++ "]"
  else selector ++ "[nbt=" ++ data ++ "]"

/-- The words of a command, `name` first. -/
def line (name : String) (args : List Text) : Text := words (name.toList :: args)

end CommandUpgrade.Command
