import CommandUpgrade.Tag.Basic

/-!
# Conversion tables

The tables that give the new name of an entity, a block, a sound or a particle. A table keeps its
rows in the order in which their names came first; a later row of the same name replaces the value.
-/

namespace CommandUpgrade

/-- New names by key. -/
abbrev Lookup (κ : Type) := List (κ × Text)

namespace Lookup

variable {κ : Type} [DecidableEq κ]

/-- The value of a key. -/
def get? (key : κ) (table : Lookup κ) : Option Text := table.lookup key

/-- Gives a key a value: in its place if it has one, or else at the end. -/
def set (key : κ) (value : Text) : Lookup κ → Lookup κ
  | [] => [(key, value)]
  | (k, v) :: rest => if k = key then (k, value) :: rest else (k, v) :: set key value rest

end Lookup

/-- The tables of a conversion. -/
structure Tables where
  entities : Lookup Text
  /-- Block names by old name and data value. -/
  blocks : Lookup (Text × Int)
  sounds : Lookup Text
  particles : Lookup Text
  /-- Block states by number and data value, as `id:data`. -/
  states : Tag
  /-- Block numbers by old name. -/
  numbers : Lookup Text

end CommandUpgrade
