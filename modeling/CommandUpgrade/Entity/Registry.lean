import CommandUpgrade.Memory.Rule

/-!
# Registries

A registry holds rules under names, in the order in which the names came first. Converting an
entity applies each rule in turn; a rule that ends in a fault leaves what it did so far, and the
next rule goes on from there. In memory the rules change a copy of the entity, which shares all that
is inside the entity.
-/

namespace CommandUpgrade

open Text

/-- Rules by name, in order. -/
abbrev Registry := List (Text × Rule)

namespace Registry

/-- Puts a rule under a name: in the place of the rule already there, or else at the end. -/
def register (name : Text) (rule : Rule) : Registry → Registry
  | [] => [(name, rule)]
  | (n, r) :: rest => if n = name then (n, rule) :: rest else (n, r) :: register name rule rest

def names (registry : Registry) : List Text := registry.map (·.1)

/-- The rules of all converted fields. -/
def standard : Registry :=
  [Rule.armorItems, .handItems, .armorChances, .handChances, .customName, .inventory,
    .selectedItem].map fun rule => (rule.field, rule)

/-- Whether the rule under a name is applied: always under the names of fields that are looked for
by their rules, or else if the entity has the name. -/
def applies (name : Text) (entries : Entries) : Bool :=
  name = "CustomName".toList || name = "Inventory".toList || name = "SelectedItem".toList ||
    Entries.has name entries

/-- The entries after all rules. -/
def run (registry : Registry) (entries : Entries) : Entries :=
  registry.foldl (fun entries (name, rule) =>
    if applies name entries then (rule.edit.run entries).1 else entries) entries

/-- The new form of an entity. A list has no fields and stays; other tags cannot be converted. -/
def convert (registry : Registry) : Tag → Outcome Tag
  | .compound entries => .ok (.compound (registry.run entries))
  | .list items => .ok (.list items)
  | .text _ => .error (.noMember "str" "copy")
  | .int _ => .error (.noMember "int" "copy")
  | .float _ => .error (.noMember "float" "copy")
  | .bool _ => .error (.noMember "bool" "copy")
  | .null => .error (.noMember "NoneType" "copy")

end Registry

namespace Heap

/-- Applies a rule to an entity in place, if the rule under its name is applied. A fault ends the
rule only. -/
def applyRule (entity : Address) (name : Text) (rule : Rule) : Heap Unit := do
  if name = "CustomName".toList || name = "Inventory".toList || name = "SelectedItem".toList ||
      (← find entity name).isSome then
    tryCatch (edit rule entity) fun _ => pure ()

/-- The new form of an entity: a copy, changed by all rules in turn. -/
def convert (registry : Registry) (entity : Address) : Heap Address := do
  let new ← alloc (.compound (← fields entity))
  registry.forM fun (name, rule) => applyRule new name rule
  return new

/-- A tag in memory after it was converted. -/
def inputAfter (registry : Registry) (tag : Tag) : Heap Tag := do
  let value ← store tag
  if let some entity ← compound? value then discard (convert registry entity)
  view value

end Heap

/-- The input after a conversion, which may have changed objects that the result shares. -/
def Registry.shared (registry : Registry) (tag : Tag) : Tag :=
  match StateT.run (ExceptT.run (Heap.inputAfter registry tag)) [] with
  | (.ok new, _) => new
  | (.error _, _) => .null

end CommandUpgrade
