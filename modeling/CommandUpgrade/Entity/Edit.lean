import CommandUpgrade.Tag.Basic

/-!
# Edits

An edit changes the entries of an entity step by step. A fault ends it, and the changes made before
the fault stay.
-/

namespace CommandUpgrade

/-- A change of entries that may end early. -/
abbrev Edit := ExceptT Fault (StateM Entries)

namespace Edit

/-- The tag under a name. -/
def find (name : Text) : Edit (Option Tag) := return Entries.get? name (← get)

def put (name : Text) (tag : Tag) : Edit Unit := modify (Entries.set name tag)

def erase (name : Text) : Edit Unit := modify (Entries.erase name)

/-- Makes sure that a name has a tag, an empty compound if it has none. -/
def ensure (name : Text) : Edit Unit := do
  if (← find name).isNone then put name (.compound [])

/-- Puts a tag under a name of the compound `owner`. -/
def putIn (owner name : Text) (tag : Tag) : Edit Unit := do
  match ← find owner with
  | some (.compound entries) => put owner (.compound (Entries.set name tag entries))
  | _ => throw .wrongKind

/-- Puts a tag under a name of `owner`, unless the name is there. -/
def ensureIn (owner name : Text) (tag : Tag) : Edit Unit := do
  match ← find owner with
  | some inner => if !(← inner.mentions name) then putIn owner name tag
  | none => throw .wrongKind

/-- The entries after an edit, and the fault that ended it. -/
def run (edit : Edit Unit) (entries : Entries) : Entries × Option Fault :=
  match StateT.run (ExceptT.run edit) entries with
  | (.ok (), entries) => (entries, none)
  | (.error fault, entries) => (entries, some fault)

end Edit

end CommandUpgrade
