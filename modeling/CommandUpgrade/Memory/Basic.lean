import CommandUpgrade.Tag.Basic

/-!
# Tags in memory

In memory each list and each compound is an object of its own. A value refers to it by its address, so
several values can share an object, and a change of the object shows in all of them. Texts, numbers and
truth values do not change and are values themselves.
-/

namespace CommandUpgrade

abbrev Address := Nat

/-- What a variable, an item or a field holds. -/
inductive Value
  | null
  | bool (value : Bool)
  | int (value : Int)
  | float (value : Binary64)
  | text (value : Text)
  | ref (address : Address)
  deriving Inhabited

/-- The fields of a compound in memory, in order. -/
abbrev Fields := List (Text × Value)

namespace Fields

/-- Puts a value under a name: in the place of the value already there, or else at the end. -/
def set (name : Text) (value : Value) : Fields → Fields
  | [] => [(name, value)]
  | (n, v) :: rest => if n = name then (n, value) :: rest else (n, v) :: set name value rest

/-- The fields without the one of a name. -/
def erase (name : Text) (fields : Fields) : Fields := fields.filter fun (n, _) => n ≠ name

end Fields

/-- What can be changed in place. -/
inductive Object
  | list (items : List Value)
  | compound (fields : Fields)
  deriving Inhabited

/-- The object with its fields changed. -/
def Object.mapFields (change : Fields → Fields) : Object → Object
  | compound fields => compound (change fields)
  | list items => list items

/-- All objects. The address of an object is its place. -/
abbrev Memory := List Object

/-- The tag that a value stands for, with the objects at hand and no more than `depth` of them inside
each other. -/
def Value.read (object? : Address → Option Object) : Nat → Value → Option Tag
  | _, null => some .null
  | _, bool b => some (.bool b)
  | _, int n => some (.int n)
  | _, float x => some (.float x)
  | _, text s => some (.text s)
  | 0, ref _ => none
  | depth + 1, ref address =>
    match object? address with
    | some (.list items) => (items.mapM (read object? depth)).map .list
    | some (.compound fields) =>
      (fields.mapM fun field => (read object? depth field.2).map (field.1, ·)).map .compound
    | none => none

/-- A change of the memory that may end early. What it did before the fault stays. -/
abbrev Heap := ExceptT Fault (StateM Memory)

namespace Heap

/-! ## Objects -/

/-- A new object. -/
def alloc (object : Object) : Heap Address := do
  let memory ← get
  set (memory ++ [object])
  return memory.length

/-- The fields of the compound at an address. -/
def fields (address : Address) : Heap Fields := do
  match (← get)[address]? with
  | some (.compound fields) => return fields
  | _ => return []

def find (address : Address) (name : Text) : Heap (Option Value) :=
  return (← fields address).lookup name

def put (address : Address) (name : Text) (value : Value) : Heap Unit :=
  modify fun memory => memory.modify address (Object.mapFields (Fields.set name value))

def erase (address : Address) (name : Text) : Heap Unit :=
  modify fun memory => memory.modify address (Object.mapFields (Fields.erase name))

/-- The address of a compound. -/
def compound? (value : Value) : Heap (Option Address) := do
  let .ref address := value | return none
  match (← get)[address]? with
  | some (.compound _) => return some address
  | _ => return none

/-- The items of a list. -/
def list? (value : Value) : Heap (Option (List Value)) := do
  let .ref address := value | return none
  match (← get)[address]? with
  | some (.list items) => return some items
  | _ => return none

def findCompound (address : Address) (name : Text) : Heap (Option Address) := do
  let some value ← find address name | return none
  compound? value

def findList (address : Address) (name : Text) : Heap (Option (List Value)) := do
  let some value ← find address name | return none
  list? value

/-! ## Tags -/

/-- The tag that a value stands for. -/
def view (value : Value) : Heap Tag := do
  let memory ← get
  match value.read (memory[·]?) memory.length with
  | some tag => return tag
  | none => throw .wrongKind

mutual

/-- A tag as a value, all of its objects new. -/
def store : Tag → Heap Value
  | .null => return .null
  | .bool b => return .bool b
  | .int n => return .int n
  | .float x => return .float x
  | .text s => return .text s
  | .list items => return .ref (← alloc (.list (← storeItems items)))
  | .compound entries => return .ref (← alloc (.compound (← storeEntries entries)))

def storeItems : List Tag → Heap (List Value)
  | [] => return []
  | tag :: rest => return (← store tag) :: (← storeItems rest)

def storeEntries : List (Text × Tag) → Heap Fields
  | [] => return []
  | (name, tag) :: rest => return (name, ← store tag) :: (← storeEntries rest)

end

end Heap

end CommandUpgrade
