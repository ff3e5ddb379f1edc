import CommandUpgrade.Number.Binary64

/-!
# Tags

The data that commands carry: compounds of named tags, lists, texts and numbers. A compound keeps
its entries in the order in which their names came first.
-/

namespace CommandUpgrade

/-- A tag. -/
inductive Tag
  | null
  | bool (value : Bool)
  | int (value : Int)
  | float (value : Binary64)
  | text (value : Text)
  | list (items : List Tag)
  | compound (entries : List (Text × Tag))
  deriving Inhabited, Repr

/-- The entries of a compound, in order. -/
abbrev Entries := List (Text × Tag)

namespace Entries

/-- The tag under a name. -/
def get? (name : Text) (entries : Entries) : Option Tag := entries.lookup name

def has (name : Text) (entries : Entries) : Bool := (get? name entries).isSome

/-- Puts a tag under a name: in the place of the tag already there, or else at the end. -/
def set (name : Text) (tag : Tag) : Entries → Entries
  | [] => [(name, tag)]
  | (n, t) :: rest => if n = name then (n, tag) :: rest else (n, t) :: set name tag rest

/-- The entries without the one of a name. -/
def erase (name : Text) (entries : Entries) : Entries := entries.filter fun (n, _) => n ≠ name

def names (entries : Entries) : List Text := entries.map (·.1)

/-- Sets each entry of `new` in turn. -/
def merge (entries new : Entries) : Entries :=
  new.foldl (fun all (name, tag) => set name tag all) entries

end Entries

namespace Tag

/-- Whether a tag holds anything: no null, false, zero or empty tag does. -/
def isFilled : Tag → Bool
  | null => false
  | bool b => b
  | int n => n != 0
  | float x => !x.isZero
  | text s => !s.isEmpty
  | list items => !items.isEmpty
  | compound entries => !entries.isEmpty

/-- The entries of a compound. -/
def entries? : Tag → Option Entries
  | compound entries => some entries
  | _ => none

/-- The items of a list. -/
def items? : Tag → Option (List Tag)
  | list items => some items
  | _ => none

/-- The characters of a text tag. -/
def text? : Tag → Option Text
  | text s => some s
  | _ => none

/-- Whether the tag is the given text. -/
def isText (s : Text) : Tag → Bool
  | text t => t == s
  | _ => false

/-- A text tag of a literal. -/
def lit (s : String) : Tag := text s.toList

/-- Whether a name occurs in a tag: in a text, among the items of a list or the names of a compound.
Other tags hold no names. -/
def mentions (name : Text) : Tag → Outcome Bool
  | text s => .ok (Text.has name s)
  | list items => .ok (items.any (isText name))
  | compound entries => .ok (Entries.has name entries)
  | _ => .error .wrongKind

end Tag

end CommandUpgrade
