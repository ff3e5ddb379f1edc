import CommandUpgrade.Fault
import CommandUpgrade.Text.Utf8

/-!
# Stored data

The tags that a chunk is made of. Numbers have a width and lists and compounds hold further tags;
a compound keeps its entries in the order in which their names came first.
-/

namespace CommandUpgrade.World

open Text

/-- A tag as a chunk stores it. -/
inductive Node
  | byte (value : Int)
  | short (value : Int)
  | int (value : Int)
  | long (value : Int)
  | string (value : Text)
  | list (items : List Node)
  | compound (entries : List (Text × Node))
  deriving Inhabited, Repr

/-- Puts a node under a name: in the place of the node already there, or else at the end. -/
def setEntry (name : Text) (node : Node) : List (Text × Node) → List (Text × Node)
  | [] => [(name, node)]
  | (n, old) :: rest =>
    if n = name then (n, node) :: rest else (n, old) :: setEntry name node rest

namespace Node

/-- The compound of named nodes. Of nodes of one name the last one counts. -/
def ofEntries (entries : List (Text × Node)) : Node :=
  .compound (entries.foldl (fun all (name, node) => setEntry name node all) [])

/-! ## Looking inside -/

/-- The node under a name of a compound. -/
def get? (name : Text) : Node → Option Node
  | compound entries => entries.lookup name
  | _ => none

/-- Puts a node under a name of a compound. -/
def set (node : Node) (name : Text) (new : Node) : Node :=
  match node with
  | compound entries => compound (setEntry name new entries)
  | _ => node

/-- The node at the end of a path of names. -/
def at? : List Text → Node → Option Node
  | [], node => some node
  | name :: rest, node => (node.get? name).bind (at? rest)

/-- Puts a node at the end of a path of names. -/
def setAt (new : Node) : List Text → Node → Node
  | [], _ => new
  | name :: rest, node =>
    match node.get? name with
    | some inner => node.set name (setAt new rest inner)
    | none => node

/-- Whether the node is the given text. -/
def isText (s : Text) : Node → Bool
  | string t => t == s
  | _ => false

/-- Whether the node is the given number, of any width. -/
def isNumber (n : Int) : Node → Bool
  | byte m | short m | int m | long m => m == n
  | _ => false

/-- Whether a name occurs in a node: in a text, among the items of a list or the names of a compound.
A number holds no names. -/
def mentions (name : Text) : Node → Outcome Bool
  | string s => .ok (Text.has name s)
  | list items => .ok (items.any (isText name))
  | compound entries => .ok (entries.lookup name).isSome
  | _ => .error .wrongKind

/-- How many characters, items or entries a node has, which a number has not. -/
def size : Node → Outcome Nat
  | string s => .ok s.length
  | list items => .ok items.length
  | compound entries => .ok entries.length
  | _ => .error .wrongKind

/-- Whether a node holds anything: no zero and no empty node does. -/
def isFilled : Node → Bool
  | byte n | short n | int n | long n => n != 0
  | string s => !s.isEmpty
  | list items => !items.isEmpty
  | compound entries => !entries.isEmpty

/-! ## Texts -/

/-- The name of the kind of a node. -/
def kindName : Node → Text
  | byte _ => "Byte"
  | short _ => "Short"
  | int _ => "Int"
  | long _ => "Long"
  | string _ => "String"
  | list _ => "List"
  | compound _ => "Compound"

/-- The kind of the items of a list, which an empty list does not have. -/
def itemKind (items : List Node) : Text := (items.head?.map kindName).getD "End"

mutual

/-- A node in a message: the name of its kind, and its value. -/
def shown : Node → Text
  | byte n => "Byte(" ++ ofInt n ++ ")"
  | short n => "Short(" ++ ofInt n ++ ")"
  | int n => "Int(" ++ ofInt n ++ ")"
  | long n => "Long(" ++ ofInt n ++ ")"
  | string s => "String(" ++ Text.shown s ++ ")"
  | list items => "List[" ++ itemKind items ++ "]([" ++ join ", " (shownItems items) ++ "])"
  | compound entries => "Compound(" ++ ('{' :: join ", " (shownEntries entries)) ++ ['}', ')']

/-- The items of a list in a message. -/
def shownItems : List Node → List Text
  | [] => []
  | node :: rest => shown node :: shownItems rest

/-- The entries of a compound in a message. -/
def shownEntries : List (Text × Node) → List Text
  | [] => []
  | (name, node) :: rest => (Text.shown name ++ ": " ++ shown node) :: shownEntries rest

end

/-- A node in a cell of a sheet: a text as itself. -/
def toCell : Node → Text
  | string s => s
  | node => shown node

/-- The quote around a text: the single one if a double one comes first in the text. -/
def quoteFor (s : Text) : Char :=
  match List.find? (fun c => c == '"' || c == '\'') s with
  | some '"' => '\''
  | _ => '"'

/-- A text in quotes, with a backslash before each backslash and each such quote. -/
def quoted (s : Text) : Text :=
  let quote := quoteFor s
  quote :: s.flatMap (fun c => if c == quote || c == '\\' then ['\\', c] else [c]) ++ [quote]

mutual

/-- A node written without blanks, its numbers with the letter of their width. -/
def write : Node → Text
  | byte n => ofInt n ++ ['b']
  | short n => ofInt n ++ ['s']
  | int n => ofInt n
  | long n => ofInt n ++ ['L']
  | string s => quoted s
  | list items => '[' :: join [','] (writeItems items) ++ [']']
  | compound entries => '{' :: join [','] (writeEntries entries) ++ ['}']

/-- The items of a list. -/
def writeItems : List Node → List Text
  | [] => []
  | node :: rest => write node :: writeItems rest

/-- The entries of a compound. -/
def writeEntries : List (Text × Node) → List Text
  | [] => []
  | (name, node) :: rest => (name ++ ':' :: write node) :: writeEntries rest

end

/-! ## Storing -/

/-- The most bytes of a text that a chunk stores. -/
def textLimit : Nat := 65535

/-- Whether a text can be stored. -/
def textFits (s : Text) : Bool := decide ((toUtf8 s).length ≤ textLimit)

mutual

/-- Whether a chunk can store a node. -/
def fits : Node → Bool
  | string s => textFits s
  | list items => fitsItems items
  | compound entries => fitsEntries entries
  | _ => true

/-- Whether a chunk can store the items of a list. -/
def fitsItems : List Node → Bool
  | [] => true
  | node :: rest => fits node && fitsItems rest

/-- Whether a chunk can store the entries of a compound. -/
def fitsEntries : List (Text × Node) → Bool
  | [] => true
  | (name, node) :: rest => textFits name && fits node && fitsEntries rest

end

end Node

end CommandUpgrade.World
