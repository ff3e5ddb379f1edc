import CommandUpgrade.Number.Decimal
import CommandUpgrade.Tag.Basic
import CommandUpgrade.Text.Printable

/-!
# Tags in names

Where a name is expected and another tag stands, the name is the tag as messages show it: a text as
itself, and the texts inside lists and compounds in quotes.
-/

namespace CommandUpgrade.Tag

open Text

mutual

/-- A tag inside another one. -/
def shownInside : Tag → Text
  | .null => "None"
  | .bool true => "True"
  | .bool false => "False"
  | .int n => ofInt n
  | .float x => x.toText
  | .text s => shown s
  | .list items => '[' :: join ", " (shownItems items) ++ [']']
  | .compound entries => '{' :: join ", " (shownEntries entries) ++ ['}']

/-- The items of a list. -/
def shownItems : List Tag → List Text
  | [] => []
  | tag :: rest => shownInside tag :: shownItems rest

/-- The entries of a compound. -/
def shownEntries : List (Text × Tag) → List Text
  | [] => []
  | (name, tag) :: rest => (shown name ++ ": " ++ shownInside tag) :: shownEntries rest

end

/-- A tag as a name. -/
def asName : Tag → Text
  | .text s => s
  | tag => shownInside tag

end CommandUpgrade.Tag
