import CommandUpgrade.Tag.Basic
import CommandUpgrade.Number.Decimal
import CommandUpgrade.Text.Printable

/-!
# Writing JSON

Text components are JSON. All that is not printable ASCII is escaped, a character beyond the
basic plane as two surrogates. A `Spacing` says what stands between items and behind names.
-/

namespace CommandUpgrade

namespace Json

/-- What separates items, and a name from its value. -/
structure Spacing where
  item : Text
  name : Text

/-- A blank behind each comma and colon. -/
def Spacing.wide : Spacing := ⟨", ", ": "⟩

/-- No blanks. -/
def Spacing.compact : Spacing := ⟨",", ":"⟩

/-- A code unit of four hexadecimal digits. -/
def unit (n : Nat) : Text := '\\' :: 'u' :: Text.hexDigits 4 n

/-- A character inside a JSON string. -/
def escape (c : Char) : Text :=
  if c == '"' then ['\\', '"']
  else if c == '\\' then ['\\', '\\']
  else if c == '\n' then ['\\', 'n']
  else if c == '\r' then ['\\', 'r']
  else if c == '\t' then ['\\', 't']
  else if c.toNat == 0x0c then ['\\', 'f']
  else if c.toNat == 0x08 then ['\\', 'b']
  else if 0x20 ≤ c.toNat && c.toNat < 0x7f then [c]
  else if c.toNat < 0x10000 then unit c.toNat
  else
    let n := c.toNat - 0x10000
    unit (0xd800 + n / 0x400) ++ unit (0xdc00 + n % 0x400)

/-- A JSON string. -/
def quoted (s : Text) : Text := '"' :: s.flatMap escape ++ ['"']

def number : Binary64 → Text
  | .nan => "NaN"
  | .infinite false => "Infinity"
  | .infinite true => "-Infinity"
  | x => x.toText

mutual

/-- The JSON text of a tag. -/
def write (spacing : Spacing) : Tag → Text
  | .null => "null"
  | .bool true => "true"
  | .bool false => "false"
  | .int n => Text.ofInt n
  | .float x => number x
  | .text s => quoted s
  | .list items => '[' :: Text.join spacing.item (writeItems spacing items) ++ [']']
  | .compound entries => '{' :: Text.join spacing.item (writeEntries spacing entries) ++ ['}']

/-- The JSON texts of the items of a list. -/
def writeItems (spacing : Spacing) : List Tag → List Text
  | [] => []
  | tag :: rest => write spacing tag :: writeItems spacing rest

/-- The JSON texts of the members of an object. -/
def writeEntries (spacing : Spacing) : List (Text × Tag) → List Text
  | [] => []
  | (name, tag) :: rest =>
    (quoted name ++ spacing.name ++ write spacing tag) :: writeEntries spacing rest

end

end Json

namespace Tag

/-- The JSON text of a tag with a blank behind each comma and colon. -/
def toJson (tag : Tag) : Text := Json.write .wide tag

/-- The JSON text of a tag without blanks. -/
def toCompactJson (tag : Tag) : Text := Json.write .compact tag

end Tag

end CommandUpgrade
