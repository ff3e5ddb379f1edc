import CommandUpgrade.Json.Writer
import CommandUpgrade.Text.Alphanumeric
import CommandUpgrade.Text.Digit

/-!
# Writing tags

A tag is written without blanks. How an entry is written depends on the names around it:

* `0` and `1` under one of the flag names are written as bytes;
* a decimal under `drop_chances` has three places;
* the entries of a compound whose name holds `components` are JSON.
-/

namespace CommandUpgrade.Tag

open Text

/-- A text in double quotes, with a backslash before each backslash and double quote. -/
def quoted (s : Text) : Text := '"' :: s.flatMap (fun c =>
  if c = '\\' then ['\\', '\\'] else if c = '"' then ['\\', '"'] else [c]) ++ ['"']

/-- Fields that hold a flag, also when more letters follow. -/
def flagNames : List String := [
  "CustomNameVisible", "NoAI", "PersistenceRequired", "CanPickUpLoot", "Invulnerable", "Silent",
  "Glowing", "OnGround", "Invisible"]

def isFlagName (name : Text) : Bool := flagNames.any fun flag => startsWith name flag.toList

/-- Whether a name is written without quotes: letters, digits, `_`, `-` and `.` with a letter or
digit among them, and no digit in front. -/
def isPlainName (name : Text) : Bool :=
  allAlphanumeric (name.filter fun c => !(c == '_' || c == '-' || c == '.')) &&
    !name.head?.any isDigit

def writeName (name : Text) : Text := if isPlainName name then name else quoted name

/-- The name of the field that holds drop chances. -/
def dropChances : Text := "drop_chances"

/-- Whether a compound under this name holds components. -/
def holdsComponents (parent : Option Text) : Bool := parent.any (has "components")

/-- A number, by the name of its entry and the name around it. -/
def writeNumber (name parent : Option Text) : Tag → Text
  | .int n =>
    if (n == 0 || n == 1) && name.any isFlagName then ofInt n ++ ['b'] else ofInt n
  | .float x =>
    if x.isZero && name.any isFlagName then "0b"
    else if x.eqInt 1 && name.any isFlagName then "1b"
    else if name == some dropChances || parent == some dropChances then x.toFixed 3
    else x.toText
  | _ => []

mutual

/-- The text of a tag, by the name of its entry and the name around it. -/
def writeIn (name parent : Option Text) : Tag → Text
  | .null => "None"
  | .bool true => "true"
  | .bool false => "false"
  | .int n => writeNumber name parent (.int n)
  | .float x => writeNumber name parent (.float x)
  | .text s => quoted s
  | .list items => '[' :: join [','] (writeItems parent items) ++ [']']
  | .compound entries =>
    let around := match name with
      | some (c :: r) => some (c :: r)
      | _ => parent
    '{' :: join [','] (writeEntries around entries) ++ ['}']

/-- The texts of the items of a list. -/
def writeItems (parent : Option Text) : List Tag → List Text
  | [] => []
  | tag :: rest => writeIn none parent tag :: writeItems parent rest

/-- The texts of the entries of a compound. -/
def writeEntries (parent : Option Text) : List (Text × Tag) → List Text
  | [] => []
  | (name, tag) :: rest =>
    let value :=
      if holdsComponents parent then tag.toCompactJson
      else if parent == some dropChances || name == dropChances then
        writeIn (some name) (some dropChances) tag
      else writeIn (some name) parent tag
    (writeName name ++ ':' :: value) :: writeEntries parent rest

end

/-- The text of a tag. -/
def write (tag : Tag) : Text := writeIn none none tag

end CommandUpgrade.Tag
