import CommandUpgrade.Item.LoreText

/-!
# Single properties

A property is a name, a colon and a value. Names and lores are found under several spellings, in
small or capital letters.
-/

namespace CommandUpgrade.Style.Property

open Text

/-- A quoted name under one of its spellings. -/
def name : Pattern :=
  .alt (.anyCase "custom_name") (.alt (.anyCase "CustomName") (.anyCase "Name")) ++
    (":\"" : String) ++ .group (.many 0 (Pattern.no ['"'])) ++ ("\"" : String)

/-- The value of a name as a quoted JSON text. -/
def nameJson (value : Text) : Outcome Text := do
  let json ← if isStyled value then messageJson value
    else pure (Tag.compound [words value]).toJson
  return "\"" ++ replace "\"" "\\\"" json ++ "\""

/-- The value of a name property. -/
def nameValue (s : Text) : Outcome Text :=
  match name.search? s with
  | some m => nameJson (m.group 1)
  | none => .ok "''"

/-- A name property in its new form. -/
def upgradeName (s : Text) : Outcome Text := do
  match name.search? s with
  | some m => return "CustomName:" ++ (← nameJson (m.group 1))
  | none => return s

/-- A lore within one line. -/
def lore : Pattern :=
  .anyCase "lore:" ++ ("[" : String) ++ .group (.many 0 (· != '\n')) ++ ("]" : String)

/-- The value of a lore property. -/
def loreValue (s : Text) : Outcome Text := do
  match lore.search? s with
  | some m => return "[" ++ (← Lore.json (m.group 1)) ++ "]"
  | none => return "[]"

/-- A lore property in its new form. -/
def upgradeLore (s : Text) : Outcome Text := do
  return "display:\x7bLore:" ++ (← loreValue s) ++ "\x7d"

end CommandUpgrade.Style.Property
