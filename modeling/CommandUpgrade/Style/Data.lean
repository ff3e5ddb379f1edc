import CommandUpgrade.Item.LoreText
import CommandUpgrade.Json.Reader

/-!
# Styled texts in data

The names and lore lines that stand in the data of an item or an entity, renewed on the text of the
data. Names of the form `minez.customName|` are left alone.
-/

namespace CommandUpgrade.Style

open Text

/-- What the data belongs to. -/
inductive Owner
  | item
  | entity
  | other
  deriving DecidableEq, Repr

/-! ## Protected names -/

/-- A name that is left alone. -/
def protectedName : Pattern := ("minez.customName|" : String) ++ .many 0 (Pattern.no ['"'])

/-- Stands for a protected name. -/
def placeholder (i : Nat) : Text := "__PROTECTED_" ++ ofNat i ++ "__"

/-- The text with placeholders for protected names, and the names. -/
def protect (s : Text) : Text × List Text :=
  let (s, names) := (protectedName.pieces s).foldl (fun (s, names) piece =>
    match piece with
    | .char c => (c :: s, names)
    | .found m => ((placeholder names.length).reverse ++ s, names ++ [m.whole])) ([], [])
  (s.reverse, names)

/-- Puts protected names back. -/
def restore (names : List Text) (s : Text) : Text :=
  (names.zipIdx).foldl (fun s (name, i) => replace (placeholder i) name s) s

/-! ## Displays -/

/-- Changes each display whose braces are closed, the last one first. `change` gets the text in
front of the display, what stands in its braces, and the rest. -/
def changeDisplays (change : Text → Text → Text → Outcome Text) (s : Text) : Outcome Text :=
  (positions "display:\x7b" s).reverse.foldlM (fun s start =>
    match closingFrom? '{' '}' s (start + 8) with
    | none => return s
    | some stop => change (s.take start) (slice (start + 9) stop s) (s.drop (stop + 1))) s

/-- The text up to a quote; a backslash takes the next character along. -/
def untilQuote? (quote : Char) : Text → Option Text
  | [] => none
  | '\\' :: c :: r => (untilQuote? quote r).map fun s => '\\' :: c :: s
  | c :: r => if c = quote then some [] else (untilQuote? quote r).map (c :: ·)

/-- The name of an item's display as a component, if its quotes are closed. -/
def itemName (display : Text) : Outcome (Option Text) := do
  let some m := (("Name:" : String) ++ .group (.one isQuote) : Pattern).search? display | return none
  let some name := untilQuote? ((m.group 1).headD '"') m.rest | return none
  let name := replace "\\'" "'" (replace "\\\"" "\"" name)
  if startsWith name "\x7b" || startsWith name "[" then return some ("custom_name=" ++ name)
  return some ("custom_name=" ++ (← messageJson name))

/-- The lore of an item's display as a component, if its list is closed. -/
def itemLore (display : Text) : Outcome (Option Text) := do
  let some start := find? "Lore:[" display | return none
  let some stop := closingFrom? '[' ']' display (start + 5) | return none
  return some ("lore=" ++ (← Lore.json (slice (start + 6) stop display)))

/-- The display of an item in component form. Without name and lore its braces are left out. -/
def changeItemDisplay (front display rest : Text) : Outcome Text := do
  let components := (← itemName display).toList ++ (← itemLore display).toList
  if components.isEmpty then return front ++ "display:" ++ rest
  return front ++ join [','] components ++ rest

/-- The display of an entity's item: its names as JSON texts. It must not have a lore. -/
def changeEntityDisplay (front display rest : Text) : Outcome Text := do
  let name : Pattern := ("Name:\"" : String) ++ .group (.many 0 (Pattern.no ['"'])) ++ ("\"" : String)
  let display ← name.replaceM (fun m => do
    return "Name:" ++ Lore.inQuotes (← messageJson (m.group 1))) display
  let lores := (positions "Lore:[" display).filter fun start =>
    (closingFrom? '[' ']' display (start + 5)).isSome
  if !lores.isEmpty then throw (.noMember "CommandConverter" "_convert_lore_array_to_json_strings")
  return front ++ "display:\x7b" ++ display ++ "\x7d" ++ rest

/-! ## Entity names -/

/-- The name of an entity in quotes of either kind. -/
def entityNamePattern : Pattern :=
  ("CustomName:" : String) ++ .one isQuote ++ .group (.many 0 (!isQuote ·)) ++ .one isQuote

/-- The name of an entity as JSON. Only a name that looks like JSON can be converted. -/
def entityName (name : Text) : Outcome Text := do
  let name := replace "\\'" "'" (replace "\\\"" "\"" name)
  let isJson := startsWith name "\x7b" && has "\"text\"" name
  if isJson then
    if let some tag := Json.read? name then return "CustomName:" ++ tag.toJson
  if isStyled name then throw (.noMember "CommandConverter" "_parse_color_codes_to_components")
  if !isJson then throw (.unset "json")
  return "CustomName:" ++ (Tag.compound [words name]).toJson

/-- The names of entities in a text as JSON. -/
def changeEntityNames (s : Text) : Outcome Text :=
  entityNamePattern.replaceM (fun m => entityName (m.group 1)) s

/-! ## Data -/

/-- Data with its styled texts renewed. -/
def upgradeData (owner : Owner) (s : Text) : Outcome Text := do
  if !((owner = .entity && has "CustomName:" s) || isStyled s) then return s
  let (s, names) := protect s
  let s ← changeDisplays (if owner = .item then changeItemDisplay else changeEntityDisplay) s
  let s ← if owner = .entity then changeEntityNames s else pure s
  return restore names s

end CommandUpgrade.Style
