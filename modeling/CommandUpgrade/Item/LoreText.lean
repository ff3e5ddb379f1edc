import CommandUpgrade.Entity.DisplayQuotes
import CommandUpgrade.Style.Component
import CommandUpgrade.Text.Nesting

/-!
# Lore in text form

The lines of a lore stand between commas outside quotes and braces. They are written anew as JSON:
each line as a quoted text of its own, or all lines as one list of components.
-/

namespace CommandUpgrade.Lore

open Text Style

/-- The lines of a lore. -/
def lines (s : Text) : List Text := solid (splitOutside ',' (· == '{') (· == '}') s)

/-- A text in double quotes, what is inside escaped. -/
def inQuotes (s : Text) : Text := "\"" ++ DisplayQuotes.escape s ++ "\""

/-- A line as a quoted JSON text. -/
def quotedLine (line : Text) : Outcome Text := do
  if startsWith line "\x7b" && has "\"text\"" line then
    return if DisplayQuotes.isEscaped line then "\"" ++ line ++ "\"" else inQuotes line
  let line := unquote line
  if line.isEmpty then return "\"\x7b\\\"text\\\":\\\"\\\",\\\"italic\\\":false\x7d\""
  return inQuotes (← nameJson line)

/-- The lines as quoted JSON texts. -/
def quotedLines (s : Text) : Outcome Text := do
  return join [','] (← (lines s).mapM quotedLine)

/-- The components of a line. -/
def components (line : Text) : Outcome (List Tag) := do
  let line := unquote line
  if line.isEmpty then return [.compound (plainComponent [])]
  match ← messageTag line with
  | .list components => return components
  | component => return [component]

/-- The JSON list of the components of all lines. -/
def json (s : Text) : Outcome Text := do
  return (Tag.list (← (lines s).mapM components).flatten).toJson

end CommandUpgrade.Lore
