import CommandUpgrade.Text.Pattern
import CommandUpgrade.Text.Quote
import CommandUpgrade.Text.Settle

/-!
# Quotes in displays

A name or lore line that is a JSON text inside quotes has the quotes of the JSON escaped.
-/

namespace CommandUpgrade.DisplayQuotes

open Text

/-- Backslashes doubled, and quotes behind a backslash. -/
def escape (s : Text) : Text := replace "\"" "\\\"" (replace "\\" "\\\\" s)

/-- Whether quotes are escaped already. -/
def isEscaped (s : Text) : Bool := has "\\\"" s || s.count '"' < s.count '\\'

/-! ## Names -/

/-- How many characters belong to a compound that is closed once more than it is opened. -/
def compoundLength? (before : Option Char) (s : Text) : Option Nat :=
  (closing?.go '{' '}' none 1 before s).map (· + 1)

/-- Escapes the first name that is a JSON text: the text up to the brace that closes it and what
stands around it, if a quote follows. -/
def escapeName? (s : Text) : Option Text := do
  let (front, rest) ← cut? "Name:\"\x7b" s
  let rest := '{' :: rest
  let length ← compoundLength? (some '"') rest
  match (rest.drop length).dropWhile (Pattern.no ['"', ',', '}']) with
  | '"' :: behind => some (front ++ "Name:\"" ++ escape ('"' :: rest.take length) ++ "\"" ++ behind)
  | _ => none

/-- Escapes all names. Each step takes one name away. -/
def escapeNames (s : Text) : Text := settle escapeName? (positions "Name:\"\x7b" s).length s

/-! ## Lore -/

/-- A compound with a text. -/
def component : Pattern :=
  let rest : Pattern := .many 0 (Pattern.no ['}'])
  .group (("\x7b" : String) ++ rest ++ ("\"text\"" : String) ++ rest ++ ("\x7d" : String))

/-- A compound with a text as an item of a list. -/
def bareLine : Pattern :=
  .group (.one (Pattern.of [',', '['])) ++ component ++ .group (.one (Pattern.of [',', ']']))

/-- A compound with a text in quotes. -/
def quotedLine : Pattern := ("\"" : String) ++ component ++ ("\"" : String)

/-- The lines of a lore, with quotes around them and escaped inside. -/
def escapeLines (lines : Text) : Text :=
  let lines := bareLine.replace (fun m =>
    m.group 1 ++ "\"" ++ escape (m.group 2) ++ "\"" ++ m.group 3) lines
  quotedLine.replace (fun m =>
    if isEscaped (m.group 1) then m.whole else "\"" ++ escape (m.group 1) ++ "\"") lines

/-- Escapes lines of the first lore, if it has one to escape. -/
def escapeLore? (s : Text) : Option Text := do
  let (front, rest) ← cut? "Lore:[" s
  if !has "\"\x7b\"text\"" s then none
  let stop ← closing?.go '[' ']' none 1 (some '[') rest
  let lines := escapeLines (rest.take stop)
  if lines = rest.take stop then none
  some (front ++ "Lore:[" ++ lines ++ rest.drop stop)

/-- Escapes the lines of the first lore. Each step but the last takes a `"text"` away. -/
def escapeLores (s : Text) : Text := settle escapeLore? ((positions "\"text\"" s).length + 1) s

/-- Escapes names and lore. -/
def fix (s : Text) : Text := escapeLores (escapeNames s)

end CommandUpgrade.DisplayQuotes
