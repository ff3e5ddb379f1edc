import CommandUpgrade.Json.Reader
import CommandUpgrade.Style.Component
import CommandUpgrade.Text.LowerCase
import CommandUpgrade.Text.Pattern

/-!
# Styled texts in commands

A converted command in which section signs are left has them turned into JSON: the message of
`tellraw` and `title`, and the quoted texts of other commands. Commands whose data is converted on
its own are left alone.
-/

namespace CommandUpgrade.Command

open Text Style

/-- The JSON of the tag that is the text of a message. -/
def restyleTag (tag : Tag) : Outcome Text := do
  if ← tag.mentions [sign] then
    match tag with
    | .text s => messageJson s
    | _ => throw .wrongKind
  else return (Tag.compound [field "text" tag, upright]).toJson

/-- The JSON of a message, which may be JSON already: then its text is taken, if it has one. -/
def restyleText (s : Text) : Outcome Text :=
  if startsWith s "\x7b" && endsWith s "\x7d" then
    match (Json.read? s).bind Tag.entries? with
    | some data =>
      match Entries.get? "text" data with
      | none => .ok (Tag.compound data).toJson
      | some tag =>
        match restyleTag tag with
        | .ok json => .ok json
        | .error _ => messageJson s
    | none => messageJson s
  else messageJson s

/-- The arguments of `tellraw`, restyled. -/
def restyleTellraw (args : Text) : Outcome Text := do
  match splitFirst? ' ' args with
  | none => return "tellraw " ++ args
  | some (target, message) =>
    let json ← if startsWith message "\x7b" && endsWith message "\x7d" then restyleText message
      else messageJson message
    return words ["tellraw".toList, target, json]

/-- The arguments of `title`, restyled. -/
def restyleTitle (args : Text) : Outcome Text := do
  let some (target, rest) := splitFirst? ' ' args | return "title " ++ args
  let some (action, message) := splitFirst? ' ' rest | return "title " ++ args
  return words ["title".toList, target, action, ← restyleText message]

/-- Every quoted text that has a section sign, restyled. -/
def restyleQuoted (s : Text) : Outcome Text :=
  let quoted : Pattern := ("\"" : String) ++ .group (.many 0 (Pattern.no ['"'])) ++ ("\"" : String)
  quoted.replaceM (fun m => do
    if isStyled (m.group 1) then return "\"" ++ (← messageJson (m.group 1)) ++ "\""
    return m.whole) s

/-- The commands whose data is converted on its own. -/
def keepsStyle (name : Text) : Bool :=
  ["give", "summon", "clear", "entitydata", "replaceitem", "setblock", "fill"].any
    fun known => known.toList = name

/-- A converted command, restyled. -/
def restyle (s : Text) : Outcome Text := do
  if !isStyled s then return s
  match splitFirst? ' ' s with
  | none => return s
  | some (name, args) =>
    let name := lower name
    if keepsStyle name then return s
    if name = "tellraw" then restyleTellraw args
    else if name = "title" then restyleTitle args
    else restyleQuoted s

end CommandUpgrade.Command
