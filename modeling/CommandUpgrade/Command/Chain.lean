import CommandUpgrade.Command.Convert
import CommandUpgrade.Tag.Shown

/-!
# Chains of execute

A chain of `execute` commands as a list of links. A link is a compound with the type of the link and
its converted arguments; the last one has the command that is run.
-/

namespace CommandUpgrade.Command.Chain

open Text

/-- A coordinate as a number, zero for what is none. -/
def offset (s : Text) : Binary64 :=
  if s = "~" then .ofInt 0
  else
    match s with
    | '~' :: rest => (Binary64.read? rest).getD (.ofInt 0)
    | _ => (Binary64.read? s).getD (.ofInt 0)

def field (name : String) (s : Text) : Text × Tag := (name.toList, .text s)

/-- The end of a link: the place of the next link, or the command that is run. -/
def ending (args : List Text) (next : Nat) : Entries :=
  if args[next]? = some "execute".toList then [("next_index".toList, .int next)]
  else [field "command" (words (args.drop next)), ("next_index".toList, .int args.length)]

/-- The link of a displacement at a position of the arguments, null if it is not complete. -/
def positionLink (tables : Tables) (args : List Text) (start : Nat) : Outcome Tag := do
  match args.drop start with
  | target :: x :: y :: z :: _ :: _ =>
    let target ← selector tables target
    return .compound ([field "type" "position", field "target" target,
      field "x" (Coordinate.upgrade x), field "y" (Coordinate.upgrade y),
      field "z" (Coordinate.upgrade z)] ++ ending args (start + 4))
  | _ => return .null

/-- The link of a block that is asked for, null if it is not complete. -/
def detectLink (tables : Tables) (args : List Text) (start : Nat) : Outcome Tag := do
  match args.drop start with
  | target :: x :: y :: z :: _ :: x' :: y' :: z' :: block :: data :: _ :: _ =>
    let target ← selector tables target
    return .compound ([field "type" "detect", field "target" target,
      field "x1" (Coordinate.upgrade x), field "y1" (Coordinate.upgrade y),
      field "z1" (Coordinate.upgrade z), field "x2" (Coordinate.upgrade x'),
      field "y2" (Coordinate.upgrade y'), field "z2" (Coordinate.upgrade z'),
      field "block" (tables.blockName block data)] ++ ending args (start + 10))
  | _ => return .null

/-- The link at a position of the arguments. -/
def link (tables : Tables) (args : List Text) (start : Nat) : Outcome Tag :=
  if args.length ≤ start then .ok .null
  else if Execute.detects (args.drop start) then detectLink tables args start
  else positionLink tables args start

/-- The links of the arguments. Only the first one is read. -/
def links (tables : Tables) (args : List Text) : Outcome (List Tag) := do
  if Execute.detects args then return [← detectLink tables args 0]
  if 4 ≤ args.length then return [← positionLink tables args 0]
  return [.compound [field "type" "command", field "command" (words args)]]

/-- The field of a link. -/
def get (link : Entries) (name : String) : Outcome Tag :=
  match Entries.get? name.toList link with
  | some tag => .ok tag
  | none => .error (.missingField name.toList)

/-- A coordinate of a link, which is a text. -/
def coordinate (link : Entries) (name : String) : Outcome Text := do
  match ← get link name with
  | .text s => return s
  | _ => throw (.noMember "tag" "startswith")

/-- The command of a link, converted. -/
def run (tables : Tables) (link : Entries) : Outcome (List Text) := do
  match ← get link "command" with
  | .text s => return ["run".toList, ← convert tables s]
  | _ => throw (.noMember "tag" "strip")

/-- The words of a link, and whether it ends the chain. -/
def write (tables : Tables) (isFirst : Bool) (link : Entries) : Outcome (List Text × Bool) := do
  let type ← get link "type"
  let ended (words : List Text) : Outcome (List Text × Bool) := do
    if Entries.has "command" link then return (words ++ (← run tables link), true)
    return (words, false)
  let aim : Outcome (List Text) := do
    if isFirst then return ["as".toList, (← get link "target").asName, "at @s".toList]
    return []
  let place (names : List String) : Outcome (List Text) := do
    return "positioned".toList :: (← names.mapM (coordinate link))
  if type.isText "position" then
    let aim ← aim
    ended (aim ++ (← place ["x", "y", "z"]))
  else if type.isText "detect" then
    let aim ← aim
    let place ← place ["x1", "y1", "z1"]
    let block ← ["x2", "y2", "z2", "block"].mapM fun name => return (← get link name).asName
    ended (aim ++ place ++ ["if block".toList] ++ block)
  else if type.isText "command" then return (← run tables link, true)
  else return ([], false)

/-- The words of the links up to the one that ends the chain. -/
def writeAll (tables : Tables) (isFirst : Bool) : List Tag → Outcome (List Text)
  | [] => .ok []
  | .compound link :: rest => do
    let (words, isEnd) ← write tables isFirst link
    if isEnd then return words
    return words ++ (← writeAll tables false rest)
  | _ => .error .wrongKind

/-- The command of a chain. -/
def build (tables : Tables) (links : List Tag) : Outcome Text := do
  return words ("execute".toList :: (← writeAll tables true links))

/-- The command of the arguments, by way of their links. -/
def convert (tables : Tables) (args : List Text) : Outcome Text := do
  if args.length < 4 then return "execute"
  build tables (← links tables args)

end CommandUpgrade.Command.Chain
