import CommandUpgrade.Number.Decimal
import CommandUpgrade.Table.Name
import CommandUpgrade.Text.Template

/-!
# Selectors

A selector is `@`, a letter, and arguments in brackets. The arguments are renamed one by one, and
those that became one argument (distance, scores, rotations) are joined at the end.
-/

namespace CommandUpgrade

open Text

namespace Selector

/-- A range with open ends. -/
structure Range where
  low : Option Text := none
  high : Option Text := none

/-- The argument that says a range, if it has an end. -/
def Range.argument (range : Range) (name : Text) : List Text :=
  match range.low, range.high with
  | none, none => []
  | low, high => [name ++ ['='] ++ low.getD [] ++ ['.', '.'] ++ high.getD []]

/-- The range with its ends exchanged, if they are numbers and the low one is the greater. -/
def Range.ordered (range : Range) : Range :=
  match range.low, range.high with
  | some low, some high =>
    match Binary64.read? low, Binary64.read? high with
    | some x, some y => if x.gt y then ⟨some high, some low⟩ else range
    | _, _ => range
  | _, _ => range

/-- What the arguments come to: those written at once, and those that are joined at the end. -/
structure Arguments where
  written : List Text := []
  scores : Lookup Text := []
  distance : Range := {}
  xRotation : Range := {}
  yRotation : Range := {}

namespace Arguments

def add (args : Arguments) (new : List Text) : Arguments :=
  { args with written := args.written ++ new }

/-- Adds a name and its value. -/
def put (args : Arguments) (name value : Text) : Arguments := args.add [name ++ '=' :: value]

/-- The arguments in their order, the joined ones last. -/
def toList (args : Arguments) : List Text :=
  args.written ++ args.distance.ordered.argument "distance" ++
    (if args.scores.isEmpty then []
      else ["scores=" ++ ('{' :: join [','] (args.scores.map fun (objective, value) =>
        objective ++ '=' :: value)) ++ ['}']]) ++
    args.xRotation.argument "x_rotation" ++ args.yRotation.argument "y_rotation"

end Arguments

/-- The name of a game mode by number or letter. -/
def gameMode? (mode : Text) : Option Text :=
  [(("0" : String), "survival"), ("1", "creative"), ("2", "adventure"), ("3", "spectator"),
    ("s", "survival"), ("c", "creative"), ("a", "adventure"), ("sp", "spectator")].findSome?
    fun (name, full) => if name.toList = mode then some full.toList else none

/-- The middle of the block for a whole coordinate. -/
def blockCentre (value : Text) : Outcome Text := do
  if allDigits (stripStart (· == '-') value) then
    return (← Binary64.read value).addHalf.toText
  return value

/-- Adds a distance: an end of the range, or a full distance as it is. -/
def addDistance (args : Arguments) (value : Text) : Arguments :=
  if startsWith value ".." then
    { args with distance := { args.distance with high := some (value.drop 2) } }
  else if endsWith value ".." then
    { args with distance := { args.distance with low := some (dropLast 2 value) } }
  else args.put "distance" value

/-- Adds an old argument. `letter` is the selector's, and `data` converts the data of an entity. -/
def addArgument (tables : Tables) (data : Text → Outcome Text) (letter : Text) (args : Arguments)
    (name value : Text) : Outcome Arguments := do
  if name = ['x'] ∨ name = ['y'] ∨ name = ['z'] then
    return args.put name (← blockCentre value)
  if name = "type" then return args.put name (tables.entityName value)
  if name = "r" then return { args with distance := { args.distance with high := some value } }
  if name = "rm" then return { args with distance := { args.distance with low := some value } }
  if name = "distance" then return addDistance args value
  if name = "c" then
    let limit := (← Number.readInt value).natAbs
    let order : String :=
      if letter = ['r'] then "random" else if startsWith value "-" then "furthest" else "nearest"
    return args.add ["limit=" ++ ofNat limit, "sort=" ++ order.toList]
  if name = "m" then return args.put "gamemode" ((gameMode? (lower value)).getD value)
  if name = "nbt" then return args.put name (← data value)
  if let some objective := after? "score_" name then
    return { args with scores := Lookup.set objective value args.scores }
  if name = "rx" then return { args with xRotation := { args.xRotation with high := some value } }
  if name = "rxm" then return { args with xRotation := { args.xRotation with low := some value } }
  if name = "ry" then return { args with yRotation := { args.yRotation with high := some value } }
  if name = "rym" then return { args with yRotation := { args.yRotation with low := some value } }
  return args.put name value

/-- The name and the value of an argument. -/
def readArgument? (s : Text) : Option (Text × Text) :=
  (splitFirst? '=' (trim s)).map fun (name, value) => (trim name, trim value)

/-- A selector without a letter, which selects entities. -/
def upgradeBare (tables : Tables) (s : Text) : Outcome Text := do
  if !startsWith s "@[" then return s
  let arguments := dropLast 1 (s.drop 2)
  let kind : Pattern := .many 1 (Pattern.no [',', ']'])
  match (("type=" : String) ++ .group kind : Pattern).search? arguments with
  | none => return "@e[" ++ arguments ++ "]"
  | some m =>
    let new := "type=" ++ tables.entityName (m.group 1)
    return "@e[" ++ (← (("type=" : String) ++ kind : Pattern).replaceBy 0 new arguments) ++ "]"

/-- The new form of a selector. `data` converts the data of an entity. -/
def upgrade (tables : Tables) (data : Text → Outcome Text) (s : Text) : Outcome Text := do
  if !startsWith s "@" then return s
  if startsWith s "@[" then return ← upgradeBare tables s
  if s = "@r" then return "@e[sort=random]"
  match splitFirst? '[' (s.drop 1) with
  | none => return s
  | some (letter, arguments) =>
    let arguments := (split ',' (stripEnd (· == ']') arguments)).filterMap readArgument?
    let args ← arguments.foldlM
      (fun args (name, value) => addArgument tables data letter args name value) {}
    let list := args.toList
    let random : Text := "sort=random"
    let (letter, list) :=
      if letter = ['r'] then ((['e'] : Text), if list.contains random then list else list ++ [random])
      else (letter, list)
    if list.isEmpty then return '@' :: letter
    return '@' :: letter ++ ['['] ++ join [','] list ++ [']']

end Selector

end CommandUpgrade
