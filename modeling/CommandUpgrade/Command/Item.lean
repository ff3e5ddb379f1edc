import CommandUpgrade.Command.Argument
import CommandUpgrade.Item.Data

/-!
# Commands on items

Giving and clearing items. An item's data stands directly behind its name, as components in
brackets where it has any; an old data value became the component `damage`.
-/

namespace CommandUpgrade.Command

open Text

/-- Whether a character opens data. -/
def opensData (c : Char) : Bool := c == '[' || c == '{'

/-- Whether an argument is data. -/
def isData (s : Text) : Bool := s.head?.any opensData

/-- The name of an item and the data directly behind it, if it has data. -/
def cutItem? (item : Text) : Option (Text × Text) :=
  if item.any opensData then
    some (item.takeWhile (!opensData ·), item.dropWhile (!opensData ·))
  else none

/-- Whether the text stands in braces. -/
def inBraces (s : Text) : Bool := startsWith s "\x7b" && endsWith s "\x7d"

/-- The text with brackets in place of its first and last character. -/
def bracketed (s : Text) : Text := '[' :: dropLast 1 (s.drop 1) ++ [']']

/-- The text with a damage in front of its last character, or behind it. -/
def withDamage (field s data : Text) : Text :=
  if endsWith s "]" then dropLast 1 s ++ ",damage=" ++ data ++ "]"
  else if endsWith s "\x7d" then dropLast 1 s ++ field ++ data ++ "\x7d"
  else s ++ ",damage=" ++ data

/-! ## Giving -/

namespace Give

/-- The words of a give command, of which blanks inside brackets are a part. -/
def parts (args : List Text) : List Text :=
  solid (splitOutside ' ' opensData (fun c => c == ']' || c == '}') (words args))

/-- Data for a given item, always in brackets. -/
def data (s item : Text) : Outcome Text := do
  let new ← Item.upgradeData true s (some item)
  return if inBraces new then bracketed new else new

/-- The count, the data value and the data of the words behind an item. -/
structure Rest where
  count : Option Text := none
  value : Option Text := none
  data : Option Text := none

/-- Reads the words behind an item up to its data. The first number is the count, the second one the
data value. -/
def readRest (rest : Rest) : List Text → Rest
  | [] => rest
  | part :: parts =>
    if allDigits part then
      if rest.count.isNone then readRest { rest with count := some part } parts
      else if rest.value.isNone then readRest { rest with value := some part } parts
      else readRest rest parts
    else if isData part then { rest with data := some part }
    else readRest rest parts

/-- The head that a data value in digits makes of a skull. -/
def skull? (item : Text) (value : Option Text) : Option Text :=
  if item = "skull" ∨ item = "minecraft:skull" then
    match value with
    | some [c] => if '0' ≤ c ∧ c ≤ '5' then Item.skull? (c.toNat - '0'.toNat : Nat) else none
    | _ => none
  else none

/-- An item with its data value and its data. -/
def item (name : Text) (value data : Option Text) : Outcome Text := do
  let value := value.filter (· ≠ ['0'])
  match data with
  | some data =>
    let new ← Give.data data name
    return name ++ (value.map (withDamage ",damage=" new)).getD new
  | none =>
    match value with
    | some value => return name ++ "[damage=" ++ value ++ "]"
    | none => return name

end Give

/-- Gives an item. -/
def give (tables : Tables) (args : List Text) : Outcome Text := do
  match args with
  | target :: rest@(_ :: _) =>
    let target ← selector tables target
    match Give.parts rest with
    | [] => return line "give" [target]
    | item :: parts =>
      match cutItem? item with
      | some (name, data) =>
        let new := name ++ (← Give.data data name)
        return line "give" ([target, new] ++ ((parts.head?).filter allDigits).toList)
      | none =>
        let rest := Give.readRest {} parts
        let new ←
          match Give.skull? item rest.value with
          | some head => Give.item head none rest.data
          | none => Give.item item rest.value rest.data
        return line "give" ([target, new] ++ rest.count.toList)
  | _ => return "give"

/-! ## Clearing -/

namespace Clear

/-- Data for a cleared item: components in braces get brackets, unless fields of an old item stand
among them. -/
def data (s : Text) : Outcome Text := do
  let new ← Item.upgradeData true s
  let inner := dropLast 1 (new.drop 1)
  let isOld := ["id:", "Count:", "Damage:", "tag:", "Slot:"].any fun field => has field.toList inner
  return if inBraces new && (has "custom_name=" new || has "lore=" new) && !isOld
    then bracketed new else new

/-- The count and the data of the words behind the data value of an item. -/
def readRest (count : Option Text) : List Text → Option Text × Option Text
  | [] => (count, none)
  | arg :: args =>
    if isData arg then (count, some arg)
    else readRest (if allDigits arg then some arg else count) args

/-- The data value, the count and the data of the words behind an item. -/
def read (args : List Text) : Text × Option Text × Option Text :=
  match args with
  | arg :: rest => if allDigits arg then (arg, readRest none rest) else (['0'], readRest none args)
  | [] => (['0'], none, none)

end Clear

/-- Takes items away. -/
def clear (tables : Tables) (args : List Text) : Outcome Text := do
  match args with
  | [] => return "clear"
  | [target] => return line "clear" [← selector tables target]
  | target :: item :: rest =>
    let target ← selector tables target
    match cutItem? item with
    | some (name, data) =>
      let new := name ++ (← Clear.data data)
      return line "clear" ([target, new] ++ ((rest.head?).filter allDigits).toList)
    | none =>
      let (value, count, data) := Clear.read rest
      let name := withNamespace (tables.blockName item value)
      let new ←
        match data with
        | some data =>
          let new ← Clear.data data
          pure (name ++ if value = ['0'] then new else withDamage ",Damage:" new value)
        | none =>
          pure (if value = ['0'] then name else name ++ "\x7bDamage:" ++ value ++ "\x7d")
      return line "clear" ([target, new] ++ count.toList)

end CommandUpgrade.Command
