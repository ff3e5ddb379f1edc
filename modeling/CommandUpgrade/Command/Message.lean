import CommandUpgrade.Command.Argument

/-!
# Messages and sounds
-/

namespace CommandUpgrade.Command

open Text

def say (args : List Text) : Text := if args.isEmpty then "say" else line "say" args

/-- A message in JSON, which stays as it is. -/
def tellraw (tables : Tables) (args : List Text) : Outcome Text := do
  match args with
  | target :: rest@(_ :: _) => return line "tellraw" ([← selector tables target] ++ rest)
  | _ => return "tellraw"

/-- Seconds as ticks. -/
def ticks (seconds : Text) : Outcome Text := do
  return ofInt (← ((← Binary64.read seconds).scale 20).trunc)

/-- A title: its text, or its times, which are in ticks now. -/
def title (tables : Tables) (args : List Text) : Outcome Text := do
  match args with
  | target :: action :: rest =>
    let target ← selector tables target
    let front := [target, action]
    if action = "title" ∨ action = "subtitle" ∨ action = "actionbar" then
      return line "title" (front ++ rest.take 1)
    if action = "times" ∧ 3 ≤ rest.length then
      return line "title" (front ++ (← (rest.take 3).mapM ticks))
    return line "title" front
  | _ => return "title"

/-- A sound under its new name, with a place and its volumes and pitch. -/
def playsound (tables : Tables) (args : List Text) : Outcome Text := do
  match args with
  | sound :: source :: target :: rest =>
    let target ← selector tables target
    let front := [tables.soundName sound, source, target]
    match rest with
    | x :: y :: z :: rest =>
      return line "playsound" (front ++ Coordinate.upgradeAll [x, y, z] ++ rest.take 3)
    | _ => return line "playsound" front
  | _ => return "playsound"

end CommandUpgrade.Command
