import CommandUpgrade.Command.Block
import CommandUpgrade.Command.Entity
import CommandUpgrade.Command.Execute
import CommandUpgrade.Command.Item
import CommandUpgrade.Command.Message
import CommandUpgrade.Command.Particle
import CommandUpgrade.Command.Restyle
import CommandUpgrade.Command.Script

/-!
# Commands

A command is read, converted by the rules of its verb, and restyled. `execute` converts the command
that it runs in the same way, which is shorter.
-/

namespace CommandUpgrade.Command

open Text

/-- The verbs with rules of their own, `execute` apart. -/
inductive Verb
  | summon | testfor | testforblock | entitydata | blockdata | setblock | fill | scoreboard
  | effect | playsound | title | tellraw | kill | tp | particle | say | clear | clone | give | tag
  | script (name : Text)
  deriving DecidableEq, Repr

/-- The verb of a name. -/
def Verb.ofName? (name : Text) : Option Verb :=
  ([("summon", .summon), ("testfor", .testfor), ("testforblock", .testforblock),
    ("entitydata", .entitydata), ("blockdata", .blockdata), ("setblock", .setblock),
    ("fill", .fill), ("scoreboard", .scoreboard), ("effect", .effect),
    ("playsound", .playsound), ("title", .title), ("tellraw", .tellraw), ("kill", .kill),
    ("tp", .tp), ("teleport", .tp), ("particle", .particle), ("say", .say), ("clear", .clear),
    ("clone", .clone), ("give", .give), ("tag", .tag), ("project", .script "project"),
    ("clock", .script "clock"), ("script", .script "script")] : List (String × Verb)).findSome?
    fun (known, verb) => if known.toList = name then some verb else none

/-- The new form of a command by its verb and arguments. -/
def Verb.convert (tables : Tables) (verb : Verb) (args : List Text) : Outcome Text :=
  match verb with
  | .summon => Command.summon tables args
  | .testfor => Command.testfor tables args
  | .testforblock => Command.testforblock tables args
  | .entitydata => Command.entitydata tables args
  | .blockdata => .ok (Command.blockdata tables args)
  | .setblock => Command.setblock tables args
  | .fill => Command.fill tables args
  | .scoreboard => Command.scoreboard tables args
  | .effect => Command.effect tables args
  | .playsound => Command.playsound tables args
  | .title => Command.title tables args
  | .tellraw => Command.tellraw tables args
  | .kill => Command.kill tables args
  | .tp => Command.tp tables args
  | .particle => Command.particle tables args
  | .say => .ok (Command.say args)
  | .clear => Command.clear tables args
  | .clone => Command.clone args
  | .give => Command.give tables args
  | .tag => Command.tag tables args
  | .script name => Command.script tables name args

/-- Whether an argument looks like a coordinate. -/
def looksLikeCoordinate (s : Text) : Bool :=
  startsWith s "~" || allDigits (s.filter fun c => c != '-' && c != '.')

/-- An argument of a verb without rules. -/
def convertArgument (tables : Tables) (name arg : Text) : Outcome Text :=
  if startsWith arg "@" then selector tables arg
  else if looksLikeCoordinate arg then .ok (Coordinate.upgrade arg)
  else if name = "summon" ∨ name = "spawn" then .ok (tables.entityName arg)
  else .ok arg

/-- The new form of a command without rules: its selectors and coordinates are converted. -/
def convertUnknown (tables : Tables) (name : Text) (args : List Text) : Outcome Text := do
  return words (name :: (← args.mapM (convertArgument tables name)))

/-- The new form of a command that runs no other. -/
def convertPlain (tables : Tables) (call : Call) : Outcome Text :=
  match Verb.ofName? call.name with
  | some verb => verb.convert tables call.args
  | none => convertUnknown tables call.name call.args

/-- The new form of a command. -/
def convert (tables : Tables) (s : Text) : Outcome Text := do
  let call := Call.ofText s
  let new ←
    if call.name = "execute".toList then do
      let front ← Execute.front tables call.args
      match _h : Execute.nested? call.args with
      | none => pure front
      | some nested => do
        let inner ← convert tables nested
        pure (words [front, "run".toList, inner])
    else convertPlain tables call
  restyle new
termination_by s.length
decreasing_by exact Nat.lt_of_lt_of_le (Execute.length_nested?_lt _h) (weight_args_le s)

/-- A front part and the command that is run, converted. -/
def runNested (tables : Tables) (front : Text) (nested : Option Text) : Outcome Text := do
  match nested with
  | none => return front
  | some nested => return words [front, "run".toList, ← convert tables nested]

/-- The new form of `execute` by its arguments. -/
def execute (tables : Tables) (args : List Text) : Outcome Text := do
  runNested tables (← Execute.front tables args) (Execute.nested? args)

/-- The new form of `execute` by its arguments, the fifth one taken for `detect`. -/
def executeDetect (tables : Tables) (args : List Text) : Outcome Text := do
  runNested tables (← Execute.detectFront tables args) (Execute.detectNested? args)

end CommandUpgrade.Command
