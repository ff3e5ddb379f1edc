import CommandUpgrade.Table.Load
import CommandUpgrade.Workspace

/-!
# Sessions

A session is a run of a tool in a workspace: it prints lines, reads and writes files, and may end
early with a fault. What was printed and written before the fault stays.
-/

namespace CommandUpgrade

/-- Where a session stands. -/
structure Session.State where
  workspace : Workspace
  printed : List Text := []

/-- A run that may end early. -/
abbrev Session := ExceptT Fault (StateM Session.State)

/-- What lies beside the tools, and not in the workspace. -/
structure Setting where
  /-- The sheet of blocks. -/
  blocks : Option Text
  /-- The block states. -/
  states : Option Text
  /-- Whether a tool can start the other ones. -/
  startsTools : Bool

namespace Session

def workspace : Session Workspace := return (← get).workspace

/-- Prints a line. -/
def print (line : Text) : Session Unit :=
  modify fun state => { state with printed := state.printed ++ [line] }

/-- Prints lines. -/
def printAll (lines : List Text) : Session Unit :=
  modify fun state => { state with printed := state.printed ++ lines }

/-- Goes on with the workspace that a change gives. -/
def change (edit : Workspace → Outcome Workspace) : Session Unit := do
  match edit (← workspace) with
  | .ok new => modify fun state => { state with workspace := new }
  | .error fault => throw fault

/-- The text of a file, with a replacement character for what is not UTF-8. -/
def readText (path : Text) : Session Text := do
  match (← workspace).read path with
  | .ok content => return content.toText
  | .error fault => throw fault

/-- The text of a file that has to be UTF-8. -/
def readStrictly (path : Text) : Session Text := do
  match (← workspace).read path with
  | .ok content =>
    match content.toText? with
    | some s => return s
    | none => throw .notUtf8
  | .error fault => throw fault

def writeText (path s : Text) : Session Unit := change (·.write path (.text s))

/-- Ends with a fault, if there is one. -/
def check : Option Fault → Session Unit
  | some fault => throw fault
  | none => return ()

/-- Prints the lines and ends. -/
def refuse (lines : List Text) : Session Unit := do
  printAll lines
  throw .refused

/-- Runs a tool as a step of another one: its files stay, and its lines are not of this session. -/
def step (setting : Setting) (tool : Session Unit) : Session Unit := do
  if !setting.startsTools then throw .stepFailed
  let (result, state) := StateT.run (ExceptT.run tool) ⟨← workspace, []⟩
  modify fun old => { old with workspace := state.workspace }
  match result with
  | .ok _ => return ()
  | .error _ => throw .stepFailed

/-- The conversion tables: three files of the workspace, and what lies beside the tools. -/
def tables (setting : Setting) : Session Tables := do
  let workspace ← workspace
  return Tables.load {
    entities := workspace.text? "entity_conversion.csv"
    blocks := setting.blocks
    sounds := workspace.text? "sound_conversion.csv"
    particles := workspace.text? "particle_conversion.csv"
    states := setting.states } true

/-- What a session came to. -/
structure Ending where
  workspace : Workspace
  printed : List Text
  fault : Option Fault

/-- Runs a session in a workspace. -/
def run (session : Session Unit) (workspace : Workspace) : Ending :=
  match StateT.run (ExceptT.run session) ⟨workspace, []⟩ with
  | (.ok _, state) => ⟨state.workspace, state.printed, none⟩
  | (.error fault, state) => ⟨state.workspace, state.printed, some fault⟩

/-- The printed lines as one text. -/
def Ending.output (ending : Ending) : Text := ending.printed.flatMap (· ++ ['\n'])

/-- The exit code: zero only without a fault. -/
def Ending.exitCode (ending : Ending) : Nat := if ending.fault.isSome then 1 else 0

end Session

end CommandUpgrade
