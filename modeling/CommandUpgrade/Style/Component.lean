import CommandUpgrade.Json.Writer
import CommandUpgrade.Style.Code

/-!
# Text components

A formatted text becomes a list of components, each a compound of its text and of the formatting
in force at its first character. The converters differ in what a code does to the formatting and in
the order of the fields; a `Machine` says which.
-/

namespace CommandUpgrade.Style

open Text

/-- A field of a component. -/
def field (name : String) (tag : Tag) : Text × Tag := (name.toList, tag)

/-- The field that holds the text of a component. -/
def words (s : Text) : Text × Tag := field "text" (.text s)

/-- The field that says that a component is upright. -/
def upright : Text × Tag := field "italic" (.bool false)

/-- How codes change the formatting, and how a component is made. -/
structure Machine where
  /-- The formatting in front of a text. -/
  start : Entries
  /-- The fields that a colour or a reset code leaves besides the colour. -/
  base : Entries
  /-- Whether bold, strikethrough and underline are kept. -/
  styles : Bool
  /-- Whether the text stands in front of the formatting. -/
  textFirst : Bool
  /-- Whether the formatting ends with the text that it was for. -/
  once : Bool

namespace Machine

/-- The formatting after a code. -/
def apply (m : Machine) (format : Entries) (code : Char) : Entries :=
  match color? code with
  | some color => field "color" (.text color) :: m.base
  | none =>
    if code == 'r' then m.base
    else
      match style? code with
      | some style =>
        if code == 'o' || m.styles then Entries.set style (.bool true) format else format
      | none => format

/-- The component of a text in a formatting. -/
def component (m : Machine) (format : Entries) (s : Text) : Entries :=
  if m.textFirst then words s :: format else format ++ [words s]

/-- What a machine holds: the components so far, the text since the last code, the formatting. -/
structure State where
  done : List Entries
  pending : Text
  format : Entries

/-- Gives out the pending text as a component. -/
def flush (m : Machine) (state : State) : State :=
  if state.pending.isEmpty then state
  else ⟨state.done ++ [m.component state.format state.pending], [],
    if m.once then [] else state.format⟩

/-- A step of a machine. -/
def step (m : Machine) (state : State) : Mark → State
  | .code c =>
    let state := m.flush state
    { state with format := m.apply state.format c }
  | .words s => { state with pending := state.pending ++ s }

/-- The machine behind the steps of a text. -/
def run (m : Machine) (marks : List Mark) : State :=
  marks.foldl m.step ⟨[], [], m.start⟩

end Machine

/-- A component with `italic` false at its end, if it has no `italic`. -/
def settled (component : Entries) : Entries :=
  if Entries.has "italic" component then component else component ++ [upright]

/-- A component whose first fields are colour, italic and text. -/
def reordered (component : Entries) : Entries :=
  let first := ["color", "italic", "text"].map String.toList
  first.filterMap (fun name => (Entries.get? name component).map (name, ·)) ++
    component.filter fun (name, _) => !first.contains name

/-- A component with its text in front. -/
def textFirst (component : Entries) : Entries :=
  match Entries.get? "text" component with
  | some tag => ("text".toList, tag) :: component.filter fun (name, _) => name ≠ "text".toList
  | none => component

/-- A component of a text without formatting. -/
def plainComponent (s : Text) : Entries := [words s, upright]

/-! ## Messages -/

/-- Codes add up until the next colour or reset. -/
def messageMachine : Machine := ⟨[], [], true, true, false⟩

/-- The components of a message. -/
def messageComponents (s : Text) : Outcome (List Entries) := do
  let state := messageMachine.run (← marks s)
  return (messageMachine.flush state).done.map settled

/-- The tag of a message: one component, a list of several, or an empty text. -/
def messageTag (s : Text) : Outcome Tag := do
  if !isStyled s then return .compound (plainComponent s)
  match ← messageComponents s with
  | [] => return .compound [words []]
  | [component] => return .compound component
  | components => return .list (components.map .compound)

/-- The JSON of a message. -/
def messageJson (s : Text) : Outcome Text := (messageTag s).map Tag.toJson

/-! ## Names -/

/-- Codes add up and are used up by the text behind them. -/
def nameMachine : Machine := ⟨[], [], true, true, true⟩

/-- The components of a name. Formatting at the end is kept with an empty text. -/
def nameComponents (s : Text) : Outcome (List Entries) := do
  let state := nameMachine.run (← marks s)
  let components :=
    if state.pending.isEmpty then
      if state.done.isEmpty || state.format.isEmpty then state.done
      else state.done ++ [state.format ++ [words []]]
    else (nameMachine.flush state).done
  return components.map fun component => reordered (settled component)

/-- The tag of a name: one upright component, or the list of the components of a styled text. -/
def nameTag (s : Text) : Outcome Tag := do
  if !isStyled s then return .compound (plainComponent s)
  return .list ((← nameComponents s).map .compound)

/-- The JSON of a name. -/
def nameJson (s : Text) : Outcome Text := (nameTag s).map Tag.toJson

/-! ## Lines -/

/-- Only colour and italic are kept, and every code but italic makes the text upright. -/
def lineMachine : Machine := ⟨[], [upright], false, false, false⟩

/-- The components of a line. Formatting at the end is kept with an empty text, and a line has one
component at least. -/
def lineComponents (s : Text) : Outcome (List Entries) := do
  let state := lineMachine.run (← marks s)
  let components :=
    if state.pending.isEmpty then
      if state.done.isEmpty || state.format.isEmpty then state.done
      else state.done ++ [state.format ++ [words []]]
    else (lineMachine.flush state).done
  if components.isEmpty then return [plainComponent []]
  return components.map settled

/-! ## Lore lines of equipment -/

/-- Codes add up, and the text is upright unless a code says otherwise. -/
def loreMachine : Machine := ⟨[upright], [upright], true, false, false⟩

/-- The components of a lore line. -/
def loreComponents (s : Text) : Outcome (List Entries) := do
  if !isStyled s then return [plainComponent s]
  let state := loreMachine.run (← marks s)
  return (loreMachine.flush state).done.map settled

/-- The JSON of a lore line. -/
def loreJson (s : Text) : Outcome Text :=
  (loreComponents s).map fun components => (Tag.list (components.map .compound)).toJson

end CommandUpgrade.Style
