import CommandUpgrade.Text.Pattern

/-!
# Selectors without an anchor

A selector with a volume (`dx`, `dy`, `dz`) but no position (`x`, `y`, `z`) selects around whoever
runs the command. `hasUnanchored` finds the commands with such a selector.
-/

namespace CommandUpgrade.Selector

open Text

/-- A selector with arguments, as it is found inside a command. -/
def bracketed : Pattern :=
  ("@" : String) ++ .one (Pattern.of ['p', 'a', 'r', 'e', 's']) ++ .many 0 (fun c => !isBlank c) ++
    ("[" : String) ++ .many 0 (Pattern.no [']']) ++ ("]" : String)

/-- The names of the arguments of a selector. -/
def argumentNames (selector : Text) : List Text :=
  let arguments := dropLast 1 (((splitFirst? '[' selector).map (·.2)).getD [])
  (split ',' arguments).filterMap fun argument =>
    (splitFirst? '=' argument).map fun (name, _) => trim name

/-- Whether argument names give a volume but no position. -/
def isUnanchored (names : List Text) : Bool :=
  ["dx".toList, "dy".toList, "dz".toList].any names.contains &&
    !(["x".toList, "y".toList, "z".toList].any names.contains)

/-- Whether a command has a selector with a volume but no position. -/
def hasUnanchored (command : Text) : Bool :=
  (bracketed.findAll command).any fun m => isUnanchored (argumentNames m.whole)

end CommandUpgrade.Selector
