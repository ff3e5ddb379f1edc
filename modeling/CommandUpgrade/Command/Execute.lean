import CommandUpgrade.Command.Argument
import CommandUpgrade.Command.Token

/-!
# Execute

`execute` runs a command as and at each selected entity, displaced by coordinates, and with `detect`
only where a block is. The command that is run is converted on its own.
-/

namespace CommandUpgrade.Command.Execute

open Text

/-- Whether the arguments ask for a block. -/
def detects (args : List Text) : Bool := args[4]? = some "detect".toList

/-- Whether a coordinate says no displacement. -/
def isZero (s : Text) : Bool :=
  ["~", "~0", "~0.0", "0", "0.0"].any fun zero => zero.toList = s

/-- The command that is run where a block is. -/
def detectNested? (args : List Text) : Option Text :=
  if 11 ≤ args.length then some (words (args.drop 10)) else none

/-- The command that is run. -/
def nested? (args : List Text) : Option Text :=
  if detects args then detectNested? args
  else if 5 ≤ args.length then some (words (args.drop 4))
  else none

/-- The part in front of the command that is run where a block is. -/
def detectFront (tables : Tables) (args : List Text) : Outcome Text := do
  match args with
  | target :: x :: y :: z :: _ :: x' :: y' :: z' :: block :: data :: _ =>
    let target ← selector tables target
    return words (["execute as".toList, target, "at @s positioned".toList] ++
      Coordinate.upgradeAll [x, y, z] ++ ["if block".toList] ++
      Coordinate.upgradeAll [x', y', z'] ++ [tables.blockName block data])
  | _ => return "execute"

/-- The part in front of the command that is run. -/
def front (tables : Tables) (args : List Text) : Outcome Text := do
  if detects args then detectFront tables args
  else
    match args with
    | target :: x :: y :: z :: _ =>
      let target ← selector tables target
      let place := Coordinate.upgradeAll [x, y, z]
      return words (["execute as".toList, target, "at @s".toList] ++
        if place.all isZero then [] else "positioned".toList :: place)
    | _ => return "execute"

/-- The command that is run is shorter than the arguments. -/
theorem length_nested?_lt {args : List Text} {s : Text} (h : nested? args = some s) :
    s.length < weight args := by
  have bound (n : Nat) (hn : 4 ≤ args.length) :
      (words (args.drop n)).length < weight args := by
    have := weight_drop_le n args
    rw [length_words]
    cases args with
    | nil => simp at hn
    | cons a args => simp at this ⊢; omega
  unfold nested? detectNested? at h
  split at h
  · split at h
    · cases h; exact bound 10 (by omega)
    · cases h
  · split at h
    · cases h; exact bound 4 (by omega)
    · cases h

end CommandUpgrade.Command.Execute
