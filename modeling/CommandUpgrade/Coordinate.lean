import CommandUpgrade.Number.Decimal
import CommandUpgrade.Number.Integer

/-!
# Coordinates

A relative coordinate is a tilde and an offset. Its offset is written in the usual form, and an
offset of zero is left out.
-/

namespace CommandUpgrade.Coordinate

open Text

/-- A coordinate whose offset is written in the usual form. -/
def upgrade (s : Text) : Text :=
  match s with
  | '~' :: offset =>
    if offset.isEmpty || offset = ['0'] then ['~']
    else if offset.contains '.' then
      match Binary64.read? offset with
      | some x => '~' :: x.toText
      | none => s
    else
      match Number.readInt offset with
      | .ok n => '~' :: ofInt n
      | .error _ => s
  | _ => s

/-- The coordinates of a list, in the usual form. -/
def upgradeAll (parts : List Text) : List Text := parts.map upgrade

end CommandUpgrade.Coordinate
