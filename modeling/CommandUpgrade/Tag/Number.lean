import CommandUpgrade.Number.Decimal
import CommandUpgrade.Tag.Basic

/-!
# Tags as numbers

A number, a truth value and a text that denotes a number can be taken for a number; other tags are
of the wrong kind.
-/

namespace CommandUpgrade.Tag

/-- The integer that a tag stands for, a decimal cut off toward zero. -/
def toInt : Tag → Outcome Int
  | .int n => .ok n
  | .bool b => .ok (if b then 1 else 0)
  | .float x => x.trunc
  | .text s => Number.readInt s
  | _ => .error .wrongKind

/-- The number that an integer was rounded to, which has to be finite. -/
def bounded : Binary64 → Outcome Binary64
  | .finite negative units => .ok (.finite negative units)
  | _ => .error .integerTooLarge

/-- The decimal that a tag stands for. -/
def toFloat : Tag → Outcome Binary64
  | .int n => bounded (.ofInt n)
  | .bool b => .ok (Binary64.ofInt (if b then 1 else 0))
  | .float x => .ok x
  | .text s => Binary64.read s
  | _ => .error .wrongKind

end CommandUpgrade.Tag
