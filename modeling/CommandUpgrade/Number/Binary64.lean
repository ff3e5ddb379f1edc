import CommandUpgrade.Text.Basic
import CommandUpgrade.Fault

/-!
# Binary64 numbers

A finite number is a sign and a count of units, one unit being `2^-1074`, the least positive
number. Sums, products and comparisons are exact on the units; `ofRatio` rounds a ratio to the
nearest number, and to the one with the even last bit when two are equally near.
-/

namespace CommandUpgrade

/-- A binary64 number: a finite one is `units * 2^-1074` with its sign. -/
inductive Binary64
  | nan
  | infinite (negative : Bool)
  | finite (negative : Bool) (units : Nat)
  deriving DecidableEq, Repr, Inhabited

namespace Binary64

/-- The nearest integer to a ratio, the even one of two that are equally near. -/
def roundDiv (num den : Nat) : Nat :=
  let q := num / den
  let r := num % den
  if 2 * r < den || (2 * r == den && q % 2 == 0) then q else q + 1

/-- Units in one. -/
def one : Nat := Nat.pow 2 1074

/-- The nearest number to a ratio. -/
def ofRatio (negative : Bool) (num den : Nat) : Binary64 :=
  let scaled := num * one
  let shift := (scaled / den).log2 - 52
  let units := roundDiv scaled (den * Nat.pow 2 shift) * Nat.pow 2 shift
  if units < Nat.pow 2 2098 then finite negative units else infinite negative

def zero : Binary64 := finite false 0

/-- The nearest number to an integer. -/
def ofInt (n : Int) : Binary64 := ofRatio (n < 0) n.natAbs 1

/-- The signed count of units of a finite number. -/
def signedUnits (negative : Bool) (units : Nat) : Int := if negative then -units else units

/-! ## Arithmetic -/

def abs : Binary64 → Binary64
  | nan => nan
  | infinite _ => infinite false
  | finite _ units => finite false units

/-- The sum of a number and a half. -/
def addHalf : Binary64 → Binary64
  | finite negative units =>
    let sum := signedUnits negative units + one / 2
    ofRatio (sum < 0) sum.natAbs one
  | x => x

/-- The product of a number and a positive whole number. -/
def scale (factor : Nat) : Binary64 → Binary64
  | finite negative units => ofRatio negative (factor * units) one
  | x => x

/-- Whether one number is above another; nothing is above or below what is not a number. -/
def gt : Binary64 → Binary64 → Bool
  | nan, _ | _, nan => false
  | infinite false, infinite false => false
  | infinite false, _ => true
  | infinite true, _ => false
  | finite _ _, infinite negative => negative
  | finite m a, finite n b => signedUnits n b < signedUnits m a

/-- Whether the number has this integer value. -/
def eqInt (x : Binary64) (n : Int) : Bool :=
  match x with
  | finite negative units => signedUnits negative units == n * one
  | _ => false

/-- Whether the number is zero, of either sign. -/
def isZero : Binary64 → Bool
  | finite _ 0 => true
  | _ => false

/-- The integer part, toward zero. -/
def trunc : Binary64 → Outcome Int
  | nan => .error .integerOfNaN
  | infinite _ => .error .integerOfInfinity
  | finite negative units =>
    let n : Int := (units / one : Nat)
    .ok (if negative then -n else n)

/-- Whether the number is finite and whole. -/
def isWhole : Binary64 → Bool
  | finite _ units => units % one == 0
  | _ => false

end Binary64

end CommandUpgrade
