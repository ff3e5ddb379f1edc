import CommandUpgrade.Text.Blank
import CommandUpgrade.Text.Digit
import CommandUpgrade.Fault

/-!
# Reading integers

An integer is written with a sign, decimal digits of any script and single underscores between
digits; white space may stand around it. At most 4300 digits are read.
-/

namespace CommandUpgrade.Number

open Text

/-- White space that may stand around a number: not the four separator controls. -/
def isNumberBlank (c : Char) : Bool := isBlank c && !(0x1c ≤ c.toNat && c.toNat ≤ 0x1f)

/-- The sign in front of a number, whether it is a minus, and what follows it. -/
def readSign : Text → Bool × Text
  | '-' :: r => (true, r)
  | '+' :: r => (false, r)
  | s => (false, s)

/-- The value of a run of decimal digits of any script. -/
def digitsValue (digits : Text) : Nat :=
  digits.foldl (fun n c => 10 * n + (decimalValue? c).getD 0) 0

/-- Whether every underscore stands between two decimal digits. -/
def underscoresFit (before : Option Char) : Text → Bool
  | [] => true
  | '_' :: r => before.any isDecimal && r.head?.any isDecimal && underscoresFit (some '_') r
  | c :: r => underscoresFit (some c) r

/-- The most digits that are read as an integer. -/
def digitLimit : Nat := 4300

/-- The integer that a text denotes. -/
def readInt (s : Text) : Outcome Int :=
  let (negative, body) := readSign (stripBoth isNumberBlank s)
  let run := body.takeWhile fun c => isDecimal c || c == '_'
  let digits := run.filter isDecimal
  if digits.isEmpty || !underscoresFit none run then .error (.notInteger s)
  else if digitLimit < digits.length then .error (.tooManyDigits digits.length)
  else if run.length < body.length then .error (.notInteger s)
  else
    let n : Int := digitsValue digits
    .ok (if negative then -n else n)

end CommandUpgrade.Number
