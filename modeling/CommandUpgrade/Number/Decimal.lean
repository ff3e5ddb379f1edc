import CommandUpgrade.Number.Binary64
import CommandUpgrade.Number.Integer

/-!
# Decimal text of binary64 numbers

Reading rounds the decimal to the nearest number. Writing takes the fewest digits that read back,
positional from `0.0001` up to `10^16` and with an exponent outside; or a fixed count of places,
the exact value rounded, a half to the even neighbour.
-/

namespace CommandUpgrade

open Text Number

namespace Binary64

/-! ## Reading -/

/-- The nearest number to `digits * 10^exponent`. -/
def ofDecimal (negative : Bool) (digits : Nat) (exponent : Int) : Binary64 :=
  if digits = 0 then finite negative 0
  else
    let length : Int := (digits.log2 / 3 : Nat) + 1
    if 400 < exponent then infinite negative
    else if length + exponent < -400 then finite negative 0
    else if 0 ≤ exponent then ofRatio negative (digits * Nat.pow 10 exponent.toNat) 1
    else ofRatio negative digits (Nat.pow 10 (-exponent).toNat)

/-- The digits behind the exponent mark `e`, with their sign. -/
def readExponent : Text → Option Int
  | [] => some 0
  | c :: r =>
    if c == 'e' || c == 'E' then
      let (negative, digits) := readSign r
      if digits.isEmpty || !digits.all isDecimal then none
      else
        let n : Int := digitsValue digits
        some (if negative then -n else n)
    else none

/-- An unsigned decimal without underscores. -/
def readUnsigned (negative : Bool) (s : Text) : Option Binary64 :=
  let whole := s.takeWhile isDecimal
  let rest := s.drop whole.length
  let places := match rest with
    | '.' :: r => r.takeWhile isDecimal
    | _ => []
  let tail := match rest with
    | '.' :: r => r.drop places.length
    | r => r
  if whole.isEmpty && places.isEmpty then none
  else (readExponent tail).map fun exponent =>
    ofDecimal negative (digitsValue (whole ++ places)) (exponent - places.length)

/-- The number that a text denotes, if it denotes one. -/
def read? (s : Text) : Option Binary64 :=
  let body := stripBoth isNumberBlank s
  let (negative, unsigned) := readSign body
  let word := unsigned.map Char.toLower
  if word = "inf".toList || word = "infinity".toList then some (infinite negative)
  else if word = "nan".toList then some nan
  else if underscoresFit none unsigned then
    readUnsigned negative (unsigned.filter (· != '_'))
  else none

/-- The number that a text denotes. -/
def read (s : Text) : Outcome Binary64 :=
  match read? s with
  | some x => .ok x
  | none => .error (.notDecimal s)

/-! ## The fewest digits that read back -/

/-- The exponent of the leading decimal digit of a positive count of units. -/
def leadingExponent (units : Nat) : Int :=
  ((Text.ofNat (units * Nat.pow 10 400 / one)).length : Int) - 401

/-- The decimals of `count` digits next to the number that read back to it: the digits and the
exponent of the last one. -/
def candidates (units : Nat) (count : Nat) : List (Nat × Int) :=
  let last : Int := leadingExponent units - count + 1
  let num := if 0 ≤ last then units else units * Nat.pow 10 (-last).toNat
  let den := if 0 ≤ last then one * Nat.pow 10 last.toNat else one
  let below := num / den
  let above := below + 1
  let nearer := if 2 * (num % den) < den || (2 * (num % den) == den && below % 2 == 0)
    then [below, above] else [above, below]
  (nearer.filter fun digits => ofDecimal false digits last == finite false units).map (·, last)

/-- The digits, and the exponent of the last one, of the shortest decimal that reads back. -/
def shortest (units : Nat) : Nat × Int :=
  ((List.range 17).firstM fun i => (candidates units (i + 1)).head?).getD
    (units / one, 0)

/-! ## Writing -/

/-- How the digits of a decimal are laid out. -/
structure Layout where
  /-- The least exponent of the leading digit that is written positionally. -/
  least : Int
  /-- The least exponent of the leading digit that is written with an exponent again. -/
  most : Int
  /-- The fewest digits of a written exponent. -/
  exponentDigits : Nat

/-- Positional from `0.0001` up to `10^16`; an exponent has a sign and two digits or more. -/
def Layout.plain : Layout := ⟨-4, 16, 2⟩

/-- Digits without the zeros at their end. -/
def significant (digits : Text) : Text := stripEnd (· == '0') digits

/-- The digits of a positive number in a layout, `leading` the exponent of the first one. -/
def Layout.write (layout : Layout) (digits : Text) (leading : Int) : Text :=
  if layout.least ≤ leading && leading < layout.most then
    if leading < 0 then
      '0' :: '.' :: List.replicate (-leading - 1).toNat '0' ++ digits
    else
      let places := leading.toNat + 1
      if digits.length ≤ places then
        digits ++ List.replicate (places - digits.length) '0' ++ ['.', '0']
      else digits.take places ++ '.' :: digits.drop places
  else
    let exponent := Text.ofNat leading.natAbs
    digits.take 1 ++ (if digits.length ≤ 1 then [] else '.' :: digits.drop 1) ++ 'e' ::
      (if leading < 0 then '-' else '+') ::
      List.replicate (layout.exponentDigits - exponent.length) '0' ++ exponent

/-- The shortest decimal that reads back. -/
def toText : Binary64 → Text
  | nan => "nan"
  | infinite false => "inf"
  | infinite true => "-inf"
  | finite negative units =>
    let sign : Text := if negative then ['-'] else []
    if units = 0 then sign ++ "0.0"
    else
      let (digits, last) := shortest units
      let all := Text.ofNat digits
      sign ++ Layout.plain.write (significant all) (last + all.length - 1)

/-- The number with a fixed count of places. -/
def toFixed (places : Nat) : Binary64 → Text
  | nan => "nan"
  | infinite false => "inf"
  | infinite true => "-inf"
  | finite negative units =>
    let sign : Text := if negative then ['-'] else []
    let digits := Text.ofNat (roundDiv (units * Nat.pow 10 places) one)
    let padded := List.replicate (places + 1 - digits.length) '0' ++ digits
    sign ++ padded.take (padded.length - places) ++ '.' :: padded.drop (padded.length - places)

end Binary64

end CommandUpgrade
