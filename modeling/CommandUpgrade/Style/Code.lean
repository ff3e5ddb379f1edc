import CommandUpgrade.Fault
import CommandUpgrade.Text.LowerCase

/-!
# Formatting codes

A section sign and one of `0`-`9`, `a`-`f`, `k`-`o` and `r` format the text behind them. Only small
letters, and not `k`, divide a text. A piece between codes that itself begins with a section sign
acts as the code of its second character, and what follows in the piece is lost.
-/

namespace CommandUpgrade.Style

open Text

/-- The section sign. -/
def sign : Char := '§'

/-- The characters that make a code behind a section sign. -/
def isCode (c : Char) : Bool :=
  ('0' ≤ c && c ≤ '9') || ('a' ≤ c && c ≤ 'f') ||
    c == 'r' || c == 'l' || c == 'o' || c == 'm' || c == 'n'

/-- The name of a colour code. -/
def color? (c : Char) : Option Text :=
  match c with
  | '0' => some "black" | '1' => some "dark_blue" | '2' => some "dark_green"
  | '3' => some "dark_aqua" | '4' => some "dark_red" | '5' => some "dark_purple"
  | '6' => some "gold" | '7' => some "gray" | '8' => some "dark_gray" | '9' => some "blue"
  | 'a' => some "green" | 'b' => some "aqua" | 'c' => some "red" | 'd' => some "light_purple"
  | 'e' => some "yellow" | 'f' => some "white"
  | _ => none

/-- The name of a style code. -/
def style? (c : Char) : Option Text :=
  match c with
  | 'l' => some "bold" | 'm' => some "strikethrough" | 'n' => some "underline"
  | 'o' => some "italic"
  | _ => none

/-- Whether the text holds a section sign. -/
def isStyled (s : Text) : Bool := s.contains sign

/-- The text before the first code, and each code with the text behind it. -/
def divide : Text → Text × List (Char × Text)
  | [] => ([], [])
  | [c] => ([c], [])
  | c :: d :: r =>
    if c = sign ∧ isCode d then
      let (piece, rest) := divide r
      ([], (d, piece) :: rest)
    else
      let (piece, rest) := divide (d :: r)
      (c :: piece, rest)

/-- The text without its codes. -/
def plain (s : Text) : Text :=
  let (piece, rest) := divide s
  piece ++ rest.flatMap (·.2)

/-- A step of a formatted text. -/
inductive Mark
  | code (c : Char)
  | words (s : Text)
  deriving DecidableEq, Repr

/-- The steps of a piece between codes. -/
def marksOfPiece : Text → Outcome (List Mark)
  | [] => .ok []
  | c :: r =>
    if c = sign then
      match r with
      | [] => .error (.pastEnd .text)
      | d :: _ => .ok [.code (lowerChar d)]
    else .ok [.words (c :: r)]

/-- The steps of a formatted text. -/
def marks (s : Text) : Outcome (List Mark) := do
  let (piece, rest) := divide s
  let first ← marksOfPiece piece
  let others ← rest.mapM fun (c, piece) => return .code c :: (← marksOfPiece piece)
  return first ++ others.flatten

/-- The name of a colour, white for what is none. -/
def colorName (code : Text) : Text :=
  match code with
  | [c] => (color? c).getD "white"
  | _ => "white"

/-- The name of a colour whose code may be a capital letter. -/
def colorNameAnyCase (code : Text) : Text := colorName (lower code)

/-- The text with each code replaced by its name in angle brackets. -/
def spelled (s : Text) : Text :=
  let (piece, rest) := divide s
  piece ++ rest.flatMap fun (c, piece) =>
    let name := if c == 'r' then some "reset".toList else color? c <|> style? c
    '<' :: name.getD [] ++ '>' :: piece

end CommandUpgrade.Style
