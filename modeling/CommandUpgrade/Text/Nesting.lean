import CommandUpgrade.Text.Blank
import CommandUpgrade.Text.Quote

/-!
# Nested text

A text is cut at a separator outside quotes, braces and brackets. A part is trimmed, and one of
white space alone is no part.
-/

namespace CommandUpgrade.Text

/-- What a scan over a text remembers. Braces and brackets may also be closed too often. -/
structure Nesting where
  /-- The open quote. -/
  isOpen : Option Char
  /-- The character passed last. -/
  before : Option Char
  braces : Int
  brackets : Int

namespace Nesting

/-- The scan in front of a text. -/
def start : Nesting := ⟨none, none, 0, 0⟩

/-- Whether the text is cut at this character. -/
def cuts (scan : Nesting) (sep c : Char) : Bool :=
  c == sep && scan.isOpen.isNone && scan.braces == 0 && scan.brackets == 0

/-- How a character changes the number of open pairs. -/
def change (opening closes c : Char) : Int :=
  if c == opening then 1 else if c == closes then -1 else 0

/-- The scan behind a character. -/
def step (scan : Nesting) (c : Char) : Nesting :=
  let isOpen := if quoteCounts scan.before c then toggle scan.isOpen c else scan.isOpen
  if isOpen.isSome then ⟨isOpen, some c, scan.braces, scan.brackets⟩
  else ⟨isOpen, some c, scan.braces + change '{' '}' c, scan.brackets + change '[' ']' c⟩

/-- The pieces between the cuts, untrimmed. -/
def pieces (sep : Char) (scan : Nesting) : Text → List Text
  | [] => [[]]
  | c :: r =>
    let rest := (scan.step c).pieces sep r
    if scan.cuts sep c then [] :: rest else extend c rest

end Nesting

/-- The trimmed texts that hold more than white space. -/
def solid (pieces : List Text) : List Text := (pieces.map trim).filter (!·.isEmpty)

/-- The parts of a text between separators. -/
def parts (sep : Char) (s : Text) : List Text := solid (Nesting.start.pieces sep s)

end CommandUpgrade.Text
