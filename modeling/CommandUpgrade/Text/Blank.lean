import CommandUpgrade.Text.Basic
import CommandUpgrade.Text.CharTable

/-!
# White space

Texts are trimmed of the white space of every script, and of the four separator controls.
-/

namespace CommandUpgrade.Text

/-- The white space of every script, with the control characters that separate. -/
def blankTable : CharTable := [
  (0x9, 0xd), (0x1c, 0x20), (0x85, 0x85), (0xa0, 0xa0), (0x1680, 0x1680), (0x2000, 0x200a),
  (0x2028, 0x2029), (0x202f, 0x202f), (0x205f, 0x205f), (0x3000, 0x3000)]

def isBlank (c : Char) : Bool := blankTable.holds c

/-- The text without white space at its start. -/
def trimStart (s : Text) : Text := stripStart isBlank s

/-- The text without white space at its end. -/
def trimEnd (s : Text) : Text := stripEnd isBlank s

/-- The text without white space at either end. -/
def trim (s : Text) : Text := stripBoth isBlank s

end CommandUpgrade.Text
