import CommandUpgrade.Text.Basic

/-!
# UTF-8

Bytes that no character begins with are read as the replacement character, one for each longest
start of a character that breaks off. A strict reading refuses them.
-/

namespace CommandUpgrade.Text

/-- The character that stands for bytes that are none. -/
def replacement : Char := '�'

/-- The bytes that follow a first byte: how many, the bounds of the first of them, and the bits that
the first byte gives. -/
def sequence? (b : Nat) : Option (Nat × Nat × Nat × Nat) :=
  if b < 0x80 then some (0, 0x80, 0xbf, b)
  else if 0xc2 ≤ b ∧ b ≤ 0xdf then some (1, 0x80, 0xbf, b - 0xc0)
  else if b = 0xe0 then some (2, 0xa0, 0xbf, 0)
  else if b = 0xed then some (2, 0x80, 0x9f, 0xd)
  else if 0xe1 ≤ b ∧ b ≤ 0xef then some (2, 0x80, 0xbf, b - 0xe0)
  else if b = 0xf0 then some (3, 0x90, 0xbf, 0)
  else if 0xf1 ≤ b ∧ b ≤ 0xf3 then some (3, 0x80, 0xbf, b - 0xf0)
  else if b = 0xf4 then some (3, 0x80, 0x8f, 4)
  else none

/-- A character that is being read: the bytes owed, the bounds of the next one, the bits so far. -/
structure Partial where
  owed : Nat
  least : Nat
  most : Nat
  bits : Nat

/-- Reads a first byte: the characters it completes, and the character it begins. -/
def firstByte (b : Nat) : Text × Option Partial :=
  match sequence? b with
  | none => ([replacement], none)
  | some (0, _, _, bits) => ([Char.ofNat bits], none)
  | some (owed, least, most, bits) => ([], some ⟨owed, least, most, bits⟩)

/-- Reads a byte: the characters it completes, and the character that is being read after it. -/
def readByte (reading : Option Partial) (b : Nat) : Text × Option Partial :=
  match reading with
  | none => firstByte b
  | some p =>
    if p.least ≤ b ∧ b ≤ p.most then
      let bits := p.bits * 0x40 + (b - 0x80)
      if p.owed ≤ 1 then ([Char.ofNat bits], none) else ([], some ⟨p.owed - 1, 0x80, 0xbf, bits⟩)
    else
      let (chars, reading) := firstByte b
      (replacement :: chars, reading)

/-- The text of bytes, with a replacement character for what is not UTF-8. -/
def ofUtf8 (bytes : List Nat) : Text :=
  let (chars, reading) := bytes.foldl (fun (chars, reading) b =>
    let (new, reading) := readByte reading b
    (new.foldl (fun all c => c :: all) chars, reading)) (([] : Text), (none : Option Partial))
  (if reading.isSome then replacement :: chars else chars).reverse

/-- The bytes of a character. -/
def charUtf8 (c : Char) : List Nat :=
  let n := c.toNat
  if n < 0x80 then [n]
  else if n < 0x800 then [0xc0 + n / 0x40, 0x80 + n % 0x40]
  else if n < 0x10000 then [0xe0 + n / 0x1000, 0x80 + n / 0x40 % 0x40, 0x80 + n % 0x40]
  else [0xf0 + n / 0x40000, 0x80 + n / 0x1000 % 0x40, 0x80 + n / 0x40 % 0x40, 0x80 + n % 0x40]

/-- The bytes of a text. -/
def toUtf8 (s : Text) : List Nat := s.flatMap charUtf8

/-- The text of bytes, if they are UTF-8: if the text has these bytes. -/
def ofUtf8? (bytes : List Nat) : Option Text :=
  let s := ofUtf8 bytes
  if toUtf8 s = bytes then some s else none

/-- The text with every line end written as a line feed. -/
def normalLines : Text → Text
  | [] => []
  | '\r' :: '\n' :: r => '\n' :: normalLines r
  | c :: r => (if c == '\r' then '\n' else c) :: normalLines r

end CommandUpgrade.Text
