import CommandUpgrade.Number.Integer
import CommandUpgrade.Text.Identifier
import CommandUpgrade.Text.Pattern

/-!
# Replacement texts

In a replacement text a backslash has a meaning: before a number it stands for a kept text of the
match, before some letters for a control character. Before a letter without meaning it is a fault,
and so is a backslash at the end.
-/

namespace CommandUpgrade

/-- A replacement text, read: words, and kept texts by number, zero being the whole match. -/
inductive TemplatePart
  | words (s : Text)
  | group (i : Nat)
  deriving DecidableEq, Repr

namespace Template

open Text

/-- A character, or a character behind a backslash, or a lone backslash at the end. -/
inductive Token
  | char (c : Char)
  | escape (c : Char)
  | open
  deriving DecidableEq, Repr

def tokens : Text → List Token
  | [] => []
  | [c] => if c = '\\' then [.open] else [.char c]
  | c :: d :: r => if c = '\\' then .escape d :: tokens r else .char c :: tokens (d :: r)

def Token.text : Token → Text
  | char c => [c]
  | escape c => ['\\', c]
  | .open => ['\\']

/-- The control character that a letter behind a backslash stands for. -/
def control? (c : Char) : Option Char :=
  match c with
  | 'a' => some '\x07' | 'b' => some '\x08' | 'f' => some '\x0c' | 'n' => some '\n'
  | 'r' => some '\r' | 't' => some '\t' | 'v' => some '\x0b' | '\\' => some '\\'
  | _ => none

def isOctal (c : Char) : Bool := '0' ≤ c && c ≤ '7'

/-- The value of digits in a base. -/
def value (base : Nat) (digits : Text) : Nat :=
  digits.foldl (fun n c => base * n + (c.toNat - '0'.toNat)) 0

/-- The characters of the next tokens, up to `n` of them, that are of a class. -/
def following (n : Nat) (p : Char → Bool) (rest : List Token) : Text :=
  ((rest.take n).takeWhile fun
    | .char c => p c
    | _ => false).flatMap Token.text

/-- What stands for a part: how many more tokens it takes, and the part or its fault, with the
distance of the fault from the backslash. -/
abbrev Reading := Nat × Except (TemplateFault × Nat) TemplatePart

/-- A kept text, if there is one of that number. -/
def kept (groups i distance : Nat) : Except (TemplateFault × Nat) TemplatePart :=
  if groups < i then .error (.group i, distance) else .ok (.group i)

/-- A kept text by its number in angle brackets. -/
def readNamed (groups : Nat) (rest : List Token) : Reading :=
  match rest with
  | .char '<' :: rest =>
    let inside := rest.takeWhile (· != .char '>')
    let name := inside.flatMap Token.text
    let used := 1 + inside.length
    if inside.length = rest.length then
      (used, .error (if name.isEmpty then .missingName else .openName, 3))
    else if name.isEmpty then (used + 1, .error (.missingName, 3))
    else if isIdentifier name then (used + 1, .error (.unknownName name, 3))
    else
      match Number.readInt name with
      | .ok (.ofNat i) => (used + 1, kept groups i 3)
      | _ => (used + 1, .error (.badName name, 3))
  | _ => (0, .error (.missingBracket, 2))

/-- What a backslash and the character behind it stand for. -/
def readEscape (groups : Nat) (c : Char) (rest : List Token) : Reading :=
  if c = 'g' then readNamed groups rest
  else if c = '0' then
    let digits := following 2 isOctal rest
    (digits.length, .ok (.words [Char.ofNat (value 8 digits % 256)]))
  else if c.isDigit then
    match following 1 Char.isDigit rest with
    | [] => (0, kept groups (value 10 [c]) 1)
    | more =>
      let octal := c :: following 2 isOctal rest
      if isOctal c && octal.length = 3 then
        (2, if 255 < value 8 octal then .error (.octal octal, 0)
          else .ok (.words [Char.ofNat (value 8 octal)]))
      else (1, kept groups (value 10 (c :: more)) 1)
  else
    match control? c with
    | some control => (0, .ok (.words [control]))
    | none =>
      (0, if c.isAlpha then .error (.escape c, 0) else .ok (.words ['\\', c]))

/-- The parts of a replacement text for a match with `groups` kept texts. -/
def read (groups : Nat) (template : Text) : Outcome (List TemplatePart) :=
  go 0 0 (tokens template)
where
  /-- `skip` tokens belong to the part read last, and `position` characters stand in front. -/
  go (skip position : Nat) : List Token → Outcome (List TemplatePart)
    | [] => .ok []
    | token :: rest =>
      match skip with
      | skip + 1 => go skip (position + token.text.length) rest
      | 0 =>
        let (used, part) : Reading :=
          match token with
          | .char c => (0, .ok (.words [c]))
          | .escape c => readEscape groups c rest
          | .open => (0, .error (.openEscape, 0))
        if (rest.take (used + 1)).contains .open then
          .error (.template .openEscape template (template.length - 1))
        else
          match part with
          | .error (fault, distance) => .error (.template fault template (position + distance))
          | .ok part => (part :: ·) <$> go used (position + token.text.length) rest

/-- The replacement for a match. -/
def fill (parts : List TemplatePart) (m : Match) : Text :=
  parts.flatMap fun
    | .words s => s
    | .group 0 => m.whole
    | .group i => m.group i

end Template

/-- Every match replaced by what a replacement text says; the pattern keeps `groups` texts. -/
def Pattern.replaceBy (p : Pattern) (groups : Nat) (template s : Text) : Outcome Text := do
  let parts ← Template.read groups template
  return p.replace (Template.fill parts) s

end CommandUpgrade
