import CommandUpgrade.Tag.Basic
import CommandUpgrade.Number.Decimal

/-!
# Reading JSON

A JSON text is one value with white space around it. The names `NaN`, `Infinity` and `-Infinity`
are numbers, control characters may not stand in strings, and of two members of one name the last
one counts, in the place of the first.
-/

namespace CommandUpgrade.Json

open Text

def isSpace (c : Char) : Bool := c == ' ' || c == '\t' || c == '\n' || c == '\r'

def skip (s : Text) : Text := s.dropWhile isSpace

/-! ## Strings -/

/-- What stands before the quote that closes a string, still escaped, and what follows it. -/
def cutString : Text → Option (Text × Text)
  | [] => none
  | '"' :: r => some ([], r)
  | '\\' :: c :: r => (cutString r).map fun (body, rest) => ('\\' :: c :: body, rest)
  | c :: r => (cutString r).map fun (body, rest) => (c :: body, rest)

def hexValue? (c : Char) : Option Nat :=
  if '0' ≤ c ∧ c ≤ '9' then some (c.toNat - '0'.toNat)
  else if 'a' ≤ c ∧ c ≤ 'f' then some (c.toNat - 'a'.toNat + 10)
  else if 'A' ≤ c ∧ c ≤ 'F' then some (c.toNat - 'A'.toNat + 10)
  else none

/-- The code unit of four hexadecimal digits. -/
def unit? (digits : List Char) : Option Nat :=
  digits.foldlM (fun n c => (hexValue? c).map (16 * n + ·)) 0

/-- The character that a backslash and a letter stand for. -/
def escaped? (c : Char) : Option Nat :=
  if c == '"' || c == '\\' || c == '/' then some c.toNat
  else if c == 'b' then some 0x08
  else if c == 'f' then some 0x0c
  else if c == 'n' then some 0x0a
  else if c == 'r' then some 0x0d
  else if c == 't' then some 0x09
  else none

/-- The code points and code units of an escaped string. -/
def units : Text → Option (List Nat)
  | [] => some []
  | '\\' :: 'u' :: a :: b :: c :: d :: r => do
    let n ← unit? [a, b, c, d]
    return n :: (← units r)
  | '\\' :: c :: r => do
    let n ← escaped? c
    return n :: (← units r)
  | c :: r => if c == '\\' || c.toNat < 0x20 then none else (units r).map (c.toNat :: ·)

/-- Joins each pair of surrogates to one character. -/
def joinUnits : List Nat → Text
  | [] => []
  | [n] => [Char.ofNat n]
  | n :: m :: r =>
    if 0xd800 ≤ n ∧ n < 0xdc00 ∧ 0xdc00 ≤ m ∧ m < 0xe000 then
      Char.ofNat (0x10000 + (n - 0xd800) * 0x400 + (m - 0xdc00)) :: joinUnits r
    else Char.ofNat n :: joinUnits (m :: r)

/-- The string behind an opening quote, and what follows it. -/
def readString (s : Text) : Option (Text × Text) := do
  let (body, rest) ← cutString s
  return (joinUnits (← units body), rest)

/-! ## Numbers -/

/-- The digits of a fraction behind its point, if there are any. -/
def fraction (s : Text) : Text :=
  match s with
  | '.' :: r => r.takeWhile Char.isDigit
  | _ => []

/-- The characters of an exponent, if it is complete. -/
def exponent (s : Text) : Text :=
  match s with
  | [] => []
  | e :: r =>
    if e == 'e' || e == 'E' then
      let sign := r.takeWhile (fun c => c == '+' || c == '-') |>.take 1
      let digits := (r.drop sign.length).takeWhile Char.isDigit
      if digits.isEmpty then [] else e :: sign ++ digits
    else []

/-- A number: no zero in front, a point only before digits, an exponent only with digits. -/
def readNumber (s : Text) : Option (Tag × Text) :=
  let sign : Text := if s.head? == some '-' then ['-'] else []
  let body := s.drop sign.length
  let digits := body.takeWhile Char.isDigit
  let whole := if digits.head? == some '0' then ['0'] else digits
  if whole.isEmpty then none
  else
    let rest := body.drop whole.length
    let places := fraction rest
    let rest := if places.isEmpty then rest else rest.drop (places.length + 1)
    let power := exponent rest
    let rest := rest.drop power.length
    if places.isEmpty && power.isEmpty then
      match Number.readInt (sign ++ whole) with
      | .ok n => some (.int n, rest)
      | .error _ => none
    else
      let point : Text := if places.isEmpty then [] else '.' :: places
      (Binary64.read? (sign ++ whole ++ point ++ power)).map (.float ·, rest)

/-! ## Values -/

/-- The words that are values. -/
def constants : List (String × Tag) := [
  ("null", .null), ("true", .bool true), ("false", .bool false),
  ("NaN", .float .nan), ("Infinity", .float (.infinite false)),
  ("-Infinity", .float (.infinite true))]

/-- A value that is a word or a number. -/
def readAtom (s : Text) : Option (Tag × Text) :=
  match constants.findSome? fun (word, tag) => (after? word.toList s).map (tag, ·) with
  | some found => some found
  | none => readNumber s

mutual

/-- A value and what follows it. `fuel` bounds the values that may still be opened. -/
def readValue (fuel : Nat) (s : Text) : Option (Tag × Text) :=
  match fuel, s with
  | 0, _ => none
  | _ + 1, '"' :: r => (readString r).map fun (body, rest) => (.text body, rest)
  | fuel + 1, '[' :: r =>
    match skip r with
    | ']' :: rest => some (.list [], rest)
    | r => (readItems fuel r).map fun (items, rest) => (.list items, rest)
  | fuel + 1, '{' :: r =>
    match skip r with
    | '}' :: rest => some (.compound [], rest)
    | r => (readMembers fuel [] r).map fun (entries, rest) => (.compound entries, rest)
  | _ + 1, s => readAtom s

/-- The items of a list up to its closing bracket, and what follows it. -/
def readItems (fuel : Nat) (s : Text) : Option (List Tag × Text) :=
  match fuel with
  | 0 => none
  | fuel + 1 => do
    let (tag, rest) ← readValue fuel s
    match skip rest with
    | ']' :: rest => return ([tag], rest)
    | ',' :: rest =>
      let (items, rest) ← readItems fuel (skip rest)
      return (tag :: items, rest)
    | _ => none

/-- The members of an object up to its closing brace, and what follows it. -/
def readMembers (fuel : Nat) (entries : Entries) (s : Text) : Option (Entries × Text) :=
  match fuel, s with
  | fuel + 1, '"' :: r => do
    let (name, rest) ← readString r
    match skip rest with
    | ':' :: rest =>
      let (tag, rest) ← readValue fuel (skip rest)
      let entries := Entries.set name tag entries
      match skip rest with
      | '}' :: rest => return (entries, rest)
      | ',' :: rest => readMembers fuel entries (skip rest)
      | _ => none
    | _ => none
  | _, _ => none

end

/-- The value of a JSON text. Every value takes a character, so its length bounds their number. -/
def read? (s : Text) : Option Tag := do
  let (tag, rest) ← readValue (s.length + 1) (skip s)
  if (skip rest).isEmpty then some tag else none

end CommandUpgrade.Json
