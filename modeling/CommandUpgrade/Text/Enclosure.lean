import CommandUpgrade.Fault
import CommandUpgrade.Text.Quote

/-!
# Enclosing braces

The braces around a position of a text. Here a backslash takes the character behind it out of
account, in the direction of the scan.
-/

namespace CommandUpgrade.Text

/-- What a scan for a brace remembers. -/
structure BraceScan where
  /-- The open quote. -/
  isOpen : Option Char := none
  /-- Whether the character before was a backslash that counts. -/
  escaped : Bool := false
  depth : Int := 0

namespace BraceScan

/-- What a character does to the scan, if it is no brace that counts. -/
def pass? (scan : BraceScan) (c : Char) : Option BraceScan :=
  if scan.escaped then some { scan with escaped := false }
  else if c == '\\' then some { scan with escaped := true }
  else if isQuote c then some { scan with isOpen := toggle scan.isOpen c }
  else if scan.isOpen.isSome then some scan
  else if c == '{' || c == '}' then none
  else some scan

/-- How many characters stand in front of the opening brace of the first pair that is not closed,
in a text read backward. -/
def back? (scan : BraceScan) : Text → Option Nat
  | [] => none
  | c :: r =>
    match scan.pass? c with
    | some scan => (scan.back? r).map (· + 1)
    | none =>
      if c == '}' then ({ scan with depth := scan.depth + 1 }.back? r).map (· + 1)
      else if scan.depth == 0 then some 0
      else ({ scan with depth := scan.depth - 1 }.back? r).map (· + 1)

/-- How many characters a text has up to and with the brace that closes the first one. -/
def end? (scan : BraceScan) : Text → Option Nat
  | [] => none
  | c :: r =>
    match scan.pass? c with
    | some scan => (scan.end? r).map (· + 1)
    | none =>
      if c == '{' then ({ scan with depth := scan.depth + 1 }.end? r).map (· + 1)
      else if scan.depth == 1 then some 1
      else ({ scan with depth := scan.depth - 1 }.end? r).map (· + 1)

end BraceScan

/-- The position of the brace that opens the compound around position `i`. -/
def braceStart (s : Text) (i : Nat) : Outcome (Option Nat) :=
  if i < s.length then .ok (((({} : BraceScan).back? (s.take (i + 1)).reverse)).map (i - ·))
  else .error (.pastEnd .text)

/-- The position behind the brace that closes the one at position `i`. -/
def braceEnd? (s : Text) (i : Nat) : Option Nat :=
  (({} : BraceScan).end? (s.drop i)).map (i + ·)

/-- The start and the end of the compound around position `i`. -/
def enclosing (s : Text) (i : Nat) : Outcome (Option (Nat × Nat)) := do
  match ← braceStart s i with
  | none => return none
  | some start => return (braceEnd? s start).map (start, ·)

end CommandUpgrade.Text
