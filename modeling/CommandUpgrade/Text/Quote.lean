import CommandUpgrade.Text.Basic

/-!
# Quotes

Scanners that skip quoted parts share one rule: a quote counts unless a backslash stands directly
before it, the first one opens, and only the same quote closes.
-/

namespace CommandUpgrade.Text

def isQuote (c : Char) : Bool := c == '"' || c == '\''

/-- Whether `c` is a quote that counts, `before` being the character in front of it. -/
def quoteCounts (before : Option Char) (c : Char) : Bool := isQuote c && before != some '\\'

/-- The open quote after a quote that counts. -/
def toggle (isOpen : Option Char) (quote : Char) : Option Char :=
  match isOpen with
  | none => some quote
  | some q => if quote == q then none else some q

/-- Puts a character in front of the first piece. -/
def extend (c : Char) : List Text → List Text
  | [] => [[c]]
  | piece :: pieces => (c :: piece) :: pieces

/-- The pieces between the separators that stand outside quotes and outside pairs of opening and
closing characters, which are counted together. -/
def splitOutside (sep : Char) (opens closes : Char → Bool) (s : Text) : List Text :=
  go none none 0 s
where
  /-- `isOpen` is the open quote, `before` the character in front, `depth` the open pairs. -/
  go (isOpen before : Option Char) (depth : Int) : Text → List Text
    | [] => [[]]
    | c :: r =>
      if quoteCounts before c then extend c (go (toggle isOpen c) (some c) depth r)
      else if isOpen.isSome then extend c (go isOpen (some c) depth r)
      else if opens c then extend c (go isOpen (some c) (depth + 1) r)
      else if closes c then extend c (go isOpen (some c) (depth - 1) r)
      else if c == sep && depth == 0 then [] :: go isOpen (some c) depth r
      else extend c (go isOpen (some c) depth r)

/-- The position, from the start of the text, of the character that closes the opening character
at its head, quoted parts skipped. `before` stands in front of the text. -/
def closing? (opening closes : Char) (before : Option Char) (s : Text) : Option Nat :=
  go none 0 before s
where
  /-- `isOpen` is the open quote and `depth` the number of openings not closed yet. -/
  go (isOpen : Option Char) (depth : Int) (before : Option Char) : Text → Option Nat
    | [] => none
    | c :: r =>
      if quoteCounts before c then (go (toggle isOpen c) depth (some c) r).map (· + 1)
      else if isOpen.isSome then (go isOpen depth (some c) r).map (· + 1)
      else if c == opening then (go isOpen (depth + 1) (some c) r).map (· + 1)
      else if c == closes then
        if depth == 1 then some 0 else (go isOpen (depth - 1) (some c) r).map (· + 1)
      else (go isOpen depth (some c) r).map (· + 1)

/-- The character in front of a position. -/
def before? (s : Text) (i : Nat) : Option Char := if i = 0 then none else s[i - 1]?

/-- The position of the character that closes the opening one at position `i`. -/
def closingFrom? (opening closes : Char) (s : Text) (i : Nat) : Option Nat :=
  (closing? opening closes (before? s i) (s.drop i)).map (i + ·)

/-- The position of the character that closes the one at position `i`, if that is an opening one. -/
def matching? (opening closes : Char) (s : Text) (i : Nat) : Option Nat :=
  if s[i]? = some opening then closingFrom? opening closes s i else none

/-- The position of the character that closes the first opening one at position `i` or later. -/
def matchingFrom? (opening closes : Char) (s : Text) (i : Nat) : Option Nat :=
  let gap := ((s.drop i).takeWhile (· != opening)).length
  matching? opening closes s (i + gap)

end CommandUpgrade.Text
