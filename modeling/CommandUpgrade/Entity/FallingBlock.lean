import CommandUpgrade.Table.Name
import CommandUpgrade.Text.Pattern
import CommandUpgrade.Text.Quote
import CommandUpgrade.Text.Settle

/-!
# Falling blocks

The fields `Block` and `Data` became `BlockState`, a compound with the new name of the block. A text
`Block:` inside the braces of a block state is passed over.
-/

namespace CommandUpgrade.FallingBlock

open Text

/-- Stands for a `Block:` that is passed over. -/
def mark : Text := "___SKIP_BLOCK___"

/-- The braces that are open behind a text; closing one that is not open ends the count. -/
def openBraces (s : Text) : Int := go none none 0 s
where
  /-- `isOpen` is the open quote, and `before` the character in front. -/
  go (isOpen before : Option Char) (depth : Int) : Text → Int
    | [] => depth
    | c :: r =>
      if quoteCounts before c then go (toggle isOpen c) (some c) depth r
      else if isOpen.isSome then go isOpen (some c) depth r
      else if c == '{' then go isOpen (some c) (depth + 1) r
      else if c == '}' then if depth == 0 then -1 else go isOpen (some c) (depth - 1) r
      else go isOpen (some c) depth r

/-- Whether a block state is open at the end of a text. -/
def inState (front : Text) : Bool :=
  match findLast? "BlockState:" front with
  | none => false
  | some i =>
    let between := front.drop i
    (has "BlockState:\x7bName:\"" between || has "BlockState:\x7bName:'" between) &&
      0 < openBraces between

/-- How many characters a quoted name has, the quotes included. -/
def quotedLength (quote : Char) (s : Text) : Nat := go none s + 1
where
  /-- `before` is the character in front. -/
  go (before : Option Char) : Text → Nat
    | [] => 0
    | c :: r => if c == quote && before != some '\\' then 1 else go (some c) r + 1

/-- How many characters the value of `Block` has. -/
def nameLength (s : Text) : Nat :=
  match s with
  | c :: r =>
    if isQuote c then quotedLength c r
    else (s.takeWhile (Pattern.no [',', '}', ']'])).length
  | [] => 0

/-- The data value behind a block name. -/
def dataField : Pattern :=
  Pattern.blanks ++ ("," : String) ++ .blanks ++ ("Data:" : String) ++ .group .digits

/-- The name of a block without quotes and namespace. -/
def cleanName (s : Text) : Text :=
  let name := trim (unquote s)
  (after? "minecraft:" name).getD name

/-- Renews the first block of a text. -/
def upgradeFirst? (tables : Tables) (s : Text) : Option Text :=
  (cut? "Block:" s).map fun (front, rest) =>
    if inState front then front ++ mark ++ rest
    else
      let length := nameLength rest
      let name := cleanName (rest.take length)
      let rest := rest.drop length
      let (data, rest) :=
        match dataField.match? rest with
        | some m => (m.group 1, m.rest)
        | none => (['0'], rest)
      front ++ "BlockState:\x7bName:\"" ++ tables.blockName name data ++ "\"\x7d" ++ rest

/-- Renews the blocks of a text, a hundred at most. -/
def upgrade (tables : Tables) (s : Text) : Text :=
  replace mark "Block:" (settle (upgradeFirst? tables) 100 s)

end CommandUpgrade.FallingBlock
