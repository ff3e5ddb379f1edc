import CommandUpgrade.Text.Alphanumeric
import CommandUpgrade.Text.Blank
import CommandUpgrade.Text.Digit

/-!
# Patterns

Patterns describe the places of a text that a converter changes. Matching tries the alternatives
of a pattern in order, the longest run first, and the first success counts. It recurses on the
pattern, and within a run on the text, and hands the rest to a continuation, so it always ends.

`Pattern.pieces` cuts a text into matches and single characters between them; searching and
replacing are read off the pieces.
-/

namespace CommandUpgrade

/-- What a place of a text has to look like. -/
inductive Pattern
  /-- These characters. -/
  | lit (s : Text)
  /-- These characters in small or capital letters. -/
  | anyCase (s : Text)
  /-- One character of a class. -/
  | one (p : Char → Bool)
  /-- As many characters of a class as can be, and not fewer than `least`. -/
  | many (least : Nat) (p : Char → Bool)
  /-- As few characters of a class as can be. -/
  | few (p : Char → Bool)
  /-- The pattern, if it matches here, or else nothing. -/
  | opt (q : Pattern)
  /-- The pattern, its text being kept. -/
  | group (q : Pattern)
  /-- Nothing, but what follows is of a class, the end of the text being `none`. -/
  | next (p : Option Char → Bool)
  /-- Nothing, but a word begins or ends here. -/
  | wordEdge
  | seq (q r : Pattern)
  | alt (q r : Pattern)

/-- What a pattern took: the text, the kept texts in order, and the text behind. -/
structure Match where
  whole : Text
  groups : List Text
  rest : Text
  deriving DecidableEq, Repr

namespace Match

/-- The kept text of a number, counted from one. -/
def group (m : Match) (i : Nat) : Text := m.groups.getD (i - 1) []

end Match

namespace Pattern

open Text

instance : Coe String Pattern := ⟨fun s => .lit s.toList⟩

instance : Append Pattern := ⟨.seq⟩

/-! ## Classes -/

/-- Every character but the given ones. -/
def no (cs : List Char) (c : Char) : Bool := !cs.contains c

/-- The given characters. -/
def of (cs : List Char) (c : Char) : Bool := cs.contains c

/-- What follows is one of the characters. -/
def before (cs : List Char) : Pattern := .next fun c? => c?.any cs.contains

/-- What follows is not one of the characters. -/
def notBefore (cs : List Char) : Pattern := .next fun c? => !c?.any cs.contains

/-- Decimal digits, one at least. -/
def digits : Pattern := .many 1 isDecimal

/-- Blanks or none. -/
def blanks : Pattern := .many 0 isBlank

/-- The letters that mark the kind of a number. -/
def kinds : List Char := ['b', 'B', 's', 'S', 'l', 'L', 'f', 'F', 'd', 'D']

/-- The small letter that a character counts for where case is ignored. -/
def foldCase (c : Char) : Char :=
  if c = 'İ' ∨ c = 'ı' then 'i'
  else if c = 'ſ' then 's'
  else if c = 'K' then 'k'
  else c.toLower

/-! ## Matching -/

/-- A place in a text, with the texts kept on the way to it, latest first. -/
structure Cursor where
  before : Option Char
  rest : Text
  groups : List Text

variable {α : Type}

/-- Tries to go on behind a run of a class, the longest run first. -/
def afterMany (p : Char → Bool) (go : Option Char → Text → Option α) :
    Nat → Option Char → Text → Option α
  | least, before, [] => if least = 0 then go before [] else none
  | least, before, c :: r =>
    if p c then
      afterMany p go (least - 1) (some c) r <|> if least = 0 then go before (c :: r) else none
    else if least = 0 then go before (c :: r)
    else none

/-- Tries to go on behind a run of a class, the shortest run first. -/
def afterFew (p : Char → Bool) (go : Option Char → Text → Option α) :
    Option Char → Text → Option α
  | before, [] => go before []
  | before, c :: r =>
    go before (c :: r) <|> if p c then afterFew p go (some c) r else none

/-- Whether a character belongs to a word; the ends of a text do not. -/
def isWord (c? : Option Char) : Bool := c?.any isWordChar

/-- Goes on behind what the pattern takes at the cursor, at the first place where that succeeds. -/
def run : Pattern → (Cursor → Option α) → Cursor → Option α
  | lit s, go, ⟨before, rest, groups⟩ =>
    if s.isPrefixOf rest then go ⟨s.getLast? <|> before, rest.drop s.length, groups⟩ else none
  | anyCase s, go, ⟨before, rest, groups⟩ =>
    if (rest.take s.length).map foldCase = s.map foldCase then
      go ⟨s.getLast? <|> before, rest.drop s.length, groups⟩
    else none
  | one p, go, ⟨_, rest, groups⟩ =>
    match rest with
    | c :: r => if p c then go ⟨some c, r, groups⟩ else none
    | [] => none
  | many least p, go, ⟨before, rest, groups⟩ =>
    afterMany p (fun before rest => go ⟨before, rest, groups⟩) least before rest
  | few p, go, ⟨before, rest, groups⟩ =>
    afterFew p (fun before rest => go ⟨before, rest, groups⟩) before rest
  | opt q, go, cursor => run q go cursor <|> go cursor
  | group q, go, cursor =>
    run q (fun ⟨before, rest, groups⟩ =>
      go ⟨before, rest, cursor.rest.take (cursor.rest.length - rest.length) :: groups⟩) cursor
  | next p, go, cursor => if p cursor.rest.head? then go cursor else none
  | wordEdge, go, cursor =>
    if isWord cursor.before != isWord cursor.rest.head? then go cursor else none
  | seq q r, go, cursor => run q (run r go) cursor
  | alt q r, go, cursor => run q go cursor <|> run r go cursor

/-- What the pattern takes at the start of a text, `before` standing in front of it. -/
def matchAt? (p : Pattern) (before : Option Char) (s : Text) : Option Match :=
  p.run (fun ⟨_, rest, groups⟩ => some ⟨s.take (s.length - rest.length), groups.reverse, rest⟩)
    ⟨before, s, []⟩

/-- What the pattern takes at the start of a text. -/
def match? (p : Pattern) (s : Text) : Option Match := p.matchAt? none s

/-! ## Searching and replacing -/

/-- The text before the first match, and the match. -/
def find? (p : Pattern) (s : Text) : Option (Text × Match) := go none s
where
  /-- `before` stands in front of the text. -/
  go (before : Option Char) : Text → Option (Text × Match)
    | [] => (p.matchAt? before []).map ([], ·)
    | c :: r =>
      match p.matchAt? before (c :: r) with
      | some m => some ([], m)
      | none => (go (some c) r).map fun (front, m) => (c :: front, m)

/-- The first match. -/
def search? (p : Pattern) (s : Text) : Option Match := (p.find? s).map (·.2)

/-- A part of a text: a character, or a match. -/
inductive Piece
  | char (c : Char)
  | found (m : Match)

/-- The matches from the left, without overlap, and the characters between them. The pattern is
one that takes a character at least. -/
def pieces (p : Pattern) (s : Text) : List Piece := go 0 none s
where
  /-- `skip` characters belong to the last match, and `before` stands in front. -/
  go (skip : Nat) (before : Option Char) : Text → List Piece
    | [] => []
    | c :: r =>
      match skip with
      | skip + 1 => go skip (some c) r
      | 0 =>
        match p.matchAt? before (c :: r) with
        | some m => .found m :: go (m.whole.length - 1) (some c) r
        | none => .char c :: go 0 (some c) r

/-- The matches from the left, without overlap. -/
def findAll (p : Pattern) (s : Text) : List Match :=
  (p.pieces s).filterMap fun
    | .char _ => none
    | .found m => some m

/-- Every match, from the left and without overlap, replaced. -/
def replace (p : Pattern) (new : Match → Text) (s : Text) : Text :=
  (p.pieces s).flatMap fun
    | .char c => [c]
    | .found m => new m

/-- Every match replaced, by what may not be there. -/
def replaceM {m : Type → Type} [Monad m] (p : Pattern) (new : Match → m Text) (s : Text) : m Text :=
  List.flatten <$> (p.pieces s).mapM fun
    | .char c => pure [c]
    | .found found => new found

/-- The first match replaced. -/
def replaceFirst (p : Pattern) (new : Match → Text) (s : Text) : Text :=
  match p.find? s with
  | some (front, m) => front ++ new m ++ m.rest
  | none => s

end Pattern

end CommandUpgrade
