/-!
# Text

A text is its list of characters. The module holds the searching, cutting and joining that the
readers and converters are made of. Every function recurses on the text itself, so a statement
about one of them is an induction on its characters.
-/

namespace CommandUpgrade

/-- A text is the list of its characters. -/
abbrev Text := List Char

instance : Coe String Text := ⟨String.toList⟩

namespace Text

/-! ## Beginnings and ends -/

def startsWith (s start : Text) : Bool := start.isPrefixOf s

def endsWith (s tail : Text) : Bool := tail.isSuffixOf s

/-- What follows `start`, if the text begins with it. -/
def after? (start s : Text) : Option Text :=
  if start.isPrefixOf s then some (s.drop start.length) else none

/-- The text without its last `n` characters. -/
def dropLast (n : Nat) (s : Text) : Text := s.take (s.length - n)

/-- The characters from position `i` up to, and without, position `j`. -/
def slice (i j : Nat) (s : Text) : Text := (s.take j).drop i

/-! ## Searching -/

/-- The text before and the text behind the first occurrence of `part`. -/
def cut? (part : Text) : Text → Option (Text × Text)
  | [] => if part.isEmpty then some ([], []) else none
  | c :: r =>
    if part.isPrefixOf (c :: r) then some ([], (c :: r).drop part.length)
    else (cut? part r).map fun (before, behind) => (c :: before, behind)

/-- The position of the first occurrence of `part`. -/
def find? (part s : Text) : Option Nat := (cut? part s).map fun (before, _) => before.length

/-- The position of the first occurrence of `part` at position `i` or later. -/
def findFrom? (part : Text) (i : Nat) (s : Text) : Option Nat :=
  if i ≤ s.length then (find? part (s.drop i)).map (i + ·) else none

/-- The position of the last occurrence of `part`. -/
def findLast? (part : Text) : Text → Option Nat
  | [] => if part.isEmpty then some 0 else none
  | c :: r =>
    match findLast? part r with
    | some i => some (i + 1)
    | none => if part.isPrefixOf (c :: r) then some 0 else none

/-- Whether `part` occurs in the text. -/
def has (part s : Text) : Bool := (cut? part s).isSome

/-- The positions, in order, of the occurrences of `part` that do not overlap an earlier one. -/
def positions (part : Text) (s : Text) : List Nat := go 0 0 s
where
  /-- `skip` characters belong to the occurrence found last, and `i` stand before `s`. -/
  go (skip i : Nat) : Text → List Nat
    | [] => []
    | c :: r =>
      match skip with
      | skip + 1 => go skip (i + 1) r
      | 0 =>
        if part.isPrefixOf (c :: r) then i :: go (part.length - 1) (i + 1) r
        else go 0 (i + 1) r

/-! ## Replacing -/

/-- Every occurrence of `part`, from the left and without overlap, replaced by `new`. -/
def replace (part new : Text) (s : Text) : Text := go 0 s
where
  /-- `skip` characters belong to the occurrence replaced last. -/
  go (skip : Nat) : Text → Text
    | [] => []
    | c :: r =>
      match skip with
      | skip + 1 => go skip r
      | 0 =>
        if part.isPrefixOf (c :: r) then new ++ go (part.length - 1) r
        else c :: go 0 r

/-! ## Splitting and joining -/

/-- The pieces between the occurrences of `sep`: one more than there are occurrences. -/
def split (sep : Char) (s : Text) : List Text :=
  s.foldr (fun c pieces =>
    if c = sep then [] :: pieces
    else
      match pieces with
      | [] => [[c]]
      | piece :: rest => (c :: piece) :: rest) [[]]

/-- The text before and the text behind the first `sep`. -/
def splitFirst? (sep : Char) : Text → Option (Text × Text)
  | [] => none
  | c :: r =>
    if c = sep then some ([], r)
    else (splitFirst? sep r).map fun (before, behind) => (c :: before, behind)

def join (sep : Text) : List Text → Text
  | [] => []
  | [s] => s
  | s :: rest => s ++ sep ++ join sep rest

/-- The texts with one blank between each two. -/
def words (parts : List Text) : Text := join [' '] parts

/-! ## Stripping -/

/-- The text without the characters of a class at its start. -/
def stripStart (p : Char → Bool) (s : Text) : Text := s.dropWhile p

/-- The text without the characters of a class at its end. -/
def stripEnd (p : Char → Bool) (s : Text) : Text :=
  s.foldr (fun c rest => if rest.isEmpty && p c then [] else c :: rest) []

/-- The text without the characters of a class at either end. -/
def stripBoth (p : Char → Bool) (s : Text) : Text := stripEnd p (stripStart p s)

/-- The text without the quotes around it, double quotes outside single ones. -/
def unquote (s : Text) : Text := stripBoth (· == '\'') (stripBoth (· == '"') s)

/-- Puts `minecraft:` in front. -/
def namespaced (s : Text) : Text := "minecraft:" ++ s

/-- The decimal digits of a natural number. -/
def ofNat (n : Nat) : Text := Nat.toDigits 10 n

/-- The decimal digits of an integer, behind its sign. -/
def ofInt : Int → Text
  | .ofNat n => ofNat n
  | .negSucc n => '-' :: ofNat (n + 1)

end Text

end CommandUpgrade
