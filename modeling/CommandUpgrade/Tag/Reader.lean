import CommandUpgrade.Tag.Basic
import CommandUpgrade.Number.Decimal
import CommandUpgrade.Text.Alphanumeric
import CommandUpgrade.Text.Quote

/-!
# Reading tags

Reading never fails: it takes what it can. Every reader gives what it read and how many characters
it moved on, which is what its caller continues from.

* A number keeps neither its sign nor its type letter.
* Where an item of a list ends is found by a scan for commas outside quotes and brackets; the item
  itself is read from its first character on.
* A name without a value takes no entry, and one character is passed over.
-/

namespace CommandUpgrade.Tag

open Text Number

/-- A blank between the parts of a tag. -/
def isGap (c : Char) : Bool := c == ' ' || c == '\n' || c == '\t'

/-- How many characters of a class the text starts with. -/
def span (p : Char → Bool) (s : Text) : Nat := (s.takeWhile p).length

/-! ## Texts, names and single values -/

/-- A quoted text from behind its opening quote: a backslash stands for itself unless a backslash
or the quote follows. The count includes the closing quote. -/
def readQuoted (quote : Char) : Text → Text × Nat
  | [] => ([], 0)
  | [c] => if c = quote then ([], 1) else ([c], 1)
  | c :: d :: r =>
    if c = '\\' ∧ (d = '\\' ∨ d = quote) then
      let (body, n) := readQuoted quote r
      (d :: body, n + 2)
    else if c = quote then ([], 1)
    else
      let (body, n) := readQuoted quote (d :: r)
      (c :: body, n + 1)

/-- A quoted text, whatever its first character is taken for its quote. -/
def readText : Text → Text × Nat
  | [] => ([], 0)
  | quote :: r =>
    let (body, n) := readQuoted quote r
    (body, n + 1)

/-- A character of a name without quotes. -/
def isNameChar (c : Char) : Bool := isAlphanumeric c || c == '_' || c == '.' || c == '-'

/-- The name of an entry. White space in front of it is passed over and not counted. -/
def readName (s : Text) : Option (Text × Nat) :=
  match trimStart s with
  | [] => none
  | c :: r =>
    if isQuote c then some (readText (c :: r))
    else
      let name := (c :: r).takeWhile isNameChar
      if name.isEmpty then none else some (name, name.length)

/-- A character of a value without quotes. -/
def isWordChar (c : Char) : Bool := isNameChar c || c == ':'

/-- Digits with at most one point among them. -/
def numeral (pointSeen : Bool) : Text → Text
  | [] => []
  | c :: r =>
    if isDigit c then c :: numeral pointSeen r
    else if c == '.' && !pointSeen then c :: numeral true r
    else []

/-- The number that a numeral denotes: a decimal if it has a point. -/
def numeralValue? (digits : Text) : Option Tag :=
  if digits.contains '.' then (Binary64.read? digits).map .float
  else
    match readInt digits with
    | .ok n => some (.int n)
    | .error _ => none

/-- A number, without its sign, and the characters up to its last digit. -/
def readNumber (s : Text) : Option (Tag × Nat) :=
  let sign := if s.head? == some '+' || s.head? == some '-' then 1 else 0
  let digits := numeral false (s.drop sign)
  if digits.isEmpty then none
  else (numeralValue? digits).map (·, sign + digits.length)

/-- A value without quotes: a truth value, a number or a word. -/
def readAtom (s : Text) : Option Tag × Nat :=
  if startsWith s "true" then (some (.bool true), 4)
  else if startsWith s "false" then (some (.bool false), 5)
  else
    match readNumber s with
    | some (tag, n) => (some tag, n)
    | none =>
      let word := s.takeWhile isWordChar
      if word.isEmpty then (none, 0) else (some (.text word), word.length)

/-! ## Where the items of a list start -/

/-- A scan over the items of a list. -/
structure ItemScan where
  /-- The open quote. -/
  isOpen : Option Char := none
  /-- The character passed last. -/
  before : Option Char
  /-- Braces open inside the item. -/
  braces : Int := 0
  /-- Brackets open, the list's own included. -/
  brackets : Nat := 1
  /-- Where the item starts. -/
  start : Nat := 0
  /-- Whether the item has more than white space. -/
  solid : Bool := false
  /-- The characters passed. -/
  passed : Nat := 0

namespace ItemScan

/-- Passes a character that belongs to the item. -/
def pass (scan : ItemScan) (c : Char) : ItemScan :=
  { scan with before := some c, solid := scan.solid || !isBlank c, passed := scan.passed + 1 }

/-- The start of the item, if it has more than white space. -/
def found (scan : ItemScan) : List Nat := if scan.solid then [scan.start] else []

/-- Starts the next item behind a comma. -/
def next (scan : ItemScan) : ItemScan :=
  { scan with
    before := some ','
    start := scan.passed + 1
    solid := false
    passed := scan.passed + 1 }

/-- The starts of the items, and the characters up to the end of the list. A list without an end
has no last item. -/
def run (scan : ItemScan) : Text → List Nat × Nat
  | [] => ([], scan.passed)
  | c :: r =>
    if quoteCounts scan.before c then
      run { scan.pass c with isOpen := toggle scan.isOpen c } r
    else if scan.isOpen.isSome then run (scan.pass c) r
    else if c == '{' then run { scan.pass c with braces := scan.braces + 1 } r
    else if c == '}' then run { scan.pass c with braces := scan.braces - 1 } r
    else if c == '[' then run { scan.pass c with brackets := scan.brackets + 1 } r
    else if c == ']' then
      if scan.brackets ≤ 1 then (scan.found, scan.passed + 1)
      else run { scan.pass c with brackets := scan.brackets - 1 } r
    else if c == ',' && scan.braces == 0 && scan.brackets == 1 then
      let (starts, n) := run scan.next r
      (scan.found ++ starts, n)
    else run (scan.pass c) r

end ItemScan

/-! ## Values -/

theorem readName_pos {s name : Text} {n : Nat} (h : readName s = some (name, n)) : 0 < n := by
  unfold readName at h
  split at h
  · cases h
  · split at h
    · cases h; exact Nat.succ_pos _
    · dsimp only at h
      split at h
      · cases h
      · rename_i hne
        cases h
        exact List.length_pos_iff.2 (by simpa using hne)

theorem length_of_drop_eq_cons {s r : Text} {k : Nat} {c : Char} (h : s.drop k = c :: r) :
    r.length < s.length := by
  have := congrArg List.length h
  simp only [List.length_drop, List.length_cons] at this
  omega

mutual

/-- A value, if there is one, and how many characters it takes. -/
def readValue (s : Text) : Option Tag × Nat :=
  let k := span isGap s
  match h : s.drop k with
  | [] => (none, k)
  | c :: r =>
    have := length_of_drop_eq_cons h
    if c = '{' then
      let (entries, n) := readEntries [] r
      (some (.compound entries), k + 1 + n)
    else if c = '[' then
      let (starts, n) := (ItemScan.mk none (some '[') 0 1 0 false 0).run r
      (some (.list (starts.filterMap fun i => (readValue (r.drop i)).1)), k + 1 + n)
    else if isQuote c then
      let (body, n) := readText (c :: r)
      (some (.text body), k + n)
    else
      let (tag, n) := readAtom (c :: r)
      (tag, k + n)
termination_by s.length
decreasing_by all_goals (try simp only [List.length_drop]); omega

/-- Entries up to the closing brace, and how many characters they take, the brace included. -/
def readEntries (entries : Entries) (s : Text) : Entries × Nat :=
  let k := span isGap s
  match h : s.drop k with
  | [] => (entries, k)
  | c :: r =>
    if c = '}' then (entries, k + 1)
    else
      match hn : readName (c :: r) with
      | none => (entries, k)
      | some (name, n) =>
        have := length_of_drop_eq_cons h
        have := readName_pos hn
        let rest := (c :: r).drop n
        let colon := span (fun c => isGap c || c == ':') rest
        let (tag, m) := readValue (rest.drop colon)
        let (entries, moved) := match tag with
          | some tag => (Entries.set name tag entries, m)
          | none => (entries, 1)
        let rest := rest.drop (colon + moved)
        let comma := span (fun c => isGap c || c == ',') rest
        let (entries, more) := readEntries entries (rest.drop comma)
        (entries, k + n + colon + moved + comma + more)
termination_by s.length
decreasing_by all_goals simp only [List.length_drop, List.length_cons]; omega

end

/-- The items of a list from behind its opening bracket, and how many characters they take. `first`
is the character in front. -/
def readItems (first : Option Char) (s : Text) : List Tag × Nat :=
  let (starts, n) := (ItemScan.mk none first 0 1 0 false 0).run s
  (starts.filterMap fun i => (readValue (s.drop i)).1, n)

/-- The tag of a text. White space alone, or what no tag begins with, is an empty compound. -/
def read (s : Text) : Tag :=
  match trim s with
  | [] => .compound []
  | c :: r => (readValue (c :: r)).1.getD (.compound [])

end CommandUpgrade.Tag
