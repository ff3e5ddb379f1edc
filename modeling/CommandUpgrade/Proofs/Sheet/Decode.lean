import CommandUpgrade.Proofs.Sheet.RoundTrip

/-!
# The rows of a sheet

`decode` gives the rows of a text as they stand: a cell may be of any length, and a line end inside
quotes is part of its cell. Three facts relate it to what is read and written.

1. Decoding undoes writing, cell for cell (`decode_flatMap_writeRow`).
2. With line feeds for its line ends, a text has the same rows with line feeds in their cells
   (`decode_normalLines`).
3. The reader gives the rows up to the first one with a cell beyond the limit (`rows_eq`).
-/

namespace CommandUpgrade.Sheet

open Text

/-- Where a decoder stands in a row. -/
inductive Place
  | newRow
  /-- Behind a carriage return that ended a row: a line feed belongs to it. -/
  | afterReturn
  | newCell
  | plain
  | quoted
  | quoteSeen
  deriving DecidableEq

/-- Whether the row has nothing yet. -/
def Place.isBlank : Place → Bool
  | newRow | afterReturn => true
  | _ => false

/-- Puts a text in front of the first cell of the first row. -/
def addText (s : Text) (rows : List (List Text)) : List (List Text) :=
  rows.modifyHead (·.modifyHead (s ++ ·))

/-- Puts an empty cell in front of the first row. -/
def addCell (rows : List (List Text)) : List (List Text) := rows.modifyHead ([] :: ·)

/-- The rows from here on. The first cell is the rest of the cell that the decoder is in. -/
def decodeFrom : Place → Text → List (List Text)
  | place, [] => if place.isBlank then [] else [[[]]]
  | place, c :: r =>
    if place = .quoted then
      if c = '"' then decodeFrom .quoteSeen r else addText [c] (decodeFrom .quoted r)
    else if c = '\n' ∧ place = .afterReturn then decodeFrom .newRow r
    else if c = '\n' ∨ c = '\r' then
      (if place.isBlank then [] else [[]]) ::
        decodeFrom (if c = '\r' then .afterReturn else .newRow) r
    else if c = ',' then addCell (decodeFrom .newCell r)
    else if c = '"' ∧ place = .quoteSeen then addText [c] (decodeFrom .quoted r)
    else if c = '"' ∧ place ≠ .plain then decodeFrom .quoted r
    else addText [c] (decodeFrom .plain r)

/-- The rows of a text. A blank line is a row without cells. -/
def decode (s : Text) : List (List Text) := decodeFrom .newRow s

theorem addText_nil (rows : List (List Text)) : addText [] rows = rows := by
  unfold addText
  cases rows with
  | nil => rfl
  | cons cells rest => cases cells <;> rfl

theorem addText_addText (s t : Text) (rows : List (List Text)) :
    addText s (addText t rows) = addText (s ++ t) rows := by
  unfold addText
  cases rows with
  | nil => rfl
  | cons cells rest =>
    cases cells with
    | nil => rfl
    | cons cell cells =>
      simp only [List.modifyHead_cons, List.append_assoc]

theorem addText_cons (c : Char) (s : Text) (rows : List (List Text)) :
    addText (c :: s) rows = addText [c] (addText s rows) := (addText_addText [c] s rows).symm

/-! ## Steps of the decoder -/

section Steps

variable {place : Place}

theorem decodeFrom_lineEnd (hplace : place ≠ .quoted) (hreturn : place ≠ .afterReturn) (r : Text) :
    decodeFrom place ('\n' :: r) = (if place.isBlank then [] else [[]]) :: decode r := by
  rw [decodeFrom, if_neg hplace, if_neg fun h => hreturn h.2, if_pos (.inl rfl)]
  rfl

theorem decodeFrom_return (hplace : place ≠ .quoted) (r : Text) :
    decodeFrom place ('\r' :: r) =
      (if place.isBlank then [] else [[]]) :: decodeFrom .afterReturn r := by
  rw [decodeFrom, if_neg hplace, if_neg fun h => absurd h.1 (by decide), if_pos (.inr rfl)]
  rfl

theorem decodeFrom_crlf (hplace : place ≠ .quoted) (r : Text) :
    decodeFrom place ('\r' :: '\n' :: r) = (if place.isBlank then [] else [[]]) :: decode r := by
  rw [decodeFrom_return hplace]
  rfl

theorem decodeFrom_afterReturn {s : Text} (h : s.head? ≠ some '\n') :
    decodeFrom .afterReturn s = decode s := by
  unfold decode
  cases s with
  | nil => rfl
  | cons c r =>
    have hc : c ≠ '\n' := fun heq => h (congrArg some heq)
    simp [decodeFrom, hc, Place.isBlank]

theorem decodeFrom_comma (hplace : place ≠ .quoted) (r : Text) :
    decodeFrom place (',' :: r) = addCell (decodeFrom .newCell r) := by
  rw [decodeFrom, if_neg hplace, if_neg fun h => absurd h.1 (by decide), if_neg (by decide),
    if_pos rfl]

theorem decodeFrom_char (hplace : place ≠ .quoted) {c : Char} (hfeed : c ≠ '\n')
    (hreturn : c ≠ '\r') (hcomma : c ≠ ',') (hquote : c ≠ '"') (r : Text) :
    decodeFrom place (c :: r) = addText [c] (decodeFrom .plain r) := by
  rw [decodeFrom, if_neg hplace, if_neg fun h => hfeed h.1, if_neg (not_or.2 ⟨hfeed, hreturn⟩),
    if_neg hcomma, if_neg fun h => hquote h.1, if_neg fun h => hquote h.1]

theorem decodeFrom_quoted {c : Char} (h : c ≠ '"') (r : Text) :
    decodeFrom .quoted (c :: r) = addText [c] (decodeFrom .quoted r) := by
  rw [decodeFrom, if_pos rfl, if_neg h]

/-- What a character does that ends no row. -/
theorem decodeFrom_cases {c : Char} (hc : c ≠ '\n' ∧ c ≠ '\r' ∨ place = .quoted) :
    (∃ next, next.isBlank = false ∧ ∀ r, decodeFrom place (c :: r) = decodeFrom next r) ∨
    (place ≠ .quoted ∧ ∀ r, decodeFrom place (c :: r) = addCell (decodeFrom .newCell r)) ∨
    ∃ next, next.isBlank = false ∧ ∀ r, decodeFrom place (c :: r) = addText [c] (decodeFrom next r) := by
  by_cases hquoted : place = .quoted
  · subst hquoted
    by_cases hquote : c = '"'
    · subst hquote
      exact .inl ⟨.quoteSeen, rfl, fun r => rfl⟩
    · exact .inr (.inr ⟨.quoted, rfl, decodeFrom_quoted hquote⟩)
  obtain ⟨hfeed, hreturn⟩ := hc.resolve_right hquoted
  have hend : ¬(c = '\n' ∨ c = '\r') := not_or.2 ⟨hfeed, hreturn⟩
  by_cases hcomma : c = ','
  · subst hcomma
    exact .inr (.inl ⟨hquoted, decodeFrom_comma hquoted⟩)
  by_cases hagain : c = '"' ∧ place = .quoteSeen
  · refine .inr (.inr ⟨.quoted, rfl, fun r => ?_⟩)
    rw [decodeFrom, if_neg hquoted, if_neg fun h => hfeed h.1, if_neg hend, if_neg hcomma,
      if_pos hagain]
  by_cases hopen : c = '"' ∧ place ≠ .plain
  · refine .inl ⟨.quoted, rfl, fun r => ?_⟩
    rw [decodeFrom, if_neg hquoted, if_neg fun h => hfeed h.1, if_neg hend, if_neg hcomma,
      if_neg hagain, if_pos hopen]
  · refine .inr (.inr ⟨.plain, rfl, fun r => ?_⟩)
    rw [decodeFrom, if_neg hquoted, if_neg fun h => hfeed h.1, if_neg hend, if_neg hcomma,
      if_neg hagain, if_neg hopen]

end Steps

/-! ## Decoding what was written -/

theorem decodeFrom_bare {place : Place} (hplace : place ≠ .quoted) {c : Char} {cell : Text}
    (h : needsQuotes (c :: cell) = false) (r : Text) :
    decodeFrom place (c :: r) = addText [c] (decodeFrom .plain r) := by
  obtain ⟨⟨hcomma, hquote, hfeed⟩, -⟩ := needsQuotes_cons h
  have hreturn : c ≠ '\r' := fun heq => carriageReturn_notMem h (heq ▸ List.mem_cons_self)
  exact decodeFrom_char hplace hfeed hreturn hcomma hquote r

theorem decodeFrom_doubled (cell s : Text) :
    decodeFrom .quoted (doubled cell ++ '"' :: s) = addText cell (decodeFrom .quoteSeen s) := by
  induction cell with
  | nil => exact (addText_nil _).symm
  | cons c r ih =>
    rw [addText_cons, ← ih]
    by_cases hquote : c = '"'
    · subst hquote
      rfl
    · rw [doubled_cons hquote, List.cons_append, decodeFrom_quoted hquote]

theorem decodeFrom_plain {cell : Text} (hcell : needsQuotes cell = false) (s : Text) :
    decodeFrom .plain (cell ++ s) = addText cell (decodeFrom .plain s) := by
  induction cell with
  | nil => exact (addText_nil _).symm
  | cons c r ih =>
    rw [addText_cons, ← ih (needsQuotes_cons hcell).2, List.cons_append,
      decodeFrom_bare (by decide) hcell]

/-- A whole written cell: then the decoder is outside quotes, and not at a blank row unless the cell is
empty there. -/
theorem decodeFrom_writeCell {place : Place} (hplace : place = .newRow ∨ place = .newCell)
    (cell s : Text) :
    ∃ next, next ≠ .quoted ∧ (next.isBlank = true → place = .newRow ∧ cell = []) ∧
      decodeFrom place (writeCell cell ++ s) = addText cell (decodeFrom next s) := by
  cases hcell : needsQuotes cell with
  | true =>
    refine ⟨.quoteSeen, by decide, fun h => absurd h (by decide), ?_⟩
    rw [writeCell_of_needsQuotes hcell, List.cons_append, List.append_assoc, List.singleton_append,
      ← decodeFrom_doubled]
    rcases hplace with rfl | rfl <;> rfl
  | false =>
    rw [writeCell_of_not_needsQuotes hcell]
    cases cell with
    | nil =>
      refine ⟨place, ?_, fun h => ⟨?_, rfl⟩, (addText_nil _).symm⟩
      · rcases hplace with rfl | rfl <;> decide
      · exact hplace.resolve_right fun heq => by rw [heq] at h; cases h
    | cons c r =>
      refine ⟨.plain, by decide, fun h => absurd h (by decide), ?_⟩
      have hquoted : place ≠ .quoted := by rcases hplace with rfl | rfl <;> decide
      rw [List.cons_append, decodeFrom_bare hquoted hcell, decodeFrom_plain (needsQuotes_cons hcell).2,
        ← addText_cons]

/-- The cells of a row, up to its end. -/
theorem decodeFrom_cells {place : Place} (hplace : place = .newRow ∨ place = .newCell)
    (cell : Text) (rest : List Text) (hblank : place = .newRow → cell = [] → rest ≠ []) (s : Text) :
    decodeFrom place (join [','] ((cell :: rest).map writeCell) ++ '\r' :: '\n' :: s) =
      (cell :: rest) :: decode s := by
  induction rest generalizing place cell with
  | nil =>
    obtain ⟨next, hquoted, hstart, hcell⟩ :=
      decodeFrom_writeCell hplace cell ('\r' :: '\n' :: s)
    have hrow : ¬next.isBlank = true := fun h => hblank (hstart h).1 (hstart h).2 rfl
    rw [List.map_singleton, join, hcell, decodeFrom_crlf hquoted, if_neg hrow]
    exact congrArg (fun c => [c] :: decode s) (List.append_nil cell)
  | cons next rest ih =>
    obtain ⟨there, hquoted, -, hcell⟩ := decodeFrom_writeCell hplace cell
      (',' :: (join [','] ((next :: rest).map writeCell) ++ '\r' :: '\n' :: s))
    rw [join_writeCell_cons, List.append_assoc, List.cons_append, hcell, decodeFrom_comma hquoted,
      ih (.inr rfl) next fun h => by cases h]
    exact congrArg (fun c => (c :: next :: rest) :: decode s) (List.append_nil cell)

theorem decode_writeRow (cells : List Text) (s : Text) :
    decode (writeRow cells ++ s) = cells :: decode s := by
  unfold writeRow
  by_cases hblank : (cells == [[]]) = true
  · rw [if_pos hblank, beq_iff_eq.1 hblank]
    rfl
  · rw [if_neg hblank, List.append_assoc]
    cases cells with
    | nil => rfl
    | cons cell rest =>
      refine decodeFrom_cells (.inl rfl) cell rest (fun _ hcell hrest => ?_) s
      rw [hcell, hrest] at hblank
      exact hblank rfl

/-- Decoding undoes writing. -/
theorem decode_flatMap_writeRow (sheet : List (List Text)) :
    decode (sheet.flatMap writeRow) = sheet := by
  induction sheet with
  | nil => rfl
  | cons row rest ih => rw [List.flatMap_cons, decode_writeRow, ih]

/-! ## Line ends -/

/-- Inside a row there is a cell to come, if only an empty one. -/
theorem decodeFrom_eq_cons (place : Place) (h : place.isBlank = false) (s : Text) :
    ∃ cell cells rows, decodeFrom place s = (cell :: cells) :: rows := by
  induction s generalizing place with
  | nil =>
    rw [decodeFrom, h]
    exact ⟨[], [], [], rfl⟩
  | cons c r ih =>
    by_cases hend : (c = '\n' ∨ c = '\r') ∧ place ≠ .quoted
    · obtain ⟨rfl | rfl, hquoted⟩ := hend
      · rw [decodeFrom_lineEnd hquoted (fun heq => by rw [heq] at h; cases h), h]
        exact ⟨_, _, _, rfl⟩
      · rw [decodeFrom_return hquoted, h]
        exact ⟨_, _, _, rfl⟩
    · have hc : c ≠ '\n' ∧ c ≠ '\r' ∨ place = .quoted := by
        by_cases hquoted : place = .quoted
        · exact .inr hquoted
        · exact .inl (not_or.1 fun heq => hend ⟨heq, hquoted⟩)
      obtain ⟨next, hnext, hstep⟩ | ⟨-, hstep⟩ | ⟨next, hnext, hstep⟩ := decodeFrom_cases hc
      · rw [hstep]
        exact ih next hnext
      · obtain ⟨cell, cells, rows, heq⟩ := ih .newCell rfl
        rw [hstep, heq]
        exact ⟨_, _, _, rfl⟩
      · obtain ⟨cell, cells, rows, heq⟩ := ih next hnext
        rw [hstep, heq]
        exact ⟨_, _, _, rfl⟩

theorem head?_addText {c : Char} (place : Place) (hplace : place.isBlank = false) {s cell : Text}
    {cells : List Text} {rows : List (List Text)}
    (h : addText [c] (decodeFrom place s) = (cell :: cells) :: rows) : cell.head? = some c := by
  obtain ⟨cell', cells', rows', heq⟩ := decodeFrom_eq_cons place hplace s
  rw [heq] at h
  rw [← (List.cons.inj (List.cons.inj h).1).1]
  rfl

/-- Behind a closing quote, no line feed belongs to the cell. -/
theorem head?_of_decodeFrom_quoteSeen {s cell : Text} {cells : List Text} {rows : List (List Text)}
    (h : decodeFrom .quoteSeen s = (cell :: cells) :: rows) : cell.head? ≠ some '\n' := by
  have hempty : ∀ {rest more}, ([] :: rest) :: more = (cell :: cells) :: rows →
      cell.head? ≠ some '\n' := by
    intro rest more heq
    rw [← (List.cons.inj (List.cons.inj heq).1).1]
    exact fun hnone => by cases hnone
  cases s with
  | nil => exact hempty h
  | cons c r =>
    by_cases hfeed : c = '\n'
    · subst hfeed
      exact hempty h
    by_cases hreturn : c = '\r'
    · subst hreturn
      exact hempty h
    by_cases hcomma : c = ','
    · subst hcomma
      obtain ⟨cell', cells', rows', heq⟩ := decodeFrom_eq_cons .newCell rfl r
      rw [decodeFrom_comma (by decide), heq] at h
      exact hempty h
    have hc : cell.head? = some c := by
      by_cases hquote : c = '"'
      · subst hquote
        exact head?_addText .quoted rfl h
      · rw [decodeFrom_char (by decide) hfeed hreturn hcomma hquote] at h
        exact head?_addText .plain rfl h
    rw [hc]
    exact fun heq => hfeed (Option.some.inj heq)

/-- Behind an opening quote, a cell starts with a line feed only if the text does. -/
theorem head?_of_decodeFrom_quoted {s cell : Text} {cells : List Text} {rows : List (List Text)}
    (h : decodeFrom .quoted s = (cell :: cells) :: rows) (hs : s.head? ≠ some '\n') :
    cell.head? ≠ some '\n' := by
  cases s with
  | nil =>
    rw [← (List.cons.inj (List.cons.inj h).1).1]
    exact hs
  | cons c r =>
    by_cases hquote : c = '"'
    · subst hquote
      exact head?_of_decodeFrom_quoteSeen h
    · rw [decodeFrom_quoted hquote] at h
      rw [head?_addText .quoted rfl h]
      exact hs

/-- The rows with line feeds for the line ends in their cells. -/
def withFeeds (rows : List (List Text)) : List (List Text) := rows.map (·.map normalLines)

/-- What is put in front of the first cell has the line feeds that it has in front of any cell. -/
theorem withFeeds_addText_of {s t : Text} (h : ∀ cell, normalLines (s ++ cell) = t ++ normalLines cell)
    (rows : List (List Text)) : withFeeds (addText s rows) = addText t (withFeeds rows) := by
  unfold withFeeds addText
  cases rows with
  | nil => rfl
  | cons cells rest =>
    cases cells with
    | nil => rfl
    | cons cell cells => simp only [List.modifyHead_cons, List.map_cons, h]

theorem withFeeds_addText {c : Char} (hc : c ≠ '\r') (rows : List (List Text)) :
    withFeeds (addText [c] rows) = addText [c] (withFeeds rows) :=
  withFeeds_addText_of (s := [c]) (t := [c]) (normalLines_cons hc) rows

theorem withFeeds_addCell (rows : List (List Text)) :
    withFeeds (addCell rows) = addCell (withFeeds rows) := by
  unfold withFeeds addCell
  cases rows <;> rfl

theorem withFeeds_crlf (rows : List (List Text)) :
    withFeeds (addText ['\r'] (addText ['\n'] rows)) = addText ['\n'] (withFeeds rows) := by
  rw [addText_addText]
  exact withFeeds_addText_of (t := ['\n']) normalLines_crlf rows

theorem withFeeds_cr {s : Text} (hs : s.head? ≠ some '\n') :
    withFeeds (addText ['\r'] (decodeFrom .quoted s)) =
      addText ['\n'] (withFeeds (decodeFrom .quoted s)) := by
  -- A line feed behind the carriage return would be one line end with it, but none comes to stand there.
  obtain ⟨cell, cells, rows, heq⟩ := decodeFrom_eq_cons .quoted rfl s
  have hcell : normalLines ('\r' :: cell) = '\n' :: normalLines cell :=
    normalLines_cr (head?_of_decodeFrom_quoted heq hs)
  rw [heq]
  unfold withFeeds addText
  simp only [List.modifyHead_cons, List.map_cons, List.singleton_append, hcell]

theorem withFeeds_end (place : Place) (rows : List (List Text)) :
    withFeeds ((if place.isBlank then [] else [[]]) :: rows) =
      (if place.isBlank then [] else [[]]) :: withFeeds rows := by
  split <;> rfl

theorem decodeFrom_normalLines {place : Place} (hplace : place ≠ .afterReturn) (s : Text) :
    decodeFrom place (normalLines s) = withFeeds (decodeFrom place s) := by
  -- The cases are the line ends, so that the two characters of one are never taken apart.
  induction s using lines_induction generalizing place with
  | nil =>
    rw [normalLines, decodeFrom]
    split <;> rfl
  | crlf r ih =>
    rw [normalLines_crlf]
    by_cases hquoted : place = .quoted
    · subst hquoted
      rw [decodeFrom_quoted (by decide), decodeFrom_quoted (c := '\r') (by decide),
        decodeFrom_quoted (by decide), withFeeds_crlf, ih hplace]
    · rw [decodeFrom_lineEnd hquoted hplace, decodeFrom_crlf hquoted, withFeeds_end, decode,
        ih (by decide), decode]
  | cr r hr ih =>
    rw [normalLines_cr hr]
    by_cases hquoted : place = .quoted
    · subst hquoted
      rw [decodeFrom_quoted (by decide), decodeFrom_quoted (by decide), withFeeds_cr hr, ih hplace]
    · rw [decodeFrom_lineEnd hquoted hplace, decodeFrom_return hquoted, withFeeds_end,
        decodeFrom_afterReturn hr, decode, ih (by decide), decode]
  | cons c r hc ih =>
    rw [normalLines_cons hc]
    by_cases hend : c = '\n' ∧ place ≠ .quoted
    · obtain ⟨rfl, hquoted⟩ := hend
      rw [decodeFrom_lineEnd hquoted hplace, decodeFrom_lineEnd hquoted hplace, withFeeds_end, decode,
        ih (by decide), decode]
    · have hcase : c ≠ '\n' ∧ c ≠ '\r' ∨ place = .quoted := by
        by_cases hquoted : place = .quoted
        · exact .inr hquoted
        · exact .inl ⟨fun heq => hend ⟨heq, hquoted⟩, hc⟩
      have hnext : ∀ next : Place, next.isBlank = false → next ≠ .afterReturn := by
        rintro next hblank rfl
        cases hblank
      obtain ⟨next, hblank, hstep⟩ | ⟨-, hstep⟩ | ⟨next, hblank, hstep⟩ := decodeFrom_cases hcase
      · rw [hstep, hstep, ih (hnext next hblank)]
      · rw [hstep, hstep, withFeeds_addCell, ih (by decide)]
      · rw [hstep, hstep, withFeeds_addText hc, ih (hnext next hblank)]

/-- With line feeds for its line ends, a text has the same rows with line feeds in their cells. -/
theorem decode_normalLines (s : Text) : decode (normalLines s) = withFeeds (decode s) :=
  decodeFrom_normalLines (by decide) s

/-! ## The reader -/

/-- Whether every cell of a row is within the limit. -/
def isShort (row : List Text) : Bool := row.all fun cell => cell.length ≤ cellLimit

/-- The rows up to the first one with a cell beyond the limit, which is a fault. -/
def limited (all : List (List Text)) : Rows :=
  ⟨all.takeWhile isShort, if all.all isShort then none else some .cellTooLong⟩

theorem limited_cons {row : List Text} (h : isShort row = true) (rest : List (List Text)) :
    limited (row :: rest) = ⟨row :: (limited rest).rows, (limited rest).fault⟩ := by
  unfold limited
  rw [List.takeWhile_cons_of_pos h, List.all_cons, h, Bool.true_and]

theorem limited_of_long {row : List Text} (h : isShort row = false) (rest : List (List Text)) :
    limited (row :: rest) = ⟨[], some .cellTooLong⟩ := by
  unfold limited
  rw [List.takeWhile_cons_of_neg (by rw [h]; exact Bool.false_ne_true), List.all_cons, h,
    Bool.false_and]
  rfl

/-- Where the decoder stands when the reader is in a mode. -/
def Mode.place : Mode → Place
  | rowStart => .newRow
  | cellStart => .newCell
  | plain => .plain
  | quoted => .quoted
  | quoteSeen => .quoteSeen

namespace Reading

/-- The rows from here on, with what has been read of the first one in front. -/
def attach (reading : Reading) (rows : List (List Text)) : List (List Text) :=
  rows.modifyHead fun cells => reading.cells.reverse ++ cells.modifyHead (reading.cell.reverse ++ ·)

/-- A reading that counts its characters, within the limit. -/
structure IsSound (reading : Reading) : Prop where
  size : reading.size = reading.cell.length
  cell : reading.cell.length ≤ cellLimit
  cells : ∀ cell ∈ reading.cells, cell.length ≤ cellLimit
  blank : reading.mode = .rowStart → reading.cells = [] ∧ reading.cell = []

theorem isSound_start : IsSound {} :=
  ⟨rfl, Nat.zero_le _, fun _ hmem => absurd hmem List.not_mem_nil, fun _ => ⟨rfl, rfl⟩⟩

theorem attach_start (rows : List (List Text)) : attach {} rows = rows := addText_nil rows

variable {reading : Reading}

theorem attach_nextCell (rows : List (List Text)) :
    reading.nextCell.attach rows = reading.attach (addCell rows) := by
  unfold attach nextCell addCell
  cases rows with
  | nil => rfl
  | cons cells rest => cases cells <;> simp

theorem attach_push (mode : Mode) (c : Char) (rows : List (List Text)) :
    (reading.push mode c).attach rows = reading.attach (addText [c] rows) := by
  unfold attach push addText
  cases rows with
  | nil => rfl
  | cons cells rest =>
    cases cells with
    | nil => rfl
    | cons cell cells => simp

theorem IsSound.nextCell (h : reading.IsSound) : reading.nextCell.IsSound := by
  refine ⟨rfl, Nat.zero_le _, ?_, fun hmode => by cases hmode⟩
  refine List.forall_mem_cons.2 ⟨?_, h.cells⟩
  rw [List.length_reverse]
  exact h.cell

theorem IsSound.push (h : reading.IsSound) {mode : Mode} (hmode : mode ≠ .rowStart)
    (hroom : reading.size < cellLimit) (c : Char) : (reading.push mode c).IsSound := by
  refine ⟨congrArg (· + 1) h.size, ?_, h.cells, fun heq => absurd heq hmode⟩
  rw [h.size] at hroom
  exact hroom

theorem IsSound.row_short (h : reading.IsSound) : isShort reading.row = true := by
  unfold isShort row
  rw [List.all_reverse, List.all_cons, List.length_reverse, Bool.and_eq_true, List.all_eq_true]
  exact ⟨decide_eq_true h.cell, fun cell hmem => decide_eq_true (h.cells cell hmem)⟩

/-- The reader does what the decoder does, as long as the cell is not full. -/
theorem step?_cases {c : Char} (hline : c ≠ '\n' ∨ reading.inQuotes = true) (hreturn : c ≠ '\r') :
    (∃ mode, mode ≠ .rowStart ∧ reading.step? c = some { reading with mode := mode } ∧
      ∀ r, decodeFrom reading.mode.place (c :: r) = decodeFrom mode.place r) ∨
    (reading.step? c = some reading.nextCell ∧
      ∀ r, decodeFrom reading.mode.place (c :: r) = addCell (decodeFrom .newCell r)) ∨
    ∃ mode, mode ≠ .rowStart ∧
      reading.step? c = (if reading.size < cellLimit then some (reading.push mode c) else none) ∧
      ∀ r, decodeFrom reading.mode.place (c :: r) = addText [c] (decodeFrom mode.place r) := by
  obtain ⟨mode, cells, cell, size⟩ := reading
  by_cases hquote : c = '"'
  · subst hquote
    cases mode with
    | rowStart => exact .inl ⟨.quoted, Mode.noConfusion, rfl, fun _ => rfl⟩
    | cellStart => exact .inl ⟨.quoted, Mode.noConfusion, rfl, fun _ => rfl⟩
    | plain => exact .inr (.inr ⟨.plain, Mode.noConfusion, rfl, fun _ => rfl⟩)
    | quoted => exact .inl ⟨.quoteSeen, Mode.noConfusion, rfl, fun _ => rfl⟩
    | quoteSeen => exact .inr (.inr ⟨.quoted, Mode.noConfusion, rfl, fun _ => rfl⟩)
  by_cases hquoted : mode.place = .quoted
  · cases mode with
    | quoted =>
      refine .inr (.inr ⟨.quoted, Mode.noConfusion, ?_, decodeFrom_quoted hquote⟩)
      simp [step?, hquote]
    | _ => cases hquoted
  by_cases hcomma : c = ','
  · subst hcomma
    refine .inr (.inl ⟨?_, decodeFrom_comma hquoted⟩)
    cases mode with
    | quoted => exact absurd rfl hquoted
    | _ => rfl
  · have hfeed : c ≠ '\n' := by
      cases mode with
      | quoted => exact absurd rfl hquoted
      | _ => exact hline.resolve_right Bool.false_ne_true
    refine .inr (.inr ⟨.plain, Mode.noConfusion, ?_,
      decodeFrom_char hquoted hfeed hreturn hcomma hquote⟩)
    cases mode with
    | quoted => exact absurd rfl hquoted
    | _ => simp [step?, hquote, hcomma]

theorem isBlank_place (reading : Reading) : reading.mode.place.isBlank = reading.atStart := by
  obtain ⟨mode, cells, cell, size⟩ := reading
  cases mode <;> rfl

/-- What stands at the end of a row: nothing if the row is blank. -/
theorem IsSound.attach_end (h : reading.IsSound) (rows : List (List Text)) :
    reading.attach ((if reading.mode.place.isBlank then [] else [[]]) :: rows) =
      (if reading.atStart then [] else reading.row) :: rows := by
  rw [isBlank_place]
  split
  case isTrue hstart =>
    obtain ⟨mode, cells, cell, size⟩ := reading
    cases mode with
    | rowStart =>
      obtain ⟨rfl, rfl⟩ := h.blank rfl
      rfl
    | _ => cases hstart
  case isFalse =>
    unfold attach row
    rw [List.modifyHead_cons, List.modifyHead_cons, List.append_nil, List.reverse_cons]

theorem IsSound.end_short (h : reading.IsSound) :
    isShort (if reading.atStart then [] else reading.row) = true := by
  split
  · rfl
  · exact h.row_short

/-- A full cell that goes on is beyond the limit. -/
theorem limited_of_full {place : Place} (hplace : place.isBlank = false)
    (hfull : ¬reading.cell.length < cellLimit) (c : Char) (s : Text) :
    limited (reading.attach (addText [c] (decodeFrom place s))) = ⟨[], some .cellTooLong⟩ := by
  obtain ⟨cell, cells, rows, heq⟩ := decodeFrom_eq_cons place hplace s
  rw [heq]
  refine limited_of_long (List.all_eq_false.2 ?_) rows
  refine ⟨reading.cell.reverse ++ ([c] ++ cell), List.mem_append_right _ List.mem_cons_self, ?_⟩
  rw [List.length_append, List.length_append, List.length_reverse, List.length_singleton,
    decide_eq_true_eq]
  omega

theorem IsSound.run_nil (h : reading.IsSound) :
    run reading [] = limited (reading.attach (decodeFrom reading.mode.place [])) := by
  rw [run, decodeFrom, isBlank_place]
  split
  · rfl
  case isFalse hstart =>
    have hrow := h.attach_end []
    rw [isBlank_place, if_neg hstart, if_neg hstart] at hrow
    rw [hrow, limited_cons h.row_short]
    rfl

/-- A line feed outside quotes ends the row, and the reader starts again. -/
theorem IsSound.run_feed (h : reading.IsSound) (hquotes : reading.inQuotes = false) {r : Text}
    (hrest : run {} r = limited (decode r)) : run reading ('\n' :: r) =
      limited (reading.attach (decodeFrom reading.mode.place ('\n' :: r))) := by
  have hplace : reading.mode.place ≠ .quoted ∧ reading.mode.place ≠ .afterReturn := by
    obtain ⟨mode, cells, cell, size⟩ := reading
    cases mode with
    | quoted => cases hquotes
    | _ => exact ⟨Place.noConfusion, Place.noConfusion⟩
  rw [run, hquotes, decodeFrom_lineEnd hplace.1 hplace.2, h.attach_end, limited_cons h.end_short,
    hrest]
  rfl

/-- A character that does not fit into its cell ends the reading. -/
theorem IsSound.run_full (h : reading.IsSound) {c : Char}
    (hin : c ≠ '\n' ∨ reading.inQuotes = true) {mode : Mode} (hmode : mode ≠ .rowStart)
    (hfull : ¬reading.size < cellLimit) (hstep : reading.step? c = none) (r : Text) :
    run reading (c :: r) = limited (reading.attach (addText [c] (decodeFrom mode.place r))) := by
  have hblank : mode.place.isBlank = false := by
    cases mode with
    | rowStart => exact absurd rfl hmode
    | _ => rfl
  rw [h.size] at hfull
  rw [limited_of_full hblank hfull, run, lineEnd_eq_false hin, hstep]
  rfl

/-- The reader gives the rows of the decoder, up to the limit. -/
theorem run_eq (h : reading.IsSound) {s : Text} (hs : '\r' ∉ s) :
    run reading s = limited (reading.attach (decodeFrom reading.mode.place s)) := by
  induction s generalizing reading with
  | nil => exact h.run_nil
  | cons c r ih =>
    obtain ⟨hc, hr⟩ : c ≠ '\r' ∧ '\r' ∉ r :=
      ⟨fun heq => hs (heq ▸ List.mem_cons_self), fun hmem => hs (List.mem_cons_of_mem _ hmem)⟩
    by_cases hline : c = '\n' ∧ reading.inQuotes = false
    · obtain ⟨rfl, hquotes⟩ := hline
      have hrest := ih isSound_start hr
      rw [attach_start] at hrest
      exact h.run_feed hquotes hrest
    · have hin : c ≠ '\n' ∨ reading.inQuotes = true := by
        cases hquotes : reading.inQuotes with
        | true => exact .inr rfl
        | false => exact .inl fun heq => hline ⟨heq, hquotes⟩
      obtain ⟨mode, hmode, hstep, hdecode⟩ | ⟨hstep, hdecode⟩ | ⟨mode, hmode, hstep, hdecode⟩ :=
        step?_cases hin hc
      · have hsound : IsSound { reading with mode := mode } :=
          ⟨h.size, h.cell, h.cells, fun heq => absurd heq hmode⟩
        rw [run_step hin hstep, ih hsound hr, hdecode]
        rfl
      · rw [run_step hin hstep, ih h.nextCell hr, hdecode, attach_nextCell]
        rfl
      · rw [hdecode]
        by_cases hroom : reading.size < cellLimit
        · rw [if_pos hroom] at hstep
          rw [run_step hin hstep, ih (h.push hmode hroom c) hr, attach_push]
          rfl
        · rw [if_neg hroom] at hstep
          exact h.run_full hin hmode hroom hstep r

end Reading

/-- The reader gives the rows up to the first one with a cell beyond the limit. -/
theorem rows_eq (s : Text) : rows s = limited (withFeeds (decode s)) := by
  unfold rows
  rw [Reading.run_eq Reading.isSound_start (return_notMem_normalLines s),
    Reading.attach_start, ← decode_normalLines]
  rfl

end CommandUpgrade.Sheet
