import CommandUpgrade.Proofs.Digits
import CommandUpgrade.Sheet.Reader
import CommandUpgrade.Sheet.Writer

/-!
# Reading written sheets

A sheet that was written is read back row by row. Reading takes every line end for a line feed, also
inside a cell, so each cell comes back as `normalLines` makes it, which is as it was if it holds no
carriage return.

1. Writing and `normalLines` commute: the sheet that is read is the sheet of the normal cells, with
   line feeds behind its rows (`writeLine`).
2. The reader goes over a written cell, then over the cells of a row, then over the rows.
-/

namespace CommandUpgrade

open Text

/-! ## Line ends -/

namespace Text

theorem normalLines_crlf (s : Text) :
    normalLines ('\r' :: '\n' :: s) = '\n' :: normalLines s := by
  rw [normalLines]

theorem normalLines_cr {s : Text} (h : s.head? ≠ some '\n') :
    normalLines ('\r' :: s) = '\n' :: normalLines s := by
  rw [normalLines]
  · rfl
  · rintro r - rfl
    exact h rfl

theorem normalLines_cons {c : Char} (h : c ≠ '\r') (s : Text) :
    normalLines (c :: s) = c :: normalLines s := by
  rw [normalLines, beq_eq_false_iff_ne.2 h]
  · rfl
  · exact fun r hc => absurd hc h

/-- Induction on a text by its line ends. -/
@[elab_as_elim]
theorem lines_induction {motive : Text → Prop} (nil : motive [])
    (crlf : ∀ r, motive r → motive ('\r' :: '\n' :: r))
    (cr : ∀ r, r.head? ≠ some '\n' → motive r → motive ('\r' :: r))
    (cons : ∀ c r, c ≠ '\r' → motive r → motive (c :: r)) (s : Text) : motive s := by
  induction s using normalLines.induct with
  | case1 => exact nil
  | case2 r ih => exact crlf r ih
  | case3 c r hc ih =>
    by_cases heq : c = '\r'
    · subst heq
      refine cr r (fun hhead => ?_) ih
      cases r with
      | nil => cases hhead
      | cons d r => exact hc r rfl (congrArg (· :: r) (Option.some.inj hhead))
    · exact cons c r heq ih

theorem normalLines_append {s : Text} (h : s.head? ≠ some '\n') (t : Text) :
    normalLines (t ++ s) = normalLines t ++ normalLines s := by
  induction t using lines_induction with
  | nil => rw [normalLines, List.nil_append, List.nil_append]
  | crlf r ih =>
    rw [List.cons_append, List.cons_append, normalLines_crlf, normalLines_crlf, ih, List.cons_append]
  | cr r hr ih =>
    have hhead : (r ++ s).head? ≠ some '\n' := by
      cases r with
      | nil => exact h
      | cons d r => exact hr
    rw [List.cons_append, normalLines_cr hhead, normalLines_cr hr, ih, List.cons_append]
  | cons c r hc ih =>
    rw [List.cons_append, normalLines_cons hc, normalLines_cons hc, ih, List.cons_append]

/-- A text without carriage returns has only line feeds for line ends. -/
theorem normalLines_eq_self {s : Text} (h : '\r' ∉ s) : normalLines s = s := by
  induction s with
  | nil => rw [normalLines]
  | cons c r ih =>
    have hc : c ≠ '\r' := fun heq => h (heq ▸ List.mem_cons_self)
    rw [normalLines_cons hc, ih (List.not_mem_of_not_mem_cons h)]

theorem return_notMem_normalLines (s : Text) : '\r' ∉ normalLines s := by
  induction s using lines_induction with
  | nil => rw [normalLines]; exact List.not_mem_nil
  | crlf r ih => rw [normalLines_crlf]; exact List.not_mem_cons_of_ne_of_not_mem (by decide) ih
  | cr r hr ih => rw [normalLines_cr hr]; exact List.not_mem_cons_of_ne_of_not_mem (by decide) ih
  | cons c r hc ih => rw [normalLines_cons hc]; exact List.not_mem_cons_of_ne_of_not_mem hc.symm ih

/-- Nothing is left for a second time. -/
theorem normalLines_normalLines (s : Text) : normalLines (normalLines s) = normalLines s :=
  normalLines_eq_self (return_notMem_normalLines s)

theorem length_normalLines_le (s : Text) : (normalLines s).length ≤ s.length := by
  induction s using lines_induction with
  | nil => rw [normalLines]
  | crlf r ih =>
    rw [normalLines_crlf, List.length_cons, List.length_cons, List.length_cons]
    omega
  | cr r hr ih =>
    rw [normalLines_cr hr, List.length_cons, List.length_cons]
    omega
  | cons c r hc ih =>
    rw [normalLines_cons hc, List.length_cons, List.length_cons]
    omega

theorem normalLines_eq_nil_iff (s : Text) : normalLines s = [] ↔ s = [] := by
  refine ⟨fun h => ?_, fun h => by rw [h, normalLines]⟩
  induction s using lines_induction with
  | nil => rfl
  | crlf r _ => rw [normalLines_crlf] at h; cases h
  | cr r hr _ => rw [normalLines_cr hr] at h; cases h
  | cons c r hc _ => rw [normalLines_cons hc] at h; cases h

end Text

namespace Sheet

/-- The characters of a quoted cell, each double quote twice. -/
def doubled (cell : Text) : Text := cell.flatMap fun c => if c == '"' then ['"', '"'] else [c]

theorem doubled_quote (cell : Text) : doubled ('"' :: cell) = '"' :: '"' :: doubled cell := rfl

theorem doubled_cons {c : Char} (h : c ≠ '"') (cell : Text) :
    doubled (c :: cell) = c :: doubled cell := by
  unfold doubled
  rw [List.flatMap_cons, beq_eq_false_iff_ne.2 h]
  rfl

theorem writeCell_of_needsQuotes {cell : Text} (h : needsQuotes cell = true) :
    writeCell cell = '"' :: (doubled cell ++ ['"']) := by
  unfold writeCell
  rw [if_pos h]
  rfl

theorem writeCell_of_not_needsQuotes {cell : Text} (h : needsQuotes cell = false) :
    writeCell cell = cell := by
  unfold writeCell
  rw [if_neg (by rw [h]; exact Bool.false_ne_true)]

theorem needsQuotes_normalLines (cell : Text) :
    needsQuotes (normalLines cell) = needsQuotes cell := by
  unfold needsQuotes
  induction cell using lines_induction with
  | nil => rw [normalLines]
  | crlf r _ => rw [normalLines_crlf]; rfl
  | cr r hr _ => rw [normalLines_cr hr]; rfl
  | cons c r hc ih => rw [normalLines_cons hc, List.any_cons, List.any_cons, ih]

theorem normalLines_doubled (cell : Text) :
    normalLines (doubled cell) = doubled (normalLines cell) := by
  induction cell using lines_induction with
  | nil => rfl
  | crlf r ih =>
    rw [normalLines_crlf, doubled_cons (by decide), doubled_cons (by decide), normalLines_crlf,
      doubled_cons (by decide), ih]
  | cr r hr ih =>
    have hhead : (doubled r).head? ≠ some '\n' := by
      cases r with
      | nil => exact hr
      | cons d r =>
        by_cases hd : d = '"'
        · subst hd; rw [doubled_quote, List.head?_cons]; decide
        · rw [doubled_cons hd]; exact hr
    rw [normalLines_cr hr, doubled_cons (by decide), normalLines_cr hhead, doubled_cons (by decide), ih]
  | cons c r hc ih =>
    rw [normalLines_cons hc]
    by_cases hquote : c = '"'
    · subst hquote
      rw [doubled_quote, doubled_quote, normalLines_cons hc, normalLines_cons hc, ih]
    · rw [doubled_cons hquote, doubled_cons hquote, normalLines_cons hc, ih]

theorem carriageReturn_notMem {cell : Text} (h : needsQuotes cell = false) : '\r' ∉ cell := by
  intro hmem
  unfold needsQuotes at h
  rw [List.any_eq_false] at h
  exact h '\r' hmem (by decide)

theorem normalLines_writeCell (cell : Text) :
    normalLines (writeCell cell) = writeCell (normalLines cell) := by
  cases h : needsQuotes cell with
  | true =>
    rw [writeCell_of_needsQuotes h, writeCell_of_needsQuotes (by rw [needsQuotes_normalLines, h]),
      normalLines_cons (by decide), normalLines_append (by decide), normalLines_doubled]
    rfl
  | false =>
    rw [writeCell_of_not_needsQuotes h, normalLines_eq_self (carriageReturn_notMem h),
      writeCell_of_not_needsQuotes h]

/-! ## Rows with line feeds -/

theorem join_writeCell_cons (cell next : Text) (rest : List Text) :
    join [','] ((cell :: next :: rest).map writeCell) =
      writeCell cell ++ ',' :: join [','] ((next :: rest).map writeCell) := by
  rw [List.map_cons, List.map_cons, join_cons_cons]

/-- A row as it is read: with a line feed behind it. -/
def writeLine (cells : List Text) : Text :=
  if cells == [[]] then ['"', '"', '\n'] else join [','] (cells.map writeCell) ++ ['\n']

theorem normalLines_join (cells : List Text) :
    normalLines (join [','] (cells.map writeCell)) =
      join [','] ((cells.map normalLines).map writeCell) := by
  induction cells with
  | nil => rfl
  | cons cell rest ih =>
    cases rest with
    | nil => exact normalLines_writeCell cell
    | cons next rest =>
      have hcomma : (',' :: join [','] ((next :: rest).map writeCell)).head? ≠ some '\n' := by
        rw [List.head?_cons]
        decide
      rw [join_writeCell_cons, normalLines_append hcomma, normalLines_cons (by decide), ih,
        normalLines_writeCell]
      exact (join_writeCell_cons _ _ _).symm

theorem normalLines_writeRow (cells : List Text) (s : Text) :
    normalLines (writeRow cells ++ s) = writeLine (cells.map normalLines) ++ normalLines s := by
  have hblank : (cells.map normalLines == [[]]) = (cells == [[]]) := by
    rw [Bool.eq_iff_iff, beq_iff_eq, beq_iff_eq]
    cases cells with
    | nil => exact Iff.rfl
    | cons cell rest =>
      rw [List.map_cons, List.cons.injEq, List.cons.injEq, normalLines_eq_nil_iff, List.map_eq_nil_iff]
  have hcrlf : normalLines ('\r' :: '\n' :: s) = '\n' :: normalLines s := normalLines_crlf s
  unfold writeRow writeLine
  rw [hblank]
  by_cases h : (cells == [[]]) = true
  · rw [if_pos h, if_pos h]
    show normalLines ('"' :: '"' :: '\r' :: '\n' :: s) = '"' :: '"' :: '\n' :: normalLines s
    rw [normalLines_cons (by decide), normalLines_cons (by decide), hcrlf]
  · rw [if_neg h, if_neg h, List.append_assoc, List.append_assoc, normalLines_append,
      normalLines_join]
    · exact congrArg _ hcrlf
    · exact fun hhead => by cases hhead

/-! ## The reader -/

theorem needsQuotes_cons {c : Char} {cell : Text} (h : needsQuotes (c :: cell) = false) :
    (c ≠ ',' ∧ c ≠ '"' ∧ c ≠ '\n') ∧ needsQuotes cell = false := by
  unfold needsQuotes at h
  rw [List.any_cons, Bool.or_eq_false_iff] at h
  refine ⟨?_, h.2⟩
  refine ⟨?_, ?_, ?_⟩ <;> rintro rfl <;> exact absurd h.1 (by decide)

namespace Reading

theorem lineEnd_eq_false {reading : Reading} {c : Char}
    (h : c ≠ '\n' ∨ reading.inQuotes = true) : (c == '\n' && !reading.inQuotes) = false := by
  rcases h with h | h
  · rw [beq_eq_false_iff_ne.2 h, Bool.false_and]
  · rw [h, Bool.not_true, Bool.and_false]

theorem run_step {reading next : Reading} {c : Char} (hline : c ≠ '\n' ∨ reading.inQuotes = true)
    (hstep : reading.step? c = some next) (s : Text) : run reading (c :: s) = run next s := by
  rw [run, lineEnd_eq_false hline, if_neg Bool.false_ne_true, hstep]

/-- The rest of a quoted cell, up to the quote that closes it. -/
theorem run_doubled {cells : List Text} (cell : Text) {read : Text} {n : Nat}
    (h : n + cell.length ≤ cellLimit) (s : Text) :
    run ⟨.quoted, cells, read, n⟩ (doubled cell ++ '"' :: s) =
      run ⟨.quoteSeen, cells, cell.reverse ++ read, n + cell.length⟩ s := by
  induction cell generalizing read n with
  | nil => exact run_step (Or.inl (by decide)) rfl s
  | cons c r ih =>
    rw [List.length_cons] at h
    have hroom : n < cellLimit := by omega
    have hrest := @ih (c :: read) (n + 1) (by omega)
    rw [List.length_cons, List.reverse_cons, List.append_assoc, List.singleton_append,
      show n + (r.length + 1) = n + 1 + r.length by omega, ← hrest]
    by_cases hquote : c = '"'
    · subst hquote
      rw [doubled_quote, List.cons_append, List.cons_append, run_step (Or.inl (by decide)) rfl]
      exact run_step (Or.inl (by decide)) (by simp [step?, hroom, push]) _
    · rw [doubled_cons hquote, List.cons_append]
      exact run_step (Or.inr rfl) (by simp [step?, hroom, hquote, push]) _

/-- The rest of a cell without quotes. -/
theorem run_plain {cells : List Text} {cell : Text} (hcell : needsQuotes cell = false) {read : Text}
    {n : Nat} (h : n + cell.length ≤ cellLimit) (s : Text) :
    run ⟨.plain, cells, read, n⟩ (cell ++ s) =
      run ⟨.plain, cells, cell.reverse ++ read, n + cell.length⟩ s := by
  induction cell generalizing read n with
  | nil => rfl
  | cons c r ih =>
    rw [List.length_cons] at h
    obtain ⟨hc, hr⟩ := needsQuotes_cons hcell
    rw [List.length_cons, List.reverse_cons, List.append_assoc, List.singleton_append,
      show n + (r.length + 1) = n + 1 + r.length by omega, ← ih hr (by omega), List.cons_append]
    exact run_step (Or.inl hc.2.2) (by simp [step?, hc.1, push]; omega) _

/-- A whole written cell: then the reader has its characters and is outside quotes, and not at the start
of the row unless the cell is empty there. -/
theorem run_writeCell {mode : Mode} (hmode : mode = .rowStart ∨ mode = .cellStart)
    (cells : List Text) {cell : Text} (h : cell.length ≤ cellLimit) (s : Text) :
    ∃ mode', mode' ≠ .quoted ∧ (mode' = .rowStart → mode = .rowStart ∧ cell = []) ∧
      run ⟨mode, cells, [], 0⟩ (writeCell cell ++ s) =
        run ⟨mode', cells, cell.reverse, cell.length⟩ s := by
  cases hcell : needsQuotes cell with
  | true =>
    refine ⟨.quoteSeen, nofun, nofun, ?_⟩
    have hopen : (⟨mode, cells, [], 0⟩ : Reading).step? '"' = some ⟨.quoted, cells, [], 0⟩ := by
      rcases hmode with rfl | rfl <;> rfl
    rw [writeCell_of_needsQuotes hcell, List.cons_append, run_step (Or.inl (by decide)) hopen,
      List.append_assoc, List.singleton_append, run_doubled cell (by omega), List.append_nil,
      Nat.zero_add]
  | false =>
    rw [writeCell_of_not_needsQuotes hcell]
    cases cell with
    | nil => exact ⟨mode, by rcases hmode with rfl | rfl <;> nofun, fun h => ⟨h, rfl⟩, rfl⟩
    | cons c r =>
      obtain ⟨hc, hr⟩ := needsQuotes_cons hcell
      rw [List.length_cons] at h
      have hfirst : (⟨mode, cells, [], 0⟩ : Reading).step? c = some ⟨.plain, cells, [c], 1⟩ := by
        rcases hmode with rfl | rfl <;> simp [step?, hc.1, hc.2.1, push, cellLimit]
      refine ⟨.plain, nofun, nofun, ?_⟩
      rw [List.cons_append, run_step (Or.inl hc.2.2) hfirst, run_plain hr (by omega),
        List.reverse_cons, List.length_cons, Nat.add_comm 1]

theorem run_comma {mode : Mode} (h : mode ≠ .quoted) (cells : List Text) (cell : Text) (n : Nat)
    (s : Text) :
    run ⟨mode, cells, cell.reverse, n⟩ (',' :: s) = run ⟨.cellStart, cell :: cells, [], 0⟩ s := by
  have hnext : nextCell ⟨mode, cells, cell.reverse, n⟩ = ⟨.cellStart, cell :: cells, [], 0⟩ := by
    unfold nextCell
    dsimp only
    rw [List.reverse_reverse]
  refine run_step (Or.inl (by decide)) ?_ s
  cases mode with
  | quoted => exact absurd rfl h
  | _ => exact congrArg some hnext

theorem run_newline {mode : Mode} (hquoted : mode ≠ .quoted) (hstart : mode ≠ .rowStart)
    (cells : List Text) (cell : Text) (n : Nat) (s : Text) :
    run ⟨mode, cells, cell.reverse, n⟩ ('\n' :: s) =
      ⟨(cell :: cells).reverse :: (run {} s).rows, (run {} s).fault⟩ := by
  have hrow : row ⟨mode, cells, cell.reverse, n⟩ = (cell :: cells).reverse := by
    unfold row
    dsimp only
    rw [List.reverse_reverse]
  rw [← hrow]
  cases mode with
  | quoted => exact absurd rfl hquoted
  | rowStart => exact absurd rfl hstart
  | _ => rfl

/-- The cells of a row, up to its line feed. -/
theorem run_cells {mode : Mode} (hmode : mode = .rowStart ∨ mode = .cellStart)
    (done : List Text) (cell : Text) (rest : List Text)
    (hblank : mode = .rowStart → cell = [] → rest ≠ [])
    (h : ∀ c ∈ cell :: rest, c.length ≤ cellLimit) (s : Text) :
    run ⟨mode, done, [], 0⟩ (join [','] ((cell :: rest).map writeCell) ++ '\n' :: s) =
      ⟨(done.reverse ++ cell :: rest) :: (run {} s).rows, (run {} s).fault⟩ := by
  induction rest generalizing mode done cell with
  | nil =>
    obtain ⟨mode', hquoted, hstart, hrun⟩ :=
      run_writeCell hmode done (h cell List.mem_cons_self) ('\n' :: s)
    have hrow : mode' ≠ .rowStart := fun heq =>
      hblank (hstart heq).1 (hstart heq).2 rfl
    rw [List.map_singleton, join, hrun, run_newline hquoted hrow, List.reverse_cons]
  | cons next rest ih =>
    obtain ⟨mode', hquoted, -, hrun⟩ := run_writeCell hmode done (h cell List.mem_cons_self)
      (',' :: (join [','] ((next :: rest).map writeCell) ++ '\n' :: s))
    rw [join_writeCell_cons, List.append_assoc, List.cons_append, hrun, run_comma hquoted,
      ih (Or.inr rfl) _ _ (fun hmode => Mode.noConfusion hmode) (fun c hc => h c (List.mem_cons_of_mem _ hc)), List.reverse_cons,
      List.append_assoc, List.singleton_append]

theorem run_writeLine {cells : List Text} (h : ∀ cell ∈ cells, cell.length ≤ cellLimit) (s : Text) :
    run {} (writeLine cells ++ s) = ⟨cells :: (run {} s).rows, (run {} s).fault⟩ := by
  unfold writeLine
  by_cases hblank : (cells == [[]]) = true
  · rw [if_pos hblank, beq_iff_eq.1 hblank]
    rfl
  · rw [if_neg hblank, List.append_assoc, List.singleton_append]
    cases cells with
    | nil => rfl
    | cons cell rest =>
      refine run_cells (Or.inl rfl) [] cell rest (fun _ hcell hrest => ?_) h s
      rw [hcell, hrest] at hblank
      exact hblank rfl

end Reading

/-- A written sheet is read back row by row, each cell with line feeds for its line ends. -/
theorem rows_flatMap_writeRow {sheet : List (List Text)}
    (h : ∀ row ∈ sheet, ∀ cell ∈ row, cell.length ≤ cellLimit) :
    rows (sheet.flatMap writeRow) = ⟨sheet.map (·.map normalLines), none⟩ := by
  unfold rows
  induction sheet with
  | nil => rw [List.flatMap_nil, normalLines]; rfl
  | cons row rest ih =>
    have hrow : ∀ cell ∈ row.map normalLines, cell.length ≤ cellLimit := by
      intro cell hcell
      obtain ⟨c, hc, rfl⟩ := List.mem_map.1 hcell
      exact (length_normalLines_le c).trans (h row List.mem_cons_self c hc)
    rw [List.flatMap_cons, normalLines_writeRow, Reading.run_writeLine hrow,
      ih fun r hr => h r (List.mem_cons_of_mem _ hr), List.map_cons]

end Sheet

end CommandUpgrade
