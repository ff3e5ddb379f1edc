import CommandUpgrade.Proofs.Style.Formatting

/-!
# Lines of any text

A text is divided at its small codes only. A piece between them that begins with a section sign counts
as one code, whatever follows in it, and any other piece is shown as it is. So text is lost behind a
capital code, behind `§k` and behind a section sign that makes no code, and such a code in the middle of
a piece is shown; a piece that is a lone section sign stops the conversion (`lineComponents_text`).
-/

namespace CommandUpgrade.Style

open Text

/-! ## Formatting codes -/

/-- The characters that format the text behind a section sign, small or capital. -/
def isFormatting (c : Char) : Bool :=
  ('0' ≤ c && c ≤ '9') || ('a' ≤ c && c ≤ 'f') || ('k' ≤ c && c ≤ 'o') || c == 'r' ||
    ('A' ≤ c && c ≤ 'F') || ('K' ≤ c && c ≤ 'O') || c == 'R'

/-- The text without its formatting codes. -/
def unformatted : Text → Text
  | [] => []
  | [c] => [c]
  | c :: d :: r => if c = sign ∧ isFormatting d then unformatted r else c :: unformatted (d :: r)

/-- The pieces between the codes that divide a text. -/
def pieces (s : Text) : List Text := (divide s).1 :: (divide s).2.map Prod.snd

/-- What is shown of a piece. -/
def kept (piece : Text) : Text := if piece.head? = some sign then [] else piece

/-- What is shown of the piece is its text: behind a section sign at its start it has formatting
codes only, and otherwise none at all. -/
def Legible (piece : Text) : Prop :=
  (piece.head? = some sign → unformatted piece = []) ∧
    (piece.head? ≠ some sign → unformatted piece = piece)

theorem isFormatting_of_isCode {c : Char} (h : isCode c = true) : isFormatting c = true := by
  simp only [isCode, Bool.or_eq_true, beq_iff_eq] at h
  rcases h with (((((hdigit | hletter) | rfl) | rfl) | rfl) | rfl) | rfl
  · simp only [isFormatting, hdigit, Bool.true_or]
  · simp only [isFormatting, hletter, Bool.true_or, Bool.or_true]
  all_goals decide

theorem ne_sign_of_isFormatting {c : Char} (h : isFormatting c = true) : c ≠ sign := by
  rintro rfl
  revert h
  decide

theorem unformatted_char {c : Char} (h : c ≠ sign) (r : Text) :
    unformatted (c :: r) = c :: unformatted r := by
  cases r with
  | nil => rfl
  | cons d r => rw [unformatted, if_neg fun hcode => h hcode.1]

theorem unformatted_of_notMem {s : Text} (h : sign ∉ s) : unformatted s = s := by
  induction s with
  | nil => rfl
  | cons c r ih =>
    rw [unformatted_char (List.ne_of_not_mem_cons h).symm, ih (List.not_mem_of_not_mem_cons h)]

/-- The first piece is empty or begins as the text does. -/
theorem divide_fst_cons (c : Char) (r : Text) :
    (divide (c :: r)).1 = [] ∨ ∃ piece, (divide (c :: r)).1 = c :: piece := by
  cases r with
  | nil => exact .inr ⟨[], rfl⟩
  | cons d r =>
    rw [divide]
    split
    · exact .inl rfl
    · exact .inr ⟨_, rfl⟩

theorem pieces_code {c : Char} (h : isCode c = true) (r : Text) :
    pieces (sign :: c :: r) = [] :: pieces r := by
  unfold pieces
  rw [divide_code h]
  rfl

theorem pieces_cons {c d : Char} (h : ¬(c = sign ∧ isCode d = true)) (r : Text) :
    pieces (c :: d :: r) = (c :: (divide (d :: r)).1) :: (divide (d :: r)).2.map Prod.snd := by
  unfold pieces
  rw [divide, if_neg h]

/-- A formatting code never reaches from one piece into the next. -/
theorem unformatted_eq_flatMap (s : Text) : unformatted s = (pieces s).flatMap unformatted := by
  induction s using divide.induct with
  | case1 => rfl
  | case2 c => exact (List.append_nil _).symm
  | case3 c d r hcode piece rest hdivide ih =>
    obtain ⟨rfl, hd⟩ := hcode
    rw [unformatted, if_pos ⟨rfl, isFormatting_of_isCode hd⟩, ih, pieces_code hd]
    rfl
  | case4 c d r hcode piece rest hdivide ih =>
    rw [pieces_cons hcode, List.flatMap_cons, unformatted]
    by_cases hformat : c = sign ∧ isFormatting d = true
    · -- The code is none that divides the text, so both its characters are in the first piece.
      have hd := ne_sign_of_isFormatting hformat.2
      rw [pieces, List.flatMap_cons, divide_char hd, unformatted_char hd, unformatted_char hd,
        List.cons_append, List.cons.injEq] at ih
      rw [if_pos hformat, divide_char hd, unformatted, if_pos hformat]
      exact ih.2
    · have hfirst : unformatted (c :: (divide (d :: r)).1) =
          c :: unformatted (divide (d :: r)).1 := by
        rcases divide_fst_cons d r with hnil | ⟨piece, hpiece⟩
        · rw [hnil]
          rfl
        · rw [hpiece, unformatted, if_neg hformat]
      rw [if_neg hformat, ih, hfirst, List.cons_append]
      rfl

/-! ## The steps of a text -/

/-- The steps of a piece that is no lone section sign. -/
def pieceMarks : Text → List Mark
  | [] => []
  | c :: r => if c = sign then r.head?.toList.map fun d => .code (lowerChar d) else [.words (c :: r)]

/-- The text of a step. -/
def Mark.text : Mark → Text
  | .code _ => []
  | .words s => s

theorem marksOfPiece_of_ne {piece : Text} (h : piece ≠ [sign]) :
    marksOfPiece piece = .ok (pieceMarks piece) := by
  cases piece with
  | nil => rfl
  | cons c r =>
    by_cases hc : c = sign
    · subst hc
      cases r with
      | nil => exact absurd rfl h
      | cons d r => rfl
    · simp [marksOfPiece, pieceMarks, hc]

theorem flatMap_text_pieceMarks (piece : Text) : (pieceMarks piece).flatMap Mark.text = kept piece := by
  cases piece with
  | nil => rfl
  | cons c r =>
    by_cases hc : c = sign
    · subst hc
      cases r <;> rfl
    · simp [pieceMarks, kept, hc, Mark.text]

theorem eq_of_marksOfPiece_eq_error {piece : Text} {fault : Fault}
    (h : marksOfPiece piece = .error fault) : fault = .pastEnd .text := by
  by_cases hpiece : piece = [sign]
  · rw [hpiece] at h
    exact (Except.error.inj h).symm
  · rw [marksOfPiece_of_ne hpiece] at h
    cases h

/-- The steps of a code and of the piece behind it. -/
def codeMarks (piece : Char × Text) : Outcome (List Mark) := do
  return .code piece.1 :: (← marksOfPiece piece.2)

theorem codeMarks_ne_ok {piece : Char × Text} (h : piece.2 = [sign]) (steps : List Mark) :
    codeMarks piece ≠ .ok steps := by
  unfold codeMarks
  rw [h]
  intro hsteps
  cases hsteps

theorem eq_of_codeMarks_eq_error {piece : Char × Text} {fault : Fault}
    (h : codeMarks piece = .error fault) : fault = .pastEnd .text := by
  unfold codeMarks at h
  cases hpiece : marksOfPiece piece.2 with
  | error other =>
    rw [hpiece] at h
    obtain rfl : other = fault := Except.error.inj h
    exact eq_of_marksOfPiece_eq_error hpiece
  | ok steps =>
    rw [hpiece] at h
    cases h

/-- A lone section sign between codes stops the conversion. -/
theorem marks_of_mem {s : Text} (h : [sign] ∈ pieces s) : marks s = .error (.pastEnd .text) := by
  have hmarks : marks s = (do
      let first ← marksOfPiece (divide s).1
      let others ← (divide s).2.mapM codeMarks
      return first ++ others.flatten) := rfl
  rw [hmarks]
  by_cases hfirst : (divide s).1 = [sign]
  · rw [hfirst]
    rfl
  · obtain ⟨piece, hmem, hpiece⟩ : ∃ piece ∈ (divide s).2, piece.2 = [sign] := by
      simpa [pieces, Ne.symm hfirst] using h
    obtain ⟨fault, hfault⟩ := Outcome.mapM_eq_error hmem (codeMarks_ne_ok hpiece)
    obtain ⟨other, -, hother⟩ := Outcome.exists_of_mapM_eq_error hfault
    rw [marksOfPiece_of_ne hfirst, hfault, eq_of_codeMarks_eq_error hother]
    rfl

theorem marks_of_notMem {s : Text} (h : [sign] ∉ pieces s) :
    ∃ steps, marks s = .ok steps ∧ steps.flatMap Mark.text = (pieces s).flatMap kept := by
  have hne : ∀ piece ∈ pieces s, marksOfPiece piece = .ok (pieceMarks piece) :=
    fun piece hmem => marksOfPiece_of_ne fun heq => h (heq ▸ hmem)
  refine ⟨_, marks_of_pieces (hne _ List.mem_cons_self) fun piece hmem =>
    hne _ (List.mem_cons_of_mem _ (List.mem_map_of_mem hmem)), ?_⟩
  rw [List.flatMap_append, flatMap_text_pieceMarks, pieces, List.flatMap_cons, List.flatMap_assoc,
    List.flatMap_map]
  simp [Mark.text, flatMap_text_pieceMarks]

/-- The texts of the runs are the pending text and that of the steps. -/
theorem flatMap_fst_runs {m : Machine} (format : Format) (pending : Text) (steps : List Mark) :
    (m.runs format pending steps).flatMap Prod.fst = pending ++ steps.flatMap Mark.text := by
  have hrun : ∀ (s : Text) (format : Format), (runOf s format).flatMap Prod.fst = s := by
    intro s format
    by_cases hs : s = [] <;> simp [runOf, hs]
  induction steps generalizing format pending with
  | nil => simp [Machine.runs, hrun]
  | cons mark rest ih =>
    cases mark with
    | code code => simp [Machine.runs, hrun, ih, Mark.text]
    | words s => simp [Machine.runs, ih, Mark.text]

/-! ## The text of a line -/

theorem lineComponents_of_mem {s : Text} (h : [sign] ∈ pieces s) :
    lineComponents s = .error (.pastEnd .text) := by
  unfold lineComponents
  rw [marks_of_mem h]
  rfl

theorem exists_lineComponents_of_notMem {s : Text} (h : [sign] ∉ pieces s) :
    ∃ components, lineComponents s = .ok components ∧
      components.flatMap textOf = (pieces s).flatMap kept := by
  obtain ⟨steps, hmarks, htext⟩ := marks_of_notMem h
  obtain ⟨components, hline, hgives⟩ := givesOut_lineComponents hmarks
  refine ⟨components, hline, ?_⟩
  rw [hgives.text, flatMap_fst_runs, List.nil_append, htext]

theorem legible_iff (piece : Text) : Legible piece ↔ kept piece = unformatted piece := by
  unfold Legible kept
  by_cases hhead : piece.head? = some sign
  · simp [hhead, eq_comm (a := ([] : Text))]
  · simp [hhead, eq_comm (a := piece)]

theorem not_legible_sign : ¬ Legible [sign] := by
  rw [legible_iff]
  decide

/-- Parts that are nowhere longer make the same whole only if they are the same. -/
theorem eq_of_flatMap_eq {f g : Text → Text} {parts : List Text}
    (hle : ∀ part ∈ parts, (f part).length ≤ (g part).length)
    (h : parts.flatMap f = parts.flatMap g) : ∀ part ∈ parts, f part = g part := by
  induction parts with
  | nil => simp
  | cons part rest ih =>
    obtain ⟨hpart, hrest⟩ := List.forall_mem_cons.1 hle
    have hsum : (rest.flatMap f).length ≤ (rest.flatMap g).length := by
      rw [List.length_flatMap, List.length_flatMap]
      exact List.sum_le_sum hrest
    rw [List.flatMap_cons, List.flatMap_cons] at h
    have hlength := congrArg List.length h
    rw [List.length_append, List.length_append] at hlength
    obtain ⟨hfirst, hothers⟩ := List.append_inj h (by omega)
    exact List.forall_mem_cons.2 ⟨hfirst, ih hrest hothers⟩

/-- Without a section sign in what is shown, no text and no code is left in a piece. -/
theorem legible_of_flatMap_eq {s : Text} (hsign : sign ∉ unformatted s)
    (h : (pieces s).flatMap kept = unformatted s) : ∀ piece ∈ pieces s, Legible piece := by
  have hle : ∀ piece ∈ pieces s, (kept piece).length ≤ (unformatted piece).length := by
    intro piece hmem
    by_cases hhead : piece.head? = some sign
    · simp [kept, hhead]
    · have hkept : kept piece = piece := if_neg hhead
      have hnone : sign ∉ piece := by
        rw [← h] at hsign
        exact fun hin => hsign (List.mem_flatMap.2 ⟨piece, hmem, hkept.symm ▸ hin⟩)
      rw [hkept, unformatted_of_notMem hnone]
  intro piece hmem
  rw [legible_iff]
  exact eq_of_flatMap_eq hle (h.trans (unformatted_eq_flatMap s)) piece hmem

/-- The conversion of a line stops at a piece that is a lone section sign, and otherwise shows the
pieces that begin with another character. That is the text without its formatting codes if every
piece is legible, and, where each section sign makes a formatting code, only then. -/
theorem lineComponents_text (s : Text) :
    ([sign] ∈ pieces s → lineComponents s = .error (.pastEnd .text)) ∧
    ([sign] ∉ pieces s → ∃ components, lineComponents s = .ok components ∧
      components.flatMap textOf = (pieces s).flatMap kept) ∧
    ((∀ piece ∈ pieces s, Legible piece) → ∃ components, lineComponents s = .ok components ∧
      components.flatMap textOf = unformatted s) ∧
    (sign ∉ unformatted s → (∃ components, lineComponents s = .ok components ∧
      components.flatMap textOf = unformatted s) → ∀ piece ∈ pieces s, Legible piece) := by
  refine ⟨lineComponents_of_mem, exists_lineComponents_of_notMem, ?_, ?_⟩
  · intro hlegible
    obtain ⟨components, hline, htext⟩ :=
      exists_lineComponents_of_notMem fun hmem => not_legible_sign (hlegible _ hmem)
    refine ⟨components, hline, ?_⟩
    rw [htext, unformatted_eq_flatMap]
    exact List.flatMap_congr fun piece hmem => (legible_iff piece).1 (hlegible piece hmem)
  · rintro hsign ⟨components, hline, htext⟩
    have hlone : [sign] ∉ pieces s := by
      intro hmem
      rw [lineComponents_of_mem hmem] at hline
      cases hline
    obtain ⟨others, hothers, hkept⟩ := exists_lineComponents_of_notMem hlone
    obtain rfl : components = others := Except.ok.inj (hline.symm.trans hothers)
    exact legible_of_flatMap_eq hsign (hkept.symm.trans htext)

/-- Behind a capital code everything up to the next small one is lost. -/
theorem lineComponents_text_capital :
    unformatted "§AHi" = "Hi" ∧ ∃ components, lineComponents "§AHi" = .ok components ∧
      components.flatMap textOf = [] := by
  have hpieces : pieces "§AHi" = ["§AHi".toList] := by decide +kernel
  obtain ⟨components, hline, htext⟩ := (lineComponents_text "§AHi").2.1 (by decide +kernel)
  rw [hpieces] at htext
  exact ⟨by decide +kernel, components, hline, htext⟩

end CommandUpgrade.Style
