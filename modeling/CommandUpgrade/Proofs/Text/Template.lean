import CommandUpgrade.Proofs.Outcome
import CommandUpgrade.Proofs.Text.Pattern
import CommandUpgrade.Text.Template

/-!
# Literal replacement texts

A replacement text stands for itself exactly if every backslash in it is followed by a character that
has no meaning behind a backslash (`isLiteral`). Every other escape is a fault, stands for a kept text
(`TemplatePart.group`), or is shorter than its two characters.
-/

namespace CommandUpgrade.Template

open Text

/-- A backslash in front of this character stands for itself. -/
def isPlainEscape (c : Char) : Bool := !(c.isAlpha || c.isDigit || c == '\\')

/-- Every backslash stands for itself. -/
def isLiteral : Text → Bool
  | [] => true
  | [c] => c != '\\'
  | c :: d :: r => (c != '\\' || isPlainEscape d) && isLiteral (d :: r)

theorem isLiteral_cons {c : Char} (hc : c ≠ '\\') (s : Text) : isLiteral (c :: s) = isLiteral s := by
  cases s with
  | nil => simpa [isLiteral] using hc
  | cons d r => rw [isLiteral, bne_iff_ne.2 hc, Bool.true_or, Bool.true_and]

theorem isLiteral_append {w : Text} (hw : '\\' ∉ w) (s : Text) : isLiteral (w ++ s) = isLiteral s := by
  induction w with
  | nil => rfl
  | cons c w ih =>
    obtain ⟨hc, hw⟩ := not_or.1 (mt List.mem_cons.2 hw)
    rw [List.cons_append, isLiteral_cons (Ne.symm hc), ih hw]

theorem ne_of_isPlainEscape {c d : Char} (h : isPlainEscape c = true) (hd : isPlainEscape d = false) :
    c ≠ d := by
  rintro rfl
  rw [h] at hd
  cases hd

/-! ## Tokens -/

/-- A token that stands for itself. -/
def Token.isLiteral : Token → Bool
  | char _ => true
  | escape c => isPlainEscape c
  | .open => false

theorem tokens_cons {c : Char} (hc : c ≠ '\\') (s : Text) : tokens (c :: s) = .char c :: tokens s := by
  cases s with
  | nil => exact if_neg hc
  | cons d r => rw [tokens, if_neg hc]

theorem tokens_append {w : Text} (hw : '\\' ∉ w) (s : Text) :
    tokens (w ++ s) = w.map .char ++ tokens s := by
  induction w with
  | nil => rfl
  | cons c w ih =>
    obtain ⟨hc, hw⟩ := not_or.1 (mt List.mem_cons.2 hw)
    rw [List.cons_append, tokens_cons (Ne.symm hc), ih hw]
    rfl

/-- The texts of the tokens make up the replacement text. -/
theorem flatMap_text_tokens (s : Text) : (tokens s).flatMap Token.text = s := by
  fun_induction tokens s with
  | case1 => rfl
  | case2 => rfl
  | case3 c hc => rfl
  | case4 d r ih => rw [List.flatMap_cons, ih]; rfl
  | case5 c d r hc ih => rw [List.flatMap_cons, ih]; rfl

theorem all_isLiteral_tokens (s : Text) : (tokens s).all Token.isLiteral = isLiteral s := by
  fun_induction tokens s with
  | case1 => rfl
  | case2 => rfl
  | case3 c hc => simpa [isLiteral, Token.isLiteral] using hc
  | case4 d r ih =>
    rw [List.all_cons, ih, isLiteral, bne_self_eq_false, Bool.false_or]
    cases hd : isPlainEscape d with
    | false => rw [Token.isLiteral, hd, Bool.false_and, Bool.false_and]
    | true => rw [Token.isLiteral, hd, isLiteral_cons (ne_of_isPlainEscape hd (by decide))]
  | case5 c d r hc ih => rw [List.all_cons, ih, Token.isLiteral, isLiteral_cons hc, Bool.true_and]

/-! ## Reading -/

/-- The words of a part. -/
def words : TemplatePart → Text
  | .words s => s
  | .group _ => []

/-- What an escape can stand for. Only a plain one stands for itself. -/
theorem readEscape_ok {groups : Nat} {c : Char} {rest : List Token} {used : Nat} {part : TemplatePart}
    (h : readEscape groups c rest = (used, .ok part)) :
    (∃ i ≤ groups, part = .group i) ∨ (∃ d, part = .words [d]) ∨
      isPlainEscape c = true ∧ used = 0 ∧ part = .words ['\\', c] := by
  have hkept : ∀ {n m i distance : Nat}, (n, kept groups i distance) = (m, .ok part) →
      ∃ i ≤ groups, part = .group i := by
    intro n m i distance h
    have hpart := congrArg Prod.snd h
    unfold kept at hpart
    dsimp only at hpart
    split at hpart
    · cases hpart
    · exact ⟨i, by omega, (Except.ok.inj hpart).symm⟩
  unfold readEscape at h
  split at h
  · -- a kept text by its name
    left
    unfold readNamed at h
    split at h
    · dsimp only at h
      split at h
      · cases h
      split at h
      · cases h
      split at h
      · cases h
      split at h
      · exact hkept h
      · cases h
    · cases h
  rename_i hg
  split at h
  · exact Or.inr (Or.inl ⟨_, (Except.ok.inj (congrArg Prod.snd h)).symm⟩)
  split at h
  · -- a kept text by its number, or a character by its octal number
    split at h
    · exact Or.inl (hkept h)
    · dsimp only at h
      split at h
      · split at h
        · cases h
        · exact Or.inr (Or.inl ⟨_, (Except.ok.inj (congrArg Prod.snd h)).symm⟩)
      · exact Or.inl (hkept h)
  rename_i hdigit
  split at h
  · exact Or.inr (Or.inl ⟨_, (Except.ok.inj (congrArg Prod.snd h)).symm⟩)
  rename_i hcontrol
  split at h
  · cases h
  rename_i halpha
  obtain ⟨rfl, hpart⟩ := Prod.mk.inj h
  have hslash : c ≠ '\\' := by
    rintro rfl
    cases hcontrol
  refine Or.inr (Or.inr ⟨?_, rfl, (Except.ok.inj hpart).symm⟩)
  unfold isPlainEscape
  simp [hdigit, halpha, hslash]

theorem readEscape_plain (groups : Nat) {c : Char} (h : isPlainEscape c = true) (rest : List Token) :
    readEscape groups c rest = (0, .ok (.words ['\\', c])) := by
  have hmark : c.isAlpha = false ∧ c.isDigit = false ∧ c ≠ '\\' := by
    simpa [isPlainEscape, and_assoc] using h
  have hcontrol : control? c = none := by
    unfold control?
    split <;> first | rfl | exact absurd h (by decide)
  unfold readEscape
  rw [if_neg (ne_of_isPlainEscape h (by decide)), if_neg (ne_of_isPlainEscape h (by decide)),
    if_neg (by simp [hmark.2.1]), hcontrol]
  simp [hmark.1]

section Go

variable {groups position : Nat} {template : Text}

/-- What is read at a token, and what behind it. -/
theorem go_cons_ok {token : Token} {rest : List Token} {parts : List TemplatePart}
    (h : read.go groups template 0 position (token :: rest) = .ok parts) :
    ∃ used part more, parts = part :: more ∧
      read.go groups template used (position + token.text.length) rest = .ok more ∧
      ((∃ c, token = .char c ∧ used = 0 ∧ part = .words [c]) ∨
        ∃ c, token = .escape c ∧ readEscape groups c rest = (used, .ok part)) := by
  cases token with
  | char c =>
    rw [read.go] at h
    split at h
    · cases h
    · obtain ⟨more, hmore, rfl⟩ := Outcome.map_eq_ok h
      exact ⟨0, _, more, rfl, hmore, Or.inl ⟨c, rfl, rfl, rfl⟩⟩
  | escape c =>
    obtain ⟨used, part, hread⟩ : ∃ used part, readEscape groups c rest = (used, part) := ⟨_, _, rfl⟩
    rw [read.go, hread] at h
    dsimp only at h
    split at h
    · cases h
    cases part with
    | error fault => cases h
    | ok part =>
      obtain ⟨more, hmore, rfl⟩ := Outcome.map_eq_ok h
      exact ⟨used, part, more, rfl, hmore, Or.inr ⟨c, rfl, hread⟩⟩
  | «open» =>
    rw [read.go] at h
    split at h
    · cases h
    · cases h

/-- What is read has no more characters of its own than the replacement text, and as many only if every
token stands for itself. -/
theorem length_words_go {skip : Nat} {ts : List Token} {parts : List TemplatePart}
    (h : read.go groups template skip position ts = .ok parts) :
    (parts.flatMap words).length ≤ ((ts.drop skip).flatMap Token.text).length ∧
      ((parts.flatMap words).length = ((ts.drop skip).flatMap Token.text).length →
        (ts.drop skip).all Token.isLiteral = true) := by
  induction ts generalizing skip position parts with
  | nil =>
    obtain rfl := Except.ok.inj h
    rw [List.drop_nil]
    exact ⟨le_refl _, fun _ => rfl⟩
  | cons token rest ih =>
    cases skip with
    | succ skip => exact ih h
    | zero =>
      obtain ⟨used, part, more, rfl, hmore, hpart⟩ := go_cons_ok h
      obtain ⟨hle, hsame⟩ := ih hmore
      -- Tokens that belong to an escape only make the replacement text longer.
      have hdrop : ((rest.drop used).flatMap Token.text).length ≤ (rest.flatMap Token.text).length :=
        ((List.drop_sublist used rest).flatMap _).length_le
      rw [List.drop_zero, List.flatMap_cons, List.flatMap_cons, List.length_append, List.length_append]
      rcases hpart with ⟨c, rfl, rfl, rfl⟩ | ⟨c, rfl, hread⟩
      · rw [List.drop_zero] at hle hsame
        refine ⟨by simpa [words, Token.text] using hle, fun heq => ?_⟩
        rw [List.all_cons, hsame (by simpa [words, Token.text] using heq)]
        rfl
      · rcases readEscape_ok hread with ⟨i, -, rfl⟩ | ⟨d, rfl⟩ | ⟨hplain, rfl, rfl⟩
        · simp only [words, Token.text, List.length_cons, List.length_nil]
          omega
        · simp only [words, Token.text, List.length_cons, List.length_nil]
          omega
        · rw [List.drop_zero] at hle hsame
          refine ⟨by simpa [words, Token.text] using hle, fun heq => ?_⟩
          rw [List.all_cons, hsame (by simpa [words, Token.text] using heq), Token.isLiteral, hplain]
          rfl

theorem go_literal {ts : List Token} (h : ts.all Token.isLiteral = true) :
    read.go groups template 0 position ts = .ok (ts.map fun token => .words token.text) := by
  induction ts generalizing position with
  | nil => rfl
  | cons token rest ih =>
    rw [List.all_cons, Bool.and_eq_true] at h
    have hopen : (rest.take (0 + 1)).contains .open = false := by
      rw [List.contains_eq_mem, decide_eq_false_iff_not]
      intro hmem
      exact absurd (List.all_eq_true.1 h.2 _ (List.mem_of_mem_take hmem)) (by decide)
    cases token with
    | char c =>
      rw [read.go, hopen, ih h.2]
      rfl
    | escape c =>
      rw [read.go, readEscape_plain groups h.1]
      dsimp only
      rw [hopen, ih h.2]
      rfl
    | «open» => exact absurd h.1 (by decide)

/-- Characters in front stand for themselves. -/
theorem go_chars_ok {w : Text} {ts : List Token} {parts : List TemplatePart}
    (h : read.go groups template 0 position (w.map .char ++ ts) = .ok parts) :
    ∃ more, parts = w.map (fun c => .words [c]) ++ more ∧
      read.go groups template 0 (position + w.length) ts = .ok more := by
  induction w generalizing position parts with
  | nil => exact ⟨parts, rfl, h⟩
  | cons c w ih =>
    obtain ⟨used, part, more, rfl, hmore, ⟨d, hd, rfl, rfl⟩ | ⟨d, hd, -⟩⟩ := go_cons_ok h
    · obtain rfl := Token.char.inj hd
      obtain ⟨last, rfl, hlast⟩ := ih hmore
      refine ⟨last, rfl, ?_⟩
      rw [← hlast, Token.text, List.length_singleton, List.length_cons, Nat.add_assoc, Nat.add_comm 1]
    · cases hd

end Go

/-! ## Filling -/

theorem fill_cons (part : TemplatePart) (parts : List TemplatePart) (m : Match) :
    fill (part :: parts) m = fill [part] m ++ fill parts m := by
  simp [fill]

theorem fill_append (parts more : List TemplatePart) (m : Match) :
    fill (parts ++ more) m = fill parts m ++ fill more m :=
  List.flatMap_append

theorem fill_group_zero (m : Match) : fill [.group 0] m = m.whole := List.append_nil _

theorem fill_group_succ (i : Nat) (m : Match) : fill [.group (i + 1)] m = m.group (i + 1) :=
  List.append_nil _

theorem mem_fill {c : Char} {parts : List TemplatePart} {m : Match} :
    c ∈ fill parts m ↔ ∃ part ∈ parts, c ∈ fill [part] m := by
  induction parts with
  | nil => simp [fill]
  | cons part parts ih => rw [fill_cons, List.mem_append, ih, List.exists_mem_cons_iff]

theorem fill_words (parts : List Text) (m : Match) : fill (parts.map .words) m = parts.flatten := by
  rw [fill, List.flatMap_map]
  exact List.flatMap_id

theorem fill_chars (w : Text) (m : Match) : fill (w.map fun c => .words [c]) m = w := by
  have hwords := fill_words (w.map fun c => [c]) m
  rw [List.map_map, ← List.flatMap_def, List.flatMap_singleton'] at hwords
  exact hwords

/-- Where the kept texts are empty, the words are left. -/
theorem fill_eq_words {parts : List TemplatePart} {m : Match}
    (h : ∀ i, .group i ∈ parts → fill [.group i] m = []) : fill parts m = parts.flatMap words := by
  induction parts with
  | nil => rfl
  | cons part parts ih =>
    rw [fill_cons, ih fun i hi => h i (List.mem_cons_of_mem _ hi), List.flatMap_cons]
    cases part with
    | words s => simp [fill, words]
    | group i => rw [h i List.mem_cons_self]; rfl

theorem length_fill_singleton_le {part : TemplatePart} {parts : List TemplatePart} (h : part ∈ parts)
    (m : Match) : (fill [part] m).length ≤ (fill parts m).length := by
  induction parts with
  | nil => cases h
  | cons first rest ih =>
    rw [fill_cons first rest, List.length_append]
    rcases List.mem_cons.1 h with rfl | h
    · exact Nat.le_add_right _ _
    · exact (ih h).trans (Nat.le_add_left _ _)

/-- A literal replacement text is put in as it is. -/
theorem exists_read_of_isLiteral (groups : Nat) {s : Text} (h : isLiteral s = true) :
    ∃ parts, read groups s = .ok parts ∧ ∀ m, fill parts m = s := by
  rw [← all_isLiteral_tokens] at h
  refine ⟨_, go_literal h, fun m => ?_⟩
  have hwords := fill_words ((tokens s).map Token.text) m
  rw [List.map_map, ← List.flatMap_def, flatMap_text_tokens] at hwords
  exact hwords

/-- A replacement text whose own words are the whole of it is literal. -/
theorem isLiteral_of_words {groups position : Nat} {template s : Text} {parts : List TemplatePart}
    (h : read.go groups template 0 position (tokens s) = .ok parts) (hwords : parts.flatMap words = s) :
    isLiteral s = true := by
  rw [← all_isLiteral_tokens]
  refine (length_words_go h).2 ?_
  rw [List.drop_zero, flatMap_text_tokens, hwords]

end CommandUpgrade.Template
