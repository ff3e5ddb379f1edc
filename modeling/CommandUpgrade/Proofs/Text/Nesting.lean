import CommandUpgrade.Proofs.Digits
import CommandUpgrade.Text.Nesting

/-!
# Scans over nested texts

A scan looks back at one character only, and only to see whether it is a backslash. So two scans with
the same open quote and the same open pairs go on alike (`Alike`), and white space changes nothing but
the character in front. Behind a cut the scan is as in front of the text (`pieces_cases`).
-/

namespace CommandUpgrade.Text

/-! ## Trimming -/

section Trim

variable {c : Char} {s : Text}

theorem stripEnd_eq_rdropWhile (p : Char → Bool) (s : Text) : stripEnd p s = s.rdropWhile p := by
  induction s using List.reverseRecOn with
  | nil => rfl
  | append_singleton r c ih =>
    by_cases hc : p c = true
    · rw [List.rdropWhile_concat_pos p r c hc, ← ih]
      simp [stripEnd, hc]
    · rw [List.rdropWhile_concat_neg p r c hc, stripEnd_append_singleton (by simpa using hc)]

theorem mem_of_mem_stripBoth {p : Char → Bool} (h : c ∈ stripBoth p s) : c ∈ s := by
  unfold stripBoth stripStart at h
  rw [stripEnd_eq_rdropWhile] at h
  exact (List.dropWhile_sublist _).subset ((List.rdropWhile_prefix _ _).subset h)

theorem trimEnd_append_cons (hc : isBlank c = false) (s t : Text) :
    trimEnd (s ++ c :: t) = s ++ c :: trimEnd t := by
  unfold trimEnd
  induction s with
  | nil =>
    unfold stripEnd
    rw [List.nil_append, List.foldr_cons, hc, Bool.and_false, if_neg Bool.false_ne_true, List.nil_append]
  | cons d r ih =>
    unfold stripEnd at ih ⊢
    rw [List.cons_append, List.foldr_cons, ih, if_neg (by simp), List.cons_append]

theorem trim_eq (s : Text) : trim s = (s.dropWhile isBlank).rdropWhile isBlank :=
  stripEnd_eq_rdropWhile _ _

/-- A text is its trimmed form with white space around it. -/
theorem exists_trim_append (s : Text) :
    ∃ a b, s = a ++ (trim s ++ b) ∧ (∀ c ∈ a, isBlank c = true) ∧ ∀ c ∈ b, isBlank c = true := by
  refine ⟨s.takeWhile isBlank, (s.dropWhile isBlank).rtakeWhile isBlank, ?_,
    fun c => List.mem_takeWhile_imp, fun c => List.mem_rtakeWhile_imp⟩
  rw [trim_eq, List.rdropWhile_append_rtakeWhile, List.takeWhile_append_dropWhile]

theorem trim_cons_of_isBlank (hc : isBlank c = true) (s : Text) : trim (c :: s) = trim s := by
  rw [trim_eq, trim_eq, List.dropWhile_cons_of_pos hc]

theorem trim_cons_of_not_isBlank (hc : isBlank c = false) (s : Text) :
    trim (c :: s) = c :: trimEnd s := by
  unfold trim stripBoth stripStart trimEnd stripEnd
  rw [List.dropWhile_cons_of_neg (by simp [hc]), List.foldr_cons, hc, Bool.and_false,
    if_neg Bool.false_ne_true]

theorem trim_append_of_isBlank (hc : isBlank c = true) (s : Text) : trim (s ++ [c]) = trim s := by
  rw [trim_eq, trim_eq]
  by_cases hs : ∀ d ∈ s, isBlank d = true
  · rw [List.dropWhile_eq_nil_iff.2 hs, List.dropWhile_eq_nil_iff.2]
    intro d hd
    rcases List.mem_append.1 hd with hd | hd
    · exact hs d hd
    · rwa [List.mem_singleton.1 hd]
  · rw [List.dropWhile_append, if_neg (by simpa [List.isEmpty_iff] using hs),
      List.rdropWhile_concat_pos _ _ _ hc]

theorem trim_append_blanks {b : Text} (hb : ∀ c ∈ b, isBlank c = true) (s : Text) :
    trim (s ++ b) = trim s := by
  induction b using List.reverseRecOn with
  | nil => rw [List.append_nil]
  | append_singleton b c ih =>
    obtain ⟨hb, hc⟩ := List.forall_mem_append.1 hb
    rw [← List.append_assoc, trim_append_of_isBlank (hc c (List.mem_singleton_self c)), ih hb]

theorem trim_trimEnd (s : Text) : trim (trimEnd s) = trim s := by
  have hs : trimEnd s ++ s.rtakeWhile isBlank = s := by
    unfold trimEnd
    rw [stripEnd_eq_rdropWhile, List.rdropWhile_append_rtakeWhile]
  have hblank : ∀ c ∈ s.rtakeWhile isBlank, isBlank c = true := fun c => List.mem_rtakeWhile_imp
  conv_rhs => rw [← hs]
  rw [trim_append_blanks hblank]

theorem trim_eq_self_iff {s : Text} :
    trim s = s ↔ s.dropWhile isBlank = s ∧ s.rdropWhile isBlank = s := by
  rw [trim_eq]
  constructor
  · intro h
    have hstart : s.dropWhile isBlank = s := by
      refine (List.dropWhile_suffix isBlank).eq_of_length_le ?_
      calc s.length = ((s.dropWhile isBlank).rdropWhile isBlank).length := by rw [h]
        _ ≤ (s.dropWhile isBlank).length := (List.rdropWhile_prefix isBlank _).length_le
    rw [hstart] at h
    exact ⟨hstart, h⟩
  · rintro ⟨hstart, hend⟩
    rw [hstart, hend]

/-- Trimmed texts around a character that is no white space are one trimmed text. -/
theorem trim_append_cons {s t : Text} {c : Char} (hc : isBlank c = false) (hs : trim s = s)
    (ht : trim t = t) : trim (s ++ c :: t) = s ++ c :: t := by
  obtain ⟨hstart, -⟩ := trim_eq_self_iff.1 hs
  obtain ⟨-, hend⟩ := trim_eq_self_iff.1 ht
  refine trim_eq_self_iff.2 ⟨?_, ?_⟩
  · rw [List.dropWhile_append, hstart, List.dropWhile_cons_of_neg (by simp [hc])]
    cases s <;> rfl
  · rw [List.rdropWhile_eq_self_iff] at hend ⊢
    intro hne
    by_cases hnil : t = []
    · simp [hnil, hc]
    · rw [List.getLast_append_of_ne_nil hne (List.cons_ne_nil c t), List.getLast_cons hnil]
      exact hend hnil

theorem isBlank_of_head?_trim (h : (trim s).head? = some c) : isBlank c = false := by
  rw [trim_eq] at h
  obtain ⟨behind, hbehind⟩ := List.rdropWhile_prefix isBlank (l := s.dropWhile isBlank)
  have hhead : (s.dropWhile isBlank).head? = some c := by
    rw [← hbehind, List.head?_append, h]
    rfl
  have hnot := List.head?_dropWhile_not isBlank s
  rw [hhead] at hnot
  simpa using hnot

theorem trim_trim (s : Text) : trim (trim s) = trim s := by
  cases htrim : trim s with
  | nil => rfl
  | cons c r =>
    have hc : isBlank c = false := isBlank_of_head?_trim (s := s) (by rw [htrim]; rfl)
    rw [trim_eq, List.dropWhile_cons_of_neg (by simp [hc]), ← htrim, trim_eq,
      List.rdropWhile_idempotent]

end Trim

/-! ## White space -/

section Blank

variable {c : Char} (hc : isBlank c = true)

include hc

theorem ne_of_isBlank {d : Char} (hd : isBlank d = false) : c ≠ d := by
  rintro rfl
  rw [hc] at hd
  cases hd

theorem isQuote_of_isBlank : isQuote c = false := by
  unfold isQuote
  rw [beq_eq_false_iff_ne.2 (ne_of_isBlank hc (by decide)),
    beq_eq_false_iff_ne.2 (ne_of_isBlank hc (by decide))]
  rfl

end Blank

namespace Nesting

/-! ## Scans that go on alike -/

/-- The scan behind a text. -/
def across (scan : Nesting) (w : Text) : Nesting := w.foldl step scan

/-- No quote, brace or bracket is open, and none was closed too often. -/
structure Level (scan : Nesting) : Prop where
  isOpen : scan.isOpen = none
  braces : scan.braces = 0
  brackets : scan.brackets = 0

instance (scan : Nesting) : Decidable scan.Level :=
  decidable_of_iff (scan.isOpen = none ∧ scan.braces = 0 ∧ scan.brackets = 0)
    ⟨fun ⟨h, h', h''⟩ => ⟨h, h', h''⟩, fun ⟨h, h', h''⟩ => ⟨h, h', h''⟩⟩

/-- The same quote is open and the same pairs are, and either both scans stand behind a backslash or
none does. -/
structure Alike (a b : Nesting) : Prop where
  isOpen : a.isOpen = b.isOpen
  braces : a.braces = b.braces
  brackets : a.brackets = b.brackets
  before : a.before = some '\\' ↔ b.before = some '\\'

theorem level_start : start.Level := ⟨rfl, rfl, rfl⟩

theorem across_append (scan : Nesting) (v w : Text) :
    scan.across (v ++ w) = (scan.across v).across w := List.foldl_append

namespace Alike

variable {a b : Nesting}

theorem refl (a : Nesting) : Alike a a := ⟨rfl, rfl, rfl, Iff.rfl⟩

theorem symm (h : Alike a b) : Alike b a :=
  ⟨h.isOpen.symm, h.braces.symm, h.brackets.symm, h.before.symm⟩

theorem step (h : Alike a b) (c : Char) : a.step c = b.step c := by
  have hquote : quoteCounts a.before c = quoteCounts b.before c := by
    unfold quoteCounts
    rw [Bool.eq_iff_iff, Bool.and_eq_true, Bool.and_eq_true, bne_iff_ne, bne_iff_ne, Ne, Ne, h.before]
  unfold Nesting.step
  rw [hquote, h.isOpen, h.braces, h.brackets]

theorem cuts (h : Alike a b) (sep c : Char) : a.cuts sep c = b.cuts sep c := by
  unfold Nesting.cuts
  rw [h.isOpen, h.braces, h.brackets]

theorem pieces (h : Alike a b) (sep : Char) (s : Text) : a.pieces sep s = b.pieces sep s := by
  cases s with
  | nil => rfl
  | cons c r => rw [Nesting.pieces, Nesting.pieces, h.step, h.cuts]

theorem across (h : Alike a b) (w : Text) : Alike (a.across w) (b.across w) := by
  cases w with
  | nil => exact h
  | cons c r =>
    unfold Nesting.across
    rw [List.foldl_cons, List.foldl_cons, h.step]
    exact .refl _

theorem level (h : Alike a b) (ha : a.Level) : b.Level :=
  ⟨h.isOpen.symm.trans ha.isOpen, h.braces.symm.trans ha.braces, h.brackets.symm.trans ha.brackets⟩

end Alike

/-! ## Passing characters -/

/-- A character that neither quotes nor nests leaves the scan as it is. -/
theorem step_plain {c : Char} (hquote : isQuote c = false)
    (hpair : c ≠ '{' ∧ c ≠ '}' ∧ c ≠ '[' ∧ c ≠ ']') (scan : Nesting) :
    scan.step c = { scan with before := some c } := by
  obtain ⟨h1, h2, h3, h4⟩ := hpair
  have hcounts : quoteCounts scan.before c = false := by
    unfold quoteCounts
    rw [hquote, Bool.false_and]
  unfold step change
  simp [hcounts, h1, h2, h3, h4]

theorem step_blank {c : Char} (hc : isBlank c = true) (scan : Nesting) :
    scan.step c = { scan with before := some c } :=
  step_plain (isQuote_of_isBlank hc) ⟨ne_of_isBlank hc (by decide), ne_of_isBlank hc (by decide),
    ne_of_isBlank hc (by decide), ne_of_isBlank hc (by decide)⟩ scan

theorem Level.alike_start {scan : Nesting} (h : scan.Level) (hbefore : scan.before ≠ some '\\') :
    Alike scan start :=
  ⟨h.isOpen, h.braces, h.brackets, by simp [hbefore, start]⟩

/-- White space in front of a text. -/
theorem alike_across_blank {a : Text} (ha : ∀ c ∈ a, isBlank c = true) :
    Alike (start.across a) start := by
  induction a using List.reverseRecOn with
  | nil => exact .refl start
  | append_singleton a c ih =>
    obtain ⟨ha, hc⟩ := List.forall_mem_append.1 ha
    have hblank : isBlank c = true := hc c (List.mem_singleton_self c)
    have hrest := ih ha
    rw [across_append]
    show Alike ((start.across a).step c) start
    rw [step_blank hblank]
    refine Level.alike_start ⟨hrest.isOpen, hrest.braces, hrest.brackets⟩ ?_
    simpa using ne_of_isBlank hblank (by decide)

/-- White space behind a text. -/
theorem level_across_blank {scan : Nesting} {b : Text} (hb : ∀ c ∈ b, isBlank c = true) :
    (scan.across b).Level ↔ scan.Level := by
  induction b generalizing scan with
  | nil => exact Iff.rfl
  | cons c r ih =>
    obtain ⟨hc, hr⟩ := List.forall_mem_cons.1 hb
    show ((scan.step c).across r).Level ↔ _
    rw [ih hr, step_blank hc]
    exact ⟨fun ⟨h, h', h''⟩ => ⟨h, h', h''⟩, fun ⟨h, h', h''⟩ => ⟨h, h', h''⟩⟩

/-! ## Cuts -/

/-- Whether a scan passes a text without a cut. -/
def passes (sep : Char) (scan : Nesting) : Text → Bool
  | [] => true
  | c :: r => !scan.cuts sep c && (scan.step c).passes sep r

section Passes

variable {sep : Char} {scan : Nesting}

theorem passes_append (v w : Text) :
    scan.passes sep (v ++ w) = (scan.passes sep v && (scan.across v).passes sep w) := by
  induction v generalizing scan with
  | nil => rfl
  | cons c r ih =>
    rw [List.cons_append, passes, passes, ih, Bool.and_assoc]
    rfl

theorem Alike.passes {a b : Nesting} (h : Alike a b) (w : Text) :
    a.passes sep w = b.passes sep w := by
  cases w with
  | nil => rfl
  | cons c r => rw [Nesting.passes, Nesting.passes, h.step, h.cuts]

theorem cuts_iff {c : Char} : scan.cuts sep c = true ↔ c = sep ∧ scan.Level := by
  unfold cuts
  rw [Bool.and_eq_true, Bool.and_eq_true, Bool.and_eq_true, beq_iff_eq, beq_iff_eq, beq_iff_eq,
    Option.isNone_iff_eq_none]
  exact ⟨fun ⟨⟨⟨h, h1⟩, h2⟩, h3⟩ => ⟨h, h1, h2, h3⟩, fun ⟨h, h1, h2, h3⟩ => ⟨⟨⟨h, h1⟩, h2⟩, h3⟩⟩

theorem pieces_append {w rest p : Text} {ps : List Text} (hw : scan.passes sep w = true)
    (hrest : (scan.across w).pieces sep rest = p :: ps) :
    scan.pieces sep (w ++ rest) = (w ++ p) :: ps := by
  induction w generalizing scan with
  | nil => exact hrest
  | cons c r ih =>
    rw [passes, Bool.and_eq_true, Bool.not_eq_true'] at hw
    rw [List.cons_append, pieces, hw.1, ih hw.2 hrest]
    rfl

theorem pieces_of_passes {w : Text} (hw : scan.passes sep w = true) : scan.pieces sep w = [w] := by
  have hend : (scan.across w).pieces sep [] = [[]] := rfl
  have := pieces_append hw hend
  rwa [List.append_nil] at this

end Passes

/-- Behind a cut the scan is as in front of the text. -/
theorem pieces_cut {sep : Char} (hsep : isBlank sep = true) {scan : Nesting} {w : Text}
    (hw : scan.passes sep w = true) (hlevel : (scan.across w).Level) (rest : Text) :
    scan.pieces sep (w ++ sep :: rest) = w :: start.pieces sep rest := by
  have hbehind : Alike ((scan.across w).step sep) start := by
    rw [step_blank hsep]
    exact Level.alike_start ⟨hlevel.isOpen, hlevel.braces, hlevel.brackets⟩
      (by simpa using ne_of_isBlank hsep (by decide))
  have hcut : (scan.across w).pieces sep (sep :: rest) = [] :: start.pieces sep rest := by
    rw [pieces, hbehind.pieces, if_pos (cuts_iff.2 ⟨rfl, hlevel⟩)]
  rw [pieces_append hw hcut, List.append_nil]

/-- A text is one piece, or it is cut behind its first piece. -/
theorem pieces_cases (sep : Char) (scan : Nesting) (s : Text) :
    scan.passes sep s = true ∨
    ∃ w rest, s = w ++ sep :: rest ∧ scan.passes sep w = true ∧ (scan.across w).Level := by
  induction s generalizing scan with
  | nil => exact Or.inl rfl
  | cons c r ih =>
    by_cases hcut : scan.cuts sep c = true
    · obtain ⟨rfl, hlevel⟩ := cuts_iff.1 hcut
      exact Or.inr ⟨[], r, rfl, rfl, hlevel⟩
    · rw [Bool.not_eq_true] at hcut
      rcases ih (scan.step c) with h | ⟨w, rest, rfl, hw, hlevel⟩
      · exact Or.inl (by rw [passes, hcut, h]; rfl)
      · exact Or.inr ⟨c :: w, rest, rfl, by rw [passes, hcut, hw]; rfl, hlevel⟩

end Nesting

end CommandUpgrade.Text
