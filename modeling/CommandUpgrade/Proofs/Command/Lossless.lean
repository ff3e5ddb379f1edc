import CommandUpgrade.Proofs.Command.Tokens

/-!
# Tokens lose no character

A scan cuts a text only at separators, so its pieces, joined by the separator again, are the text
(`Text.join_pieces`): no case of the scan matters for that, an open quote and brackets that were closed too
often included. Trimming and leaving out blank pieces take away white space alone. So the tokens hold the
characters of the command that are no white space, each once and in their order (`nonblank_tokens`).
-/

namespace CommandUpgrade

open Text

namespace Text

/-- The characters of a text that are no white space. -/
def nonblank (s : Text) : Text := s.filter (!isBlank ·)

theorem nonblank_append (s t : Text) : nonblank (s ++ t) = nonblank s ++ nonblank t :=
  List.filter_append s t

theorem nonblank_of_isBlank {s : Text} (h : ∀ c ∈ s, isBlank c = true) : nonblank s = [] :=
  List.filter_eq_nil_iff.2 fun c hc => by simp [h c hc]

theorem nonblank_trim (s : Text) : nonblank (trim s) = nonblank s := by
  obtain ⟨a, b, hs, ha, hb⟩ := exists_trim_append s
  conv_rhs => rw [hs]
  rw [nonblank_append, nonblank_append, nonblank_of_isBlank ha, nonblank_of_isBlank hb, List.append_nil,
    List.nil_append]

/-! ## Pieces -/

/-- The pieces of a text are what stands between the separators, nothing more and nothing less. -/
theorem join_pieces (sep : Char) (scan : Nesting) (s : Text) :
    join [sep] (scan.pieces sep s) = s := by
  induction s generalizing scan with
  | nil => rfl
  | cons c r ih =>
    have hrest := ih (scan.step c)
    obtain ⟨p, ps, hpieces⟩ :=
      List.exists_cons_of_ne_nil (Command.pieces_ne_nil sep (scan.step c) r)
    rw [Nesting.pieces]
    split
    · rename_i hcut
      obtain ⟨rfl, -⟩ := Nesting.cuts_iff.1 hcut
      rw [hpieces] at hrest ⊢
      rw [join_cons_cons, hrest]
      rfl
    · rw [hpieces] at hrest ⊢
      -- the character stands in front of the first piece, whether or not others follow
      cases ps with
      | nil => exact congrArg (c :: ·) hrest
      | cons q qs =>
        rw [join_cons_cons] at hrest
        rw [extend, join_cons_cons, ← hrest]
        rfl

theorem nonblank_join {sep : Char} (hsep : isBlank sep = true) (pieces : List Text) :
    nonblank (join [sep] pieces) = nonblank pieces.flatten := by
  have hblank : nonblank [sep] = [] := nonblank_of_isBlank (by simpa using hsep)
  induction pieces with
  | nil => rfl
  | cons p ps ih =>
    cases ps with
    | nil => rw [join, List.flatten_singleton]
    | cons q qs =>
      rw [join_cons_cons, List.flatten_cons, nonblank_append, nonblank_append, ← ih, ← List.singleton_append,
        nonblank_append, hblank, List.nil_append]

theorem nonblank_flatten_solid (pieces : List Text) :
    nonblank (solid pieces).flatten = nonblank pieces.flatten := by
  induction pieces with
  | nil => rfl
  | cons p ps ih =>
    have hcons : solid (p :: ps) = if trim p = [] then solid ps else trim p :: solid ps := by
      unfold solid
      by_cases h : trim p = [] <;> simp [h]
    rw [hcons, List.flatten_cons, nonblank_append, ← ih, ← nonblank_trim p]
    split
    · rename_i hp
      rw [hp]
      rfl
    · rw [List.flatten_cons, nonblank_append]

/-! ## Parts -/

theorem trimmed_of_mem_solid {w : Text} {pieces : List Text} (h : w ∈ solid pieces) :
    w ≠ [] ∧ trim w = w := by
  obtain ⟨hmem, hne⟩ := List.mem_filter.1 h
  obtain ⟨p, -, rfl⟩ := List.mem_map.1 hmem
  exact ⟨by simpa using hne, trim_trim p⟩

/-- A trimmed text neither begins nor ends with white space. -/
theorem not_isBlank_ends {w : Text} (h : trim w = w) :
    (∀ c ∈ w.head?, isBlank c = false) ∧ ∀ c ∈ w.getLast?, isBlank c = false := by
  obtain ⟨-, hend⟩ := trim_eq_self_iff.1 h
  refine ⟨fun c hc => isBlank_of_head?_trim (s := w) (by rw [h]; exact hc), fun c hc => ?_⟩
  obtain ⟨hne, rfl⟩ := List.mem_getLast?_eq_getLast hc
  simpa using List.rdropWhile_eq_self_iff.1 hend hne

end Text

namespace Command

/-- No token of a command is empty or has white space around it, and together the tokens hold the
characters of the command that are no white space. -/
theorem nonblank_tokens (s : Text) :
    (∀ w ∈ tokens s, w ≠ [] ∧ (∀ c ∈ w.head?, isBlank c = false) ∧
      ∀ c ∈ w.getLast?, isBlank c = false) ∧
    nonblank (tokens s).flatten = nonblank s := by
  refine ⟨fun w hw => ?_, ?_⟩
  · obtain ⟨hne, htrim⟩ := trimmed_of_mem_solid hw
    exact ⟨hne, not_isBlank_ends htrim⟩
  · calc nonblank (tokens s).flatten = nonblank (Nesting.start.pieces ' ' s).flatten :=
          nonblank_flatten_solid _
      _ = nonblank (join [' '] (Nesting.start.pieces ' ' s)) := (nonblank_join (by decide) _).symm
      _ = nonblank s := by rw [join_pieces]

/-- A brace and a bracket that are closed too early, white space of other kinds, and a quote that is left
open behind a backslash. -/
theorem nonblank_tokens_unbalanced :
    tokens "a\x7d b\t\x7bc  ] d[ e\\\" \t f \"g  h'" =
      ["a\x7d b\t\x7bc", "] d[", "e\\\"", "f", "\"g  h'"].map String.toList ∧
    ("] d[".toList ≠ [] ∧ (∀ c ∈ "] d[".toList.head?, isBlank c = false) ∧
      ∀ c ∈ "] d[".toList.getLast?, isBlank c = false) ∧
    nonblank (tokens "a\x7d b\t\x7bc  ] d[ e\\\" \t f \"g  h'").flatten = "a\x7db\x7bc]d[e\\\"f\"gh'".toList := by
  obtain ⟨hparts, hnonblank⟩ := nonblank_tokens "a\x7d b\t\x7bc  ] d[ e\\\" \t f \"g  h'"
  exact ⟨by decide +kernel, hparts _ (by decide +kernel), hnonblank.trans (by decide +kernel)⟩

end Command

end CommandUpgrade
