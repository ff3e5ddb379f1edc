import CommandUpgrade.Command.Execute
import CommandUpgrade.Proofs.Text.Nesting

/-!
# Tokens of joined tokens

Every token of a text is a trimmed piece without a cut in it, and behind every token but the last one
nothing is open (`isLine_tokens`). Such tokens, joined by blanks, are cut at the same places again
(`tokens_words`), also when brackets are closed too often or a quote is left open.

A command is read from its tokens: texts with the same tokens are the same call (`Call.ofText_congr`).
-/

namespace CommandUpgrade.Command

open Text

/-- A text that is cut off as the last token of a command. -/
structure IsLast (w : Text) : Prop where
  filled : w ≠ []
  trimmed : trim w = w
  passes : Nesting.start.passes ' ' w = true

/-- A text that is cut off as a token also where others follow. -/
structure IsToken (w : Text) : Prop extends IsLast w where
  level : (Nesting.start.across w).Level

instance (w : Text) : Decidable (IsToken w) :=
  decidable_of_iff (w ≠ [] ∧ trim w = w ∧ Nesting.start.passes ' ' w = true ∧
      (Nesting.start.across w).Level)
    ⟨fun ⟨h, h1, h2, h3⟩ => ⟨⟨h, h1, h2⟩, h3⟩, fun ⟨⟨h, h1, h2⟩, h3⟩ => ⟨h, h1, h2, h3⟩⟩

/-- Tokens as a text has them. -/
def IsLine : List Text → Prop
  | [] => True
  | [w] => IsLast w
  | w :: rest => IsToken w ∧ IsLine rest

/-! ## Tokens piece by piece -/

section Pieces

variable {w : Text} (hw : Nesting.start.passes ' ' w = true)

include hw

theorem tokens_of_passes : tokens w = solid [w] := by
  unfold tokens parts
  rw [Nesting.pieces_of_passes hw]

theorem tokens_cut (hlevel : (Nesting.start.across w).Level) (rest : Text) :
    tokens (w ++ ' ' :: rest) = solid [w] ++ tokens rest := by
  unfold tokens parts
  rw [Nesting.pieces_cut (by decide) hw hlevel]
  unfold solid
  rw [← List.filter_append, ← List.map_append, List.singleton_append]

end Pieces

/-- What holds of a single piece, and of a piece in front of a text of which it holds, holds of every
text. -/
theorem tokens_induction {motive : Text → Prop}
    (one : ∀ w, Nesting.start.passes ' ' w = true → motive w)
    (cut : ∀ w rest, Nesting.start.passes ' ' w = true → (Nesting.start.across w).Level →
      motive rest → motive (w ++ ' ' :: rest)) (s : Text) : motive s := by
  induction hn : s.length using Nat.strong_induction_on generalizing s with
  | h n ih =>
    subst hn
    rcases Nesting.pieces_cases ' ' .start s with h | ⟨w, rest, rfl, hw, hlevel⟩
    · exact one s h
    · have hshort : rest.length < (w ++ ' ' :: rest).length := by
        rw [List.length_append, List.length_cons]
        omega
      exact cut w rest hw hlevel (ih rest.length hshort rest rfl)

theorem solid_singleton (w : Text) : solid [w] = if trim w = [] then [] else [trim w] := by
  unfold solid
  by_cases h : trim w = []
  · simp [h]
  · simp [h]

theorem solid_congr {v w : Text} (h : trim v = trim w) : solid [v] = solid [w] := by
  rw [solid_singleton, solid_singleton, h]

theorem IsLast.solid {w : Text} (h : IsLast w) : solid [w] = [w] := by
  rw [solid_singleton, h.trimmed, if_neg h.filled]

theorem IsToken.tokens_append {w : Text} (h : IsToken w) (rest : Text) :
    tokens (w ++ ' ' :: rest) = w :: tokens rest := by
  rw [tokens_cut h.passes h.level, h.solid, List.singleton_append]

/-! ## Joining -/

theorem passes_trim {w : Text} (h : Nesting.start.passes ' ' w = true) :
    Nesting.start.passes ' ' (trim w) = true := by
  obtain ⟨a, b, hw, ha, -⟩ := exists_trim_append w
  rw [hw, Nesting.passes_append, (Nesting.alike_across_blank ha).passes, Nesting.passes_append,
    Bool.and_eq_true, Bool.and_eq_true] at h
  exact h.2.1

theorem level_trim {w : Text} (h : (Nesting.start.across w).Level) :
    (Nesting.start.across (trim w)).Level := by
  obtain ⟨a, b, hw, ha, hb⟩ := exists_trim_append w
  rw [hw, Nesting.across_append] at h
  have hlevel := ((Nesting.alike_across_blank ha).across (trim w ++ b)).level h
  rwa [Nesting.across_append, Nesting.level_across_blank hb] at hlevel

theorem isLast_trim {w : Text} (h : Nesting.start.passes ' ' w = true) (hne : trim w ≠ []) :
    IsLast (trim w) :=
  ⟨hne, trim_trim w, passes_trim h⟩

theorem IsLine.cons {w : Text} (hw : IsToken w) {rest : List Text} (hrest : IsLine rest) :
    IsLine (w :: rest) := by
  cases rest with
  | nil => exact hw.toIsLast
  | cons v vs => exact ⟨hw, hrest⟩

theorem IsLine.tail {w : Text} {rest : List Text} (h : IsLine (w :: rest)) : IsLine rest := by
  cases rest with
  | nil => trivial
  | cons v vs => exact h.2

theorem IsLine.drop {parts : List Text} (h : IsLine parts) (k : Nat) : IsLine (parts.drop k) := by
  induction k generalizing parts with
  | zero => exact h
  | succ k ih =>
    cases parts with
    | nil => exact h
    | cons w rest => exact ih h.tail

/-- Behind every token of a text but the last one nothing is open. -/
theorem isLine_tokens (s : Text) : IsLine (tokens s) := by
  induction s using tokens_induction with
  | one w hw =>
    rw [tokens_of_passes hw, solid_singleton]
    split
    · trivial
    · rename_i hne
      exact isLast_trim hw hne
  | cut w rest hw hlevel ih =>
    rw [tokens_cut hw hlevel, solid_singleton]
    split
    · exact ih
    · rename_i hne
      exact IsLine.cons ⟨isLast_trim hw hne, level_trim hlevel⟩ ih

/-- Tokens that a text has are the tokens of the text they are joined to. -/
theorem tokens_words {parts : List Text} (h : IsLine parts) : tokens (words parts) = parts := by
  induction parts with
  | nil => rfl
  | cons w rest ih =>
    cases rest with
    | nil =>
      have hw : IsLast w := h
      rw [words, join, tokens_of_passes hw.passes, hw.solid]
    | cons v vs => rw [words, join_cons_cons, h.1.tokens_append, ← words, ih h.2]

/-! ## Characters in front of a text -/

section Front

variable {c : Char} (hc : Nesting.Alike (Nesting.start.step c) .start)

include hc

theorem passes_cons (hcut : c ≠ ' ') {w : Text} (hw : Nesting.start.passes ' ' w = true) :
    Nesting.start.passes ' ' (c :: w) = true := by
  rw [Nesting.passes, hc.passes, hw, Bool.and_true]
  simp [Nesting.cuts, hcut]

theorem level_cons {w : Text} (h : (Nesting.start.across w).Level) :
    (Nesting.start.across (c :: w)).Level :=
  (hc.across w).symm.level h

end Front

/-- White space in front of a text belongs to no token. -/
theorem tokens_cons_blank {c : Char} (hc : isBlank c = true) (s : Text) :
    tokens (c :: s) = tokens s := by
  have hsame : Nesting.Alike (Nesting.start.step c) .start :=
    Nesting.alike_across_blank (a := [c]) (by simpa using hc)
  by_cases hcut : c = ' '
  · subst hcut
    exact tokens_cut (w := []) rfl Nesting.level_start s
  induction s using tokens_induction with
  | one w hw =>
    rw [tokens_of_passes (passes_cons hsame hcut hw), tokens_of_passes hw,
      solid_congr (trim_cons_of_isBlank hc w)]
  | cut w rest hw hlevel =>
    rw [← List.cons_append, tokens_cut (passes_cons hsame hcut hw) (level_cons hsame hlevel),
      tokens_cut hw hlevel, solid_congr (trim_cons_of_isBlank hc w)]

theorem tokens_append_blank {c : Char} (hc : isBlank c = true) (s : Text) :
    tokens (s ++ [c]) = tokens s := by
  induction s using tokens_induction with
  | one w hw =>
    by_cases hcut : (Nesting.start.across w).cuts ' ' c = true
    · obtain ⟨rfl, hlevel⟩ := Nesting.cuts_iff.1 hcut
      rw [tokens_cut hw hlevel, tokens_of_passes hw]
      exact List.append_nil _
    · have hpasses : Nesting.start.passes ' ' (w ++ [c]) = true := by
        rw [Nesting.passes_append, hw, Nesting.passes, Nesting.passes]
        simpa using hcut
      rw [tokens_of_passes hpasses, tokens_of_passes hw, solid_congr (trim_append_of_isBlank hc w)]
  | cut w rest hw hlevel ih =>
    rw [List.append_assoc, List.cons_append, tokens_cut hw hlevel, tokens_cut hw hlevel, ih]

theorem tokens_trim (s : Text) : tokens (trim s) = tokens s := by
  have front : ∀ {a : Text}, (∀ c ∈ a, isBlank c = true) → ∀ t, tokens (a ++ t) = tokens t := by
    intro a ha t
    induction a with
    | nil => rfl
    | cons c a ih =>
      obtain ⟨hc, ha⟩ := List.forall_mem_cons.1 ha
      rw [List.cons_append, tokens_cons_blank hc, ih ha]
  have behind : ∀ {b : Text}, (∀ c ∈ b, isBlank c = true) → ∀ t, tokens (t ++ b) = tokens t := by
    intro b hb t
    induction b using List.reverseRecOn with
    | nil => rw [List.append_nil]
    | append_singleton b c ih =>
      obtain ⟨hb, hc⟩ := List.forall_mem_append.1 hb
      rw [← List.append_assoc, tokens_append_blank (hc c (List.mem_singleton_self c)), ih hb]
  obtain ⟨a, b, hs, ha, hb⟩ := exists_trim_append s
  conv_rhs => rw [hs]
  rw [front ha, behind hb]

/-! ## Calls -/

/-- The first token begins with the first character that is no white space. -/
theorem exists_tokens_cons {c : Char} (hc : isBlank c = false) (s : Text) :
    ∃ w rest, tokens (c :: s) = (c :: w) :: rest := by
  have hcut : Nesting.start.cuts ' ' c = false := by
    rw [Bool.eq_false_iff, Ne, Nesting.cuts_iff]
    rintro ⟨rfl, -⟩
    cases hc
  obtain ⟨p, ps, hpieces⟩ := List.exists_cons_of_ne_nil (pieces_ne_nil ' ' (Nesting.start.step c) s)
  refine ⟨trimEnd p, solid ps, ?_⟩
  unfold tokens parts
  rw [Nesting.pieces, hpieces, hcut]
  simp [extend, solid, trim_cons_of_not_isBlank hc]

/-- A slash in front belongs to the first token. -/
theorem exists_tokens_slash (s : Text) :
    ∃ w rest, tokens ('/' :: s) = ('/' :: w) :: rest ∧ tokens s = solid [w] ++ rest := by
  have hsame : Nesting.Alike (Nesting.start.step '/') .start :=
    Nesting.Level.alike_start (by decide) (by decide)
  have hsolid : ∀ w, solid ['/' :: w] = ['/' :: trimEnd w] := by
    intro w
    rw [solid_singleton, trim_cons_of_not_isBlank (by decide), if_neg (List.cons_ne_nil _ _)]
  induction s using tokens_induction with
  | one w hw =>
    refine ⟨trimEnd w, [], ?_, ?_⟩
    · rw [tokens_of_passes (passes_cons hsame (by decide) hw), hsolid]
    · rw [tokens_of_passes hw, List.append_nil, solid_congr (trim_trimEnd w)]
  | cut w rest hw hlevel =>
    refine ⟨trimEnd w, tokens rest, ?_, ?_⟩
    · rw [← List.cons_append, tokens_cut (passes_cons hsame (by decide) hw) (level_cons hsame hlevel),
        hsolid, List.singleton_append]
    · rw [tokens_cut hw hlevel, solid_congr (trim_trimEnd w)]

namespace Call

/-- The text of a command without the slash in front. -/
def body (s : Text) : Text := if (trim s).head? == some '/' then (trim s).drop 1 else trim s

theorem tokens_body_congr {s t : Text} (h : tokens s = tokens t) :
    tokens (body s) = tokens (body t) := by
  rw [← tokens_trim s, ← tokens_trim t] at h
  have hfirst : ∀ {s c r}, trim s = c :: r → isBlank c = false :=
    fun {s} _ _ hs => isBlank_of_head?_trim (s := s) (by rw [hs]; rfl)
  unfold body
  cases hs : trim s with
  | nil =>
    cases ht : trim t with
    | nil => rfl
    | cons d q =>
      obtain ⟨w, rest, htokens⟩ := exists_tokens_cons (hfirst ht) q
      rw [hs, ht, htokens] at h
      cases h
  | cons c r =>
    obtain ⟨w, rest, htokens⟩ := exists_tokens_cons (hfirst hs) r
    cases ht : trim t with
    | nil =>
      rw [hs, ht, htokens] at h
      cases h
    | cons d q =>
      obtain ⟨v, others, htokens'⟩ := exists_tokens_cons (hfirst ht) q
      rw [hs, ht] at h
      obtain rfl : c = d := by
        rw [htokens, htokens'] at h
        exact (List.cons.inj (List.cons.inj h).1).1
      by_cases hslash : c = '/'
      · subst hslash
        obtain ⟨w, rest, hfront, hbody⟩ := exists_tokens_slash r
        obtain ⟨v, others, hfront', hbody'⟩ := exists_tokens_slash q
        rw [hfront, hfront'] at h
        obtain ⟨hw, rfl⟩ := List.cons.inj h
        show tokens r = tokens q
        rw [hbody, hbody', (List.cons.inj hw).2]
      · simpa [hslash] using h

/-- A command is read from its tokens. -/
theorem ofText_congr {s t : Text} (h : tokens s = tokens t) : ofText s = ofText t := by
  have hbody := tokens_body_congr h
  unfold body at hbody
  unfold ofText
  dsimp only
  rw [hbody]

theorem exists_args_eq (s : Text) : ∃ t, (ofText s).args = (tokens t).drop 1 := by
  refine ⟨body s, ?_⟩
  unfold ofText body
  dsimp only
  split
  · rename_i htokens
    rw [htokens]
    rfl
  · rename_i htokens
    rw [htokens]
    rfl

end Call

/-! ## Stability -/

/-- The tokens of a text from any one on, joined by blanks, are the tokens of the joined text. So the
command that `execute` runs has the arguments that stand behind those of `execute` itself. -/
theorem tokens_words_drop (s : Text) (k : Nat) :
    tokens (words ((tokens s).drop k)) = (tokens s).drop k ∧
    ∀ nested ∈ Execute.nested? (Call.ofText s).args,
      tokens nested =
        (Call.ofText s).args.drop (if Execute.detects (Call.ofText s).args then 10 else 4) := by
  refine ⟨tokens_words ((isLine_tokens s).drop k), fun nested hnested => ?_⟩
  obtain ⟨t, ht⟩ := Call.exists_args_eq s
  have hargs : ∀ n, tokens (words ((Call.ofText s).args.drop n)) = (Call.ofText s).args.drop n := by
    intro n
    rw [ht, List.drop_drop]
    exact tokens_words ((isLine_tokens t).drop _)
  unfold Execute.nested? Execute.detectNested? at hnested
  split at hnested <;> rename_i hdetect
  · rw [if_pos hdetect]
    split at hnested
    · cases hnested
      exact hargs 10
    · cases hnested
  · rw [if_neg hdetect]
    split at hnested
    · cases hnested
      exact hargs 4
    · cases hnested

/-- A bracket that is closed too early, and a quote that is left open. -/
theorem tokens_words_drop_unbalanced :
    tokens "say a] b [c \"d  e" = ["say", "a] b [c", "\"d  e"].map String.toList ∧
    tokens (words ((tokens "say a] b [c \"d  e").drop 1)) =
      ["a] b [c", "\"d  e"].map String.toList ∧
    tokens "say a] b [c \"d  e" =
      (Call.ofText "/execute @e ~ ~ ~ say a] b [c \"d  e").args.drop 4 := by
  have htail := (tokens_words_drop "say a] b [c \"d  e" 1).1
  have hnested := (tokens_words_drop "/execute @e ~ ~ ~ say a] b [c \"d  e" 0).2
    "say a] b [c \"d  e" (by decide +kernel)
  refine ⟨by decide +kernel, ?_, ?_⟩
  · rw [htail]
    decide +kernel
  · rw [hnested]
    decide +kernel

end CommandUpgrade.Command
