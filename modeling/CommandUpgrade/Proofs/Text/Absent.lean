import CommandUpgrade.Proofs.Text.Occurrences

/-!
# Where a part does not occur

Cutting and replacing leave a text alone in which the part does not occur, and they leave the front of
a text alone if no occurrence begins there, whatever follows (`Clear`). A front ends clear with a text
that is apart from the part (`Apart.clear_append`). What they change first is the first occurrence
(`First`), and of several parts that occur one is the first (`exists_first`).
-/

namespace CommandUpgrade.Text

section Absent

variable {part s : Text} (h : ¬ part <:+: s)

include h

theorem cut?_eq_none : cut? part s = none := by
  induction s with
  | nil =>
    have hpart : part ≠ [] := by
      rintro rfl
      exact h (List.nil_infix)
    rw [cut?, if_neg (by simpa using hpart)]
  | cons c r ih =>
    have hstart : ¬ part.isPrefixOf (c :: r) = true := by
      intro hstarts
      exact h (List.isPrefixOf_iff_prefix.1 hstarts).isInfix
    rw [cut?, if_neg hstart, ih fun hr => h (List.infix_cons hr)]
    rfl

theorem has_eq_false : has part s = false := by
  unfold has
  rw [cut?_eq_none h]
  rfl

theorem replace_eq_self (new : Text) : replace part new s = s := by
  unfold replace
  induction s with
  | nil => rfl
  | cons c r ih =>
    have hstart : ¬ part.isPrefixOf (c :: r) = true := by
      intro hstarts
      exact h (List.isPrefixOf_iff_prefix.1 hstarts).isInfix
    rw [replace.go, if_neg hstart, ih fun hr => h (List.infix_cons hr)]

end Absent

theorem notMem_of_forall {p : Char → Bool} {s : Text} (h : ∀ c ∈ s, p c = true) {c : Char}
    (hc : p c = false) : c ∉ s := by
  intro hmem
  rw [h c hmem] at hc
  cases hc

theorem cut?_eq_none_iff {part s : Text} : cut? part s = none ↔ ¬ part <:+: s := by
  refine ⟨?_, cut?_eq_none⟩
  rintro hnone ⟨a, b, rfl⟩
  induction a with
  | nil =>
    have hstart : part.isPrefixOf (part ++ b) = true := List.isPrefixOf_iff_prefix.2 (List.prefix_append _ _)
    rw [List.nil_append] at hnone
    cases hpart : part ++ b with
    | nil =>
      rw [hpart, cut?, if_pos (by simp [(List.append_eq_nil_iff.1 hpart).1])] at hnone
      cases hnone
    | cons c r =>
      rw [hpart] at hstart
      rw [hpart, cut?, if_pos hstart] at hnone
      cases hnone
  | cons c a ih =>
    rw [List.cons_append, List.cons_append, cut?] at hnone
    split at hnone
    · cases hnone
    · exact ih (Option.map_eq_none_iff.1 hnone)

theorem has_eq_true_iff {part s : Text} : has part s = true ↔ part <:+: s := by
  rw [has, Option.isSome_iff_ne_none, ne_eq, cut?_eq_none_iff, not_not]

theorem settle_eq_self {step? : Text → Option Text} {s : Text} (h : step? s = none) (limit : Nat) :
    settle step? limit s = s := by
  cases limit with
  | zero => rfl
  | succ limit => rw [settle, h]

/-- A part without a character occurs in front of the character or behind it. -/
theorem infix_append_cons_iff {part : Text} {c : Char} (hc : c ∉ part) (l r : Text) :
    part <:+: l ++ c :: r ↔ part <:+: l ∨ part <:+: r := by
  constructor
  · rintro ⟨a, b, hab⟩
    rw [List.append_assoc] at hab
    rcases List.append_eq_append_iff.1 hab with ⟨more, hl, hrest⟩ | ⟨more, ha, hrest⟩
    · left
      rcases List.append_eq_append_iff.1 hrest with ⟨gap, hmore, -⟩ | ⟨gap, hpart, hgap⟩
      · exact ⟨a, gap, by rw [hl, hmore, List.append_assoc]⟩
      · cases gap with
        | nil => exact ⟨a, [], by rw [hl, hpart]; simp⟩
        | cons d gap =>
          have hd := (List.cons.inj hgap).1
          exact absurd (by rw [hpart, hd]; simp) hc
    · cases more with
      | nil =>
        cases part with
        | nil => exact Or.inl List.nil_infix
        | cons d part =>
          have hd := (List.cons.inj hrest).1
          exact absurd (by rw [hd]; exact List.mem_cons_self) hc
      | cons d more =>
        right
        rw [List.cons_append] at hrest
        exact ⟨more, b, by rw [(List.cons.inj hrest).2, List.append_assoc]⟩
  · rintro (hl | hr)
    · exact hl.trans (List.infix_append' [] l (c :: r))
    · exact hr.trans ⟨l ++ [c], [], by simp⟩

/-! ## Clear fronts -/

/-- No occurrence of the part begins in the text, whatever follows. -/
def Clear (part w : Text) : Prop := ∀ i < w.length, ¬ Meets part (w.drop i)

instance (part w : Text) : Decidable (Clear part w) :=
  inferInstanceAs (Decidable (∀ i < w.length, ¬ Meets part (w.drop i)))

namespace Clear

variable {part w : Text}

theorem append {v : Text} (hw : Clear part w) (hv : Clear part v) : Clear part (w ++ v) := by
  intro i hi hmeets
  by_cases hiw : i < w.length
  · rw [List.drop_append_of_le_length hiw.le] at hmeets
    refine hw i hiw ?_
    rcases hmeets with hpart | hrest
    · exact meets_of_prefix_append hpart
    · exact Or.inr ((List.prefix_append _ v).trans hrest)
  · rw [List.drop_append, List.drop_eq_nil_of_le (by omega), List.nil_append] at hmeets
    exact hv (i - w.length) (by rw [List.length_append] at hi; omega) hmeets

theorem flatMap {α : Type} {f : α → Text} {xs : List α} (h : ∀ x ∈ xs, Clear part (f x)) :
    Clear part (xs.flatMap f) := by
  induction xs with
  | nil => exact fun i hi => absurd hi (Nat.not_lt_zero i)
  | cons x xs ih =>
    obtain ⟨hx, hxs⟩ := List.forall_mem_cons.1 h
    exact hx.append (ih hxs)

/-- A text without the part's first character is clear. -/
theorem of_notMem {c : Char} (h : c ∉ w) : Clear (c :: part) w := by
  intro i hi hmeets
  rw [List.drop_eq_getElem_cons hi] at hmeets
  refine h ?_
  rcases hmeets with hstart | hstart
  · rw [(List.cons_prefix_cons.1 hstart).1]
    exact List.getElem_mem hi
  · rw [← (List.cons_prefix_cons.1 hstart).1]
    exact List.getElem_mem hi

theorem not_infix (h : Clear part w) (hpart : part ≠ []) : ¬ part <:+: w := by
  rintro ⟨a, b, rfl⟩
  refine h a.length ?_ ?_
  · have := List.length_pos_iff.2 hpart
    simp only [List.length_append]
    omega
  · rw [List.append_assoc, List.drop_left]
    exact Or.inl (List.prefix_append part b)

theorem tail {c : Char} (h : Clear part (c :: w)) : Clear part w := by
  intro i hi
  exact h (i + 1) (by rw [List.length_cons]; omega)

theorem not_startsWith {c : Char} (h : Clear part (c :: w)) (rest : Text) :
    ¬ part.isPrefixOf (c :: w ++ rest) = true := by
  intro hstarts
  have hmeets := meets_of_prefix_append (List.isPrefixOf_iff_prefix.1 hstarts)
  exact h 0 (by simp) hmeets

theorem replace_append (h : Clear part w) (new rest : Text) :
    replace part new (w ++ rest) = w ++ replace part new rest := by
  unfold replace
  induction w with
  | nil => rfl
  | cons c w ih =>
    have hstart := h.not_startsWith rest
    rw [List.cons_append] at hstart ⊢
    rw [replace.go, if_neg hstart, ih h.tail]
    rfl

/-- An occurrence comes behind the front. -/
theorem prefix_front (h : Clear part w) {front rest : Text} (hw : w <+: front ++ (part ++ rest)) :
    w <+: front := by
  rcases List.prefix_or_prefix_of_prefix hw (List.prefix_append front (part ++ rest)) with hw' | ⟨x, hx⟩
  · exact hw'
  · subst hx
    cases x with
    | nil => rw [List.append_nil]
    | cons c x =>
      have hx : c :: x <+: part ++ rest := (List.prefix_append_right_inj front).1 hw
      have hmeets : Meets part (c :: x) :=
        List.prefix_or_prefix_of_prefix (List.prefix_append part rest) hx
      have hclear := h front.length (by simp)
      rw [List.drop_left] at hclear
      exact absurd hmeets hclear

end Clear

/-- Behind a text without the part, a text that is apart from it keeps occurrences from beginning. -/
theorem Apart.clear_append {part new : Text} (h : Apart part new) {a : Text} (ha : ¬ part <:+: a) :
    Clear part (a ++ new) := by
  intro i hi hmeets
  by_cases hia : a.length ≤ i
  · have hdrop : (a ++ new).drop i = new.drop (i - a.length) := by
      rw [List.drop_append, List.drop_eq_nil_of_le hia, List.nil_append]
    rw [hdrop] at hmeets
    exact h.2.1 (i - a.length) (by rw [List.length_append] at hi; omega) hmeets
  · rw [List.drop_append_of_le_length (by omega)] at hmeets
    have htail : 0 < (a.drop i).length := by
      rw [List.length_drop]
      omega
    have hinside : ¬ part <+: a.drop i := fun hp => ha (hp.isInfix.trans (List.drop_suffix i a).isInfix)
    -- The occurrence goes on from the first text into the second one.
    have hover : ∀ q, part = a.drop i ++ q → q ≠ [] → ¬ Meets q new := by
      rintro q rfl hq
      have hlength := List.length_pos_iff.2 hq
      have := h.2.2 (a.drop i).length (by rw [List.length_append]; omega) htail
      rwa [List.drop_left] at this
    rcases hmeets with hpart | ⟨z, hz⟩
    · rcases meets_of_prefix_append hpart with hp | ⟨q, hq⟩
      · exact hinside hp
      · cases q with
        | nil => exact hinside (by rw [← hq, List.append_nil])
        | cons c q =>
          rw [← hq] at hpart
          exact hover _ hq.symm (List.cons_ne_nil c q)
            (Or.inl ((List.prefix_append_right_inj _).1 hpart))
    · rw [List.append_assoc] at hz
      exact hover (new ++ z) hz.symm (by simp [h.1]) (Or.inr (List.prefix_append new z))

/-! ## First occurrences -/

/-- Behind the text, the part does not occur earlier. -/
def First (part a : Text) : Prop := ∀ i < a.length, ¬ part <+: (a ++ part).drop i

namespace First

variable {part a : Text}

theorem tail {c : Char} (h : First part (c :: a)) : First part a := by
  intro i hi
  exact h (i + 1) (by rw [List.length_cons]; omega)

theorem not_startsWith {c : Char} (h : First part (c :: a)) (b : Text) :
    ¬ part.isPrefixOf (c :: (a ++ (part ++ b))) = true := by
  intro hstarts
  have hwhole : c :: (a ++ (part ++ b)) = (c :: a ++ part) ++ b := by simp
  rw [List.isPrefixOf_iff_prefix, hwhole] at hstarts
  have hle : part.length ≤ (c :: a ++ part).length := by
    rw [List.length_append]
    omega
  exact h 0 (by simp) (List.prefix_of_prefix_length_le hstarts (List.prefix_append _ b) hle)

theorem cut?_eq (h : First part a) (hpart : part ≠ []) (b : Text) :
    cut? part (a ++ (part ++ b)) = some (a, b) := by
  induction a with
  | nil =>
    obtain ⟨d, w, rfl⟩ := List.exists_cons_of_ne_nil hpart
    have hstart : (d :: w).isPrefixOf (d :: (w ++ b)) = true :=
      List.isPrefixOf_iff_prefix.2 ⟨b, rfl⟩
    have hrest : (d :: (w ++ b)).drop (d :: w).length = b := by
      rw [← List.cons_append, List.drop_left]
    rw [List.nil_append, List.cons_append, cut?, if_pos hstart, hrest]
  | cons c a ih =>
    rw [List.cons_append, cut?, if_neg (h.not_startsWith b), ih h.tail]
    rfl

theorem replace_eq (h : First part a) (hpart : part ≠ []) (new b : Text) :
    replace part new (a ++ (part ++ b)) = a ++ (new ++ replace part new b) := by
  have hskip : ∀ w s : Text, replace.go part new w.length (w ++ s) = replace.go part new 0 s := by
    intro w s
    induction w with
    | nil => rfl
    | cons c w ih => exact ih
  unfold replace
  induction a with
  | nil =>
    obtain ⟨d, w, rfl⟩ := List.exists_cons_of_ne_nil hpart
    have hstart : (d :: w).isPrefixOf (d :: (w ++ b)) = true :=
      List.isPrefixOf_iff_prefix.2 ⟨b, rfl⟩
    rw [List.nil_append, List.cons_append, replace.go, if_pos hstart, List.length_cons,
      Nat.add_sub_cancel, hskip]
    rfl
  | cons c a ih =>
    rw [List.cons_append, replace.go, if_neg (h.not_startsWith b), ih h.tail]
    rfl

end First

theorem Clear.first {part w : Text} (h : Clear part w) : First part w := by
  intro i hi hstart
  rw [List.drop_append_of_le_length hi.le] at hstart
  exact h i hi (meets_of_prefix_append hstart)

/-- If one of several parts occurs, then one of them occurs first. -/
theorem exists_first {parts : List Text} (hparts : ∀ part ∈ parts, part ≠ []) {s : Text}
    (h : ∃ part ∈ parts, part <:+: s) :
    ∃ a part b, part ∈ parts ∧ s = a ++ (part ++ b) ∧ First part a ∧
      ∀ other ∈ parts, ¬ other <:+: a := by
  have hfirst : ∃ a part b, part ∈ parts ∧ s = a ++ (part ++ b) ∧
      ∀ other ∈ parts, ∀ i < a.length, ¬ other <+: s.drop i := by
    induction s with
    | nil =>
      obtain ⟨part, hmem, hoccurs⟩ := h
      exact absurd (List.eq_nil_of_infix_nil hoccurs) (hparts part hmem)
    | cons c r ih =>
      by_cases hstart : ∃ part ∈ parts, part <+: c :: r
      · obtain ⟨part, hmem, b, hb⟩ := hstart
        exact ⟨[], part, b, hmem, hb.symm, fun _ _ i hi => absurd hi (Nat.not_lt_zero i)⟩
      · obtain ⟨part, hmem, hoccurs⟩ := h
        have hr : part <:+: r := by
          rcases List.infix_cons_iff.1 hoccurs with hstarts | hr
          · exact absurd ⟨part, hmem, hstarts⟩ hstart
          · exact hr
        obtain ⟨a, part, b, hmem, rfl, hearlier⟩ := ih ⟨part, hmem, hr⟩
        refine ⟨c :: a, part, b, hmem, rfl, fun other hother i hi => ?_⟩
        cases i with
        | zero => exact fun hstarts => hstart ⟨other, hother, hstarts⟩
        | succ i => exact hearlier other hother i (by simpa using hi)
  obtain ⟨a, part, b, hmem, rfl, hearlier⟩ := hfirst
  refine ⟨a, part, b, hmem, rfl, fun i hi hstarts => ?_, fun other hother => ?_⟩
  · refine hearlier part hmem i hi (hstarts.trans ?_)
    have hle : i ≤ (a ++ part).length := by
      rw [List.length_append]
      omega
    rw [← List.append_assoc a, List.drop_append_of_le_length hle]
    exact List.prefix_append _ b
  · rintro ⟨x, y, rfl⟩
    have hlength := List.length_pos_iff.2 (hparts other hother)
    refine hearlier other hother x.length (by simp only [List.length_append]; omega) ?_
    simp only [List.append_assoc, List.drop_left]
    exact List.prefix_append other _

end CommandUpgrade.Text
