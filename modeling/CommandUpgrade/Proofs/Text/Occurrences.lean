import CommandUpgrade.Proofs.Text.Pattern
import CommandUpgrade.Text.Settle

/-!
# Counting occurrences

How often a part occurs in a text, each occurrence behind the one before. A step that takes occurrences
away can be repeated only so often (`settle_settled`). To see that a replacement takes occurrences away
it is enough to look at what is put in: where nothing of it can belong to an occurrence (`Apart`), the
count is that of the text around it.
-/

namespace CommandUpgrade.Text

/-! ## Cutting and replacing -/

theorem cut?_eq_some {part s front rest : Text} (h : cut? part s = some (front, rest)) :
    s = front ++ part ++ rest := by
  induction s generalizing front with
  | nil =>
    rw [cut?] at h
    split at h
    · rename_i hpart
      cases h
      rw [List.isEmpty_iff.1 hpart]
      rfl
    · cases h
  | cons c r ih =>
    rw [cut?] at h
    split at h
    · rename_i hpart
      cases h
      obtain ⟨rest, hrest⟩ := List.isPrefixOf_iff_prefix.1 hpart
      rw [← hrest, List.drop_left]
      rfl
    · obtain ⟨⟨before, behind⟩, hcut, heq⟩ := Option.map_eq_some_iff.1 h
      cases heq
      rw [ih hcut]
      rfl

/-- What is replaced is related to the text if the relation goes on over single characters and over
the part and what stands for it. -/
theorem replace_rel {part new : Text} (hpart : part ≠ []) {R : Text → Text → Prop} (nil : R [] [])
    (char : ∀ c s t, R s t → R (c :: s) (c :: t))
    (found : ∀ s t, R s t → R (part ++ s) (new ++ t)) (s : Text) : R s (replace part new s) := by
  have go : ∀ (s : Text) (skip : Nat), R (s.drop skip) (replace.go part new skip s) := by
    intro s
    induction s with
    | nil =>
      intro skip
      rw [List.drop_nil]
      exact nil
    | cons c r ih =>
      intro skip
      cases skip with
      | succ skip => exact ih skip
      | zero =>
        rw [replace.go, List.drop_zero]
        split
        · rename_i hfound
          obtain ⟨rest, hrest⟩ := List.isPrefixOf_iff_prefix.1 hfound
          obtain ⟨d, w, rfl⟩ := List.exists_cons_of_ne_nil hpart
          have hdrop : r.drop ((d :: w).length - 1) = rest := by
            rw [List.cons_append] at hrest
            rw [← (List.cons.inj hrest).2, List.length_cons, Nat.add_sub_cancel, List.drop_left]
          have hmore := ih ((d :: w).length - 1)
          rw [hdrop] at hmore
          rw [← hrest]
          exact found _ _ hmore
        · exact char c r _ (ih 0)
  exact go s 0

theorem replace_singleton (c : Char) (new s : Text) :
    replace [c] new s = s.flatMap fun d => if d = c then new else [d] := by
  unfold replace
  induction s with
  | nil => rfl
  | cons d r ih =>
    rw [replace.go, List.flatMap_cons, ← ih]
    by_cases h : d = c
    · rw [if_pos h, if_pos (by simp [h])]
      rfl
    · rw [if_neg h, if_neg (by simp [Ne.symm h])]
      rfl

/-- Two passes over single characters are one pass, in which the second is made over what the first
puts in. -/
theorem replace_replace_singleton (c d : Char) (new new' s : Text) :
    replace [d] new' (replace [c] new s) =
      s.flatMap fun e => if e = c then replace [d] new' new else if e = d then new' else [e] := by
  rw [replace_singleton c, replace_singleton d, List.flatMap_assoc]
  refine List.flatMap_congr fun e _ => ?_
  by_cases h : e = c
  · rw [if_pos h, if_pos h, replace_singleton]
  · rw [if_neg h, if_neg h, List.flatMap_singleton]

/-! ## The count -/

/-- How often a part occurs in a text, without overlap. -/
def occurrences (part s : Text) : Nat := (positions part s).length

section Count

variable {part : Text}

theorem length_positions_go (s : Text) (skip i : Nat) :
    (positions.go part skip i s).length = occurrences part (s.drop skip) := by
  have shift : ∀ (s : Text) (skip i j : Nat),
      (positions.go part skip i s).length = (positions.go part skip j s).length := by
    intro s
    induction s with
    | nil => exact fun _ _ _ => rfl
    | cons c r ih =>
      intro skip i j
      cases skip with
      | succ skip => exact ih skip (i + 1) (j + 1)
      | zero =>
        rw [positions.go, positions.go]
        split
        · rw [List.length_cons, List.length_cons, ih _ (i + 1) (j + 1)]
        · exact ih 0 (i + 1) (j + 1)
  induction s generalizing skip i with
  | nil =>
    rw [List.drop_nil]
    rfl
  | cons c r ih =>
    cases skip with
    | succ skip => exact ih skip (i + 1)
    | zero => exact shift (c :: r) 0 i 0

theorem occurrences_append_self (hpart : part ≠ []) (s : Text) :
    occurrences part (part ++ s) = occurrences part s + 1 := by
  obtain ⟨d, w, rfl⟩ := List.exists_cons_of_ne_nil hpart
  have hstart : (d :: w).isPrefixOf (d :: (w ++ s)) = true :=
    List.isPrefixOf_iff_prefix.2 ⟨s, rfl⟩
  unfold occurrences positions
  rw [List.cons_append, positions.go, if_pos hstart, List.length_cons, length_positions_go,
    List.length_cons, Nat.add_sub_cancel, List.drop_left]
  rfl

theorem occurrences_cons {c : Char} {s : Text} (h : ¬ part <+: c :: s) :
    occurrences part (c :: s) = occurrences part s := by
  unfold occurrences positions
  rw [positions.go, if_neg (mt List.isPrefixOf_iff_prefix.1 h), length_positions_go, List.drop_zero]
  rfl

end Count

/-- A text in which a part can be found so many times, one occurrence behind the other. -/
inductive Holds (part : Text) : Nat → Text → Prop
  | any (s : Text) : Holds part 0 s
  | more {n : Nat} {s : Text} (front : Text) (h : Holds part n s) :
    Holds part (n + 1) (front ++ (part ++ s))

namespace Holds

variable {part : Text}

theorem behind {n : Nat} {s : Text} (h : Holds part n s) (front : Text) :
    Holds part n (front ++ s) := by
  cases h with
  | any => exact any _
  | more first h =>
    rw [← List.append_assoc]
    exact more (front ++ first) h

theorem append {m n : Nat} {s t : Text} (hs : Holds part m s) (ht : Holds part n t) :
    Holds part (m + n) (s ++ t) := by
  induction hs with
  | any s =>
    rw [Nat.zero_add]
    exact ht.behind s
  | @more m s front h ih =>
    have := more front ih
    rw [Nat.add_right_comm]
    simpa using this

/-- Characters taken away in front reach into the first occurrence at most, if they are not more than
the part has. -/
theorem drop {n : Nat} {s : Text} (h : Holds part (n + 1) s) {k : Nat} (hk : k ≤ part.length) :
    Holds part n (s.drop k) := by
  cases h with
  | @more n s front h =>
    have hle : k ≤ (front ++ part).length := by
      rw [List.length_append]
      omega
    rw [← List.append_assoc, List.drop_append_of_le_length hle]
    exact h.behind _

theorem tail {n : Nat} {c : Char} {s : Text} (h : Holds part n (c :: s))
    (hstart : ¬ part <+: c :: s) : Holds part n s := by
  generalize htext : c :: s = text at h
  cases h with
  | any => exact any s
  | @more n rest front h =>
    cases front with
    | nil => exact absurd ⟨rest, htext.symm⟩ hstart
    | cons d front =>
      rw [(List.cons.inj htext).2]
      exact more front h

end Holds

section Most

variable {part : Text} (hpart : part ≠ [])

include hpart

/-- The search from the left, as an induction: it is at an occurrence and goes on behind it, or passes
over a character. -/
theorem search_induction {motive : Text → Prop} (nil : motive [])
    (found : ∀ s, motive s → motive (part ++ s))
    (passed : ∀ c s, ¬ part <+: c :: s → motive s → motive (c :: s)) (s : Text) : motive s := by
  induction hn : s.length using Nat.strong_induction_on generalizing s with
  | h n ih =>
    subst hn
    cases s with
    | nil => exact nil
    | cons c r =>
      by_cases hstart : part <+: c :: r
      · obtain ⟨rest, hcut⟩ := hstart
        have hlength : rest.length < (c :: r).length := by
          have := List.length_pos_iff.2 hpart
          rw [← hcut, List.length_append]
          omega
        rw [← hcut]
        exact found rest (ih rest.length hlength rest rfl)
      · exact passed c r hstart (ih r.length (by simp) r rfl)

theorem holds_occurrences (s : Text) : Holds part (occurrences part s) s := by
  induction s using search_induction hpart with
  | nil => exact .any []
  | found s ih =>
    rw [occurrences_append_self hpart]
    exact .more [] ih
  | passed c s hstart ih =>
    rw [occurrences_cons hstart]
    exact ih.behind [c]

/-- No choice of occurrences is larger than the one from the left. -/
theorem le_occurrences {n : Nat} {s : Text} (h : Holds part n s) : n ≤ occurrences part s := by
  induction s using search_induction hpart generalizing n with
  | nil =>
    generalize htext : ([] : Text) = text at h
    cases h with
    | any => exact Nat.zero_le _
    | more front h => simp [hpart] at htext
  | found s ih =>
    rw [occurrences_append_self hpart]
    cases n with
    | zero => exact Nat.zero_le _
    | succ n =>
      have hless := h.drop (le_refl part.length)
      rw [List.drop_left] at hless
      exact Nat.succ_le_succ (ih hless)
  | passed c s hstart ih =>
    rw [occurrences_cons hstart]
    exact ih (h.tail hstart)

/-- The occurrences in two texts are occurrences in the one made of both. -/
theorem occurrences_append_le (s t : Text) :
    occurrences part s + occurrences part t ≤ occurrences part (s ++ t) :=
  le_occurrences hpart ((holds_occurrences hpart s).append (holds_occurrences hpart t))

theorem occurrences_pos {s : Text} (h : part <:+: s) : 0 < occurrences part s := by
  obtain ⟨front, rest, rfl⟩ := h
  rw [List.append_assoc]
  have hfront := occurrences_append_le hpart front (part ++ rest)
  rw [occurrences_append_self hpart] at hfront
  omega

end Most

/-! ## Texts apart from a part -/

/-- One text is the beginning of the other. -/
def Meets (s t : Text) : Prop := s <+: t ∨ t <+: s

instance (s t : Text) : Decidable (Meets s t) := inferInstanceAs (Decidable (s <+: t ∨ t <+: s))

theorem meets_of_prefix_append {s t rest : Text} (h : s <+: t ++ rest) : Meets s t :=
  List.prefix_or_prefix_of_prefix h (List.prefix_append t rest)

/-- No occurrence of the part overlaps the text, whatever stands around it: the part does not begin
inside, and none of its ends goes on into the text. -/
def Apart (part s : Text) : Prop :=
  s ≠ [] ∧ (∀ i < s.length, ¬ Meets part (s.drop i)) ∧
    ∀ i < part.length, 0 < i → ¬ Meets (part.drop i) s

instance (part s : Text) : Decidable (Apart part s) :=
  inferInstanceAs (Decidable (s ≠ [] ∧ (∀ i < s.length, ¬ Meets part (s.drop i)) ∧
    ∀ i < part.length, 0 < i → ¬ Meets (part.drop i) s))

/-- Every choice of occurrences around a text apart is one of occurrences in front and behind. -/
theorem Holds.split {part s : Text} (h : Apart part s) {n : Nat} {left right : Text}
    (hholds : Holds part n (left ++ (s ++ right))) :
    ∃ a b, n = a + b ∧ Holds part a left ∧ Holds part b right := by
  generalize htext : left ++ (s ++ right) = text at hholds
  induction hholds generalizing left with
  | any => exact ⟨0, 0, rfl, .any _, .any _⟩
  | @more n rest front hrest ih =>
    rcases List.append_eq_append_iff.1 htext with ⟨more, hfront, hinside⟩ | ⟨more, hleft, hinside⟩
    · -- The occurrence begins behind the left text.
      rcases List.append_eq_append_iff.1 hinside with ⟨gap, hmore, hright⟩ | ⟨gap, hs, hpart⟩
      · refine ⟨0, n + 1, (Nat.zero_add _).symm, .any _, ?_⟩
        rw [hright]
        exact .more gap hrest
      · cases gap with
        | nil =>
          refine ⟨0, n + 1, (Nat.zero_add _).symm, .any _, ?_⟩
          rw [List.nil_append] at hpart
          rw [← hpart]
          exact .more [] hrest
        | cons c gap =>
          refine absurd (@meets_of_prefix_append _ _ right ⟨rest, hpart⟩) ?_
          have := h.2.1 more.length (by rw [hs, List.length_append, List.length_cons]; omega)
          rwa [hs, List.drop_left] at this
    · -- It begins in the left text, and ends there as well.
      rcases List.append_eq_append_iff.1 hinside with ⟨gap, hmore, hrest'⟩ | ⟨gap, hpart, hs⟩
      · obtain ⟨a, b, rfl, ha, hb⟩ := ih hrest'.symm
        refine ⟨a + 1, b, by omega, ?_, hb⟩
        rw [hleft, hmore]
        exact .more front ha
      · have hmeets : Meets gap s := meets_of_prefix_append ⟨rest, hs.symm⟩
        cases gap with
        | nil =>
          obtain ⟨a, b, rfl, ha, hb⟩ := @ih [] hs
          refine ⟨a + 1, b, by omega, ?_, hb⟩
          rw [hleft, ← List.append_nil more, ← hpart]
          simpa using Holds.more front ha
        | cons c gap =>
          cases more with
          | nil => exact absurd (hpart ▸ hmeets) (h.2.1 0 (List.length_pos_iff.2 h.1))
          | cons d more =>
            have := h.2.2 (d :: more).length (by simp [hpart]) (by simp)
            rw [hpart, List.drop_left] at this
            exact absurd hmeets this

/-! ## Replacements that add no occurrence -/

/-- With the second text in the place of the first there are no more occurrences of a part, whatever
stands around it. -/
def Sparser (part s t : Text) : Prop :=
  ∀ left right, occurrences part (left ++ (t ++ right)) ≤ occurrences part (left ++ (s ++ right))

namespace Sparser

variable {part : Text}

theorem refl (s : Text) : Sparser part s s := fun _ _ => le_refl _

theorem trans {s t u : Text} (h : Sparser part s t) (h' : Sparser part t u) : Sparser part s u :=
  fun left right => (h' left right).trans (h left right)

theorem append {s t s' t' : Text} (h : Sparser part s t) (h' : Sparser part s' t') :
    Sparser part (s ++ s') (t ++ t') := by
  intro left right
  have hfirst := h left (t' ++ right)
  have hsecond := h' (left ++ s) right
  simp only [List.append_assoc] at hfirst hsecond ⊢
  exact hfirst.trans hsecond

theorem cons {s t : Text} (h : Sparser part s t) (c : Char) : Sparser part (c :: s) (c :: t) :=
  (refl [c]).append h

theorem le {s t : Text} (h : Sparser part s t) : occurrences part t ≤ occurrences part s := by
  simpa using h [] []

end Sparser

section Apart

variable {part : Text} (hpart : part ≠ [])

include hpart

theorem occurrences_around {s : Text} (h : Apart part s) (left right : Text) :
    occurrences part (left ++ (s ++ right)) ≤ occurrences part left + occurrences part right := by
  obtain ⟨a, b, hn, ha, hb⟩ :=
    (holds_occurrences hpart (left ++ (s ++ right))).split h
  rw [hn]
  exact Nat.add_le_add (le_occurrences hpart ha) (le_occurrences hpart hb)

theorem Apart.sparser {s : Text} (h : Apart part s) (old : Text) : Sparser part old s := by
  intro left right
  have hnew := occurrences_around hpart h left right
  have hold := occurrences_append_le hpart left (old ++ right)
  have hright := occurrences_append_le hpart old right
  omega

theorem Apart.sparser_replace {old new : Text} (h : Apart part new) (hold : old ≠ []) (s : Text) :
    Sparser part s (replace old new s) :=
  replace_rel hold (.refl []) (fun c _ _ h => h.cons c) (fun _ _ => (h.sparser hpart old).append) s

omit hpart in
theorem sparser_pattern {p : Pattern} {new : Match → Text}
    (hp : ∀ taken kept, p.Takes taken kept → taken ≠ [])
    (h : ∀ m : Match, p.Takes m.whole m.groups → Sparser part m.whole (new m)) (s : Text) :
    Sparser part s (p.replace new s) :=
  Pattern.replace_rel hp (.refl []) (fun c _ _ h => h.cons c) (fun m hm _ _ => (h m hm).append) s

end Apart

/-- With the second text in the place of the first there are fewer occurrences of a part, unless the
two are the same. -/
def Thinner (part s t : Text) : Prop :=
  t = s ∨ ∀ left right,
    occurrences part (left ++ (t ++ right)) < occurrences part (left ++ (s ++ right))

namespace Thinner

variable {part : Text}

theorem refl (s : Text) : Thinner part s s := Or.inl rfl

theorem sparser {s t : Text} (h : Thinner part s t) : Sparser part s t := by
  rcases h with rfl | h
  · exact .refl t
  · exact fun left right => (h left right).le

theorem trans {s t u : Text} (h : Thinner part s t) (h' : Thinner part t u) : Thinner part s u := by
  rcases h with rfl | h
  · exact h'
  · exact Or.inr fun left right => (h'.sparser left right).trans_lt (h left right)

theorem append {s t s' t' : Text} (h : Thinner part s t) (h' : Thinner part s' t') :
    Thinner part (s ++ s') (t ++ t') := by
  rcases h' with rfl | h'
  · rcases h with rfl | h
    · exact .refl _
    · refine Or.inr fun left right => ?_
      have := h left (t' ++ right)
      simpa using this
  · refine Or.inr fun left right => ?_
    have hfirst := h.sparser left (t' ++ right)
    have hsecond := h' (left ++ s) right
    simp only [List.append_assoc] at hfirst hsecond ⊢
    exact hfirst.trans_lt hsecond

theorem pattern {p : Pattern} {new : Match → Text}
    (hp : ∀ taken kept, p.Takes taken kept → taken ≠ [])
    (h : ∀ m : Match, p.Takes m.whole m.groups → Thinner part m.whole (new m)) (s : Text) :
    Thinner part s (p.replace new s) :=
  Pattern.replace_rel hp (.refl []) (fun c _ _ h => (refl [c]).append h)
    (fun m hm _ _ => (h m hm).append) s

end Thinner

/-! ## Steps that settle -/

/-- A step that lowers a measure finds nothing any more after as many repetitions. -/
theorem settle_settled {step? : Text → Option Text} {measure : Text → Nat}
    (h : ∀ s t, step? s = some t → measure t < measure s) {limit : Nat} {s : Text}
    (hlimit : measure s ≤ limit) : step? (settle step? limit s) = none := by
  induction limit generalizing s with
  | zero =>
    rw [settle]
    cases hstep : step? s with
    | none => rfl
    | some t =>
      have := h s t hstep
      omega
  | succ limit ih =>
    rw [settle]
    cases hstep : step? s with
    | none => exact hstep
    | some t =>
      have := h s t hstep
      exact ih (by omega)

/-- The text after so many steps, if there are so many. -/
def afterSteps (step? : Text → Option Text) : Nat → Text → Option Text
  | 0, s => some s
  | n + 1, s => (step? s).bind (afterSteps step? n)

/-- Each step of a run lowers the measure. -/
theorem measure_afterSteps {step? : Text → Option Text} {measure : Text → Nat}
    (h : ∀ s t, step? s = some t → measure t < measure s) {n : Nat} {s t : Text}
    (hrun : afterSteps step? n s = some t) : measure t + n ≤ measure s := by
  induction n generalizing s with
  | zero =>
    obtain rfl : s = t := Option.some.inj hrun
    exact le_refl _
  | succ n ih =>
    obtain ⟨next, hstep, hrest⟩ := Option.bind_eq_some_iff.1 hrun
    have hless := h s next hstep
    have hmore := ih hrest
    omega

/-- The repetition is a run of the step. -/
theorem exists_afterSteps_settle (step? : Text → Option Text) (limit : Nat) (s : Text) :
    ∃ n, afterSteps step? n s = some (settle step? limit s) := by
  induction limit generalizing s with
  | zero => exact ⟨0, rfl⟩
  | succ limit ih =>
    rw [settle]
    cases hstep : step? s with
    | none => exact ⟨0, rfl⟩
    | some t =>
      obtain ⟨n, hn⟩ := ih t
      exact ⟨n + 1, by rw [afterSteps, hstep]; exact hn⟩

/-- A loop takes a step as long as a condition holds; an iteration in which the step finds nothing is the
last one. On the first text it ends after so many iterations, with the second one. -/
inductive Loops (again : Text → Bool) (step? : Text → Option Text) : Nat → Text → Text → Prop
  | done {s : Text} (h : again s = false) : Loops again step? 0 s s
  | stuck {s : Text} (h : again s = true) (hstep : step? s = none) : Loops again step? 1 s s
  | more {n : Nat} {s t u : Text} (h : again s = true) (hstep : step? s = some t)
    (hrest : Loops again step? n t u) : Loops again step? (n + 1) s u

section Loops

variable {again : Text → Bool} {step? : Text → Option Text}

theorem Loops.unique {m n : Nat} {s t u : Text} (h : Loops again step? n s t)
    (h' : Loops again step? m s u) : m = n ∧ u = t := by
  induction h generalizing m u with
  | done hagain =>
    cases h' with
    | done => exact ⟨rfl, rfl⟩
    | stuck hagain' => exact absurd (hagain.symm.trans hagain') (by decide)
    | more hagain' => exact absurd (hagain.symm.trans hagain') (by decide)
  | stuck hagain hstep =>
    cases h' with
    | done hagain' => exact absurd (hagain.symm.trans hagain') (by decide)
    | stuck => exact ⟨rfl, rfl⟩
    | more _ hstep' => exact absurd (hstep.symm.trans hstep') (by simp)
  | more hagain hstep _ ih =>
    cases h' with
    | done hagain' => exact absurd (hagain.symm.trans hagain') (by decide)
    | stuck _ hstep' => exact absurd (hstep.symm.trans hstep') (by simp)
    | more _ hstep' hrest' =>
      obtain rfl := Option.some.inj (hstep.symm.trans hstep')
      obtain ⟨rfl, rfl⟩ := ih hrest'
      exact ⟨rfl, rfl⟩

variable {measure : Text → Nat} (hless : ∀ s t, step? s = some t → measure t < measure s)
  (hstart : ∀ s t, step? s = some t → again s = true) (hpos : ∀ s, again s = true → 0 < measure s)

include hless hstart hpos

theorem exists_loops_settle {limit : Nat} {s : Text} (hlimit : measure s ≤ limit) :
    ∃ n ≤ measure s, Loops again step? n s (settle step? limit s) := by
  have halt : ∀ {s}, step? s = none → ∃ n ≤ measure s, Loops again step? n s s := by
    intro s hstep
    cases hagain : again s with
    | false => exact ⟨0, Nat.zero_le _, .done hagain⟩
    | true => exact ⟨1, hpos s hagain, .stuck hagain hstep⟩
  induction limit generalizing s with
  | zero =>
    refine halt ?_
    cases hstep : step? s with
    | none => rfl
    | some t =>
      have := hless s t hstep
      omega
  | succ limit ih =>
    rw [settle]
    cases hstep : step? s with
    | none => exact halt hstep
    | some t =>
      have hsmaller := hless s t hstep
      obtain ⟨n, hn, hrest⟩ := ih (show measure t ≤ limit by omega)
      exact ⟨n + 1, by omega, .more (hstart s t hstep) hstep hrest⟩

/-- A loop whose steps lower a measure, and that goes on only while the measure is not zero, ends after as
many iterations at most. There is one end, and with enough steps a limit does not change it. -/
theorem loops_iff_settle {limit : Nat} {s : Text} (hlimit : measure s ≤ limit) :
    ∃ n ≤ measure s, ∀ m t, Loops again step? m s t ↔ m = n ∧ t = settle step? limit s := by
  obtain ⟨n, hn, hloop⟩ := exists_loops_settle hless hstart hpos hlimit
  refine ⟨n, hn, fun m t => ⟨hloop.unique, ?_⟩⟩
  rintro ⟨rfl, rfl⟩
  exact hloop

end Loops

theorem settle_induction {step? : Text → Option Text} {P : Text → Prop}
    (h : ∀ s t, step? s = some t → P s → P t) (limit : Nat) {s : Text} (hs : P s) :
    P (settle step? limit s) := by
  induction limit generalizing s with
  | zero => exact hs
  | succ limit ih =>
    rw [settle]
    cases hstep : step? s with
    | none => exact hs
    | some t => exact ih (h s t hstep hs)

end CommandUpgrade.Text
