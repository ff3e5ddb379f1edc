import CommandUpgrade.Proofs.Digits

/-!
# Split and joined texts

Cutting a text at a separator gives back what was joined with it: `split_join` for texts that are free
of the separator, and `split_join_eq_flatMap` for any texts.
-/

namespace CommandUpgrade.Text

/-- A character of two joined texts stands in the first or in the second. -/
theorem append_eq_append_cons {u v l r : Text} {c : Char} (h : u ++ v = l ++ c :: r) :
    (∃ r', u = l ++ c :: r' ∧ r = r' ++ v) ∨ ∃ l', l = u ++ l' ∧ v = l' ++ c :: r := by
  rcases List.append_eq_append_iff.1 h with ⟨more, hl, hv⟩ | ⟨more, hu, hcr⟩
  · exact Or.inr ⟨more, hl, hv⟩
  · cases more with
    | nil => exact Or.inr ⟨[], by rw [hu, List.append_nil, List.append_nil], hcr.symm⟩
    | cons d more =>
      obtain ⟨rfl, rfl⟩ := List.cons.inj hcr
      exact Or.inl ⟨more, hu, rfl⟩

variable {sep : Char}

/-! ## Every separator -/

theorem split_cons_sep (sep : Char) (s : Text) : split sep (sep :: s) = [] :: split sep s := by
  unfold split
  rw [List.foldr_cons, if_pos rfl]

theorem split_cons {c : Char} (h : c ≠ sep) {s piece : Text} {pieces : List Text}
    (hs : split sep s = piece :: pieces) : split sep (c :: s) = (c :: piece) :: pieces := by
  unfold split at hs ⊢
  rw [List.foldr_cons, hs, if_neg h]

theorem split_append {name : Text} (h : sep ∉ name) {s piece : Text} {pieces : List Text}
    (hs : split sep s = piece :: pieces) : split sep (name ++ s) = (name ++ piece) :: pieces := by
  induction name with
  | nil => exact hs
  | cons c r ih =>
    exact split_cons (List.ne_of_not_mem_cons h).symm (ih (List.not_mem_of_not_mem_cons h))

theorem split_of_notMem {name : Text} (h : sep ∉ name) : split sep name = [name] := by
  have hsplit := split_append h (rfl : split sep [] = [[]])
  rwa [List.append_nil] at hsplit

theorem split_ne_nil (sep : Char) (s : Text) : split sep s ≠ [] := by
  cases s with
  | nil => exact List.cons_ne_nil _ _
  | cons c r =>
    unfold split
    rw [List.foldr_cons]
    split_ifs
    · exact List.cons_ne_nil _ _
    · split <;> exact List.cons_ne_nil _ _

/-- The pieces on the two sides of a separator are cut apart from each other. -/
theorem split_append_cons_sep (sep : Char) (s t : Text) :
    split sep (s ++ sep :: t) = split sep s ++ split sep t := by
  induction s with
  | nil => exact split_cons_sep sep t
  | cons c r ih =>
    by_cases hc : c = sep
    · rw [hc, List.cons_append, split_cons_sep, ih, split_cons_sep, List.cons_append]
    · obtain ⟨piece, pieces, hr⟩ := List.exists_cons_of_ne_nil (split_ne_nil sep r)
      rw [hr, List.cons_append] at ih
      rw [List.cons_append, split_cons hc ih, split_cons hc hr, List.cons_append]

/-- The first piece goes up to the first separator. -/
theorem split_append_of_notMem {s : Text} (h : sep ∉ s) (t : Text) :
    split sep (s ++ sep :: t) = s :: split sep t := by
  rw [split_append_cons_sep, split_of_notMem h, List.singleton_append]

theorem notMem_of_mem_split {s piece : Text} (h : piece ∈ split sep s) : sep ∉ piece := by
  induction s generalizing piece with
  | nil =>
    rw [List.mem_singleton.1 h]
    exact List.not_mem_nil
  | cons c r ih =>
    obtain ⟨first, rest, hr⟩ := List.exists_cons_of_ne_nil (split_ne_nil sep r)
    rw [hr] at ih
    by_cases hc : c = sep
    · rw [hc, split_cons_sep, hr] at h
      rcases List.mem_cons.1 h with rfl | h
      · exact List.not_mem_nil
      · exact ih h
    · rw [split_cons hc hr] at h
      rcases List.mem_cons.1 h with rfl | h
      · exact List.not_mem_cons_of_ne_of_not_mem (Ne.symm hc) (ih List.mem_cons_self)
      · exact ih (List.mem_cons_of_mem _ h)

/-- Behind a text the pieces go on as before, from the second one. -/
theorem exists_split_append {s piece : Text} {pieces : List Text}
    (hs : split sep s = piece :: pieces) (front : Text) :
    ∃ first rest, split sep (front ++ s) = first :: rest ∧ pieces ⊆ rest := by
  induction front with
  | nil => exact ⟨piece, pieces, hs, List.Subset.refl _⟩
  | cons c r ih =>
    obtain ⟨first, rest, hsplit, hsub⟩ := ih
    by_cases hc : c = sep
    · exact ⟨[], first :: rest, by rw [hc, List.cons_append, split_cons_sep, hsplit],
        List.subset_cons_of_subset _ hsub⟩
    · exact ⟨c :: first, rest, split_cons hc hsplit, hsub⟩

/-! ## The first separator -/

theorem splitFirst?_append {name : Text} (h : sep ∉ name) (rest : Text) :
    splitFirst? sep (name ++ sep :: rest) = some (name, rest) := by
  induction name with
  | nil => exact if_pos rfl
  | cons c r ih =>
    rw [List.cons_append, splitFirst?, if_neg (List.ne_of_not_mem_cons h).symm,
      ih (List.not_mem_of_not_mem_cons h)]
    rfl

theorem splitFirst?_of_notMem {name : Text} (h : sep ∉ name) : splitFirst? sep name = none := by
  induction name with
  | nil => rfl
  | cons c r ih =>
    rw [splitFirst?, if_neg (List.ne_of_not_mem_cons h).symm, ih (List.not_mem_of_not_mem_cons h)]
    rfl

/-! ## The last occurrence -/

theorem findLast?_eq_none {part s : Text} (h : ¬ part <:+: s) : findLast? part s = none := by
  induction s with
  | nil =>
    have hpart : part ≠ [] := by
      rintro rfl
      exact h List.nil_infix
    rw [findLast?, if_neg (by simpa using hpart)]
  | cons c r ih =>
    have hstart : ¬ part.isPrefixOf (c :: r) = true := by
      intro hstarts
      exact h (List.isPrefixOf_iff_prefix.1 hstarts).isInfix
    rw [findLast?, ih fun hr => h (List.infix_cons hr)]
    exact if_neg hstart

/-- An occurrence is the last one if its first character does not come again. -/
theorem findLast?_last {c : Char} {part t : Text} (h : c ∉ part ++ t) (s : Text) :
    findLast? (c :: part) (s ++ (c :: part ++ t)) = some s.length := by
  induction s with
  | nil =>
    have hnone : findLast? (c :: part) (part ++ t) = none :=
      findLast?_eq_none fun hoccurs => h (hoccurs.subset List.mem_cons_self)
    have hstart : (c :: part).isPrefixOf (c :: (part ++ t)) = true :=
      List.isPrefixOf_iff_prefix.2 (List.prefix_append (c :: part) t)
    rw [List.nil_append, List.cons_append, findLast?, hnone]
    exact if_pos hstart
  | cons d r ih => rw [List.cons_append, findLast?, ih, List.length_cons]

theorem findLast?_append {t : Text} (h : sep ∉ t) (s : Text) :
    findLast? [sep] (s ++ sep :: t) = some s.length :=
  findLast?_last h s

/-! ## Joined texts -/

theorem join_concat (sep : Char) {names : List Text} (hne : names ≠ []) (name : Text) :
    join [sep] (names ++ [name]) = join [sep] names ++ sep :: name := by
  induction names with
  | nil => exact absurd rfl hne
  | cons first rest ih =>
    cases rest with
    | nil => exact join_cons_cons sep first name []
    | cons next rest =>
      have hrest := ih (List.cons_ne_nil _ _)
      rw [List.cons_append] at hrest
      rw [List.cons_append, List.cons_append, join_cons_cons, hrest, join_cons_cons,
        List.append_assoc, List.cons_append]

/-- What is in a joined text is the separator, or is in one of the texts. -/
theorem mem_join {names : List Text} {c : Char} (h : c ∈ join [sep] names) :
    c = sep ∨ ∃ name ∈ names, c ∈ name := by
  induction names with
  | nil => cases h
  | cons name rest ih =>
    cases rest with
    | nil => exact Or.inr ⟨name, List.mem_cons_self, h⟩
    | cons next rest =>
      rw [join_cons_cons, List.mem_append, List.mem_cons] at h
      rcases h with h | h | h
      · exact Or.inr ⟨name, List.mem_cons_self, h⟩
      · exact Or.inl h
      · rcases ih h with hsep | ⟨other, hother, hc⟩
        · exact Or.inl hsep
        · exact Or.inr ⟨other, List.mem_cons_of_mem _ hother, hc⟩

theorem split_join_eq_flatMap {names : List Text} (hne : names ≠ []) :
    split sep (join [sep] names) = names.flatMap (split sep) := by
  induction names with
  | nil => exact absurd rfl hne
  | cons name rest ih =>
    cases rest with
    | nil => exact (List.append_nil _).symm
    | cons next rest =>
      rw [List.flatMap_cons, join_cons_cons, split_append_cons_sep, ih (List.cons_ne_nil _ _)]

theorem split_join {names : List Text} (hne : names ≠ []) (h : ∀ name ∈ names, sep ∉ name) :
    split sep (join [sep] names) = names := by
  rw [split_join_eq_flatMap hne]
  calc names.flatMap (split sep)
      = names.flatMap fun name => [name] :=
        List.flatMap_congr fun name hname => split_of_notMem (h name hname)
    _ = names := List.flatMap_singleton' names

end CommandUpgrade.Text
