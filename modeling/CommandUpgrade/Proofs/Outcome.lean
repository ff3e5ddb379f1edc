import CommandUpgrade.Fault
import Mathlib.Data.List.Forall2

/-!
# Outcomes

A step after another one, and a step for each item of a list, give a result only if all of them do.
-/

namespace CommandUpgrade.Outcome

variable {α β : Type}

/-- A result comes from a result of the first step. -/
theorem bind_eq_ok {outcome : Outcome α} {next : α → Outcome β} {b : β}
    (h : (outcome >>= next) = .ok b) : ∃ a, outcome = .ok a ∧ next a = .ok b := by
  cases outcome with
  | error fault => cases h
  | ok a => exact ⟨a, rfl, h⟩

theorem map_eq_ok {f : α → β} {outcome : Outcome α} {b : β} (h : f <$> outcome = .ok b) :
    ∃ a, outcome = .ok a ∧ b = f a := by
  cases outcome with
  | error fault => cases h
  | ok a => exact ⟨a, rfl, (Except.ok.inj h).symm⟩

theorem error_of_ne_ok {outcome : Outcome α} (h : ∀ a, outcome ≠ .ok a) :
    ∃ fault, outcome = .error fault := by
  cases outcome with
  | error fault => exact ⟨fault, rfl⟩
  | ok a => exact absurd rfl (h a)

/-- A step behind a choice may stand in its branches. -/
theorem ite_eq_map {c : Prop} [Decidable c] {f : α → β} {x y : Outcome α} {a b : Outcome β}
    (hpos : a = f <$> x) (hneg : b = f <$> y) :
    (if c then a else b) = f <$> if c then x else y := by
  split_ifs
  · exact hpos
  · exact hneg

/-- The results for a list are those for its items. -/
theorem mapM_eq_ok_iff {f : α → Outcome β} {items : List α} {results : List β} :
    items.mapM f = .ok results ↔ List.Forall₂ (fun a b => f a = .ok b) items results := by
  induction items generalizing results with
  | nil =>
    rw [List.mapM_nil, List.forall₂_nil_left_iff]
    exact ⟨fun h => (Except.ok.inj h).symm, fun h => congrArg Except.ok h.symm⟩
  | cons a rest ih =>
    rw [List.mapM_cons, List.forall₂_cons_left_iff]
    constructor
    · intro h
      obtain ⟨b, hb, h⟩ := bind_eq_ok h
      obtain ⟨others, hothers, h⟩ := bind_eq_ok h
      exact ⟨b, others, hb, ih.1 hothers, (Except.ok.inj h).symm⟩
    · rintro ⟨b, others, hb, hothers, rfl⟩
      rw [hb, ih.2 hothers]
      rfl

/-- A list with a result for each item has them all. -/
theorem mapM_eq_ok {f : α → Outcome β} {g : α → β} {items : List α}
    (h : ∀ a ∈ items, f a = .ok (g a)) : items.mapM f = .ok (items.map g) :=
  mapM_eq_ok_iff.2 (List.forall₂_map_right_iff.2 (List.forall₂_same.2 h))

/-- The results for a list are those of one function. -/
theorem exists_map_of_mapM_eq_ok [Inhabited β] {f : α → Outcome β} {items : List α}
    {results : List β} (h : items.mapM f = .ok results) :
    ∃ g : α → β, (∀ a ∈ items, f a = .ok (g a)) ∧ results = items.map g := by
  let g (a : α) : β := (f a).toOption.getD default
  have hall : List.Forall₂ (fun a b => f a = .ok (g a) ∧ f a = .ok b) items results :=
    (mapM_eq_ok_iff.1 h).imp fun a b hb => ⟨by simp [g, hb, Except.toOption], hb⟩
  have hg := ((List.forall₂_and_left items results).1 hall).1
  exact ⟨g, hg, Except.ok.inj (h.symm.trans (mapM_eq_ok hg))⟩

/-- An item without a result leaves the list without one. -/
theorem mapM_eq_error {f : α → Outcome β} {items : List α} {a : α} (ha : a ∈ items)
    (h : ∀ b, f a ≠ .ok b) : ∃ fault, items.mapM f = .error fault := by
  refine error_of_ne_ok fun results hresults => ?_
  have hall : List.Forall₂ (fun a b => (∃ b, f a = .ok b) ∧ f a = .ok b) items results :=
    (mapM_eq_ok_iff.1 hresults).imp fun a b hb => ⟨⟨b, hb⟩, hb⟩
  obtain ⟨b, hb⟩ := ((List.forall₂_and_left items results).1 hall).1 a ha
  exact h b hb

/-- The fault of a list is that of an item. -/
theorem exists_of_mapM_eq_error {f : α → Outcome β} {items : List α} {fault : Fault}
    (h : items.mapM f = .error fault) : ∃ a ∈ items, f a = .error fault := by
  induction items with
  | nil => cases h
  | cons a rest ih =>
    rw [List.mapM_cons] at h
    cases ha : f a with
    | error other =>
      rw [ha] at h
      obtain rfl : other = fault := Except.error.inj h
      exact ⟨a, List.mem_cons_self, ha⟩
    | ok b =>
      rw [ha] at h
      cases hrest : rest.mapM f with
      | error other =>
        rw [hrest] at h
        obtain rfl : other = fault := Except.error.inj h
        obtain ⟨item, hitem, hfault⟩ := ih hrest
        exact ⟨item, List.mem_cons_of_mem _ hitem, hfault⟩
      | ok others =>
        rw [hrest] at h
        cases h

end CommandUpgrade.Outcome
