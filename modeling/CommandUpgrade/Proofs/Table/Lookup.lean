import CommandUpgrade.Proofs.Digits
import CommandUpgrade.Table.Basic

/-!
# Tables by key

A table that is filled entry by entry has each key once, with the value that came last.
-/

namespace CommandUpgrade.Lookup

variable {κ : Type} [DecidableEq κ] (key : κ)

theorem get?_cons (k : κ) (value : Text) (rest : Lookup κ) :
    get? key ((k, value) :: rest) = if key = k then some value else get? key rest := by
  unfold get?
  rw [List.lookup_cons]
  by_cases h : key = k
  · rw [if_pos h, h, beq_self_eq_true]
  · rw [if_neg h, beq_eq_false_iff_ne.2 h]

theorem get?_eq_none_iff (table : Lookup κ) : get? key table = none ↔ key ∉ table.map Prod.fst := by
  induction table with
  | nil => simp [get?]
  | cons entry rest ih =>
    obtain ⟨k, v⟩ := entry
    rw [get?_cons, List.map_cons, List.mem_cons, not_or, ← ih]
    by_cases hk : key = k
    · simp [hk]
    · simp [hk]

theorem get?_set (k : κ) (value : Text) (table : Lookup κ) :
    get? key (set k value table) = if key = k then some value else get? key table := by
  induction table with
  | nil => exact get?_cons key k value []
  | cons entry rest ih =>
    obtain ⟨k', v⟩ := entry
    rw [set, get?_cons]
    by_cases hk : k' = k
    · rw [if_pos hk, get?_cons, hk]
      split_ifs <;> rfl
    · rw [if_neg hk, get?_cons, ih]
      by_cases hkey : key = k'
      · rw [if_pos hkey, if_neg (hkey ▸ hk), if_pos hkey]
      · rw [if_neg hkey, if_neg hkey]

theorem mem_of_get? {key : κ} {table : Lookup κ} {value : Text} (h : get? key table = some value) :
    value ∈ table.map Prod.snd := by
  induction table with
  | nil => cases h
  | cons entry rest ih =>
    obtain ⟨k, v⟩ := entry
    rw [get?_cons] at h
    split_ifs at h
    · cases h
      exact List.mem_cons_self
    · exact List.mem_cons_of_mem _ (ih h)

theorem mem_of_mem_set {key : κ} {new value : Text} {table : Lookup κ}
    (h : value ∈ (set key new table).map Prod.snd) : value = new ∨ value ∈ table.map Prod.snd := by
  induction table with
  | nil => exact Or.inl (List.mem_singleton.1 h)
  | cons entry rest ih =>
    obtain ⟨k, v⟩ := entry
    rw [set] at h
    split_ifs at h
    · rcases List.mem_cons.1 h with h | h
      · exact Or.inl h
      · exact Or.inr (List.mem_cons_of_mem _ h)
    · rcases List.mem_cons.1 h with h | h
      · exact Or.inr (List.mem_cons.2 (Or.inl h))
      · exact (ih h).imp_right (List.mem_cons_of_mem _)

/-- A key keeps its place, and a new one comes last. -/
theorem map_fst_set (value : Text) (table : Lookup κ) : (set key value table).map Prod.fst
    = if key ∈ table.map Prod.fst then table.map Prod.fst else table.map Prod.fst ++ [key] := by
  induction table with
  | nil => rfl
  | cons entry rest ih =>
    obtain ⟨k, v⟩ := entry
    rw [set]
    by_cases hk : k = key
    · rw [if_pos hk, if_pos (by simp [hk])]
      rfl
    · rw [if_neg hk, List.map_cons, ih]
      have hmem : key ∈ ((k, v) :: rest).map Prod.fst ↔ key ∈ rest.map Prod.fst := by
        simp [Ne.symm hk]
      split_ifs with hold hnew hnew
      · rfl
      · exact absurd (hmem.2 hold) hnew
      · exact absurd (hmem.1 hnew) hold
      · rfl

/-- Entries set one after another. -/
def setAll (entries : List (κ × Text)) : Lookup κ :=
  entries.foldl (fun table entry => set entry.1 entry.2 table) []

theorem setAll_concat (entries : List (κ × Text)) (entry : κ × Text) :
    setAll (entries ++ [entry]) = set entry.1 entry.2 (setAll entries) := List.foldl_concat ..

/-- The value that came last is there. -/
theorem get?_setAll (entries : List (κ × Text)) :
    get? key (setAll entries) = get? key entries.reverse := by
  induction entries using List.reverseRecOn with
  | nil => rfl
  | append_singleton entries entry ih =>
    rw [setAll_concat, get?_set, ih, List.reverse_append, List.reverse_singleton,
      List.singleton_append, get?_cons]

theorem nodup_setAll (entries : List (κ × Text)) : ((setAll entries).map Prod.fst).Nodup := by
  induction entries using List.reverseRecOn with
  | nil => exact List.nodup_nil
  | append_singleton entries entry ih =>
    rw [setAll_concat, map_fst_set]
    split_ifs with hmem
    · exact ih
    · exact List.Nodup.append ih (List.nodup_singleton _) (List.disjoint_singleton.2 hmem)

end CommandUpgrade.Lookup
