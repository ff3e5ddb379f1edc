import CommandUpgrade.Proofs.Digits
import CommandUpgrade.Tag.Basic

/-!
# Entries of compounds

Looking up, setting and erasing by name.
-/

namespace CommandUpgrade.Entries

theorem get?_cons (name n : Text) (tag : Tag) (rest : Entries) :
    get? name ((n, tag) :: rest) = if name = n then some tag else get? name rest := by
  unfold get?
  rw [List.lookup_cons]
  by_cases h : name = n
  · rw [if_pos h, h, beq_self_eq_true]
  · rw [if_neg h, beq_eq_false_iff_ne.2 h]

theorem get?_set_self (name : Text) (tag : Tag) (entries : Entries) :
    get? name (entries.set name tag) = some tag := by
  induction entries with
  | nil => rw [set, get?_cons, if_pos rfl]
  | cons entry rest ih =>
    obtain ⟨n, t⟩ := entry
    rw [set]
    by_cases h : n = name
    · rw [if_pos h, get?_cons, if_pos h.symm]
    · rw [if_neg h, get?_cons, if_neg (Ne.symm h), ih]

theorem get?_set_of_ne {name other : Text} (h : name ≠ other) (tag : Tag) (entries : Entries) :
    get? name (entries.set other tag) = get? name entries := by
  induction entries with
  | nil => rw [set, get?_cons, if_neg h]
  | cons entry rest ih =>
    obtain ⟨n, t⟩ := entry
    rw [set]
    by_cases hn : n = other
    · rw [if_pos hn, get?_cons, get?_cons, if_neg (hn ▸ h), if_neg (hn ▸ h)]
    · rw [if_neg hn, get?_cons, get?_cons, ih]

theorem set_set (name : Text) (tag other : Tag) (entries : Entries) :
    (entries.set name other).set name tag = entries.set name tag := by
  induction entries with
  | nil => rw [set, set, set, if_pos rfl]
  | cons entry rest ih =>
    obtain ⟨n, t⟩ := entry
    rw [set, set]
    by_cases h : n = name
    · rw [if_pos h, if_pos h, set, if_pos h]
    · rw [if_neg h, if_neg h, set, if_neg h, ih]

theorem set_of_get? {name : Text} {tag : Tag} {entries : Entries}
    (h : get? name entries = some tag) : entries.set name tag = entries := by
  induction entries with
  | nil => cases h
  | cons entry rest ih =>
    obtain ⟨n, t⟩ := entry
    rw [get?_cons] at h
    rw [set]
    by_cases hn : n = name
    · rw [if_pos hn.symm] at h
      rw [if_pos hn, Option.some.inj h]
    · rw [if_neg (Ne.symm hn)] at h
      rw [if_neg hn, ih h]

theorem get?_erase_of_ne {name other : Text} (h : name ≠ other) (entries : Entries) :
    get? name (entries.erase other) = get? name entries := by
  unfold erase
  induction entries with
  | nil => rfl
  | cons entry rest ih =>
    obtain ⟨n, t⟩ := entry
    rw [List.filter_cons, get?_cons]
    by_cases hn : n = other
    · rw [if_neg (by simpa using hn), ih, if_neg (hn ▸ h)]
    · rw [if_pos (by simpa using hn), get?_cons, ih]

theorem get?_erase_self (name : Text) (entries : Entries) : get? name (entries.erase name) = none := by
  unfold erase
  induction entries with
  | nil => rfl
  | cons entry rest ih =>
    obtain ⟨n, t⟩ := entry
    rw [List.filter_cons]
    by_cases hn : n = name
    · rw [if_neg (by simpa using hn), ih]
    · rw [if_pos (by simpa using hn), get?_cons, if_neg (Ne.symm hn), ih]

/-- A new name comes last. -/
theorem set_of_notMem {name : Text} {entries : Entries} (h : name ∉ entries.names) (tag : Tag) :
    entries.set name tag = entries ++ [(name, tag)] := by
  induction entries with
  | nil => rfl
  | cons entry rest ih =>
    obtain ⟨n, t⟩ := entry
    rw [names, List.map_cons, List.mem_cons, not_or] at h
    rw [set, if_neg (Ne.symm h.1), ih h.2, List.cons_append]

theorem get?_append_of_notMem {name : Text} {entries : Entries} (h : name ∉ entries.names)
    (more : Entries) : get? name (entries ++ more) = get? name more := by
  induction entries with
  | nil => rfl
  | cons entry rest ih =>
    obtain ⟨n, t⟩ := entry
    rw [names, List.map_cons, List.mem_cons, not_or] at h
    rw [List.cons_append, get?_cons, if_neg h.1, ih h.2]

theorem get?_eq_none {name : Text} {entries : Entries} (h : name ∉ entries.names) :
    get? name entries = none := by
  have := get?_append_of_notMem h []
  rwa [List.append_nil] at this

theorem mem_names_set {name other : Text} {tag : Tag} {entries : Entries}
    (h : name ∈ (entries.set other tag).names) : name = other ∨ name ∈ entries.names := by
  induction entries with
  | nil => exact .inl (List.mem_singleton.1 h)
  | cons entry rest ih =>
    obtain ⟨n, t⟩ := entry
    rw [set] at h
    split at h
    case isTrue hn => exact .inr (hn ▸ h)
    case isFalse hn =>
      rcases List.mem_cons.1 h with rfl | h
      · exact .inr List.mem_cons_self
      · exact (ih h).imp_right (List.mem_cons_of_mem _)

theorem nodup_names_set {entries : Entries} (h : entries.names.Nodup) (name : Text) (tag : Tag) :
    (entries.set name tag).names.Nodup := by
  induction entries with
  | nil => exact List.nodup_singleton name
  | cons entry rest ih =>
    obtain ⟨n, t⟩ := entry
    obtain ⟨hn, hrest⟩ := List.nodup_cons.1 h
    rw [set]
    split
    case isTrue heq => exact List.nodup_cons.2 ⟨heq ▸ hn, hrest⟩
    case isFalse heq =>
      refine List.nodup_cons.2 ⟨fun hmem => ?_, ih hrest⟩
      rcases mem_names_set hmem with rfl | hmem
      · exact heq rfl
      · exact hn hmem

theorem get?_of_mem {entries : Entries} (h : entries.names.Nodup) {name : Text} {tag : Tag}
    (hmem : (name, tag) ∈ entries) : get? name entries = some tag := by
  induction entries with
  | nil => cases hmem
  | cons entry rest ih =>
    obtain ⟨n, t⟩ := entry
    obtain ⟨hn, hrest⟩ := List.nodup_cons.1 h
    rw [get?_cons]
    rcases List.mem_cons.1 hmem with heq | hmem
    · obtain ⟨rfl, rfl⟩ := Prod.mk.inj heq
      exact if_pos rfl
    · have hname : name ∈ names rest := List.mem_map_of_mem (f := Prod.fst) hmem
      rw [if_neg (fun heq : name = n => hn (heq ▸ hname)), ih hrest hmem]

theorem mem_of_get? {entries : Entries} {name : Text} {tag : Tag}
    (h : get? name entries = some tag) : (name, tag) ∈ entries := by
  obtain ⟨front, rest, rfl, -⟩ := List.lookup_eq_some_iff.1 h
  simp

theorem get?_eq_some_iff {entries : Entries} (h : entries.names.Nodup) {name : Text} {tag : Tag} :
    get? name entries = some tag ↔ (name, tag) ∈ entries :=
  ⟨mem_of_get?, get?_of_mem h⟩

/-- The order of distinct names does not matter. -/
theorem get?_of_perm {entries others : Entries} (hperm : entries.Perm others)
    (h : entries.names.Nodup) (name : Text) : get? name others = get? name entries := by
  have hothers : others.names.Nodup := (hperm.map Prod.fst).nodup_iff.1 h
  refine Option.ext fun tag => ?_
  rw [get?_eq_some_iff hothers, get?_eq_some_iff h, hperm.mem_iff]

/-- Entries of distinct names that say the same differ in their order only. -/
theorem perm_of_get? {entries others : Entries} (h : entries.names.Nodup)
    (hothers : others.names.Nodup) (hget : ∀ name, get? name entries = get? name others) :
    entries.Perm others := by
  refine (List.perm_ext_iff_of_nodup (.of_map _ h) (.of_map _ hothers)).2 fun entry => ?_
  obtain ⟨name, tag⟩ := entry
  rw [← get?_eq_some_iff h, ← get?_eq_some_iff hothers, hget]

theorem notMem_names {entries : Entries} {name : Text} (h : get? name entries = none) :
    name ∉ entries.names := by
  induction entries with
  | nil => exact List.not_mem_nil
  | cons entry rest ih =>
    obtain ⟨n, t⟩ := entry
    rw [get?_cons] at h
    split at h
    case isTrue => cases h
    case isFalse hn =>
      intro hmem
      rcases List.mem_cons.1 hmem with heq | hmem
      · exact hn heq
      · exact ih h hmem

theorem get?_merge_of_notMem {name : Text} {new : Entries} (h : name ∉ new.names) (entries : Entries) :
    get? name (entries.merge new) = get? name entries := by
  unfold merge
  induction new generalizing entries with
  | nil => rfl
  | cons entry rest ih =>
    rw [names, List.map_cons, List.mem_cons, not_or] at h
    rw [List.foldl_cons, ih h.2, get?_set_of_ne h.1]

theorem get?_merge_of_mem {name : Text} {tag : Tag} {new : Entries} (hnew : new.names.Nodup)
    (h : (name, tag) ∈ new) (entries : Entries) : get? name (entries.merge new) = some tag := by
  induction new generalizing entries with
  | nil => cases h
  | cons entry rest ih =>
    obtain ⟨hfirst, hrest⟩ := List.nodup_cons.1 hnew
    rcases List.mem_cons.1 h with rfl | h
    · exact (get?_merge_of_notMem hfirst _).trans (get?_set_self name tag entries)
    · exact ih hrest h _

theorem get?_append (name : Text) (entries more : Entries) :
    get? name (entries ++ more) = (get? name entries).or (get? name more) := List.lookup_append

/-- What is set last counts. -/
theorem get?_merge {new : Entries} (hnew : new.names.Nodup) (name : Text) (entries : Entries) :
    get? name (entries.merge new) = (get? name new).or (get? name entries) := by
  cases hname : get? name new with
  | none => rw [get?_merge_of_notMem (notMem_names hname), Option.none_or]
  | some tag => rw [get?_merge_of_mem hnew (mem_of_get? hname), Option.some_or]

theorem nodup_names_merge {entries : Entries} (h : entries.names.Nodup) (new : Entries) :
    (entries.merge new).names.Nodup := by
  unfold merge
  induction new generalizing entries with
  | nil => exact h
  | cons entry rest ih => exact ih (nodup_names_set h entry.1 entry.2)

/-! ## Free names -/

/-- Puts a tag under each of some names that is free. -/
def pad (slots : List Text) (tag : Tag) (entries : Entries) : Entries :=
  slots.foldl (fun all slot => if has slot all then all else all.set slot tag) entries

theorem pad_cons (slot : Text) (slots : List Text) (tag : Tag) (entries : Entries) :
    entries.pad (slot :: slots) tag =
      pad slots tag (if has slot entries then entries else entries.set slot tag) := rfl

theorem get?_pad (name : Text) (slots : List Text) (tag : Tag) (entries : Entries) :
    get? name (entries.pad slots tag) =
      (get? name entries).or (if name ∈ slots then some tag else none) := by
  induction slots generalizing entries with
  | nil => exact (Option.or_none).symm
  | cons slot rest ih =>
    rw [pad_cons, ih]
    unfold has
    by_cases hname : name = slot
    · subst hname
      rw [if_pos List.mem_cons_self]
      cases hget : get? name entries with
      | none =>
        rw [Option.isSome_none, if_neg Bool.false_ne_true, get?_set_self]
        rfl
      | some old =>
        rw [Option.isSome_some, if_pos rfl, hget]
        rfl
    · have hsame : get? name (if (get? slot entries).isSome then entries else entries.set slot tag) =
          get? name entries := by
        split
        · rfl
        · exact get?_set_of_ne hname tag entries
      simp only [hsame, List.mem_cons, hname, false_or]

theorem nodup_names_pad {entries : Entries} (h : entries.names.Nodup) (slots : List Text) (tag : Tag) :
    (entries.pad slots tag).names.Nodup := by
  induction slots generalizing entries with
  | nil => exact h
  | cons slot rest ih =>
    rw [pad_cons]
    split
    · exact ih h
    · exact ih (nodup_names_set h slot tag)

theorem get?_append_singleton (name n : Text) (tag : Tag) (entries : Entries) :
    get? name (entries ++ [(n, tag)]) =
      (get? name entries).or (if name = n then some tag else none) := by
  induction entries with
  | nil => rw [List.nil_append, get?_cons]; rfl
  | cons entry rest ih =>
    obtain ⟨m, t⟩ := entry
    rw [List.cons_append, get?_cons, get?_cons, ih]
    split <;> rfl

end CommandUpgrade.Entries
