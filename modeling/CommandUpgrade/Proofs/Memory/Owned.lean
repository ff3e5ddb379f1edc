import CommandUpgrade.Proofs.Memory.Runs

/-!
# Compounds that own others

A compound in the making may hold other compounds that are filled as well: a new item holds its
components, an entity its equipment. It owns them, so no other value refers to them, and a change of one of
them changes this entry alone (`Stands.change`). When all is done, the compound shows what was put into it
(`Stands.shows`).
-/

namespace CommandUpgrade

open Memory

/-- The compounds that are owned, by name. -/
abbrev Owned := List (Text × Address)

/-- The value under a name shows the tag. If the name is owned, the tag is what the compound at its address
holds, which may be open. -/
def ShowsPart (owned : Owned) (openAt : List Address) (memory : Memory) (name : Text) (value : Value)
    (tag : Tag) : Prop :=
  match owned.lookup name with
  | none => Shows openAt memory value tag
  | some address =>
    value = .ref address ∧ ∃ inner, tag = .compound inner ∧ HoldsAt openAt memory address inner

/-- The compound at an open address has these entries, some of them in compounds that it owns. -/
structure Stands (openAt : List Address) (memory : Memory) (root : Address) (owned : Owned)
    (entries : Entries) : Prop where
  parts : ∃ fields, memory[root]? = some (.compound fields) ∧
    Fields.Match (ShowsPart owned openAt memory) fields entries
  nodup : entries.names.Nodup
  distinct : (root :: owned.map Prod.snd).Nodup
  opened : root :: owned.map Prod.snd ⊆ openAt

variable {openAt openAt' changed : List Address} {memory memory' : Memory} {root address : Address}
  {owned : Owned} {entries inner : Entries} {name : Text} {value : Value} {tag : Tag}

/-! ## Parts -/

theorem mem_of_lookup (h : owned.lookup name = some address) : (name, address) ∈ owned := by
  obtain ⟨before, after, rfl, -⟩ := List.lookup_eq_some_iff.1 h
  exact List.mem_append_right _ List.mem_cons_self

theorem showsPart_of_none (h : owned.lookup name = none) :
    ShowsPart owned openAt memory name value tag ↔ Shows openAt memory value tag := by
  unfold ShowsPart
  rw [h]

theorem showsPart_of_some (h : owned.lookup name = some address) :
    ShowsPart owned openAt memory name value tag ↔
      value = .ref address ∧ ∃ inner, tag = .compound inner ∧ HoldsAt openAt memory address inner := by
  unfold ShowsPart
  rw [h]

theorem ShowsPart.keeps (h : ShowsPart owned openAt memory name value tag)
    (hkeeps : memory.Keeps changed memory') (hsub : changed ⊆ openAt)
    (howned : ∀ address, owned.lookup name = some address → address ∉ changed) :
    ShowsPart owned openAt memory' name value tag := by
  cases hname : owned.lookup name with
  | none =>
    rw [showsPart_of_none hname] at h ⊢
    exact h.keeps hkeeps hsub
  | some address =>
    rw [showsPart_of_some hname] at h ⊢
    obtain ⟨rfl, inner, rfl, hinner⟩ := h
    exact ⟨rfl, inner, rfl, hinner.keeps hkeeps hsub (howned address hname)⟩

theorem ShowsPart.reopen (h : ShowsPart owned openAt memory name value tag)
    (hopen : ∀ a ∈ openAt', a ∈ openAt ∨ memory.length ≤ a) :
    ShowsPart owned openAt' memory name value tag := by
  cases hname : owned.lookup name with
  | none =>
    rw [showsPart_of_none hname] at h ⊢
    exact h.reopen hopen
  | some address =>
    rw [showsPart_of_some hname] at h ⊢
    obtain ⟨rfl, inner, rfl, hinner⟩ := h
    exact ⟨rfl, inner, rfl, hinner.reopen hopen⟩

namespace Stands

theorem of_holds (h : HoldsAt openAt memory root entries) (hnodup : entries.names.Nodup)
    (hopen : root ∈ openAt) : Stands openAt memory root [] entries := by
  obtain ⟨fields, hobject, hfields⟩ := h
  exact ⟨⟨fields, hobject, hfields⟩, hnodup, List.nodup_singleton root,
    List.cons_subset.2 ⟨hopen, List.nil_subset _⟩⟩

variable (h : Stands openAt memory root owned entries)

include h

theorem root_ne (hname : owned.lookup name = some address) : root ≠ address := by
  rintro rfl
  exact (List.nodup_cons.1 h.distinct).1 (List.mem_map_of_mem (mem_of_lookup hname))

/-- A compound is owned under one name. -/
theorem name_unique {other : Text} (hname : owned.lookup name = some address)
    (hother : owned.lookup other = some address) : name = other := by
  have hinjective := List.inj_on_of_nodup_map (List.nodup_cons.1 h.distinct).2
  exact congrArg Prod.fst (hinjective (mem_of_lookup hname) (mem_of_lookup hother) rfl)

theorem keeps (hkeeps : memory.Keeps changed memory') (hsub : changed ⊆ openAt)
    (hout : ∀ a ∈ root :: owned.map Prod.snd, a ∉ changed) :
    Stands openAt memory' root owned entries := by
  obtain ⟨⟨fields, hobject, hfields⟩, hnodup, hdistinct, hopened⟩ := h
  refine ⟨⟨fields, hkeeps.same _ _ (hout root List.mem_cons_self) hobject, ?_⟩, hnodup, hdistinct,
    hopened⟩
  refine hfields.imp fun n v t _ hpart => hpart.keeps hkeeps hsub fun a ha => ?_
  exact hout a (List.mem_cons_of_mem _ (List.mem_map_of_mem (mem_of_lookup ha)))

theorem reopen (hopen : ∀ a ∈ openAt', a ∈ openAt ∨ memory.length ≤ a)
    (hopened : root :: owned.map Prod.snd ⊆ openAt') : Stands openAt' memory root owned entries := by
  obtain ⟨⟨fields, hobject, hfields⟩, hnodup, hdistinct, -⟩ := h
  exact ⟨⟨fields, hobject, hfields.imp fun _ _ _ _ hpart => hpart.reopen hopen⟩, hnodup, hdistinct,
    hopened⟩

/-- An open compound can be owned under a name that is not there yet. -/
theorem reserve (hname : Entries.get? name entries = none) (haddress : address ∈ openAt)
    (hnew : address ∉ root :: owned.map Prod.snd) :
    Stands openAt memory root ((name, address) :: owned) entries := by
  obtain ⟨⟨fields, hobject, hfields⟩, hnodup, hdistinct, hopened⟩ := h
  rw [List.mem_cons, not_or] at hnew
  refine ⟨⟨fields, hobject, hfields.imp fun n v t hn hpart => ?_⟩, hnodup, ?_, ?_⟩
  · have hne : n ≠ name := by
      rintro rfl
      exact Entries.notMem_names hname hn
    unfold ShowsPart
    rw [List.lookup_cons, beq_false_of_ne hne]
    exact hpart
  · obtain ⟨hfirst, hrest⟩ := List.nodup_cons.1 hdistinct
    rw [List.map_cons]
    refine List.nodup_cons.2 ⟨?_, List.nodup_cons.2 ⟨hnew.2, hrest⟩⟩
    rw [List.mem_cons, not_or]
    exact ⟨Ne.symm hnew.1, hfirst⟩
  · obtain ⟨hroot, hrest⟩ := List.cons_subset.1 hopened
    exact List.cons_subset.2 ⟨hroot, List.cons_subset.2 ⟨haddress, hrest⟩⟩

/-! ## Reading -/

theorem exec_find (name : Text) :
    ∃ found, Heap.exec (Heap.find root name) memory = (.ok found, memory) ∧
      Option.Rel (ShowsPart owned openAt memory name) found (Entries.get? name entries) := by
  obtain ⟨fields, hobject, hfields⟩ := h.parts
  exact ⟨_, Heap.exec_bind_of_ok (Heap.exec_fields hobject) _, hfields.lookup name⟩

/-- An entry that is not owned is found as it is shown. -/
theorem exec_find_shown (hname : owned.lookup name = none) :
    ∃ found, Heap.exec (Heap.find root name) memory = (.ok found, memory) ∧
      Option.Rel (Shows openAt memory) found (Entries.get? name entries) := by
  obtain ⟨found, hexec, hfound⟩ := h.exec_find name
  refine ⟨found, hexec, ?_⟩
  generalize Entries.get? name entries = tag? at hfound ⊢
  cases hfound with
  | none => exact .none
  | some hpart => exact .some ((showsPart_of_none hname).1 hpart)

/-- An owned compound is found at its address, if its name is there. -/
theorem exec_findCompound (hname : owned.lookup name = some address) :
    (Entries.get? name entries = none ∧
      Heap.exec (Heap.findCompound root name) memory = (.ok none, memory)) ∨
    ∃ inner, Entries.get? name entries = some (.compound inner) ∧ HoldsAt openAt memory address inner ∧
      Heap.exec (Heap.findCompound root name) memory = (.ok (some address), memory) := by
  obtain ⟨found, hexec, hfound⟩ := h.exec_find name
  unfold Heap.findCompound
  rw [Heap.exec_bind_of_ok hexec]
  generalize Entries.get? name entries = tag? at hfound
  cases hfound with
  | none => exact .inl ⟨rfl, rfl⟩
  | some hpart =>
    rw [showsPart_of_some hname] at hpart
    obtain ⟨rfl, inner, rfl, fields, hobject, hfields⟩ := hpart
    refine .inr ⟨inner, rfl, ⟨fields, hobject, hfields⟩, ?_⟩
    unfold Heap.compound?
    dsimp only
    rw [Heap.exec_bind_of_ok (Heap.exec_get memory), hobject]
    rfl

/-! ## Writing -/

/-- The compound is changed in place, and what it owns stays. -/
theorem modify (change : Fields → Fields) (new : Entries) (hnodup : new.names.Nodup)
    (hchange : ∀ fields : Fields, fields.Match (ShowsPart owned openAt memory) entries →
      (change fields).Match (ShowsPart owned openAt memory) new) :
    Stands openAt (memory.modify root (Object.mapFields change)) root owned new := by
  obtain ⟨fields, hobject, hfields⟩ := h.parts
  have hkeeps := keeps_modify memory root (Object.mapFields change)
  refine ⟨⟨change fields, ?_, ?_⟩, hnodup, h.distinct, h.opened⟩
  · rw [List.getElem?_modify_eq, hobject]
    rfl
  · have hsub : [root] ⊆ openAt := List.cons_subset.2 ⟨(List.cons_subset.1 h.opened).1, List.nil_subset _⟩
    refine (hchange fields hfields).imp fun n v t _ hpart => hpart.keeps hkeeps hsub fun a ha hmem => ?_
    exact h.root_ne ha (List.mem_singleton.1 hmem).symm

theorem put (hvalue : ShowsPart owned openAt memory name value tag) :
    Stands openAt (memory.modify root (Object.mapFields (Fields.set name value))) root owned
      (entries.set name tag) :=
  h.modify _ _ (Entries.nodup_names_set h.nodup name tag) fun _ hfields => hfields.set hvalue

theorem erase (name : Text) :
    Stands openAt (memory.modify root (Object.mapFields (Fields.erase name))) root owned
      (entries.erase name) := by
  refine h.modify _ _ ?_ fun _ hfields => hfields.erase name
  exact h.nodup.sublist (List.filter_sublist.map _)

/-- A change of an owned compound changes the entry of its name. -/
theorem change (hname : owned.lookup name = some address) (hentry : Entries.get? name entries = some tag)
    (hkeeps : memory.Keeps [address] memory') (hinner : HoldsAt openAt memory' address inner) :
    Stands openAt memory' root owned (entries.set name (.compound inner)) := by
  obtain ⟨fields, hobject, hfields⟩ := h.parts
  have hlookup := hfields.lookup name
  rw [hentry] at hlookup
  generalize hfound : fields.lookup name = found at hlookup
  cases hlookup with
  | some hpart =>
    obtain ⟨rfl, -⟩ := (showsPart_of_some hname).1 hpart
    have hsub : [address] ⊆ openAt := by
      refine List.cons_subset.2 ⟨h.opened (List.mem_cons_of_mem _ ?_), List.nil_subset _⟩
      exact List.mem_map_of_mem (mem_of_lookup hname)
    refine ⟨⟨fields, hkeeps.same _ _ ?_ hobject, ?_⟩, Entries.nodup_names_set h.nodup _ _, h.distinct,
      h.opened⟩
    · exact fun hmem => h.root_ne hname (List.mem_singleton.1 hmem)
    · have hpart' : ShowsPart owned openAt memory' name (.ref address) (.compound inner) :=
        (showsPart_of_some hname).2 ⟨rfl, inner, rfl, hinner⟩
      have hset := hfields.change h.nodup hpart' fun n v t hn hpart =>
        hpart.keeps hkeeps hsub fun a ha hmem => hn ?_
      · rwa [Fields.set_of_lookup hfound] at hset
      · obtain rfl := List.mem_singleton.1 hmem
        exact h.name_unique ha hname

/-- What is done shows. -/
theorem shows (hsub : openAt' ⊆ openAt) (hclosed : ∀ a ∈ root :: owned.map Prod.snd, a ∉ openAt') :
    Shows openAt' memory (.ref root) (.compound entries) := by
  obtain ⟨fields, hobject, hfields⟩ := h.parts
  refine shows_compound_iff.2 ⟨hclosed root List.mem_cons_self, fields, hobject, ?_⟩
  refine hfields.imp fun n v t _ hpart => ?_
  have hopen : ∀ a ∈ openAt', a ∈ openAt ∨ memory.length ≤ a := fun a ha => .inl (hsub ha)
  cases hn : owned.lookup n with
  | none => exact ((showsPart_of_none hn).1 hpart).reopen hopen
  | some address =>
    obtain ⟨rfl, inner, rfl, hinner⟩ := (showsPart_of_some hn).1 hpart
    refine shows_compound_iff.2 ⟨hclosed address (List.mem_cons_of_mem _ ?_), hinner.reopen hopen⟩
    exact List.mem_map_of_mem (mem_of_lookup hn)

end Stands

end CommandUpgrade
