import CommandUpgrade.Entity.Registry
import CommandUpgrade.Proofs.Memory.Rule

/-!
# A conversion leaves its input

A registry converts a copy of the entity in memory. The copy shares all that is inside the entity, and a rule
writes only into the copy and into compounds that were made since the copy (`Converting`). So all objects
that were there before stay as they were, and the copy shows what `Registry.run` gives
(`convert_leaves_input`).
-/

namespace CommandUpgrade

open Text Style Memory Outcome

namespace Heap

variable {base memory : Memory} {root address : Address} {owned : Owned} {entries : Entries}

/-- The entity at an address that is not in the base has these entries. It owns its compounds of slots, which
are not in the base either, and the base is as it was. -/
structure Owns (base memory : Memory) (root : Address) (owned : Owned) (entries : Entries) : Prop where
  kept : base.Keeps [] memory
  fresh : ∀ a ∈ root :: owned.map Prod.snd, base.length ≤ a
  below : Below (root :: owned.map Prod.snd) memory
  stands : Stands (root :: owned.map Prod.snd) memory root owned entries
  has : ∀ name ∈ ownNames, (owned.lookup name).isSome = Entries.has name entries
  only : ∀ name ∉ ownNames, owned.lookup name = none

/-- The entity is being converted. -/
def Converting (base memory : Memory) (root : Address) (entries : Entries) : Prop :=
  ∃ owned, Owns base memory root owned entries

namespace Owns

theorem follows (h : Owns base memory root owned entries) {program : Heap Unit} {edit : Edit Unit}
    (hfollows : Follows (root :: owned.map Prod.snd) root owned memory entries program edit) :
    Owns base (exec program memory).2 root owned (Edit.exec edit entries).2 where
  kept := h.kept.trans_fresh hfollows.keeps fun a ha => .inr (h.fresh a ha)
  fresh := h.fresh
  below := h.below.keeps hfollows.keeps
  stands := hfollows.stands
  has name hname := (h.has name hname).trans (hfollows.names name hname).symm
  only := h.only

/-- The memory with a new compound, put under a name of the entity. -/
def added (memory : Memory) (root : Address) (name : Text) : Memory :=
  (memory ++ [Object.compound []]).modify root (Object.mapFields (Fields.set name (.ref memory.length)))

theorem opened_added {memory : Memory} {root : Address} {addresses : List Address} :
    ∀ a ∈ root :: memory.length :: addresses, a ∈ root :: addresses ∨ memory.length ≤ a := by
  intro a ha
  rcases List.mem_cons.1 ha with rfl | ha
  · exact .inl List.mem_cons_self
  · exact (mem_or_fresh a ha).imp_left (List.mem_cons_of_mem _)

theorem shows_added {openAt : List Address} {value : Value} {tag : Tag} (name : Text)
    (h : Shows (root :: openAt) memory value tag) :
    Shows (root :: memory.length :: openAt) (added memory root name) value tag :=
  ((h.reopen opened_added).keeps (keeps_append _ _) (List.nil_subset _)).keeps (keeps_modify _ _ _)
    (List.cons_subset.2 ⟨List.mem_cons_self, List.nil_subset _⟩)

/-- The new compound is owned from the start, and then put under its name. -/
theorem owns_added (h : Owns base memory root owned entries) {name : Text} (hname : name ∈ ownNames)
    (hnone : Entries.get? name entries = none) :
    Owns base (added memory root name) root ((name, memory.length) :: owned)
      (entries.set name (.compound [])) := by
  have hkeeps := keeps_append memory [.compound []]
  have hmodify := keeps_modify (memory ++ [.compound []]) root
    (Object.mapFields (Fields.set name (.ref memory.length)))
  refine ⟨?kept, ?fresh, ?below, ?stands, ?has, ?only⟩
  case kept =>
    exact (h.kept.trans hkeeps).trans_fresh hmodify
      (List.forall_mem_singleton.2 (.inr (h.fresh root List.mem_cons_self)))
  case fresh =>
    exact List.forall_mem_cons.2 ⟨h.fresh root List.mem_cons_self, List.forall_mem_cons.2
      ⟨h.kept.length_le, fun a ha => h.fresh a (List.mem_cons_of_mem _ ha)⟩⟩
  case below =>
    have hbelow := (h.below.alloc (.compound [])).keeps hmodify
    intro a ha
    refine hbelow a ?_
    rw [List.map_cons, List.mem_cons, List.mem_cons] at ha
    rw [List.mem_cons, List.mem_cons]
    exact or_left_comm.1 ha
  case stands =>
    have hsub : root :: owned.map Prod.snd ⊆ root :: memory.length :: owned.map Prod.snd :=
      List.cons_subset_cons _ (List.subset_cons_self _ _)
    have hnew : memory.length ∉ root :: owned.map Prod.snd := notMem_of_below h.below (Keeps.refl _ _)
    have hstands := ((h.stands.reopen opened_added hsub).keeps hkeeps (List.nil_subset _)
      fun _ _ => List.not_mem_nil).reserve hnone (List.mem_cons_of_mem _ List.mem_cons_self) hnew
    exact hstands.put ((showsPart_of_some List.lookup_cons_self).2 ⟨rfl, [], rfl, holds_new .nil⟩)
  case has =>
    intro other hother
    unfold Entries.has
    rw [List.lookup_cons]
    by_cases hne : other = name
    · subst hne
      rw [beq_self_eq_true, Entries.get?_set_self]
      rfl
    · rw [beq_false_of_ne hne, Entries.get?_set_of_ne hne]
      exact h.has other hother
  case only =>
    intro other hother
    rw [List.lookup_cons, beq_false_of_ne (ne_of_mem_of_not_mem hname hother).symm]
    exact h.only other hother

/-- A place for slots is there, or it is made. -/
theorem ensure (h : Owns base memory root owned entries) {name : Text} (hname : name ∈ ownNames) :
    ∃ owned' memory' address entries', exec (Heap.ensure root name) memory = (.ok (), memory') ∧
      Edit.exec (Edit.ensure name) entries = (.ok (), entries') ∧
      Owns base memory' root owned' entries' ∧ owned'.lookup name = some address ∧
      ∀ value tag, Shows (root :: owned.map Prod.snd) memory value tag →
        Shows (root :: owned'.map Prod.snd) memory' value tag := by
  obtain ⟨found, hexec, hfound⟩ := h.stands.exec_find name
  have hhas := h.has name hname
  unfold Heap.ensure Edit.ensure
  rw [exec_bind_of_ok hexec, Edit.exec_find_bind]
  unfold Entries.has at hhas
  cases hget : Entries.get? name entries with
  | some tag =>
    rw [hget] at hfound hhas
    obtain ⟨address, haddress⟩ := Option.isSome_iff_exists.1 hhas
    cases hfound with
    | some => exact ⟨owned, memory, address, entries, rfl, rfl, h, haddress, fun _ _ hshows => hshows⟩
  | none =>
    rw [hget] at hfound
    cases hfound
    exact ⟨_, _, _, _, rfl, rfl, owns_added h hname hget, List.lookup_cons_self,
      fun _ _ => shows_added name⟩

end Owns

/-! ## Rules -/

/-- A rule that fills slots leaves the entity being converted. -/
theorem converting_fillSlots {f : Filling} {pairs : List Value → Heap (List (Text × Value))}
    {made : Value → Heap (Option Value)} (hf : Fills f pairs made) (howner : f.owner ∈ ownNames)
    {field : Text} (hfield : field ∉ ownNames) (h : Converting base memory root entries) :
    Converting base (exec (fillSlots field f.owner pairs made f.padding root) memory).2 root
      (Edit.exec (f.edit field) entries).2 := by
  obtain ⟨owned, h⟩ := h
  obtain ⟨found, hexec, hfound⟩ := h.stands.exec_find_shown (h.only field hfield)
  obtain ⟨found, hexec, hfound⟩ := exec_findList_of_find hexec hfound
  unfold fillSlots Filling.edit Edit.onList
  rw [exec_bind_of_ok hexec, Edit.exec_find_bind]
  generalize Entries.get? field entries = tag? at hfound ⊢
  cases tag? with
  | none =>
    cases hfound
    exact ⟨owned, h⟩
  | some tag =>
    cases tag with
    | list tags =>
      change Option.Rel _ found (some tags) at hfound
      cases hfound with
      | some hvalues =>
        obtain ⟨owned', memory', address, entries', hensure, hensure', h', hlookup, hshows⟩ := h.ensure howner
        dsimp only
        rw [exec_bind_of_ok hensure, Edit.exec_bind_of_ok hensure']
        exact ⟨owned', h'.follows (follows_fill hf h'.below h'.stands hlookup hfield
          (hvalues.imp fun _ _ => hshows _ _))⟩
    | _ =>
      cases hfound
      exact ⟨owned, h⟩

theorem follows_put {openAt : List Address} {value : Value} {tag : Tag} {name : Text}
    (h : Stands openAt memory root owned entries) (hname : name ∉ ownNames)
    (hlookup : owned.lookup name = none) (hvalue : Shows openAt memory value tag) :
    Follows openAt root owned memory entries (put root name value) (Edit.put name tag) := by
  refine ⟨(keeps_modify _ _ _).mono ?_, rfl, h.put ((showsPart_of_none hlookup).2 hvalue),
    fun other hother => ?_⟩
  · exact List.cons_subset.2 ⟨List.mem_cons_self, List.nil_subset _⟩
  · have hne : other ≠ name := ne_of_mem_of_not_mem hother hname
    exact congrArg Option.isSome (Entries.get?_set_of_ne hne tag entries)

section Owns

variable (h : Owns base memory root owned entries)

include h

theorem follows_editName :
    Follows (root :: owned.map Prod.snd) root owned memory entries (editName root) Rule.editName := by
  have hname : "CustomName".toList ∉ ownNames := by decide
  obtain ⟨found, hexec, hfound⟩ := h.stands.exec_find_shown (h.only _ hname)
  unfold editName Rule.editName
  refine Follows.reads hexec (Follows.finds ?_)
  generalize Entries.get? "CustomName" entries = tag? at hfound ⊢
  cases hfound with
  | none => exact Follows.nothing h.stands
  | @some value tag hvalue =>
    cases value with
    | text name =>
      obtain rfl : tag = .text name := by
        obtain ⟨depth, hread⟩ := hvalue
        cases depth <;> cases hread <;> rfl
      refine Follows.both h.stands fun new => ?_
      refine Follows.makes h.stands (makes_store new h.below) fun memory' value _ hvalue h' => ?_
      exact follows_put h' hname (h.only _ hname) hvalue
    | ref address =>
      obtain ⟨-, object, -, hdisplays⟩ := shows_ref_iff.1 hvalue
      cases hdisplays <;> exact Follows.nothing h.stands
    | _ =>
      obtain ⟨depth, hread⟩ := hvalue
      cases depth <;> cases hread <;> exact Follows.nothing h.stands

theorem follows_editInventory :
    Follows (root :: owned.map Prod.snd) root owned memory entries (editInventory root)
      Rule.editInventory := by
  have hname : "Inventory".toList ∉ ownNames := by decide
  obtain ⟨found, hexec, hfound⟩ := h.stands.exec_find_shown (h.only _ hname)
  obtain ⟨found, hexec, hfound⟩ := exec_findList_of_find hexec hfound
  unfold editInventory Rule.editInventory
  refine Follows.reads hexec (Follows.finds ?_)
  generalize Entries.get? "Inventory" entries = tag? at hfound ⊢
  cases tag? with
  | none =>
    cases hfound
    exact Follows.nothing h.stands
  | some tag =>
    cases tag with
    | list tags =>
      change Option.Rel _ found (some tags) at hfound
      cases hfound with
      | some hvalues =>
        have hitems := Runs.mapM (P := Shows _) (fun _ _ _ _ hkeeps h => h.keeps hkeeps (List.nil_subset _))
          (fun _ _ _ _ hkeeps h => h.keeps hkeeps (List.nil_subset _))
          (fun _ _ _ hkeeps hvalue => runs_inventoryItem (h.below.keeps hkeeps) hvalue) hvalues
        refine Follows.lift h.stands hitems (Edit.exec_mapM_lift _ _ _) fun memory₁ values tags hkeeps hnew h₁ => ?_
        have hlist : Makes memory₁ (alloc (.list values)) fun memory' address =>
            Shows (root :: owned.map Prod.snd) memory' (.ref address) (.list tags) :=
          ⟨_, _, rfl, keeps_append _ _, shows_new_list (h.below.keeps hkeeps) hnew⟩
        exact Follows.makes h₁ hlist fun memory₂ address _ hvalue h₂ =>
          follows_put h₂ hname (h.only _ hname) hvalue
    | _ =>
      cases hfound
      exact Follows.nothing h.stands

theorem follows_editSelected :
    Follows (root :: owned.map Prod.snd) root owned memory entries (editSelected root)
      Rule.editSelected := by
  have hname : "SelectedItem".toList ∉ ownNames := by decide
  obtain ⟨found, hexec, hfound⟩ := h.stands.exec_find_shown (h.only _ hname)
  obtain ⟨found, hexec, hfound⟩ := exec_findCompound_of_find hexec hfound
  unfold editSelected Rule.editSelected
  refine Follows.reads hexec (Follows.finds ?_)
  generalize Entries.get? "SelectedItem" entries = tag? at hfound ⊢
  cases tag? with
  | none =>
    cases hfound
    exact Follows.nothing h.stands
  | some tag =>
    cases tag with
    | compound item =>
      change Option.Rel _ found (some item) at hfound
      cases hfound with
      | some hitem =>
        refine Follows.lift h.stands (runs_newSelected h.below hitem) (Edit.exec_lift _ _)
          fun memory₁ new? made? _ hnew h₁ => ?_
        cases hnew with
        | none => exact Follows.nothing h₁
        | some hnew => exact follows_put h₁ hname (h.only _ hname) hnew
    | _ =>
      cases hfound
      exact Follows.nothing h.stands

end Owns

theorem converting_edit (rule : Rule) (h : Converting base memory root entries) :
    Converting base (exec (edit rule root) memory).2 root (Edit.exec rule.edit entries).2 := by
  cases rule with
  | armorItems =>
    rw [Rule.edit, Rule.editArmor_eq]
    exact converting_fillSlots fills_armor (by decide) (by decide) h
  | handItems =>
    rw [Rule.edit, Rule.editHands_eq]
    exact converting_fillSlots fills_hands (by decide) (by decide) h
  | armorChances =>
    rw [Rule.edit, Rule.editChances_eq _ (by decide)]
    exact converting_fillSlots (fills_chances _) (by decide) (by decide) h
  | handChances =>
    rw [Rule.edit, Rule.editChances_eq _ (by decide)]
    exact converting_fillSlots (fills_chances _) (by decide) (by decide) h
  | customName =>
    obtain ⟨owned, h⟩ := h
    exact ⟨owned, h.follows (follows_editName h)⟩
  | inventory =>
    obtain ⟨owned, h⟩ := h
    exact ⟨owned, h.follows (follows_editInventory h)⟩
  | selectedItem =>
    obtain ⟨owned, h⟩ := h
    exact ⟨owned, h.follows (follows_editSelected h)⟩

/-! ## Registries -/

/-- A fault that is caught leaves the memory as it is then. -/
theorem exec_tryCatch (program : Heap Unit) (memory : Memory) :
    exec (tryCatch program fun _ => pure ()) memory = (.ok (), (exec program memory).2) := by
  simp only [exec, tryCatch, tryCatchThe, MonadExceptOf.tryCatch, ExceptT.tryCatch, ExceptT.run,
    ExceptT.mk, StateT.run_bind]
  cases StateT.run program memory with
  | mk result memory' => cases result <;> rfl

theorem converting_applyRule (name : Text) (rule : Rule) (h : Converting base memory root entries) :
    ∃ memory', exec (applyRule root name rule) memory = (.ok (), memory') ∧
      Converting base memory' root
        (if Registry.applies name entries then (rule.edit.run entries).1 else entries) := by
  have happlied := converting_edit rule h
  rw [← Edit.run_fst] at happlied
  obtain ⟨owned, howns⟩ := h
  obtain ⟨found, hexec, hfound⟩ := howns.stands.exec_find name
  have hhas : found.isSome = Entries.has name entries := by
    unfold Entries.has
    generalize Entries.get? name entries = tag? at hfound
    cases hfound <;> rfl
  unfold applyRule
  rw [exec_bind_of_ok hexec, hhas]
  change ∃ memory', exec (if Registry.applies name entries = true then _ else _) memory = _ ∧ _
  split
  case isTrue => exact ⟨_, exec_tryCatch _ memory, happlied⟩
  case isFalse => exact ⟨memory, rfl, owned, howns⟩

theorem converting_registry (registry : Registry) (h : Converting base memory root entries) :
    ∃ memory', exec (registry.forM fun (name, rule) => applyRule root name rule) memory =
        (.ok (), memory') ∧ Converting base memory' root (registry.run entries) := by
  induction registry generalizing memory entries with
  | nil => exact ⟨memory, rfl, h⟩
  | cons entry rest ih =>
    obtain ⟨memory₁, hfirst, h₁⟩ := converting_applyRule entry.1 entry.2 h
    obtain ⟨memory₂, hrest, h₂⟩ := ih h₁
    exact ⟨memory₂, (exec_bind_of_ok hfirst _).trans hrest, h₂⟩

/-- A copy of an entity that has no compounds of slots is being converted. -/
theorem converting_copy {fields : Fields} (hnodup : entries.names.Nodup)
    (hnone : ∀ name ∈ ownNames, Entries.get? name entries = none)
    (hfields : fields.Match (fun _ => Shows [] memory) entries) :
    Converting memory (memory ++ [.compound fields]) memory.length entries := by
  have hfresh : ∀ a ∈ [memory.length], a ∈ ([] : List Address) ∨ memory.length ≤ a :=
    List.forall_mem_singleton.2 (.inr le_rfl)
  refine ⟨[], keeps_append _ _, List.forall_mem_singleton.2 le_rfl, ?_, ?_, ?_, fun _ _ => rfl⟩
  · exact List.forall_mem_singleton.2 (by rw [List.length_append]; exact Nat.lt_succ_self _)
  · exact Stands.of_holds (holds_new (hfields.imp fun _ _ _ _ hshows => hshows.reopen hfresh)) hnodup
      List.mem_cons_self
  · intro name hname
    unfold Entries.has
    rw [hnone name hname]
    rfl

/-- A conversion only adds objects, and gives one that shows what the rules make of the entries. -/
theorem makes_convert (registry : Registry) (hnodup : entries.names.Nodup)
    (hnone : ∀ name ∈ ownNames, Entries.get? name entries = none)
    (h : HoldsAt [] memory address entries) :
    Makes memory (convert registry address) fun memory' new =>
      Shows [] memory' (.ref new) (.compound (registry.run entries)) := by
  obtain ⟨fields, hobject, hfields⟩ := h
  obtain ⟨memory', hexec, owned, howns⟩ :=
    converting_registry registry (converting_copy hnodup hnone hfields)
  refine ⟨memory.length, memory', ?_, howns.kept, ?_⟩
  · have halloc : exec (alloc (.compound fields)) memory =
        (.ok memory.length, memory ++ [.compound fields]) := rfl
    unfold convert
    rw [exec_bind_of_ok (exec_fields hobject), exec_bind_of_ok halloc, exec_bind_of_ok hexec]
    rfl
  · exact howns.stands.shows (List.nil_subset _) fun _ _ => List.not_mem_nil

/-- What was stored shows the same after its conversion. -/
theorem makes_inputAfter (registry : Registry) (hnodup : entries.names.Nodup)
    (hnone : ∀ name ∈ ownNames, Entries.get? name entries = none) :
    Makes [] (inputAfter registry (.compound entries)) fun _ new => new = .compound entries := by
  have hbelow : Below [] ([] : Memory) := List.forall_mem_nil _
  unfold inputAfter
  refine (makes_store (.compound entries) hbelow).bind fun memory value _ hvalue => ?_
  obtain ⟨found, hexec, hfound⟩ := exec_compound? hvalue
  refine Makes.reads hexec ?_
  cases hfound with
  | @some address _ hcompound =>
    obtain ⟨new, memory', hconvert, hkeeps, -⟩ := makes_convert registry hnodup hnone hcompound.2
    have hdiscard : exec (discard (convert registry address)) memory = (.ok (), memory') := by
      unfold Functor.discard
      rw [map_const, Function.comp_apply, map_eq_pure_bind]
      exact exec_bind_of_ok hconvert _
    refine ⟨.compound entries, memory', ?_, hkeeps, rfl⟩
    rw [exec_bind_of_ok hdiscard]
    exact exec_view (hvalue.keeps hkeeps (List.nil_subset _))

end Heap

/-- Whatever rules a registry holds, under whatever names, converting an entity leaves it as it was, at every
depth, also where rules end in faults: the objects of the memory are all still there, and the entity shows the
same entries as before. -/
theorem Registry.convert_leaves_input (registry : Registry) (entries : Entries)
    (hnodup : entries.names.Nodup) (hequipment : Entries.get? "equipment" entries = none)
    (hchances : Entries.get? "drop_chances" entries = none) :
    registry.shared (.compound entries) = .compound entries ∧
      ∀ memory entity, Shows [] memory (.ref entity) (.compound entries) →
        ∃ new memory', Heap.exec (Heap.convert registry entity) memory = (.ok new, memory') ∧
          memory <+: memory' ∧ Shows [] memory' (.ref entity) (.compound entries) ∧
          Shows [] memory' (.ref new) (.compound (registry.run entries)) := by
  have hnone : ∀ name ∈ Heap.ownNames, Entries.get? name entries = none :=
    List.forall_mem_cons.2 ⟨hequipment, List.forall_mem_singleton.2 hchances⟩
  constructor
  · obtain ⟨new, memory', hexec, -, rfl⟩ := Heap.makes_inputAfter registry hnodup hnone
    unfold shared
    have hrun : StateT.run (ExceptT.run (Heap.inputAfter registry (.compound entries))) [] =
        (.ok (.compound entries), memory') := hexec
    rw [hrun]
  · intro memory entity h
    obtain ⟨new, memory', hexec, hkeeps, hnew⟩ :=
      Heap.makes_convert registry hnodup hnone (shows_compound_iff.1 h).2
    exact ⟨new, memory', hexec, hkeeps.prefix, h.keeps hkeeps (List.nil_subset _), hnew⟩

/-- A rule under a name of another one ends in a fault after the first item, and the input stays. -/
theorem Registry.convert_leaves_input_worn :
    let items : List Tag := [.compound [("id".toList, .lit "boots")],
      .compound [("id".toList, .lit "leggings"), ("Count".toList, .lit "x")]]
    let entity : Entries := [("ArmorItems".toList, .list items)]
    let registry : Registry := ("Inventory".toList, .armorItems) :: standard
    (Rule.armorItems.edit.run entity).2 = some (.notInteger "x") ∧
      registry.shared (.compound entity) = .compound entity := by
  intro items entity registry
  exact ⟨rfl, (convert_leaves_input registry entity (by decide) rfl rfl).1⟩

end CommandUpgrade
