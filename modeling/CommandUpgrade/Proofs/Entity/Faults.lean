import CommandUpgrade.Proofs.Entity.Filling

/-!
# Rules that end early

A rule that ends in a fault leaves what it did so far, and the next rules go on from there. Rules for
names and carried items change the entity in their last step, and so they leave nothing. Rules that fill
slots leave those that they came to. They are still filled after all rules, unless a later rule fills the
same slots again (`Registry.holds_run`).
-/

namespace CommandUpgrade

open Text

namespace Rule

/-- A rule that fills no slots changes the entity in its last step only, and leaves nothing if it ends
early. -/
theorem eq_of_exec_error {rule : Rule} (hrule : rule.filling? = none) {entries new : Entries}
    {fault : Fault} (h : rule.edit.exec entries = (.error fault, new)) : new = entries := by
  have hput (field : Text) (tag : Tag) (between : Entries) :
      ∃ b new, (Edit.put field tag).exec between = (.ok b, new) := ⟨(), _, rfl⟩
  cases rule with
  | armorItems | handItems | armorChances | handChances => cases hrule
  | customName =>
    have h : editName.exec entries = (.error fault, new) := h
    unfold editName at h
    rw [Edit.exec_find_bind] at h
    split at h
    · exact (Edit.still_lift _).eq_of_error (fun tag => hput _ tag) h
    · cases h
  | inventory =>
    have h : editInventory.exec entries = (.error fault, new) := h
    unfold editInventory at h
    rw [Edit.exec_find_bind] at h
    split at h
    · exact (Edit.still_mapM fun _ => Edit.still_lift _).eq_of_error (fun items => hput _ (.list items)) h
    · cases h
  | selectedItem =>
    have h : editSelected.exec entries = (.error fault, new) := h
    unfold editSelected at h
    rw [Edit.exec_find_bind] at h
    split at h
    · refine (Edit.still_lift _).eq_of_error (fun new? between => ?_) h
      cases new? with
      | none => exact ⟨(), between, rfl⟩
      | some new => exact hput _ (.compound new) between
    · cases h

end Rule

/-! ## Slots that stay filled -/

/-- A slot of a compound holds a tag. -/
def Holds (owner slot : Text) (tag : Tag) (entries : Entries) : Prop :=
  ∃ inner, Entries.get? owner entries = some (.compound inner) ∧ Entries.get? slot inner = some tag

namespace Edit

variable {α β : Type} {P : Entries → Prop}

/-- What is true of the entries stays true, also where the edit ends early. -/
def Maintains (P : Entries → Prop) (edit : Edit α) : Prop :=
  ∀ entries, P entries → P (exec edit entries).2

theorem maintains_of_still {edit : Edit α} (h : ∀ entries, Still entries edit) : Maintains P edit := by
  intro entries hentries
  rw [h entries]
  exact hentries

theorem Maintains.bind {edit : Edit α} {next : α → Edit β} (h : Maintains P edit)
    (hnext : ∀ a, Maintains P (next a)) : Maintains P (edit >>= next) := by
  intro entries hentries
  have hfirst := h entries hentries
  cases hrun : exec edit entries with
  | mk result between =>
    rw [hrun] at hfirst
    cases result with
    | error fault =>
      rw [exec_bind_of_error hrun]
      exact hfirst
    | ok a =>
      rw [exec_bind_of_ok hrun]
      exact hnext a between hfirst

theorem maintains_forM {items : List α} {edit : α → Edit Unit} (h : ∀ a ∈ items, Maintains P (edit a)) :
    Maintains P (items.forM edit) := by
  induction items with
  | nil => exact maintains_of_still fun _ => still_pure ()
  | cons a rest ih =>
    obtain ⟨hfirst, hrest⟩ := List.forall_mem_cons.1 h
    exact hfirst.bind fun _ => ih hrest

section Holds

variable {owner slot : Text} {tag : Tag}

theorem maintains_ensure : Maintains (Holds owner slot tag) (ensure owner) := by
  rintro entries ⟨inner, howner, hslot⟩
  unfold ensure
  rw [exec_find_bind, howner]
  exact ⟨inner, howner, hslot⟩

theorem maintains_putIn {other : Text} (hne : slot ≠ other) (new : Tag) :
    Maintains (Holds owner slot tag) (putIn owner other new) := by
  rintro entries ⟨inner, howner, hslot⟩
  rw [exec_putIn howner]
  exact ⟨_, Entries.get?_set_self _ _ _, (Entries.get?_set_of_ne hne new inner).trans hslot⟩

theorem maintains_ensureIn (other : Text) (new : Tag) :
    Maintains (Holds owner slot tag) (ensureIn owner other new) := by
  rintro entries ⟨inner, howner, hslot⟩
  rw [exec_ensureIn howner]
  dsimp only
  split
  case isTrue => exact ⟨inner, howner, hslot⟩
  case isFalse hfree =>
    have hne : slot ≠ other := by
      rintro rfl
      unfold Entries.has at hfree
      rw [hslot] at hfree
      exact hfree rfl
    exact ⟨_, Entries.get?_set_self _ _ _, (Entries.get?_set_of_ne hne new inner).trans hslot⟩

theorem maintains_erase {field : Text} (hne : owner ≠ field) :
    Maintains (Holds owner slot tag) (erase field) := by
  rintro entries ⟨inner, howner, hslot⟩
  exact ⟨inner, (Entries.get?_erase_of_ne hne entries).trans howner, hslot⟩

end Holds

end Edit

open Edit in
/-- A slot stays filled that the rule does not fill again. -/
theorem Filling.maintains_edit (f : Filling) {field slot : Text} {tag : Tag} (hfield : f.owner ≠ field)
    (hslot : ∀ items, slot ∉ (f.pairs items).map Prod.fst) :
    Maintains (Holds f.owner slot tag) (f.edit field) := by
  refine (maintains_of_still fun _ => still_find field).bind fun found => ?_
  split
  · refine maintains_ensure.bind fun _ => ?_
    refine (maintains_forM fun pair hpair => ?_).bind fun _ => ?_
    · refine (maintains_of_still fun _ => still_lift _).bind fun new => ?_
      split
      · have hmem : pair.1 ∈ (f.pairs _).map Prod.fst := List.mem_map_of_mem hpair
        exact maintains_putIn (ne_of_mem_of_not_mem hmem (hslot _)).symm _
      · exact maintains_of_still fun _ => still_pure ()
    · refine (maintains_forM fun other _ => maintains_ensureIn other _).bind fun _ => ?_
      exact maintains_erase hfield
  · exact maintains_of_still fun _ => still_pure ()

/-! ## Later rules -/

namespace Registry

theorem exists_filling_of_mem_touched {rule : Rule} {owner : Text} (hfield : rule.field ≠ owner)
    (h : owner ∈ rule.touched) : ∃ f, rule.filling? = some f ∧ f.owner = owner := by
  cases rule with
  | armorItems | handItems | armorChances | handChances =>
    rcases List.mem_cons.1 h with rfl | h
    · exact ⟨_, rfl, rfl⟩
    · exact absurd (List.mem_singleton.1 h).symm hfield
  | customName | inventory | selectedItem => exact absurd (List.mem_singleton.1 h).symm hfield

/-- A rule does not fill a slot of a compound, whatever is in its list. -/
def Spares (rule : Rule) (owner slot : Text) : Prop :=
  ∀ f, rule.filling? = some f → f.owner = owner → ∀ items, slot ∉ (f.pairs items).map Prod.fst

theorem holds_run_edit {rule : Rule} {owner slot : Text} {tag : Tag} (hfield : rule.field ≠ owner)
    (hslot : Spares rule owner slot) {entries : Entries} (h : Holds owner slot tag entries) :
    Holds owner slot tag (rule.edit.run entries).1 := by
  by_cases htouched : owner ∈ rule.touched
  · obtain ⟨f, hf, rfl⟩ := exists_filling_of_mem_touched hfield htouched
    rw [Edit.run_fst, Rule.edit_eq hf]
    exact f.maintains_edit hfield.symm (hslot f hf rfl) entries h
  · obtain ⟨inner, howner, htag⟩ := h
    exact ⟨inner, ((Rule.leaves_edit htouched).run entries).trans howner, htag⟩

/-- A slot stays filled through all rules that do not fill it again. -/
theorem holds_run {registry : Registry} {owner slot : Text} {tag : Tag}
    (hfield : ∀ rule : Rule, rule.field ≠ owner)
    (hslot : ∀ entry ∈ registry, Spares entry.2 owner slot) {entries : Entries}
    (h : Holds owner slot tag entries) : Holds owner slot tag (registry.run entries) := by
  unfold run
  induction registry generalizing entries with
  | nil => exact h
  | cons entry rest ih =>
    obtain ⟨hentry, hrest⟩ := List.forall_mem_cons.1 hslot
    rw [List.foldl_cons]
    refine ih hrest ?_
    dsimp only
    split
    · exact holds_run_edit (hfield entry.2) hentry h
    · exact h

theorem run_cons_of_applies {name : Text} {rule : Rule} {entries : Entries}
    (h : applies name entries = true) (rest : Registry) :
    run ((name, rule) :: rest) entries = run rest (rule.edit.run entries).1 := by
  unfold run
  rw [List.foldl_cons]
  dsimp only
  rw [if_pos h]

theorem field_ne_owner {rule : Rule} {f : Filling} (h : rule.filling? = some f) (other : Rule) :
    other.field ≠ f.owner := by
  have hne : other.field ≠ "equipment".toList ∧ other.field ≠ "drop_chances".toList := by
    cases other <;> decide
  cases rule with
  | armorItems | handItems =>
    obtain rfl := Option.some.inj h
    exact hne.1
  | armorChances | handChances =>
    obtain rfl := Option.some.inj h
    exact hne.2
  | customName | inventory | selectedItem => cases h

section Fault

variable {rule : Rule} {f : Filling} (hf : rule.filling? = some f) {before slots : Entries}
  {back : Registry}

include hf

/-- The list of a rule stays if no later rule has the same field. -/
theorem get?_field_run {items : List Tag} (hitems : Entries.get? rule.field before = some (.list items))
    (hback : ∀ entry ∈ back, entry.2 ≠ rule) :
    Entries.get? rule.field (back.run (before.set f.owner (.compound slots))) = some (.list items) := by
  have hleft : ∀ entry ∈ back, rule.field ∉ entry.2.touched :=
    fun entry hentry htouched => hback entry hentry (eq_of_field_mem_touched htouched)
  rw [get?_run hleft, Entries.get?_set_of_ne (field_ne_owner hf rule), hitems]

/-- Where no later rule fills slots of the same compound, the filled slots are the difference. -/
theorem run_eq_run_iff
    (hback : ∀ entry ∈ back, f.owner ∈ entry.2.touched → Entries.get? entry.2.field before = none) :
    Entries.get? f.owner (back.run (before.set f.owner (.compound slots))) = some (.compound slots) ∧
    (back.run (before.set f.owner (.compound slots)) = back.run before ↔
      Entries.get? f.owner before = some (.compound slots)) := by
  have hset : ∀ entry ∈ back, f.owner ∈ entry.2.touched →
      Entries.get? entry.2.field (before.set f.owner (.compound slots)) = none := by
    intro entry hentry htouched
    rw [Entries.get?_set_of_ne (field_ne_owner hf entry.2), hback entry hentry htouched]
  have hslots : Entries.get? f.owner (back.run (before.set f.owner (.compound slots))) =
      some (.compound slots) := by
    rw [get?_run_of_absent hset, Entries.get?_set_self]
  refine ⟨hslots, fun hsame => ?_, fun hsame => by rw [Entries.set_of_get? hsame]⟩
  rw [← get?_run_of_absent hback, ← hsame, hslots]

end Fault

/-- A rule that ends early on an entity, in a registry and left out of it. Rules for names and carried
items leave no trace. A rule that fills slots leaves those that it came to, beside the list that they were
filled from, and the next rules go on from there. Each filled slot stays unless a later rule fills it
again. Where no later rule finds a list for the same compound, the result is the same as without the rule
only if the slots were filled like this before. -/
theorem run_after_fault (front back : Registry) {name : Text} {rule : Rule} {entity : Entries}
    {fault : Fault} (happlies : applies name (front.run entity) = true)
    (hfault : (rule.edit.run (front.run entity)).2 = some fault) :
    let before := front.run entity
    let result := run (front ++ (name, rule) :: back) entity
    let without := run (front ++ back) entity
    convert (front ++ (name, rule) :: back) (.compound entity) = .ok (.compound result) ∧
    convert (front ++ back) (.compound entity) = .ok (.compound without) ∧
    (rule.filling? = none → result = without) ∧
    ∀ f, rule.filling? = some f → ∃ items, Entries.get? rule.field before = some (.list items) ∧
      (Edit.slots? f.owner before = none → result = without) ∧
      ∀ inner, Edit.slots? f.owner before = some inner →
        let slots := inner.merge (f.filled (f.pairs items))
        result = back.run (before.set f.owner (.compound slots)) ∧
        (∀ slot new, (slot, new) ∈ f.filled (f.pairs items) →
          (∃ item ∈ items, f.made item = .ok (some new)) ∧
          ((∀ entry ∈ back, Spares entry.2 f.owner slot) → Holds f.owner slot new result)) ∧
        ((∀ entry ∈ back, entry.2 ≠ rule) → Entries.get? rule.field result = some (.list items)) ∧
        (Entries.get? f.owner before = some (.compound slots) → result = without) ∧
        ((∀ entry ∈ back, f.owner ∈ entry.2.touched → Entries.get? entry.2.field before = none) →
          Entries.get? f.owner result = some (.compound slots) ∧
          (result = without ↔ Entries.get? f.owner before = some (.compound slots))) := by
  intro before result without
  have hexec := Edit.run_snd_eq_some hfault
  have hresult : result = back.run (rule.edit.run before).1 :=
    (run_append front _ entity).trans (run_cons_of_applies happlies back)
  have hwithout : without = back.run before := run_append front back entity
  have hsame (h : (rule.edit.run before).1 = before) : result = without := by
    rw [hresult, hwithout, h]
  refine ⟨rfl, rfl, fun hf => hsame (Rule.eq_of_exec_error hf hexec), fun f hf => ?_⟩
  have hedit : (f.edit rule.field).exec before = (.error fault, (rule.edit.run before).1) := by
    rw [← Rule.edit_eq hf]
    exact hexec
  obtain ⟨items, hitems, hnone, hsome⟩ := f.exec_edit_error hedit
  refine ⟨items, hitems, fun hslots => hsame (hnone hslots), fun inner hinner => ?_⟩
  intro slots
  have hleft : result = back.run (before.set f.owner (.compound slots)) := by
    rw [hresult, hsome inner hinner]
  rw [hleft, hwithout]
  refine ⟨rfl, fun slot new hfilled => ⟨?_, fun hslot => ?_⟩, get?_field_run hf hitems,
    fun hslots => by rw [Entries.set_of_get? hslots], run_eq_run_iff hf⟩
  · obtain ⟨item, hmem, hmade⟩ := f.exists_of_mem_filled hfilled
    exact ⟨item, f.mem_items items _ hmem, hmade⟩
  · refine holds_run (field_ne_owner hf) hslot ⟨slots, Entries.get?_set_self _ _ _, ?_⟩
    exact Entries.get?_merge_of_mem ((f.distinct items).sublist (f.names_filled_sublist _)) hfilled inner

/-- Two worn items, the second one with a count that is no number. -/
def wornItems : List Tag :=
  [.compound [("id".toList, .lit "boots")],
    .compound [("id".toList, .lit "leggings"), ("Count".toList, .lit "x")]]

/-- The first item is worn, and it is in the list still. -/
theorem run_after_fault_worn :
    let entity : Entries := [("ArmorItems".toList, .list wornItems)]
    let result := standard.run entity
    let boots : Tag := .compound [("id".toList, .lit "minecraft:boots")]
    Entries.get? "equipment" result = some (.compound [("feet".toList, boots)]) ∧
    Entries.get? "ArmorItems" result = some (.list wornItems) ∧ result ≠ run standard.tail entity := by
  intro entity result boots
  have happlies : applies Rule.armorItems.field entity = true := rfl
  have hfault : (Rule.armorItems.edit.run entity).2 = some (.notInteger "x") := rfl
  obtain ⟨-, -, -, hfilling⟩ := run_after_fault [] standard.tail happlies hfault
  obtain ⟨items, hitems, -, hslots⟩ := hfilling Rule.armorFilling rfl
  obtain rfl : wornItems = items := Tag.list.inj (Option.some.inj hitems)
  have hfilled : Rule.armorFilling.filled (Rule.armorFilling.pairs wornItems) =
      [("feet".toList, boots)] := rfl
  obtain ⟨-, -, hlist, -, hlater⟩ := hslots [] rfl
  rw [hfilled] at hlater
  have hother : ∀ entry ∈ standard.tail, entry.2 ≠ Rule.armorItems := by decide
  have hfields : ∀ entry ∈ standard.tail, entry.2.field ≠ "ArmorItems".toList := by decide
  obtain ⟨hequipment, hsame⟩ := hlater fun entry hentry _ =>
    Entries.get?_eq_none fun hmem => hfields entry hentry (List.mem_singleton.1 hmem)
  refine ⟨hequipment, hlist hother, fun h => ?_⟩
  cases hsame.1 h

end Registry

end CommandUpgrade
