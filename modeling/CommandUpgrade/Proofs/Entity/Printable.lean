import CommandUpgrade.Entity.Registry
import CommandUpgrade.Proofs.Item.Printable

/-!
# A printable entity stays printable

A rule may end early and leaves what it did so far. So the invariant is one of every state in
between (`Edit.Keeps`): whatever a rule puts into an entity can be printed when it is put there, and
an entity that can be printed is one that can be printed after all rules, whichever of them ended
early (`Registry.arePrintable_run`).
-/

namespace CommandUpgrade

open Text Style Outcome

namespace Edit

variable {α β : Type} {P : α → Prop} {Q : β → Prop}

/-- An edit of printable entries leaves printable entries, also where it ends early, and what it
returns has a property. -/
def Keeps (edit : Edit α) (P : α → Prop) : Prop :=
  ∀ entries : Entries, entries.ArePrintable →
    (StateT.run (ExceptT.run edit) entries).2.ArePrintable ∧
      ∀ a, (StateT.run (ExceptT.run edit) entries).1 = .ok a → P a

theorem keeps_pure {a : α} (h : P a) : Keeps (pure a) P := by
  intro entries hentries
  refine ⟨hentries, fun b hb => ?_⟩
  cases hb
  exact h

theorem keeps_throw (fault : Fault) : Keeps (throw fault : Edit α) P := by
  intro entries hentries
  refine ⟨hentries, fun b hb => ?_⟩
  cases hb

theorem keeps_lift {x : Outcome α} (h : Gives x P) : Keeps (liftM x) P := by
  intro entries hentries
  refine ⟨?_, fun a ha => ?_⟩
  · cases x <;> exact hentries
  · cases x with
    | error fault => cases ha
    | ok b =>
      cases ha
      exact h a rfl

theorem Keeps.bind {edit : Edit α} {next : α → Edit β} (h : edit.Keeps P)
    (hnext : ∀ a, P a → (next a).Keeps Q) : (edit >>= next).Keeps Q := by
  intro entries hentries
  obtain ⟨hnew, hresult⟩ := h entries hentries
  rw [ExceptT.run_bind, StateT.run_bind]
  cases hrun : StateT.run (ExceptT.run edit) entries with
  | mk result new =>
    rw [hrun] at hnew hresult
    cases result with
    | error fault =>
      refine ⟨hnew, fun b hb => ?_⟩
      cases hb
    | ok a => exact hnext a (hresult a rfl) new hnew

theorem keeps_forM {items : List α} {edit : α → Edit Unit}
    (h : ∀ a ∈ items, (edit a).Keeps fun _ => True) : (items.forM edit).Keeps fun _ => True := by
  induction items with
  | nil => exact keeps_pure trivial
  | cons a rest ih =>
    obtain ⟨hfirst, hrest⟩ := List.forall_mem_cons.1 h
    exact hfirst.bind fun _ _ => ih hrest

theorem keeps_mapM {items : List α} {edit : α → Edit β} (h : ∀ a ∈ items, (edit a).Keeps Q) :
    (items.mapM edit).Keeps fun new => ∀ b ∈ new, Q b := by
  induction items with
  | nil => exact keeps_pure (List.forall_mem_nil _)
  | cons a rest ih =>
    obtain ⟨hfirst, hrest⟩ := List.forall_mem_cons.1 h
    rw [List.mapM_cons]
    refine hfirst.bind fun b hb => (ih hrest).bind fun new hnew => ?_
    exact keeps_pure (List.forall_mem_cons.2 ⟨hb, hnew⟩)

theorem keeps_find (name : Text) : (find name).Keeps fun found => ∀ tag ∈ found, tag.IsPrintable := by
  intro entries hentries
  refine ⟨hentries, fun found hfound tag htag => ?_⟩
  cases hfound
  exact hentries.get? htag

theorem keeps_put (name : Text) {tag : Tag} (h : tag.IsPrintable) :
    (put name tag).Keeps fun _ => True :=
  fun _ hentries => ⟨hentries.set h name, fun _ _ => trivial⟩

theorem keeps_erase (name : Text) : (erase name).Keeps fun _ => True :=
  fun _ hentries => ⟨hentries.erase name, fun _ _ => trivial⟩

theorem keeps_ensure (name : Text) : (ensure name).Keeps fun _ => True := by
  refine (keeps_find name).bind fun found _ => ?_
  split
  · exact keeps_put name (.compound Entries.arePrintable_nil)
  · exact keeps_pure trivial

theorem keeps_putIn (owner name : Text) {tag : Tag} (h : tag.IsPrintable) :
    (putIn owner name tag).Keeps fun _ => True := by
  refine (keeps_find owner).bind fun found hfound => ?_
  split
  · exact keeps_put owner (.compound ((hfound _ rfl).entries.set h name))
  · exact keeps_throw .wrongKind

theorem keeps_ensureIn (owner name : Text) {tag : Tag} (h : tag.IsPrintable) :
    (ensureIn owner name tag).Keeps fun _ => True := by
  refine (keeps_find owner).bind fun found _ => ?_
  split
  · refine (keeps_lift (gives_any _)).bind fun mentions _ => ?_
    split
    · exact keeps_putIn owner name h
    · exact keeps_pure trivial
  · exact keeps_throw .wrongKind

theorem Keeps.run {edit : Edit Unit} (h : edit.Keeps fun _ => True) {entries : Entries}
    (hentries : entries.ArePrintable) : (edit.run entries).1.ArePrintable := by
  have hnew := (h entries hentries).1
  unfold Edit.run
  split <;> rename_i heq <;> rwa [heq] at hnew

end Edit

namespace Rule

open Edit

/-! ## Equipment -/

theorem gives_upgradeTag {item : Tag} (h : item.IsPrintable) :
    Gives (Item.upgradeTag item) fun new => ∀ entries ∈ new, Entries.ArePrintable entries := by
  unfold Item.upgradeTag
  split
  · exact Item.gives_upgrade h.entries
  · exact gives_pure (by simp)

theorem keeps_equip (slot : Text) {item : Tag} (h : item.IsPrintable) :
    (equip slot item).Keeps fun _ => True := by
  unfold equip
  split
  · refine (keeps_lift (gives_upgradeTag h)).bind fun new hnew => ?_
    split
    · exact keeps_putIn _ slot (.compound (hnew _ rfl))
    · exact keeps_pure trivial
  · exact keeps_pure trivial

/-- Printable items can be put into slots. -/
theorem keeps_equip_all (slots : List Text) {items : List Tag} (h : ∀ tag ∈ items, tag.IsPrintable) :
    ((slots.zip items).forM fun (slot, item) => equip slot item).Keeps fun _ => True :=
  keeps_forM fun pair hpair => keeps_equip pair.1 (h pair.2 (List.of_mem_zip hpair).2)

theorem keeps_editArmor : editArmor.Keeps fun _ => True := by
  refine (keeps_find _).bind fun found hfound => ?_
  split
  · refine (keeps_ensure _).bind fun _ _ => ?_
    refine (keeps_equip_all armorSlots (hfound _ rfl).items).bind fun _ _ => ?_
    exact keeps_erase _
  · exact keeps_pure trivial

theorem keeps_editHands : editHands.Keeps fun _ => True := by
  refine (keeps_find _).bind fun found hfound => ?_
  split
  · rename_i items
    have hitems := (hfound _ rfl).items
    have hslots := keeps_equip_all handSlots hitems
    refine (keeps_ensure _).bind fun _ _ => ?_
    dsimp only
    split
    · split
      · exact hslots.bind fun _ _ => keeps_erase _
      · have hsecond := hitems _ (List.mem_cons_of_mem _ List.mem_cons_self)
        exact (keeps_equip _ hsecond).bind fun _ _ => keeps_erase _
    · exact hslots.bind fun _ _ => keeps_erase _
  · exact keeps_pure trivial

/-! ## Drop chances -/

theorem isPrintable_zero : (Tag.float (.ofInt 0)).IsPrintable :=
  .float (Binary64.hasShortPart_ofInt 0)

theorem gives_chance {tag : Tag} (h : tag.IsPrintable) : Gives (chance tag) Tag.IsPrintable := by
  unfold chance
  split
  · exact gives_pure isPrintable_zero
  · exact gives_map (fun _ => h.hasShortPart_toFloat) fun _ => .float

theorem keeps_editChances (field : Text) (slots : List Text) :
    (editChances field slots).Keeps fun _ => True := by
  refine (keeps_find _).bind fun found hfound => ?_
  split
  · have hchances := (hfound _ rfl).items
    refine (keeps_ensure _).bind fun _ _ => ?_
    refine (keeps_forM fun pair hpair => ?_).bind fun _ _ => ?_
    · refine (keeps_lift (gives_chance (hchances _ (List.of_mem_zip hpair).2))).bind fun tag htag => ?_
      exact keeps_putIn _ pair.1 htag
    refine (keeps_forM fun slot _ => keeps_ensureIn _ slot isPrintable_zero).bind fun _ _ => ?_
    exact keeps_erase field
  · exact keeps_pure trivial

/-! ## Names -/

theorem gives_newName (name : Text) : Gives (newName name) Tag.IsPrintable := by
  unfold newName
  dsimp only
  split
  · exact gives_pure (.compound (Entries.arePrintable_singleton (isPrintable_words _)))
  refine gives_bind (gives_lineComponents _) fun components hcomponents => ?_
  split
  · exact gives_pure (.compound (hcomponents _ List.mem_cons_self))
  · exact gives_pure (isPrintable_list_compound hcomponents)

theorem keeps_editName : editName.Keeps fun _ => True := by
  refine (keeps_find _).bind fun found _ => ?_
  split
  · exact (keeps_lift (gives_newName _)).bind fun tag htag => keeps_put _ htag
  · exact keeps_pure trivial

/-! ## Carried items -/

theorem isPrintable_flatten {lines : List Tag} (h : ∀ line ∈ lines, line.IsPrintable) :
    ∀ tag ∈ flatten lines, tag.IsPrintable := by
  intro tag htag
  obtain ⟨line, hline, htag⟩ := List.mem_flatMap.1 htag
  have hprintable := h line hline
  split at htag
  · exact hprintable.items tag htag
  · cases List.mem_singleton.1 htag
    exact hprintable

theorem isPrintable_selectedLore {lines : List Tag} (h : ∀ line ∈ lines, line.IsPrintable) :
    ∀ tag ∈ selectedLore lines, tag.IsPrintable := by
  refine List.forall_mem_map.2 fun tag htag => ?_
  have hprintable := isPrintable_flatten h tag (List.mem_of_mem_filter htag)
  split
  · exact .compound (arePrintable_reordered hprintable.entries)
  · exact hprintable

theorem arePrintable_mapLore {change : List Tag → List Tag}
    (hchange : ∀ lines, (∀ line ∈ lines, line.IsPrintable) → ∀ tag ∈ change lines, tag.IsPrintable)
    {components : Entries} (h : components.ArePrintable) : (mapLore change components).ArePrintable := by
  unfold mapLore
  split
  · rename_i lines hlines
    exact h.set (.list (hchange lines (h.get? hlines).items)) _
  · exact h

theorem gives_inventoryItem {tag : Tag} (h : tag.IsPrintable) :
    Gives (inventoryItem tag) Tag.IsPrintable := by
  unfold inventoryItem
  split
  case h_2 => exact gives_pure h
  rename_i item
  refine gives_bind (Item.gives_upgrade h.entries) fun new hnew => ?_
  split
  case h_2 => exact gives_pure h
  rename_i new
  have hentries := hnew new rfl
  split
  case h_2 => exact gives_pure (.compound hentries)
  rename_i components hcomponents
  have hlore := arePrintable_mapLore (fun _ => isPrintable_flatten) (hentries.get? hcomponents).entries
  refine gives_pure (.compound (Entries.ArePrintable.append (hentries.set (.compound hlore) _) ?_))
  intro entry hentry
  obtain ⟨name, -, hname⟩ := List.mem_filterMap.1 hentry
  obtain ⟨-, heq⟩ | ⟨-, heq⟩ := ite_eq_iff.1 hname
  · cases heq
  · obtain ⟨tag, htag, rfl⟩ := Option.map_eq_some_iff.1 heq
    exact h.entries.get? htag

theorem keeps_editInventory : editInventory.Keeps fun _ => True := by
  refine (keeps_find _).bind fun found hfound => ?_
  split
  · have hitems := (hfound _ rfl).items
    have hnew := keeps_mapM fun tag htag => keeps_lift (gives_inventoryItem (hitems tag htag))
    exact hnew.bind fun new hnew => keeps_put _ (.list hnew)
  · exact keeps_pure trivial

theorem gives_newSelected {item : Entries} (h : item.ArePrintable) :
    Gives (newSelected item) fun new => ∀ entries ∈ new, Entries.ArePrintable entries := by
  refine gives_bind (Item.gives_upgrade h) fun new hnew => ?_
  split
  case h_2 => exact gives_pure (by simp)
  rename_i new
  have hentries := hnew new rfl
  split
  case h_2 => exact gives_pure hnew
  rename_i components hcomponents
  have hlore :=
    arePrintable_mapLore (fun _ => isPrintable_selectedLore) (hentries.get? hcomponents).entries
  refine gives_pure fun entries heq => ?_
  cases heq
  have hset := hentries.set (.compound hlore) "components".toList
  split
  · exact hset
  · exact hset.append (Entries.arePrintable_singleton (.int (isShort_of_lt (by decide))))

theorem keeps_editSelected : editSelected.Keeps fun _ => True := by
  refine (keeps_find _).bind fun found hfound => ?_
  split
  · refine (keeps_lift (gives_newSelected (hfound _ rfl).entries)).bind fun new hnew => ?_
    split
    · exact keeps_put _ (.compound (hnew _ rfl))
    · exact keeps_pure trivial
  · exact keeps_pure trivial

/-! ## Rules -/

/-- No rule puts a tag into an entity that cannot be printed. -/
theorem keeps_edit (rule : Rule) : rule.edit.Keeps fun _ => True := by
  cases rule with
  | armorItems => exact keeps_editArmor
  | handItems => exact keeps_editHands
  | armorChances => exact keeps_editChances _ _
  | handChances => exact keeps_editChances _ _
  | customName => exact keeps_editName
  | inventory => exact keeps_editInventory
  | selectedItem => exact keeps_editSelected

end Rule

/-- A printable entity is printable after any rules, some of which may have ended early. -/
theorem Registry.arePrintable_run (registry : Registry) {entries : Entries}
    (h : entries.ArePrintable) : (registry.run entries).ArePrintable := by
  unfold Registry.run
  induction registry generalizing entries with
  | nil => exact h
  | cons named rest ih =>
    obtain ⟨name, rule⟩ := named
    rw [List.foldl_cons]
    apply ih
    dsimp only
    split
    · exact rule.keeps_edit.run h
    · exact h

end CommandUpgrade
