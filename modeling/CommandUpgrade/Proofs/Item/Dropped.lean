import CommandUpgrade.Proofs.Item.Printable
import CommandUpgrade.Proofs.Tag.Entries

/-!
# Data without a component

The new form of an item is made of four of its fields and of four entries of its tag. Items that agree
on these have the same new form, whatever else they hold (`upgrade_congr`), and the new form has no
component for anything else (`gives_upgrade_fields`). So other data is in the new form only if it would be
there without its entry, and for each item there is data that is not in its new form (`exists_not_keeps`).
-/

namespace CommandUpgrade

open Outcome

/-! ## Tags in tags -/

namespace Tag

/-- A tag stands somewhere in a tag. -/
inductive Within (part : Tag) : Tag → Prop
  | here : Within part part
  | item {tag : Tag} {items : List Tag} (hmem : tag ∈ items) (h : Within part tag) :
      Within part (.list items)
  | entry {name : Text} {tag : Tag} {entries : Entries} (hmem : (name, tag) ∈ entries)
      (h : Within part tag) : Within part (.compound entries)

theorem Within.sizeOf_le {part whole : Tag} (h : Within part whole) : sizeOf part ≤ sizeOf whole := by
  induction h with
  | here => exact Nat.le_refl _
  | item hmem h ih =>
    have hlt := List.sizeOf_lt_of_mem hmem
    rw [Tag.list.sizeOf_spec]
    omega
  | entry hmem h ih =>
    have hlt := List.sizeOf_lt_of_mem hmem
    rw [Prod.mk.sizeOf_spec] at hlt
    rw [Tag.compound.sizeOf_spec]
    omega

theorem exists_not_within (whole : Tag) : ∃ value : Tag, ¬ value.Within whole := by
  refine ⟨.list [whole], fun h => ?_⟩
  have hle := h.sizeOf_le
  rw [Tag.list.sizeOf_spec, List.cons.sizeOf_spec] at hle
  omega

end Tag

/-! ## Entries that agree -/

namespace Entries

/-- The same tags stand under some names. -/
def AgreeOn (names : List Text) (entries others : Entries) : Prop :=
  ∀ name ∈ names, get? name entries = get? name others

variable {names : List Text} {name : Text}

theorem agreeOn_set (h : name ∉ names) (tag : Tag) (entries : Entries) :
    AgreeOn names (entries.set name tag) entries :=
  fun _ hn => get?_set_of_ne (ne_of_mem_of_not_mem hn h) tag entries

theorem agreeOn_erase (h : name ∉ names) (entries : Entries) :
    AgreeOn names (entries.erase name) entries :=
  fun _ hn => get?_erase_of_ne (ne_of_mem_of_not_mem hn h) entries

theorem names_merge_subset {entries new : Entries} (h : entries.names ⊆ names)
    (hnew : new.names ⊆ names) : (entries.merge new).names ⊆ names := by
  unfold merge
  induction new generalizing entries with
  | nil => exact h
  | cons entry rest ih =>
    obtain ⟨hfirst, hrest⟩ := List.cons_subset.1 hnew
    refine ih (fun name hname => ?_) hrest
    rcases mem_names_set hname with rfl | hmem
    · exact hfirst
    · exact h hmem

end Entries

namespace Item

/-! ## What is read -/

/-- The fields of an item that are read, apart from its tag. -/
def fieldNames : List Text := ["id".toList, "Count".toList, "Damage".toList, "display".toList]

/-- The entries of the tag of an item that are read. -/
def tagNames : List Text := ["display".toList, "ench".toList, "SkullOwner".toList, "Damage".toList]

/-- Two items have the same in all that is read. -/
structure Agree (item other : Entries) : Prop where
  fields : Entries.AgreeOn fieldNames item other
  tag : Entries.get? "tag" item = Entries.get? "tag" other ∨
    ∃ inner inner', Entries.get? "tag" item = some (.compound inner) ∧
      Entries.get? "tag" other = some (.compound inner') ∧ Entries.AgreeOn tagNames inner inner'

theorem tagComponents_congr {tag other : Entries} (h : Entries.AgreeOn tagNames tag other) :
    tagComponents tag = tagComponents other := by
  unfold tagComponents
  rw [h "ench" (by decide), h "SkullOwner" (by decide), h "Damage" (by decide)]

variable {item other : Entries} (h : Agree item other)

include h

theorem identity_congr : identity item = identity other := by
  unfold identity
  rw [h.fields "id" (by decide), h.fields "Damage" (by decide)]

theorem count_congr : count item = count other := by
  unfold count
  rw [h.fields "Count" (by decide)]

theorem display_congr : display item = display other := by
  unfold display
  rw [h.fields "display" (by decide)]
  rcases h.tag with heq | ⟨inner, inner', htag, htag', hinner⟩
  · rw [heq]
  · rw [htag, htag']
    dsimp only
    rw [hinner "display" (by decide)]

theorem components_congr : components item = components other := by
  unfold components
  rw [h.fields "Damage" (by decide), display_congr h]
  rcases h.tag with heq | ⟨inner, inner', htag, htag', hinner⟩
  · rw [heq]
  · rw [htag, htag']
    dsimp only
    rw [tagComponents_congr hinner]

theorem upgrade_congr : upgrade item = upgrade other := by
  unfold upgrade
  rw [identity_congr h, count_congr h, components_congr h]

omit h

theorem agree_set_tag {tag tag' : Entries} (htag : Entries.get? "tag" item = some (.compound tag))
    (h : Entries.AgreeOn tagNames tag' tag) : Agree (item.set "tag" (.compound tag')) item :=
  ⟨Entries.agreeOn_set (by decide) _ _, .inr ⟨tag', tag, Entries.get?_set_self _ _ _, htag, h⟩⟩

/-! ## What is written -/

/-- The components that a new item can have. -/
def componentNames : List Text :=
  ["damage", "dyed_color", "custom_name", "lore", "enchantments", "profile"].map
    fun name => Text.namespaced name.toList

/-- All names are those of components. -/
def AreComponents (new : Entries) : Prop := new.names ⊆ componentNames

theorem names_nil_subset (names : List Text) : Entries.names [] ⊆ names := List.nil_subset _

theorem names_component_subset {names : List Text} {name : String}
    (hname : Text.namespaced name.toList ∈ names) (tag : Tag) :
    Entries.names [component name tag] ⊆ names :=
  List.cons_subset.2 ⟨hname, List.nil_subset _⟩

theorem names_append_subset {names : List Text} {new more : Entries} (h : new.names ⊆ names)
    (hmore : more.names ⊆ names) : Entries.names (new ++ more) ⊆ names := by
  unfold Entries.names
  rw [List.map_append]
  exact List.append_subset.2 ⟨h, hmore⟩

/-- What is made of a field, if the field is there, is a component. -/
theorem gives_component {α : Type} (names : List Text) {name : String}
    (hname : Text.namespaced name.toList ∈ names)
    (field : Option Tag) (value : Tag → Outcome α) (made : α → Tag) :
    Gives (field.mapM fun tag => return component name (made (← value tag))) fun made =>
      Entries.names made.toList ⊆ names := by
  cases field with
  | none => exact gives_pure (names_nil_subset _)
  | some tag =>
    have hmade : Gives (do return component name (made (← value tag))) fun entry =>
        Entries.names [entry] ⊆ names :=
      gives_bind (gives_any _) fun a _ => gives_pure (names_component_subset hname (made a))
    exact gives_map hmade fun _ hentry => hentry

theorem gives_displayComponents_names (display : Entries) :
    Gives (displayComponents display) AreComponents := by
  refine gives_bind (gives_component componentNames (by decide) _ Tag.toInt Tag.int) fun color hcolor => ?_
  refine gives_bind (gives_component componentNames (by decide) _ displayName id) fun name hname => ?_
  have hall {lore : Option (Text × Tag)} (hlore : AreComponents lore.toList) :
      Gives (pure (color.toList ++ name.toList ++ lore.toList)) AreComponents :=
    gives_pure (names_append_subset (names_append_subset hcolor hname) hlore)
  dsimp only
  split
  · have hlore (lines : List Tag) :
        Gives (some <$> do return component "lore" (.list (← loreLines lines))) fun lore =>
          AreComponents lore.toList := by
      refine gives_map (gives_bind (gives_any _) fun lines _ => ?_) fun _ hentry => hentry
      exact gives_pure (names_component_subset (by decide) _)
    exact gives_bind (hlore _) fun lore => hall
  · exact gives_bind (gives_pure (names_nil_subset _)) fun lore => hall

/-- The components that come of the tag of an item. -/
def innerNames : List Text :=
  ["enchantments", "profile", "damage"].map fun name => Text.namespaced name.toList

theorem gives_tagComponents_names (tag : Entries) :
    Gives (tagComponents tag) fun new => new.names ⊆ innerNames := by
  unfold tagComponents
  extract_lets owner next
  have hnext (enchanted : Entries) (henchanted : enchanted.names ⊆ innerNames) :
      Gives (next enchanted) fun new => new.names ⊆ innerNames := by
    refine gives_bind (gives_component innerNames (by decide) _ damageValue Tag.int)
      fun damage hdamage => ?_
    refine gives_pure (names_append_subset (names_append_subset henchanted ?_) hdamage)
    dsimp only [owner]
    split
    · rename_i owner _
      cases profile? owner with
      | none => exact names_nil_subset _
      | some profile => exact names_component_subset (by decide) profile
    · exact names_nil_subset _
  split
  · refine gives_bind (gives_any _) fun new _ => ?_
    refine gives_bind (gives_pure ?_) hnext
    split
    · exact names_nil_subset _
    · exact names_component_subset (by decide) (.list new)
  · exact gives_bind (gives_pure (names_nil_subset _)) hnext

theorem gives_components_names (item : Entries) : Gives (components item) AreComponents := by
  refine gives_bind (gives_component componentNames (by decide) _ damageValue Tag.int)
    fun damage hdamage => ?_
  extract_lets next
  have hnext (shown : Entries) (hshown : AreComponents shown) : Gives (next shown) AreComponents := by
    have hmerge (inner : Entries) (hinner : AreComponents inner) :
        Gives (pure (Entries.merge (damage.toList ++ shown) inner)) AreComponents :=
      gives_pure (Entries.names_merge_subset (names_append_subset hdamage hshown) hinner)
    dsimp only [next]
    split
    · exact gives_bind (gives_tagComponents_names _) fun inner hinner =>
        hmerge inner (List.Subset.trans hinner (by decide))
    · exact gives_bind (gives_pure (names_nil_subset _)) hmerge
  split
  · exact gives_bind (gives_displayComponents_names _) hnext
  · exact gives_bind (gives_pure (names_nil_subset _)) hnext

/-- A field of a new item. -/
def IsNewField (entry : Text × Tag) : Prop :=
  entry.1 = "id".toList ∨ entry.1 = "count".toList ∨
    ∃ made, entry = ("components".toList, .compound made) ∧ AreComponents made

/-- The identity is named if it is a text. -/
theorem gives_identity_id {item : Entries} {id : Text} (hid : Entries.get? "id" item = some (.text id)) :
    Gives (identity item) fun new => ∃ name, new = [("id".toList, name)] := by
  unfold identity
  rw [hid]
  dsimp only
  refine gives_bind (gives_any _) fun name _ => ?_
  split
  · exact gives_pure ⟨_, rfl⟩
  · exact gives_pure ⟨_, rfl⟩
  split
  · exact gives_bind (gives_any _) fun damage _ => gives_pure ⟨_, rfl⟩
  · exact gives_pure ⟨_, rfl⟩

theorem gives_upgrade_fields {item : Entries} {id : Text}
    (hid : Entries.get? "id" item = some (.text id)) :
    Gives (upgrade item) fun result => ∃ new, result = some new ∧ ∀ entry ∈ new, IsNewField entry := by
  have hcount : Gives (count item) fun new => ∀ entry ∈ new, IsNewField entry := by
    unfold count
    split
    · exact gives_pure (List.forall_mem_nil _)
    · refine gives_bind (gives_any _) fun n _ => gives_pure ?_
      exact List.forall_mem_singleton.2 (.inr (.inl rfl))
  refine gives_bind (gives_identity_id hid) fun identity hidentity => ?_
  refine gives_bind hcount fun count hcount => ?_
  refine gives_bind (gives_components_names item) fun made hmade => ?_
  obtain ⟨name, rfl⟩ := hidentity
  refine gives_pure ⟨_, if_neg fun hempty => Bool.false_ne_true hempty, ?_⟩
  refine List.forall_mem_append.2 ⟨List.forall_mem_append.2 ⟨?_, hcount⟩, ?_⟩
  · exact List.forall_mem_singleton.2 (.inl rfl)
  · split
    · exact List.forall_mem_nil _
    · exact List.forall_mem_singleton.2 (.inr (.inr ⟨made, rfl, hmade⟩))

/-! ## What is dropped -/

/-- A tag stands somewhere in the new form of an item. -/
def Keeps (item : Entries) (value : Tag) : Prop :=
  ∃ new, upgrade item = .ok (some new) ∧ value.Within (.compound new)

theorem keeps_congr {item other : Entries} (h : upgrade item = upgrade other) (value : Tag) :
    Keeps item value ↔ Keeps other value := by
  unfold Keeps
  rw [h]

/-- Some data is not in the new form of an item. -/
theorem exists_not_keeps (item : Entries) : ∃ value, ¬ Keeps item value := by
  cases hupgrade : upgrade item with
  | error fault =>
    refine ⟨.null, ?_⟩
    rintro ⟨new, hnew, -⟩
    rw [hupgrade] at hnew
    cases hnew
  | ok result =>
    obtain ⟨value, hvalue⟩ := Tag.exists_not_within (.compound (result.getD []))
    refine ⟨value, ?_⟩
    rintro ⟨new, hnew, hwithin⟩
    rw [hupgrade] at hnew
    obtain rfl := Except.ok.inj hnew
    exact hvalue hwithin

/-- Of an item with a name only the name, the count and six components are left. An entry of its tag under
another name than those of `tagNames`, and the slot of the item, add nothing: the new form is the same
without the entry and with any other tag in it. So its tag is in the new form only by chance, if it would
be there without the entry, and some tags never are. -/
theorem upgrade_drops_data {item : Entries} {id : Text}
    (hid : Entries.get? "id" item = some (.text id)) :
    (∀ result, upgrade item = .ok result →
      ∃ new, result = some new ∧ ∀ entry ∈ new, IsNewField entry) ∧
    (∀ tag : Entries, Entries.get? "tag" item = some (.compound tag) → ∀ key ∉ tagNames,
      upgrade (item.set "tag" (.compound (tag.erase key))) = upgrade item ∧
      (∀ value, upgrade (item.set "tag" (.compound (tag.set key value))) = upgrade item) ∧
      ∃ value, ¬ Keeps (item.set "tag" (.compound (tag.set key value))) value) ∧
    upgrade (item.erase "Slot") = upgrade item ∧
    (∀ value, upgrade (item.set "Slot" value) = upgrade item) ∧
    ∃ value, ¬ Keeps (item.set "Slot" value) value := by
  have hlost {other : Tag → Entries} (h : ∀ value, upgrade (other value) = upgrade item) :
      ∃ value, ¬ Keeps (other value) value := by
    obtain ⟨value, hvalue⟩ := exists_not_keeps item
    exact ⟨value, fun hkeeps => hvalue ((keeps_congr (h value) value).1 hkeeps)⟩
  have hslot (value : Tag) : upgrade (item.set "Slot" value) = upgrade item :=
    upgrade_congr ⟨Entries.agreeOn_set (by decide) _ _, .inl (Entries.get?_set_of_ne (by decide) _ _)⟩
  refine ⟨gives_upgrade_fields hid, fun tag htag key hkey => ?_, ?_, hslot, hlost hslot⟩
  · have hset (value : Tag) : upgrade (item.set "tag" (.compound (tag.set key value))) = upgrade item :=
      upgrade_congr (agree_set_tag htag (Entries.agreeOn_set hkey value tag))
    exact ⟨upgrade_congr (agree_set_tag htag (Entries.agreeOn_erase hkey tag)), hset, hlost hset⟩
  · exact upgrade_congr
      ⟨Entries.agreeOn_erase (by decide) _, .inl (Entries.get?_erase_of_ne (by decide) _)⟩

/-- Unbreakable stone in a slot becomes stone. -/
theorem upgrade_drops_data_stone :
    let tag : Entries := [("Unbreakable".toList, .int 1)]
    let item : Entries :=
      [("id".toList, .lit "stone"), ("Slot".toList, .int 1), ("tag".toList, .compound tag)]
    upgrade item = .ok (some [("id".toList, .lit "minecraft:stone")]) ∧ ¬ Keeps item (.int 1) := by
  intro tag item
  obtain ⟨-, htag, -⟩ := upgrade_drops_data (show Entries.get? "id" item = some (.text "stone") from rfl)
  obtain ⟨hsame, -, -⟩ := htag tag rfl "Unbreakable" (by decide)
  have hstone : upgrade item = .ok (some [("id".toList, .lit "minecraft:stone")]) := hsame.symm.trans rfl
  refine ⟨hstone, ?_⟩
  rintro ⟨new, hnew, hwithin⟩
  obtain rfl := Option.some.inj (Except.ok.inj (hstone.symm.trans hnew))
  cases hwithin with
  | entry hmem h =>
    obtain ⟨-, rfl⟩ := Prod.mk.inj (List.mem_singleton.1 hmem)
    cases h

end Item

end CommandUpgrade
