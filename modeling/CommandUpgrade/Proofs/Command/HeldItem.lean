import CommandUpgrade.Command.Entity
import CommandUpgrade.Proofs.Selector.Data
import CommandUpgrade.Proofs.Text.Template

/-!
# Testing for an item

A test for an item of the inventory asks for the held item instead. The item goes through a replacement
text, so it is asked for as it is written exactly if it is literal (`testfor_inventory`): other backslashes
are read, and some are faults.
-/

namespace CommandUpgrade.Command

open Text

/-! ## The pattern of an inventory -/

theorem mem_of_takes_inventoryItem {taken : Text} {kept : List Text}
    (h : inventoryItem.Takes taken kept) : ']' ∈ taken := by
  simp only [inventoryItem, Pattern.takes_append, Pattern.Takes] at h
  obtain ⟨_, _, _, _, -, ⟨rfl, -⟩, rfl, -⟩ := h
  simp

theorem matchAt?_brace (front : Option Char) (r : Text) :
    inventoryItem.matchAt? front ('{' :: r) = none := by
  rw [Option.eq_none_iff_forall_ne_some]
  intro m hm
  obtain ⟨htakes, htext⟩ := Pattern.matchAt?_takes hm
  simp only [inventoryItem, Pattern.takes_append, Pattern.Takes] at htakes
  obtain ⟨_, _, _, _, ⟨_, _, _, _, ⟨_, _, _, _, ⟨name, _, _, _, ⟨hname, -⟩, -, rfl, -⟩, -, rfl, -⟩, -, rfl, -⟩,
    -, hwhole, -⟩ := htakes
  cases name with
  | nil => simp at hname
  | cons c name =>
    rw [hwhole] at htext
    have hc : '{' = c := (List.cons.inj htext).1
    subst hc
    exact absurd (congrArg List.head? hname) (by simp; decide)

/-- The text of an item: something in braces, and no closing bracket. -/
structure ItemText where
  inner : Text
  inner_ne_nil : inner ≠ []
  notMem_inner : ']' ∉ inner

namespace ItemText

variable (i : ItemText)

def text : Text := '{' :: (i.inner ++ ['}'])

/-- Data that asks for the item in the inventory. -/
def inventory : Text := "\x7bInventory:[" ++ i.text ++ "]\x7d"

/-- Data that asks for the item in the hand. -/
def held : Text := "\x7bSelectedItem:" ++ i.text ++ "\x7d"

/-- The replacement text that is made of the item. -/
def template : Text := "SelectedItem:" ++ i.text

/-- The inventory, as it is found in the data. -/
def found : Match := ⟨"Inventory:[" ++ i.text ++ "]", [i.text], ['}']⟩

theorem text_eq : i.text = '{' :: (i.inner ++ ['}']) := rfl

theorem found_whole : i.found.whole = "Inventory:[".toList ++ i.text ++ "]".toList := rfl

theorem found_group_one : i.found.group (0 + 1) = i.text := rfl

theorem found_group_add_two (k : Nat) : i.found.group (k + 1 + 1) = [] := rfl

theorem notMem_text : ']' ∉ i.text := by
  rw [text_eq]
  simp [i.notMem_inner]

theorem found_whole_append : i.found.whole ++ ['}'] =
    "Inventory:".toList ++ ('[' :: '{' :: (i.inner ++ '}' :: ']' :: ['}'])) := by
  rw [found_whole, text_eq]
  simp

/-- The run over the item takes its last brace too, and gives it back. -/
theorem run_inventoryItem {α : Type} {go : Pattern.Cursor → Option α} {a : α}
    (h : ∀ last, go ⟨last, ['}'], [i.text]⟩ = some a) (front : Option Char) :
    inventoryItem.run go ⟨front, "Inventory:".toList ++ ('[' :: '{' :: (i.inner ++ '}' :: ']' :: ['}'])), []⟩ =
      some a := by
  have hclass : ∀ c ∈ i.inner, Pattern.no [']'] c = true := by
    intro c hc
    simpa [Pattern.no] using ne_of_mem_of_not_mem hc i.notMem_inner
  have hlength : 1 ≤ i.inner.length := List.length_pos_iff.2 i.inner_ne_nil
  have hitem : ('{' :: (i.inner ++ '}' :: ']' :: ['}'])).take
      (('{' :: (i.inner ++ '}' :: ']' :: ['}'])).length - (']' :: ['}']).length) = i.text := by
    have hsplit : '{' :: (i.inner ++ '}' :: ']' :: ['}']) = i.text ++ ']' :: ['}'] := by
      rw [text_eq]
      simp
    rw [hsplit, List.length_append, Nat.add_sub_cancel, List.take_left]
  rw [inventoryItem, Pattern.run_append, Pattern.run_append, Pattern.run_append, Pattern.run_append,
    Pattern.run_anyCase rfl, Pattern.run_blanks (by decide)]
  refine Pattern.afterMany_back hclass (by decide) hlength (by decide) (fun last => ?_) (fun last => ?_) _
  · rfl
  · have hlast := h (some ']')
    rw [← hitem] at hlast
    exact hlast

theorem matchAt?_inventory (front : Option Char) :
    inventoryItem.matchAt? front (i.found.whole ++ ['}']) = some i.found := by
  have hwhole : (i.found.whole ++ ['}']).take ((i.found.whole ++ ['}']).length - ['}'].length) =
      i.found.whole := by
    rw [List.length_append, Nat.add_sub_cancel, List.take_left]
  have hcursor : Pattern.Cursor.mk front (i.found.whole ++ ['}']) [] =
      ⟨front, "Inventory:".toList ++ ('[' :: '{' :: (i.inner ++ '}' :: ']' :: ['}'])), []⟩ := by
    rw [found_whole_append]
  unfold Pattern.matchAt?
  rw [hcursor]
  refine i.run_inventoryItem (fun last => ?_) front
  dsimp only
  rw [hwhole]
  rfl

/-! ## The item as a replacement text -/

/-- The data that is asked for when the replacement text is read as these parts: they are put in place of
the inventory, and once more in place of an inventory that has come about. -/
def asked (parts : List TemplatePart) : Text :=
  inventoryItem.replace (Template.fill parts) ('{' :: (Template.fill parts i.found ++ ['}']))

theorem inventory_eq : i.inventory = ['{'] ++ (i.found.whole ++ ['}']) := by
  have hinventory : i.inventory = "\x7bInventory:[".toList ++ i.text ++ "]\x7d".toList := rfl
  rw [hinventory, found_whole]
  simp

theorem held_eq : i.held = '{' :: (i.template ++ ['}']) := by
  have hheld : i.held = "\x7bSelectedItem:".toList ++ i.text ++ "\x7d".toList := rfl
  have htemplate : i.template = "SelectedItem:".toList ++ i.text := rfl
  rw [hheld, htemplate]
  simp

theorem askHeld_inventory : askHeld i.inventory = i.asked <$> Template.read 1 i.template := by
  have hhas : has "Inventory:" i.inventory = true := by
    rw [has_eq_true_iff, inventory_eq, found_whole_append]
    exact ⟨['{'], _, List.append_assoc _ _ _⟩
  have hbrace : inventoryItem.NoMatch ['{'] (i.found.whole ++ ['}']) := by
    intro front k hk
    obtain rfl : k = 0 := by simpa using hk
    exact matchAt?_brace front _
  have hsearch : inventoryItem.search? i.inventory = some i.found := by
    rw [Pattern.search?, inventory_eq, Pattern.find?_one hbrace i.matchAt?_inventory]
    rfl
  have hreplace : ∀ new, inventoryItem.replace new i.inventory = '{' :: (new i.found ++ ['}']) := by
    intro new
    rw [inventory_eq]
    refine Pattern.replace_one hbrace i.matchAt?_inventory rfl ?_ ?_ new
    · rw [found_whole]
      simp
    · exact Pattern.noMatch_of_notMem (fun _ _ => mem_of_takes_inventoryItem) (by decide)
  have htemplate : "SelectedItem:".toList ++ i.found.group 1 = i.template := rfl
  unfold askHeld
  rw [hhas, hsearch]
  dsimp only
  rw [htemplate]
  unfold Pattern.replaceBy
  cases Template.read 1 i.template with
  | error fault => rfl
  | ok parts =>
    show Except.ok (inventoryItem.replace (Template.fill parts)
      (inventoryItem.replace (Template.fill parts) i.inventory)) = .ok (i.asked parts)
    rw [hreplace]
    rfl

/-- A closing bracket that has come about with the first replacement is there after the second one too. -/
theorem mem_asked {parts : List TemplatePart}
    (h : ']' ∈ '{' :: (Template.fill parts i.found ++ ['}'])) : ']' ∈ i.asked parts := by
  have hfill : ']' ∈ Template.fill parts i.found := by simpa using h
  obtain ⟨part, hpart, hmem⟩ := Template.mem_fill.1 hfill
  have hnew : ∀ m : Match, inventoryItem.Takes m.whole m.groups → ']' ∈ Template.fill parts m := by
    intro m hm
    refine Template.mem_fill.2 ⟨part, hpart, ?_⟩
    rcases part with s | (_ | _ | k)
    · exact hmem
    · rw [Template.fill_group_zero]
      exact mem_of_takes_inventoryItem hm
    · rw [Template.fill_group_succ, found_group_one] at hmem
      exact absurd hmem i.notMem_text
    · rw [Template.fill_group_succ, found_group_add_two] at hmem
      exact absurd hmem List.not_mem_nil
  refine Pattern.replace_rel (R := fun s t => ']' ∈ s → ']' ∈ t) (fun taken kept htakes => ?_) id
    (fun c s t ih hs => ?_) (fun m hm s t _ _ => ?_) _ h
  · exact List.ne_nil_of_mem (mem_of_takes_inventoryItem htakes)
  · rcases List.mem_cons.1 hs with rfl | hs
    · exact List.mem_cons_self
    · exact List.mem_cons_of_mem c (ih hs)
  · exact List.mem_append_left _ (hnew m hm)

theorem asked_of_notMem {parts : List TemplatePart}
    (h : ']' ∉ '{' :: (Template.fill parts i.found ++ ['}'])) :
    i.asked parts = '{' :: (Template.fill parts i.found ++ ['}']) :=
  Pattern.replace_of_notMem (fun _ _ => mem_of_takes_inventoryItem) h _

theorem notMem_held : ']' ∉ i.held := by
  have hheld : i.held = "\x7bSelectedItem:".toList ++ i.text ++ "\x7d".toList := rfl
  rw [hheld]
  simp [i.notMem_text]

theorem isLiteral_template : Template.isLiteral i.template = Template.isLiteral i.text :=
  Template.isLiteral_append (by decide) i.text

/-- An item that is put in as it is, is literal: kept texts would make it longer, and an escape that is
read would make it shorter. -/
theorem isLiteral_of_fill {parts : List TemplatePart} (hread : Template.read 1 i.template = .ok parts)
    (hfill : Template.fill parts i.found = i.template) : Template.isLiteral i.text = true := by
  have htext : i.text = ['{'] ++ (i.inner ++ ['}']) := rfl
  have htemplate : i.template = "SelectedItem:\x7b".toList ++ (i.inner ++ ['}']) := by
    have : i.template = "SelectedItem:".toList ++ i.text := rfl
    rw [this, htext]
    simp
  have htokens := Template.tokens_append (by decide : '\\' ∉ "SelectedItem:\x7b".toList) (i.inner ++ ['}'])
  rw [← htemplate] at htokens
  unfold Template.read at hread
  rw [htokens] at hread
  obtain ⟨more, rfl, hmore⟩ := Template.go_chars_ok hread
  have hinner : Template.fill more i.found = i.inner ++ ['}'] := by
    rw [Template.fill_append, Template.fill_chars, htemplate] at hfill
    exact List.append_cancel_left hfill
  have hkept : ∀ k, .group k ∈ more → Template.fill [.group k] i.found = [] := by
    intro k hk
    have hle := Template.length_fill_singleton_le hk i.found
    rw [hinner] at hle
    rcases k with _ | _ | k
    · rw [Template.fill_group_zero, found_whole, text_eq] at hle
      simp only [List.length_append, List.length_cons] at hle
      omega
    · rw [Template.fill_group_succ, found_group_one, text_eq] at hle
      simp only [List.length_append, List.length_cons] at hle
      omega
    · rw [Template.fill_group_succ, found_group_add_two]
  rw [htext, Template.isLiteral_append (by decide)]
  exact Template.isLiteral_of_words hmore (by rw [← Template.fill_eq_words hkept, hinner])

theorem askHeld_inventory_eq_held_iff :
    askHeld i.inventory = .ok i.held ↔ Template.isLiteral i.text = true := by
  rw [askHeld_inventory]
  constructor
  · intro h
    obtain ⟨parts, hread, hasked⟩ := Outcome.map_eq_ok h
    have hfree : ']' ∉ '{' :: (Template.fill parts i.found ++ ['}']) := by
      intro hmem
      exact i.notMem_held (hasked ▸ i.mem_asked hmem)
    rw [i.asked_of_notMem hfree, held_eq] at hasked
    exact i.isLiteral_of_fill hread (List.append_cancel_right (List.cons.inj hasked).2).symm
  · intro hliteral
    obtain ⟨parts, hread, hfill⟩ := Template.exists_read_of_isLiteral 1 (i.isLiteral_template.trans hliteral)
    have honce : '{' :: (Template.fill parts i.found ++ ['}']) = i.held := by rw [hfill, held_eq]
    have hasked := @asked_of_notMem i parts (by rw [honce]; exact i.notMem_held)
    rw [hread]
    exact congrArg Except.ok (hasked.trans honce)

/-- Data that asks for the held item asks for it already. -/
theorem askHeld_held : askHeld i.held = .ok i.held := by
  have hsearch : inventoryItem.search? i.held = none := by
    rw [Pattern.search?, Pattern.find?_of_notMem (fun _ _ => mem_of_takes_inventoryItem) i.notMem_held]
    rfl
  unfold askHeld
  rw [hsearch]
  split
  · rfl
  · rfl

end ItemText

/-- A test for an item of the inventory puts the item into the data through a replacement text. The data
comes to ask for the item in the hand, as it is written, exactly if each backslash of the item is followed
by a character that is neither a letter, a digit nor a backslash. Then the test is the test for the held
item. It is not where the item is no replacement text and the selector has a new form. -/
theorem testfor_inventory (tables : Tables) (target : Text) (i : ItemText) :
    testfor tables [target, i.inventory] = (do
      let target ← selector tables target
      let parts ← Template.read 1 i.template
      let data ← entityData tables (i.asked parts)
      return line "execute if entity" [withData target data]) ∧
    (askHeld i.inventory = .ok i.held ↔ Template.isLiteral i.text = true) ∧
    (Template.isLiteral i.text = true →
      testfor tables [target, i.inventory] = testfor tables [target, i.held]) ∧
    ((∃ fault, Template.read 1 i.template = .error fault) → (∃ new, selector tables target = .ok new) →
      testfor tables [target, i.inventory] ≠ testfor tables [target, i.held]) := by
  have htest : ∀ data, testfor tables [target, data] = (do
      let target ← selector tables target
      let data ← askHeld data
      let data ← entityData tables data
      return line "execute if entity" [withData target data]) := fun _ => rfl
  have hinventory := i.askHeld_inventory
  refine ⟨?_, i.askHeld_inventory_eq_held_iff, fun hliteral => ?_, ?_⟩
  · rw [htest, hinventory]
    cases selector tables target with
    | error fault => rfl
    | ok new =>
      cases Template.read 1 i.template with
      | error fault => rfl
      | ok parts => rfl
  · rw [htest, htest, i.askHeld_inventory_eq_held_iff.2 hliteral, i.askHeld_held]
  · rintro ⟨fault, hfault⟩ ⟨new, hnew⟩ hsame
    have hhead : (trim i.held).head? = some '{' := by
      rw [i.held_eq, trim_cons_of_not_isBlank (by decide)]
      rfl
    obtain ⟨data, hdata⟩ := Selector.exists_upgradeData tables true hhead
    rw [htest, htest, hinventory, hfault, hnew, i.askHeld_held] at hsame
    have hheld : (entityData tables i.held).bind (fun data =>
        .ok (line "execute if entity" [withData new data])) = .error fault := hsame.symm
    rw [show entityData tables i.held = .ok data from hdata] at hheld
    cases hheld

/-- An item with an escaped quote is asked for as it is written, and one with a backslash before a letter
is no replacement text. -/
theorem testfor_inventory_escapes :
    let quoted : ItemText := ⟨"id:\"a\\\"b\"", by decide, by decide⟩
    let path : ItemText := ⟨"id:\"a\\qb\"", by decide, by decide⟩
    testfor .standard ["@p", quoted.inventory] = testfor .standard ["@p", quoted.held] ∧
      testfor .standard ["@p", path.inventory] ≠ testfor .standard ["@p", path.held] := by
  intro quoted path
  refine ⟨(testfor_inventory _ _ quoted).2.2.1 (by decide), ?_⟩
  exact (testfor_inventory _ _ path).2.2.2 ⟨_, rfl⟩ ⟨_, rfl⟩

end CommandUpgrade.Command
