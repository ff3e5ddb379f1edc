import CommandUpgrade.Proofs.Tag.Confined
import CommandUpgrade.Proofs.Text.Occurrences

/-!
# Reading what was written

A text is written in two passes and read back in one, whatever it holds and whatever follows it.

A tag without decimals is read back as it was, with its entries in their order, when nothing in it is
written in a form of its own: no flag as a byte, no components as JSON. Such a tag is written as a tree
without letters is (`Spells`), and a tree without letters is confined.
-/

namespace CommandUpgrade.Tag

open Text Number

/-! ## Texts -/

/-- Writing goes over a text twice: backslashes are doubled, then quotes are escaped. The backslashes of
the second pass come too late to be doubled. -/
theorem quoted_eq_replace (s : Text) :
    quoted s = '"' :: (replace ['"'] ['\\', '"'] (replace ['\\'] ['\\', '\\'] s) ++ ['"']) := by
  have hslashes : replace ['"'] ['\\', '"'] ['\\', '\\'] = ['\\', '\\'] := rfl
  rw [replace_replace_singleton, hslashes]
  rfl

/-- What two passes write is read back in one, from the opening quote to the closing one. Neither the
backslashes and quotes of the text nor what follows it can move the end. -/
theorem readText_two_passes (s rest : Text) :
    quoted s = '"' :: (replace ['"'] ['\\', '"'] (replace ['\\'] ['\\', '\\'] s) ++ ['"']) ∧
      readText (quoted s ++ rest) = (s, (quoted s).length) :=
  ⟨quoted_eq_replace s, readText_quoted s rest⟩

/-! ## Tags that are read back -/

/-- The tags that writing keeps: names are distinct, no text and no name ends in a backslash, no name
holds `components`, and no `0` or `1` stands under the name of a flag. -/
inductive Faithful : Tag → Prop
  | bool (b : Bool) : Faithful (.bool b)
  | int {n : Nat} (h : n < 10 ^ digitLimit) : Faithful (.int n)
  | text {s : Text} (h : s.getLast? ≠ some '\\') : Faithful (.text s)
  | list {items : List Tag} (h : ∀ tag ∈ items, Faithful tag) : Faithful (.list items)
  | compound {entries : Entries} (hdistinct : entries.names.Nodup)
    (hnames : ∀ entry ∈ entries, entry.1.getLast? ≠ some '\\')
    (hcomponents : ∀ entry ∈ entries, has "components" entry.1 = false)
    (hflags : ∀ entry ∈ entries, isFlagName entry.1 = true → entry.2 ≠ .int 0 ∧ entry.2 ≠ .int 1)
    (h : ∀ entry ∈ entries, Faithful entry.2) : Faithful (.compound entries)

/-- The names around a tag do not change how it is written. -/
structure Ordinary (name parent : Option Text) (tag : Tag) : Prop where
  outer : holdsComponents parent = false
  own : holdsComponents name = false
  flag : name.any isFlagName = true → tag ≠ .int 0 ∧ tag ≠ .int 1

/-- A tree without letters that is written as the tag is. -/
structure Spells (tree : Typed) (tag : Tag) : Prop where
  clean : tree.Clean
  erase : tree.erase = tag
  brace : tree.takesBrace = false
  confined : ∀ quiet, tree.confined quiet = true
  print : ∀ {name parent : Option Text}, Ordinary name parent tag →
    writeIn name parent tag = tree.print

theorem ordinary_none (tag : Tag) {parent : Option Text} (h : holdsComponents parent = false) :
    Ordinary none parent tag :=
  ⟨h, rfl, fun h => by cases h⟩

theorem spells_bool (b : Bool) : Spells (.bool b) (.bool b) where
  clean := .bool b
  erase := by rw [Typed.erase]
  brace := rfl
  confined _ := rfl
  print _ := by cases b <;> rw [writeIn, Typed.print]

theorem spells_int {n : Nat} (h : n < 10 ^ digitLimit) : Spells (.int n none) (.int n) where
  clean := .int n none
  erase := by rw [Typed.erase]
  brace := by rw [Typed.takesBrace, Typed.leavesLetter, Option.isSome_none, Bool.and_false]; simp
  confined quiet := by rw [Typed.confined, decide_eq_true_eq]; exact h
  print := by
    intro name parent hord
    rw [writeIn, writeNumber, if_neg]
    · rw [Typed.print, Typed.letters, Option.map_none, Option.toList_none, List.append_nil]
      rfl
    · intro hflag
      rw [Bool.and_eq_true, Bool.or_eq_true, beq_iff_eq, beq_iff_eq] at hflag
      obtain ⟨h0, h1⟩ := hord.flag hflag.2
      rcases hflag.1 with hn | hn
      · exact h0 (congrArg Tag.int hn)
      · exact h1 (congrArg Tag.int hn)

theorem spells_text {s : Text} (h : s.getLast? ≠ some '\\') : Spells (.text s) (.text s) where
  clean := .text h
  erase := by rw [Typed.erase]
  brace := rfl
  confined _ := rfl
  print _ := by rw [writeIn, Typed.print]

/-! ## Lists -/

section Items

variable {trees : List Typed} {items : List Tag} (h : List.Forall₂ Spells trees items)

include h

theorem clean_items : ∀ tree ∈ trees, tree.Clean := by
  induction h with
  | nil => exact fun _ h => by cases h
  | cons hhead _ ih => exact List.forall_mem_cons.2 ⟨hhead.clean, ih⟩

theorem eraseItems_eq : Typed.eraseItems trees = items := by
  induction h with
  | nil => rfl
  | cons hhead _ ih => rw [Typed.eraseItems, hhead.erase, ih]

theorem confinedItems_of_spells (quiet : Bool) : Typed.confinedItems quiet trees = true := by
  induction h with
  | nil => rfl
  | cons hhead _ ih => rw [Typed.confinedItems, hhead.confined, ih]; rfl

theorem writeItems_eq {parent : Option Text} (hparent : holdsComponents parent = false) :
    writeItems parent items = Typed.printItems trees := by
  induction h with
  | nil => rfl
  | cons hhead _ ih =>
    rw [writeItems, Typed.printItems, hhead.print (ordinary_none _ hparent), ih]

theorem spells_list : Spells (.list trees) (.list items) where
  clean := .list (clean_items h)
  erase := by rw [Typed.erase, eraseItems_eq h]
  brace := rfl
  confined quiet := by rw [Typed.confined, confinedItems_of_spells h]
  print hord := by
    rw [writeIn, Typed.print, writeItems_eq h hord.outer]
    rfl

end Items

/-! ## Compounds -/

/-- The entries of a compound are written by its name, or by the name around it if it has none. -/
theorem writeIn_compound {name parent : Option Text} {entries : Entries}
    (h : Ordinary name parent (.compound entries)) :
    ∃ around, holdsComponents around = false ∧ writeIn name parent (.compound entries) =
      '{' :: join [','] (writeEntries around entries) ++ ['}'] := by
  rcases name with _ | _ | ⟨c, r⟩
  · exact ⟨parent, h.outer, by rw [writeIn]; simp⟩
  · exact ⟨parent, h.outer, by rw [writeIn]; simp⟩
  · exact ⟨some (c :: r), h.own, by rw [writeIn]⟩

/-- A name with a tree is written as the same name with a tag is. -/
def SpellsEntry (entry : Text × Typed) (entry' : Text × Tag) : Prop :=
  entry.1 = entry'.1 ∧ Spells entry.2 entry'.2

section Entries

variable {trees : List (Text × Typed)} {entries : Entries}
  (h : List.Forall₂ SpellsEntry trees entries)

include h

theorem map_fst_eq : trees.map (·.1) = entries.map (·.1) := by
  induction h with
  | nil => rfl
  | cons hhead _ ih => rw [List.map_cons, List.map_cons, hhead.1, ih]

theorem clean_entries : ∀ entry ∈ trees, entry.2.Clean := by
  induction h with
  | nil => exact fun _ h => by cases h
  | cons hhead _ ih => exact List.forall_mem_cons.2 ⟨hhead.2.clean, ih⟩

theorem eraseEntries_eq : Typed.eraseEntries trees = entries := by
  induction h with
  | nil => rfl
  | @cons entry entry' trees entries hhead _ ih =>
    obtain ⟨name, tree⟩ := entry
    rw [Typed.eraseEntries, ih, hhead.2.erase, show name = entry'.1 from hhead.1]

theorem confinedEntries_of_spells :
    Typed.confinedEntries trees = true ∧ Typed.lastTakesBrace trees = false := by
  induction h with
  | nil => exact ⟨rfl, rfl⟩
  | @cons entry entry' trees entries hhead _ ih =>
    obtain ⟨name, tree⟩ := entry
    rw [Typed.confinedEntries, Typed.lastTakesBrace, hhead.2.confined, hhead.2.brace, ih.1, ih.2,
      ite_self]
    exact ⟨rfl, rfl⟩

/-- Each entry is written by its own name, whatever ordinary name stands around it. -/
theorem writeEntries_eq {parent : Option Text} (hparent : holdsComponents parent = false)
    (hcomponents : ∀ entry ∈ entries, has "components" entry.1 = false)
    (hflags : ∀ entry ∈ entries,
      isFlagName entry.1 = true → entry.2 ≠ .int 0 ∧ entry.2 ≠ .int 1) :
    writeEntries parent entries = Typed.printEntries trees := by
  induction h with
  | nil => rfl
  | @cons entry entry' trees entries hhead _ ih =>
    obtain ⟨name, tree⟩ := entry
    obtain ⟨name', tag⟩ := entry'
    obtain ⟨rfl, htree⟩ : name = name' ∧ Spells tree tag := hhead
    obtain ⟨hown, hcomponents⟩ := List.forall_mem_cons.1 hcomponents
    obtain ⟨hflag, hflags⟩ := List.forall_mem_cons.1 hflags
    have hprint : ∀ around, holdsComponents around = false →
        writeIn (some name) around tag = tree.print :=
      fun around haround => htree.print ⟨haround, hown, hflag⟩
    rw [writeEntries, Typed.printEntries, ih hcomponents hflags, hparent, hprint parent hparent,
      hprint (some dropChances) (by decide), ite_self]
    rfl

theorem spells_compound (hdistinct : entries.names.Nodup)
    (hnames : ∀ entry ∈ entries, entry.1.getLast? ≠ some '\\')
    (hcomponents : ∀ entry ∈ entries, has "components" entry.1 = false)
    (hflags : ∀ entry ∈ entries,
      isFlagName entry.1 = true → entry.2 ≠ .int 0 ∧ entry.2 ≠ .int 1) :
    Spells (.compound trees) (.compound entries) where
  clean := by
    have hfst := map_fst_eq h
    refine .compound (by rw [hfst]; exact hdistinct) (fun entry hentry => ?_) (clean_entries h)
    have hmem : entry.1 ∈ entries.map (·.1) := hfst ▸ List.mem_map_of_mem hentry
    obtain ⟨entry', hentry', heq⟩ := List.mem_map.1 hmem
    rw [← heq]
    exact hnames entry' hentry'
  erase := by rw [Typed.erase, eraseEntries_eq h]
  brace := by rw [Typed.takesBrace, (confinedEntries_of_spells h).2]
  confined quiet := by
    rw [Typed.confined, (confinedEntries_of_spells h).1, (confinedEntries_of_spells h).2,
      Bool.not_false, Bool.or_true]
    rfl
  print := by
    intro name parent hord
    obtain ⟨around, haround, hwrite⟩ := writeIn_compound hord
    rw [hwrite, Typed.print, writeEntries_eq h haround hcomponents hflags]
    rfl

end Entries

/-! ## The round trip -/

theorem exists_forall₂ {α β : Type} {r : α → β → Prop} {bs : List β}
    (h : ∀ b ∈ bs, ∃ a, r a b) : ∃ as, List.Forall₂ r as bs := by
  induction bs with
  | nil => exact ⟨[], .nil⟩
  | cons b bs ih =>
    obtain ⟨⟨a, ha⟩, hbs⟩ := List.forall_mem_cons.1 h
    obtain ⟨as, has⟩ := ih hbs
    exact ⟨a :: as, .cons ha has⟩

theorem Faithful.exists_spells {tag : Tag} (h : tag.Faithful) : ∃ tree, Spells tree tag := by
  induction h with
  | bool b => exact ⟨_, spells_bool b⟩
  | int h => exact ⟨_, spells_int h⟩
  | text h => exact ⟨_, spells_text h⟩
  | list _ ih =>
    obtain ⟨trees, htrees⟩ := exists_forall₂ ih
    exact ⟨_, spells_list htrees⟩
  | compound hdistinct hnames hcomponents hflags _ ih =>
    obtain ⟨trees, htrees⟩ := exists_forall₂ fun entry hentry =>
      (ih entry hentry).elim fun tree htree =>
        (⟨(entry.1, tree), rfl, htree⟩ : ∃ entry', SpellsEntry entry' entry)
    exact ⟨_, spells_compound htrees hdistinct hnames hcomponents hflags⟩

/-- A faithful tag is read back as it was written, its entries in their order. -/
theorem read_write {tag : Tag} (h : tag.Faithful) : Tag.read (write tag) = tag := by
  obtain ⟨tree, htree⟩ := h.exists_spells
  have hwrite : write tag = tree.print := htree.print (ordinary_none tag rfl)
  calc Tag.read (write tag) = Tag.read tree.print := by rw [hwrite]
    _ = tree.settle [] := Typed.read_print htree.clean
    _ = tree.erase := htree.clean.restored.value (htree.confined _)
    _ = tag := htree.erase

/-- Quotes, braces and backslashes in texts and names, a name of digits, an empty compound, and a flag
that is neither `0` nor `1`. -/
theorem read_write_marked :
    Tag.read (write (.compound [("a\"\x7d", .list [.int 0, .compound [], .text "\\\",]"]), ("", .bool true),
      ("7", .compound [("Silent", .int 2)])])) =
    .compound [("a\"\x7d", .list [.int 0, .compound [], .text "\\\",]"]), ("", .bool true),
      ("7", .compound [("Silent", .int 2)])] := by
  have hint : ∀ n : Nat, n < 10 → Faithful (.int n) := fun n h => .int (Typed.lt_digitLimit h)
  have hitems : ∀ tag ∈ [.int 0, .compound [], .text "\\\",]"], Faithful tag :=
    List.forall_mem_cons.2 ⟨hint 0 (by decide), List.forall_mem_cons.2
      ⟨.compound (by decide) (by simp) (by simp) (by simp) (by simp),
        List.forall_mem_singleton.2 (.text (by decide))⟩⟩
  have hflag : Faithful (.compound [("Silent", .int 2)]) :=
    .compound (by decide) (by decide) (by decide) (by simp)
      (List.forall_mem_singleton.2 (hint 2 (by decide)))
  refine read_write (.compound (by decide) (by decide) (by decide) (by simp) ?_)
  exact List.forall_mem_cons.2 ⟨.list hitems, List.forall_mem_cons.2 ⟨.bool true,
    List.forall_mem_singleton.2 hflag⟩⟩

end CommandUpgrade.Tag
