import CommandUpgrade.Proofs.Entity.Settling
import CommandUpgrade.Proofs.Tag.Entries
import CommandUpgrade.Proofs.Tag.Leaves
import CommandUpgrade.Proofs.Text.Absent

/-!
# Old names

What is looked for on the written text of an entity: five old names, and two starts of JSON. A written
tag with none of them is finished as it is (`finish_eq_write`), and a compound with none of the fields
of the rules is kept by them (`run_standard`). Names in small letters are no such fields.
-/

namespace CommandUpgrade

open Text

/-! ## Rules -/

theorem Edit.run_find (name : Text) (next : Option Tag → Edit Unit) (entries : Entries) :
    (Edit.find name >>= next).run entries = (next (Entries.get? name entries)).run entries := rfl

/-- A rule does nothing to an entity without its field. -/
theorem Rule.edit_run (rule : Rule) {entries : Entries} (h : Entries.get? rule.field entries = none) :
    (rule.edit.run entries).1 = entries := by
  cases rule
  all_goals
    dsimp only [field] at h
    refine (congrArg Prod.fst (Edit.run_find _ _ entries)).trans ?_
    rw [h]
    rfl

namespace Registry

theorem run_standard {entries : Entries} (h : ∀ rule : Rule, Entries.get? rule.field entries = none) :
    standard.run entries = entries := by
  have hstep : ∀ rules : List Rule,
      run (rules.map fun rule => (rule.field, rule)) entries = entries := by
    intro rules
    induction rules with
    | nil => rfl
    | cons rule rules ih =>
      unfold run at ih ⊢
      rw [List.map_cons, List.foldl_cons]
      dsimp only
      rw [rule.edit_run (h rule), ite_self]
      exact ih
  exact hstep _

end Registry

/-! ## Names in small letters -/

theorem Tag.write_compound (entries : Entries) :
    (Tag.compound entries).write = '{' :: (join [','] (Tag.writeEntries none entries) ++ ['}']) := by
  simp [Tag.write, Tag.writeIn]

/-- A name that has small letters only. -/
structure IsSmall (name : Text) : Prop where
  filled : name ≠ []
  small : ∀ c ∈ name, c.isLower = true

instance (name : Text) : Decidable (IsSmall name) :=
  decidable_of_iff (name ≠ [] ∧ name.all Char.isLower = true)
    ⟨fun ⟨h, h'⟩ => ⟨h, List.all_eq_true.1 h'⟩, fun ⟨h, h'⟩ => ⟨h, List.all_eq_true.2 h'⟩⟩

theorem toNat_bounds_of_isLower {c : Char} (h : c.isLower = true) : 97 ≤ c.toNat ∧ c.toNat ≤ 122 := by
  unfold Char.isLower at h
  simp only [Bool.and_eq_true, decide_eq_true_eq] at h
  exact ⟨h.1, h.2⟩

theorem isAlphanumeric_of_isLower {c : Char} (h : c.isLower = true) : isAlphanumeric c = true := by
  have hlt : c.toNat < 0x80 := by have := toNat_bounds_of_isLower h; omega
  unfold isAlphanumeric Char.isAlphanum Char.isAlpha
  rw [if_pos hlt, h]
  simp

theorem isDigit_of_isLower {c : Char} (h : c.isLower = true) : Text.isDigit c = false := by
  obtain ⟨hlo, hhi⟩ := toNat_bounds_of_isLower h
  rw [← Char.ofNat_toNat c]
  generalize c.toNat = n at hlo hhi
  interval_cases n <;> decide +kernel

namespace IsSmall

variable {name : Text} (h : IsSmall name)

include h

theorem isNameChar {c : Char} (hc : c ∈ name) : Tag.isNameChar c = true := by
  unfold Tag.isNameChar
  rw [isAlphanumeric_of_isLower (h.small c hc)]
  rfl

/-- A text that begins with another character than a small letter is no beginning of the name. -/
theorem startsWith_eq_false {c : Char} (hc : c.isLower = false) (r : Text) :
    startsWith name (c :: r) = false := by
  obtain ⟨d, q, rfl⟩ := List.exists_cons_of_ne_nil h.filled
  refine Tag.startsWith_cons_eq_false ?_ q r
  rintro rfl
  rw [h.small d List.mem_cons_self] at hc
  cases hc

theorem isFlagName : Tag.isFlagName name = false := by
  unfold Tag.isFlagName Tag.flagNames
  simp only [List.any_cons, List.any_nil, Bool.or_false, Bool.or_eq_false_iff]
  refine ⟨?_, ?_, ?_, ?_, ?_, ?_, ?_, ?_, ?_⟩ <;> exact h.startsWith_eq_false (by decide) _

theorem ne_field (rule : Rule) : rule.field ≠ name := by
  intro heq
  have hfirst : ∃ c r, rule.field = c :: r ∧ c.isLower = false := by
    cases rule <;> exact ⟨_, _, rfl, by decide⟩
  obtain ⟨c, r, hfield, hc⟩ := hfirst
  rw [h.small c (by rw [← heq, hfield]; exact List.mem_cons_self)] at hc
  cases hc

theorem ne_of_mem {c d : Char} (hc : c ∈ name) (hd : d.isLower = false) : c ≠ d := by
  rintro rfl
  rw [h.small c hc] at hd
  cases hd

theorem writeName : Tag.writeName name = name := by
  have hmarks : name.filter (fun c => !(c == '_' || c == '-' || c == '.')) = name := by
    refine List.filter_eq_self.2 fun c hc => ?_
    simp [h.ne_of_mem hc (show '_'.isLower = false by decide),
      h.ne_of_mem hc (show '-'.isLower = false by decide),
      h.ne_of_mem hc (show '.'.isLower = false by decide)]
  have hword : allAlphanumeric name = true := by
    unfold allAlphanumeric
    rw [Bool.and_eq_true, List.all_eq_true]
    exact ⟨by simpa using h.filled, fun c hc => isAlphanumeric_of_isLower (h.small c hc)⟩
  have hfirst : name.head?.any Text.isDigit = false := by
    obtain ⟨c, r, rfl⟩ := List.exists_cons_of_ne_nil h.filled
    exact isDigit_of_isLower (h.small c List.mem_cons_self)
  unfold Tag.writeName Tag.isPlainName
  rw [hmarks, hword, hfirst]
  rfl

/-- A small name says nothing on how its entry is written. -/
theorem writeEntries_cons (tag : Tag) (rest : Entries) :
    Tag.writeEntries none ((name, tag) :: rest) =
      (name ++ ':' :: Tag.writeIn (some name) none tag) :: Tag.writeEntries none rest := by
  have hchances : (name == Tag.dropChances) = false := by
    rw [beq_eq_false_iff_ne]
    rintro rfl
    exact absurd (h.small '_' (by decide)) (by decide)
  rw [Tag.writeEntries, h.writeName, hchances]
  rfl

end IsSmall

namespace Entity

/-- The names that are renewed on the text, and the mark that stands for one of them. -/
def oldNames : List Text :=
  ["MaxHeatlh:".toList, "Fuse:".toList, "ActiveEffects:".toList, "Block:".toList, FallingBlock.mark]

/-- What JSON texts begin with that are escaped. -/
def jsonStarts : List Text := [DisplayQuotes.nameStart, "\"\x7b\"text\"".toList]

/-- A text with nothing to renew stays. -/
theorem finish_eq_write (tables : Tables) {tag : Tag}
    (h : ∀ part ∈ oldNames ++ jsonStarts, ¬ part <:+: tag.write) : finish tables tag = tag.write := by
  simp only [oldNames, jsonStarts, List.cons_append, List.nil_append, List.forall_mem_cons] at h
  obtain ⟨hhealth, hfuse, heffects, hblock, hmark, hname, htext, -⟩ := h
  have hrename : renameFields tag.write = tag.write := by
    unfold renameFields
    rw [replace_eq_self hhealth, replace_eq_self hfuse]
  have heffects : Effects.upgrade tag.write = tag.write := by
    refine settle_eq_self ?_ _
    unfold Effects.upgradeFirst?
    rw [cut?_eq_none heffects]
    rfl
  have hblocks : FallingBlock.upgrade tables tag.write = tag.write := by
    have hstep : FallingBlock.upgradeFirst? tables tag.write = none := by
      unfold FallingBlock.upgradeFirst?
      rw [cut?_eq_none hblock]
      rfl
    unfold FallingBlock.upgrade
    rw [settle_eq_self hstep, replace_eq_self hmark]
  have hnames : DisplayQuotes.escapeNames tag.write = tag.write := by
    refine settle_eq_self ?_ _
    unfold DisplayQuotes.escapeName?
    rw [show ("Name:\"\x7b".toList : Text) = DisplayQuotes.nameStart from rfl, cut?_eq_none hname]
    rfl
  have hlores : DisplayQuotes.escapeLores tag.write = tag.write := by
    refine settle_eq_self ?_ _
    unfold DisplayQuotes.escapeLore?
    rw [has_eq_false htext]
    cases cut? "Lore:[".toList tag.write with
    | none => rfl
    | some found => rfl
  unfold finish DisplayQuotes.fix
  rw [hrename, heffects, hblocks, hnames, hlores]

/-- An entity with names in small letters is only finished. -/
theorem upgradeData_of_isSmall (tables : Tables) (restyle : Bool) {data : Text} {entries : Entries}
    (hread : Tag.read data = .compound entries) (hsmall : ∀ entry ∈ entries, IsSmall entry.1) :
    upgradeData tables restyle data = .ok (finish tables (.compound entries)) := by
  have hrun : Registry.standard.run entries = entries := by
    refine Registry.run_standard fun rule => Entries.get?_eq_none fun hmem => ?_
    obtain ⟨entry, hentry, hname⟩ := List.mem_map.1 hmem
    exact (hsmall entry hentry).ne_field rule hname.symm
  unfold upgradeData
  rw [hread]
  show Except.ok (finish tables (.compound (Registry.standard.run entries))) = _
  rw [hrun]

end Entity

end CommandUpgrade
