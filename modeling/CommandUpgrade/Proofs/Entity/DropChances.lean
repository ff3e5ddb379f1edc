import CommandUpgrade.Proofs.Entity.Faults

/-!
# Drop chances are merged

The chances for worn and for held items come in two lists, and a rule for each list puts its chances into
`drop_chances`. Each rule gives zero to all slots that are free, those of the other rule too, and overwrites
what the other rule left in its own slots. So the slots hold what the two lists say, zero where a list is
too short or missing, in whatever order the rules come (`Merging`, `Registry.chances_merged`).
-/

namespace CommandUpgrade

/-! ## Numbers of moderate size -/

namespace Binary64

theorem roundDiv_mul_le (num den : Nat) : roundDiv num den * den ≤ num + den := by
  have hquotient : num / den * den ≤ num := Nat.div_mul_le_self num den
  unfold roundDiv
  dsimp only
  split
  · exact hquotient.trans (Nat.le_add_right _ _)
  · rw [Nat.add_one_mul]
    exact Nat.add_le_add_right hquotient den

/-- The last bit that is kept of a number weighs no more than the number, or one unit. -/
theorem pow_shift_le (n : Nat) : Nat.pow 2 (n.log2 - 52) ≤ n + 1 := by
  by_cases hn : n = 0
  · subst hn
    decide
  · calc Nat.pow 2 (n.log2 - 52) ≤ 2 ^ n.log2 := Nat.pow_le_pow_right (by decide) (Nat.sub_le _ _)
      _ ≤ n := Nat.log2_self_le hn
      _ ≤ n + 1 := Nat.le_succ n

/-- No integer below `10^300` is beyond the finite numbers. -/
theorem exists_ofInt_eq_finite {n : Int} (h : n.natAbs < Nat.pow 10 300) :
    ∃ negative units, ofInt n = finite negative units := by
  have hscaled : 2 * (n.natAbs * one) + 1 < Nat.pow 2 2098 := by
    have hlimit : 2 * (Nat.pow 10 300 * one) + 1 < Nat.pow 2 2098 := by decide +kernel
    have hmul := Nat.mul_le_mul_right one h.le
    omega
  have hround := roundDiv_mul_le (n.natAbs * one) (Nat.pow 2 ((n.natAbs * one).log2 - 52))
  have hshift := pow_shift_le (n.natAbs * one)
  unfold ofInt ofRatio
  -- The range of the format is a name from here on, as its value is not to be computed.
  generalize Nat.pow 2 2098 = limit at hscaled ⊢
  simp only [Nat.div_one, Nat.one_mul]
  exact ⟨_, _, if_pos (by omega)⟩

theorem ofInt_zero : ofInt 0 = zero := by decide +kernel

end Binary64

namespace Tag

/-- A number below `10^300` in magnitude. A truth value counts as one or zero. -/
def IsModerate : Tag → Prop
  | .int n => n.natAbs < Nat.pow 10 300
  | .float (.finite _ units) => units < Nat.pow 10 300 * Binary64.one
  | .bool _ => True
  | _ => False

theorem IsModerate.exists_chance {tag : Tag} (h : tag.IsModerate) :
    ∃ x, tag.toFloat = .ok x ∧ Rule.chance tag = .ok (.float x) := by
  cases tag with
  | int n =>
    obtain ⟨negative, units, hn⟩ := Binary64.exists_ofInt_eq_finite h
    have hfloat : (Tag.int n).toFloat = .ok (.finite negative units) := by rw [toFloat, hn, bounded]
    have hchance : Rule.chance (.int n) = (Tag.int n).toFloat.map .float := rfl
    exact ⟨_, hfloat, by rw [hchance, hfloat, Except.map]⟩
  | float x => exact ⟨x, rfl, rfl⟩
  | bool b => exact ⟨_, rfl, rfl⟩
  | null | text | list | compound => cases h

end Tag

/-! ## What the lists say -/

namespace Rule

/-- The chance that a number is, zero for other tags. -/
def chanceOf (tag : Tag) : Tag :=
  match chance tag with
  | .ok new => new
  | .error _ => .float .zero

/-- The chances of the slots that a list reaches. -/
def reached (slots : List Text) (items : List Tag) : Entries :=
  (slots.zip items).map fun pair => (pair.1, chanceOf pair.2)

/-- The chances of slots by a list, zero behind its end. -/
def chances : List Text → List Tag → Entries
  | [], _ => []
  | slot :: slots, [] => (slot, .float .zero) :: chances slots []
  | slot :: slots, tag :: items => (slot, chanceOf tag) :: chances slots items

theorem names_chances (slots : List Text) (items : List Tag) : (chances slots items).names = slots := by
  fun_induction chances slots items with
  | case1 => rfl
  | case2 slot slots ih => exact congrArg (slot :: ·) ih
  | case3 slot slots tag items ih => exact congrArg (slot :: ·) ih

theorem get?_chances (slots : List Text) (items : List Tag) (name : Text) :
    Entries.get? name (chances slots items) =
      (Entries.get? name (reached slots items)).or (if name ∈ slots then some (.float .zero) else none) := by
  fun_induction chances slots items with
  | case1 => rfl
  | case2 slot slots ih =>
    have hreached : reached (slot :: slots) [] = reached slots [] := by simp [reached]
    rw [Entries.get?_cons, ih, hreached]
    have hnone : Entries.get? name (reached slots []) = none := by simp [reached, Entries.get?]
    simp only [hnone, Option.none_or, List.mem_cons]
    split_ifs <;> tauto
  | case3 slot slots tag items ih =>
    have hreached : reached (slot :: slots) (tag :: items) =
        (slot, chanceOf tag) :: reached slots items := rfl
    rw [hreached, Entries.get?_cons, Entries.get?_cons, ih]
    by_cases hname : name = slot
    · rw [if_pos hname, if_pos hname, Option.some_or]
    · simp only [hname, if_false, List.mem_cons, false_or]

theorem get?_reached_of_notMem {slots : List Text} {name : Text} (h : name ∉ slots) (items : List Tag) :
    Entries.get? name (reached slots items) = none := by
  refine Entries.get?_eq_none fun hmem => h ?_
  obtain ⟨entry, hentry, rfl⟩ := List.mem_map.1 hmem
  obtain ⟨pair, hpair, rfl⟩ := List.mem_map.1 hentry
  exact (List.of_mem_zip hpair).1

theorem filled_chanceFilling {slots : List Text} (h : slots.Nodup) {items : List Tag}
    (hitems : ∀ tag ∈ items, tag.IsModerate) :
    (chanceFilling slots h).filled ((chanceFilling slots h).pairs items) = reached slots items := by
  have hall : ∀ pairs : List (Text × Tag), (∀ pair ∈ pairs, pair.2.IsModerate) →
      (chanceFilling slots h).filled pairs = pairs.map fun pair => (pair.1, chanceOf pair.2) := by
    intro pairs hpairs
    induction pairs with
    | nil => rfl
    | cons pair rest ih =>
      obtain ⟨hpair, hrest⟩ := List.forall_mem_cons.1 hpairs
      obtain ⟨x, -, hchance⟩ := hpair.exists_chance
      have hmade : (chanceFilling slots h).made pair.2 = .ok (some (.float x)) :=
        congrArg (Except.map some) hchance
      have hvalue : chanceOf pair.2 = .float x := by
        unfold chanceOf
        rw [hchance]
      rw [Filling.filled, hmade, List.map_cons, hvalue, ih hrest]
  exact hall _ fun pair hpair => hitems pair.2 (List.of_mem_zip hpair).2

end Rule

/-! ## Merging -/

open Entries in
/-- One rule fills its slots by its list. Zero that was in them gives way, and the slots of the other rule
keep their chances or get zero. -/
theorem get?_pad_merge {slots others all : List Text} (hslots : slots.Nodup)
    (hdisjoint : slots.Disjoint others) (hall : ∀ name, name ∈ all ↔ name ∈ slots ∨ name ∈ others)
    {items given : List Tag} {inner : Entries}
    (hinner : inner = [] ∧ given = [] ∨ ∀ name, get? name inner =
      (get? name (Rule.chances slots [])).or (get? name (Rule.chances others given))) (name : Text) :
    get? name ((inner.merge (Rule.reached slots items)).pad all (.float .zero)) =
      (get? name (Rule.chances slots items)).or (get? name (Rule.chances others given)) := by
  have hnodup : (Rule.reached slots items).names.Nodup := by
    have hnames : (Rule.reached slots items).names = (slots.zip items).map Prod.fst := by
      simp [names, Rule.reached]
    rw [hnames]
    exact Rule.nodup_map_fst_zip hslots items
  have hempty (slots : List Text) : get? name (Rule.reached slots []) = none := by
    simp [Rule.reached, get?]
  rw [get?_pad, get?_merge hnodup, Rule.get?_chances slots, Rule.get?_chances others]
  simp only [hall]
  by_cases hname : name ∈ slots
  · have hother : name ∉ others := fun hmem => hdisjoint hname hmem
    have hvalue : get? name inner = none ∨ get? name inner = some (.float .zero) := by
      rcases hinner with ⟨rfl, -⟩ | hinner
      · exact .inl rfl
      · rw [hinner, Rule.get?_chances slots, hempty, if_pos hname]
        exact .inr rfl
    rcases hvalue with hvalue | hvalue <;>
      simp [hname, hother, hvalue, Rule.get?_reached_of_notMem hother]
  · have hvalue : get? name inner = none ∧ given = [] ∨
        get? name inner = get? name (Rule.chances others given) := by
      rcases hinner with ⟨rfl, hgiven⟩ | hinner
      · exact .inl ⟨rfl, hgiven⟩
      · rw [hinner, Rule.get?_chances slots, hempty, if_neg hname]
        exact .inr rfl
    rw [Rule.get?_reached_of_notMem hname]
    rcases hvalue with ⟨hvalue, rfl⟩ | hvalue
    · rw [hvalue, hempty]
      simp [hname]
    · rw [hvalue, Rule.get?_chances]
      by_cases hother : name ∈ others <;> simp [hname, hother]

namespace Rule

/-- The rules that fill drop chances. -/
def chanceRules : List Rule := [armorChances, handChances]

/-- The slots that the chances of a rule are for. -/
def chanceSlots : Rule → List Text
  | handChances => handSlots
  | _ => armorSlots

/-- The other rule that fills drop chances. -/
def partner : Rule → Rule
  | handChances => armorChances
  | _ => handChances

/-- The chances of all slots by the lists that were taken. -/
def allChances (taken : Rule → List Tag) : Entries :=
  chanceRules.flatMap fun rule => chances rule.chanceSlots (taken rule)

theorem names_allChances (taken : Rule → List Tag) :
    (allChances taken).names = armorSlots ++ handSlots := by
  have hnames := names_chances
  unfold Entries.names at hnames ⊢
  unfold allChances chanceRules
  rw [List.flatMap_cons, List.flatMap_cons, List.flatMap_nil, List.append_nil, List.map_append, hnames,
    hnames]
  rfl

theorem disjoint_chanceSlots {rule : Rule} (h : rule ∈ chanceRules) :
    rule.chanceSlots.Disjoint rule.partner.chanceSlots := by
  rw [List.disjoint_left]
  revert h
  cases rule <;> decide

/-- The slots of both rules are all slots. -/
theorem mem_padding_iff {rule : Rule} (h : rule ∈ chanceRules) (name : Text) :
    name ∈ rule.chanceSlots ++ armorSlots ++ handSlots ↔
      name ∈ rule.chanceSlots ∨ name ∈ rule.partner.chanceSlots := by
  have harmor : armorChances.chanceSlots = armorSlots := rfl
  have hhand : handChances.chanceSlots = handSlots := rfl
  rw [List.mem_append, List.mem_append]
  rcases List.mem_pair.1 h with rfl | rfl
  · rw [harmor, or_self]
    rfl
  · rw [hhand, or_right_comm, or_self]
    rfl

/-- The two lists give chances to different slots, so either may be looked up first. -/
theorem get?_allChances {rule : Rule} (h : rule ∈ chanceRules) (taken : Rule → List Tag) (name : Text) :
    Entries.get? name (allChances taken) =
      (Entries.get? name (chances rule.chanceSlots (taken rule))).or
        (Entries.get? name (chances rule.partner.chanceSlots (taken rule.partner))) := by
  have hall : Entries.get? name (allChances taken) =
      (Entries.get? name (chances armorSlots (taken armorChances))).or
        (Entries.get? name (chances handSlots (taken handChances))) := by
    unfold allChances chanceRules
    rw [List.flatMap_cons, List.flatMap_cons, List.flatMap_nil, List.append_nil, Entries.get?_append]
    rfl
  have hnone {slots : List Text} (items : List Tag) (hname : name ∉ slots) :
      Entries.get? name (chances slots items) = none :=
    Entries.get?_eq_none (by rwa [names_chances])
  rcases List.mem_pair.1 h with rfl | rfl
  · exact hall
  · refine hall.trans ?_
    have hrule : armorChances ∈ chanceRules := by decide
    have hdisjoint : armorSlots.Disjoint handSlots := disjoint_chanceSlots hrule
    unfold partner chanceSlots
    by_cases hname : name ∈ armorSlots
    · rw [hnone _ (hdisjoint hname), Option.or_none, Option.none_or]
    · rw [hnone _ hname, Option.or_none, Option.none_or]

/-- The slots hold what the lists say that were taken, each slot once. -/
def Shows (taken : Rule → List Tag) (inner : Entries) : Prop :=
  inner.names.Nodup ∧ ∀ name, Entries.get? name inner = Entries.get? name (allChances taken)

theorem Shows.perm {taken : Rule → List Tag} {inner : Entries} (h : Shows taken inner) :
    inner.Perm (allChances taken) :=
  Entries.perm_of_get? h.1 (by rw [names_allChances]; decide) h.2

/-- The list of a rule waits under its field, or was put into the slots as `taken`. -/
def IsTaken (rule : Rule) (list : Option (List Tag)) (taken : List Tag) (entries : Entries) : Prop :=
  Entries.get? rule.field entries = list.map .list ∧ taken = [] ∨
    Entries.get? rule.field entries = none ∧ list = some taken

/-- How far the lists of an entity are merged. -/
inductive Merging (lists : Rule → Option (List Tag)) (entries : Entries) : Prop
  | waiting (hchances : Entries.get? "drop_chances" entries = none)
      (hlists : ∀ rule ∈ chanceRules, Entries.get? rule.field entries = (lists rule).map .list)
  | merged (inner : Entries) (taken : Rule → List Tag)
      (hchances : Entries.get? "drop_chances" entries = some (.compound inner))
      (hshows : Shows taken inner)
      (hlists : ∀ rule ∈ chanceRules, IsTaken rule (lists rule) (taken rule) entries)

variable {lists : Rule → Option (List Tag)} {entries : Entries} {rule : Rule}

theorem IsTaken.exists_list {list : Option (List Tag)} {taken : List Tag} {tag : Tag}
    (h : IsTaken rule list taken entries) (htag : Entries.get? rule.field entries = some tag) :
    ∃ items, tag = .list items ∧ list = some items ∧ taken = [] := by
  rcases h with ⟨hfield, rfl⟩ | ⟨hfield, -⟩
  · obtain ⟨items, rfl, rfl⟩ := Option.map_eq_some_iff.1 (hfield.symm.trans htag)
    exact ⟨items, rfl, rfl, rfl⟩
  · cases htag.symm.trans hfield

/-- A list that is no longer there has been taken as a whole. -/
theorem IsTaken.eq_getD {list : Option (List Tag)} {taken : List Tag}
    (h : IsTaken rule list taken entries) (hfield : Entries.get? rule.field entries = none) :
    taken = list.getD [] := by
  rcases h with ⟨hlist, rfl⟩ | ⟨-, rfl⟩
  · rw [Option.map_eq_none_iff.1 (hlist.symm.trans hfield)]
    rfl
  · rfl

/-- What is in the slots so far, and what has been taken for it. -/
theorem Merging.exists_slots (h : Merging lists entries) :
    ∃ inner taken, Edit.slots? "drop_chances" entries = some inner ∧ inner.names.Nodup ∧
      (inner = [] ∧ (∀ rule, taken rule = []) ∨ Shows taken inner) ∧
      ∀ rule ∈ chanceRules, IsTaken rule (lists rule) (taken rule) entries := by
  unfold Edit.slots?
  cases h with
  | waiting hchances hlists =>
    rw [hchances]
    exact ⟨[], fun _ => [], rfl, List.nodup_nil, .inl ⟨rfl, fun _ => rfl⟩,
      fun rule hrule => .inl ⟨hlists rule hrule, rfl⟩⟩
  | merged inner taken hchances hshows hlists =>
    rw [hchances]
    exact ⟨inner, taken, rfl, hshows.1, .inr hshows, hlists⟩

/-- What a rule does to an entity that has its list. -/
theorem run_chances (hrule : rule ∈ chanceRules) {items : List Tag} {inner : Entries}
    (hitems : Entries.get? rule.field entries = some (.list items))
    (hmoderate : ∀ tag ∈ items, tag.IsModerate)
    (hinner : Edit.slots? "drop_chances" entries = some inner) :
    (rule.edit.run entries).1 = Entries.erase rule.field (entries.set "drop_chances" (.compound
      ((inner.merge (reached rule.chanceSlots items)).pad (rule.chanceSlots ++ armorSlots ++ handSlots)
        (.float .zero)))) := by
  have hnodup : rule.chanceSlots.Nodup := by
    revert hrule
    cases rule <;> decide
  have hfilling : rule.filling? = some (chanceFilling rule.chanceSlots hnodup) := by
    rcases List.mem_pair.1 hrule with rfl | rfl <;> rfl
  have hmade : ∀ pair ∈ (chanceFilling rule.chanceSlots hnodup).pairs items,
      ∃ new, (chanceFilling rule.chanceSlots hnodup).made pair.2 = .ok new := by
    intro pair hpair
    obtain ⟨x, -, hchance⟩ := (hmoderate pair.2 (List.of_mem_zip hpair).2).exists_chance
    exact ⟨some (.float x), congrArg (Except.map some) hchance⟩
  have hexec := (chanceFilling rule.chanceSlots hnodup).exec_edit_of_made hitems hinner hmade
  rw [Edit.run_fst, edit_eq hfilling, hexec, filled_chanceFilling hnodup hmoderate, Binary64.ofInt_zero]
  rfl

/-- A rule for drop chances takes its list and leaves that of the other rule. -/
theorem Merging.take (h : Merging lists entries) (hrule : rule ∈ chanceRules)
    (hmoderate : ∀ tag ∈ (lists rule).getD [], tag.IsModerate) :
    Merging lists (rule.edit.run entries).1 ∧
      Entries.get? rule.field (rule.edit.run entries).1 = none := by
  cases hfield : Entries.get? rule.field entries with
  | none =>
    rw [run_edit_of_absent hfield]
    exact ⟨h, hfield⟩
  | some tag =>
    obtain ⟨inner, taken, hinner, hnodup, hshows, hlists⟩ := h.exists_slots
    obtain ⟨items, rfl, hlist, hnone⟩ := (hlists rule hrule).exists_list hfield
    rw [hlist] at hmoderate
    rw [run_chances hrule hfield hmoderate hinner]
    generalize hnew : (inner.merge (reached rule.chanceSlots items)).pad
      (rule.chanceSlots ++ armorSlots ++ handSlots) (.float .zero) = new
    have hne : rule.partner ≠ rule := by cases rule <;> decide
    have hgone := Entries.get?_erase_self rule.field (entries.set "drop_chances" (.compound new))
    refine ⟨.merged new (Function.update taken rule items) ?_ ⟨?_, fun name => ?_⟩ ?_, hgone⟩
    · rw [Entries.get?_erase_of_ne (by cases rule <;> decide), Entries.get?_set_self]
    · rw [← hnew]
      exact Entries.nodup_names_pad (Entries.nodup_names_merge hnodup _) _ _
    · rw [get?_allChances hrule, Function.update_self, Function.update_of_ne hne, ← hnew]
      refine get?_pad_merge ?_ (disjoint_chanceSlots hrule) ?_ ?_ name
      · revert hrule
        cases rule <;> decide
      · exact mem_padding_iff hrule
      · refine hshows.imp (fun hnil => ⟨hnil.1, hnil.2 rule.partner⟩) fun hshows name => ?_
        rw [hshows.2, get?_allChances hrule, hnone]
    · intro other hother
      by_cases heq : other = rule
      · subst heq
        rw [Function.update_self]
        exact .inr ⟨hgone, hlist⟩
      · have hleft : Entries.get? other.field
            (Entries.erase rule.field (entries.set "drop_chances" (.compound new))) =
              Entries.get? other.field entries := by
          rw [Entries.get?_erase_of_ne, Entries.get?_set_of_ne (by cases other <;> decide)]
          revert heq
          cases other <;> cases rule <;> decide
        unfold IsTaken
        rw [Function.update_of_ne heq, hleft]
        exact hlists other hother

/-- Other rules have nothing to do with drop chances. -/
theorem Merging.other (h : Merging lists entries) (hrule : rule ∉ chanceRules) :
    Merging lists (rule.edit.run entries).1 := by
  have hleft (name : Text) (hname : name ∉ rule.touched) := (leaves_edit hname).run entries
  have hchances := hleft "drop_chances" (by revert hrule; cases rule <;> decide)
  have hfields (other : Rule) (hother : other ∈ chanceRules) := hleft other.field fun htouched =>
    hrule (Registry.eq_of_field_mem_touched htouched ▸ hother)
  cases h with
  | waiting hnone hlists =>
    exact .waiting (hchances.trans hnone) fun other hother =>
      (hfields other hother).trans (hlists other hother)
  | merged inner taken hinner hshows hlists =>
    refine .merged inner taken (hchances.trans hinner) hshows fun other hother => ?_
    unfold IsTaken
    rw [hfields other hother]
    exact hlists other hother

end Rule

namespace Registry

open Rule

variable {lists : Rule → Option (List Tag)}
  (hmoderate : ∀ rule ∈ chanceRules, ∀ tag ∈ (lists rule).getD [], tag.IsModerate)

include hmoderate

theorem merging_edit {entries : Entries} (h : Merging lists entries) (rule : Rule) :
    Merging lists (rule.edit.run entries).1 := by
  by_cases hrule : rule ∈ chanceRules
  · exact (h.take hrule (hmoderate rule hrule)).1
  · exact h.other hrule

theorem merging_run (registry : Registry) {entries : Entries} (h : Merging lists entries) :
    Merging lists (registry.run entries) := by
  unfold run
  induction registry generalizing entries with
  | nil => exact h
  | cons entry rest ih =>
    rw [List.foldl_cons]
    refine ih ?_
    dsimp only
    split
    · exact merging_edit hmoderate h entry.2
    · exact h

/-- A list is gone after the rules, if its rule is among them. -/
theorem get?_field_run_of_mem {registry : Registry} {rule : Rule} (hrule : rule ∈ chanceRules)
    (hmem : (rule.field, rule) ∈ registry) {entries : Entries} (h : Merging lists entries) :
    Entries.get? rule.field (registry.run entries) = none := by
  have hstays (rest : Registry) {entries : Entries} (hnone : Entries.get? rule.field entries = none) :
      Entries.get? rule.field (rest.run entries) = none := by
    rw [get?_run_of_absent, hnone]
    intro entry _ htouched
    rw [eq_of_field_mem_touched htouched, hnone]
  induction registry generalizing entries with
  | nil => cases hmem
  | cons entry rest ih =>
    have hstep : run (entry :: rest) entries =
        run rest (if applies entry.1 entries then (entry.2.edit.run entries).1 else entries) := rfl
    rw [hstep]
    rcases List.mem_cons.1 hmem with rfl | hmem
    · refine hstays rest ?_
      have happlies : applies rule.field entries = Entries.has rule.field entries := by
        rcases List.mem_pair.1 hrule with rfl | rfl <;> rfl
      split
      case isTrue => exact (h.take hrule (hmoderate rule hrule)).2
      case isFalse habsent =>
        rw [happlies] at habsent
        simpa [Entries.has] using habsent
    · refine ih hmem ?_
      split
      · exact merging_edit hmoderate h entry.2
      · exact h

end Registry

/-! ## All registries -/

/-- The chances of slots are the numbers of a list in order, and zero behind its end. -/
def GivesChances (slots : List Text) (items : List Tag) (chances : Entries) : Prop :=
  ∀ i slot, slots[i]? = some slot → ∃ x, Entries.get? slot chances = some (.float x) ∧
    ((∃ tag, items[i]? = some tag ∧ tag.toFloat = .ok x) ∨ items.length ≤ i ∧ x = .zero)

namespace Rule

theorem gives_chances {slots : List Text} (hslots : slots.Nodup) {items : List Tag}
    (hmoderate : ∀ tag ∈ items, tag.IsModerate) : GivesChances slots items (chances slots items) := by
  fun_induction chances slots items with
  | case1 => intro i slot hslot; cases hslot
  | case2 first slots ih =>
    obtain ⟨hfirst, hslots⟩ := List.nodup_cons.1 hslots
    intro i slot hslot
    cases i with
    | zero =>
      obtain rfl : first = slot := Option.some.inj hslot
      exact ⟨.zero, by rw [Entries.get?_cons, if_pos rfl], .inr ⟨Nat.le_refl 0, rfl⟩⟩
    | succ i =>
      have hslot : slots[i]? = some slot := hslot
      obtain ⟨x, hget, hx⟩ := ih hslots hmoderate i slot hslot
      have hne : slot ≠ first := ne_of_mem_of_not_mem (List.mem_of_getElem? hslot) hfirst
      rcases hx with ⟨tag, htag, -⟩ | ⟨-, hx⟩
      · cases htag
      · exact ⟨x, by rw [Entries.get?_cons, if_neg hne, hget], .inr ⟨Nat.zero_le _, hx⟩⟩
  | case3 first slots tag items ih =>
    obtain ⟨hfirst, hslots⟩ := List.nodup_cons.1 hslots
    obtain ⟨htag, hitems⟩ := List.forall_mem_cons.1 hmoderate
    intro i slot hslot
    cases i with
    | zero =>
      obtain rfl : first = slot := Option.some.inj hslot
      obtain ⟨x, hfloat, hchance⟩ := htag.exists_chance
      have hvalue : chanceOf tag = .float x := by
        unfold chanceOf
        rw [hchance]
      exact ⟨x, by rw [Entries.get?_cons, if_pos rfl, hvalue], .inl ⟨tag, rfl, hfloat⟩⟩
    | succ i =>
      have hslot : slots[i]? = some slot := hslot
      obtain ⟨x, hget, hx⟩ := ih hslots hitems i slot hslot
      have hne : slot ≠ first := ne_of_mem_of_not_mem (List.mem_of_getElem? hslot) hfirst
      refine ⟨x, by rw [Entries.get?_cons, if_neg hne, hget], hx.imp_right fun hend => ?_⟩
      exact ⟨Nat.succ_le_succ hend.1, hend.2⟩

end Rule

namespace Registry

open Rule

/-- The lists of an entity by their rules. -/
def chanceLists (armor hand : Option (List Tag)) : Rule → Option (List Tag)
  | handChances => hand
  | _ => armor

/-- Drop chances are merged whatever rules there are besides and in whatever order they come. There are
chances, the same for all registries: one for each slot, the numbers of the two lists in order and zero
where a list is too short or missing. Every registry that has the two rules under the names of their
fields removes both lists and puts these chances, up to their order, into the entity, and fields that no
rule has to do with are as they were. -/
theorem chances_merged {entity : Entries} {armor hand : Option (List Tag)}
    (hchances : Entries.get? "drop_chances" entity = none)
    (harmor : Entries.get? "ArmorDropChances" entity = armor.map .list)
    (hhand : Entries.get? "HandDropChances" entity = hand.map .list)
    (hsome : armor.isSome ∨ hand.isSome)
    (hmoderate : ∀ tag ∈ armor.getD [] ++ hand.getD [], tag.IsModerate) :
    ∃ chances : Entries, chances.names = armorSlots ++ handSlots ∧
      GivesChances armorSlots (armor.getD []) chances ∧ GivesChances handSlots (hand.getD []) chances ∧
      ∀ registry : Registry, (armorChances.field, armorChances) ∈ registry →
        (handChances.field, handChances) ∈ registry →
        ∃ new merged, registry.convert (.compound entity) = .ok (.compound new) ∧
          Entries.get? "ArmorDropChances" new = none ∧ Entries.get? "HandDropChances" new = none ∧
          Entries.get? "drop_chances" new = some (.compound merged) ∧ merged.Perm chances ∧
          ∀ name, (∀ entry ∈ registry, name ∉ entry.2.touched) →
            Entries.get? name new = Entries.get? name entity := by
  have hlists : ∀ rule ∈ chanceRules,
      ∀ tag ∈ (chanceLists armor hand rule).getD [], tag.IsModerate := by
    intro rule hrule tag htag
    rcases List.mem_pair.1 hrule with rfl | rfl
    · exact hmoderate tag (List.mem_append_left _ htag)
    · exact hmoderate tag (List.mem_append_right _ htag)
  have hstart : Merging (chanceLists armor hand) entity := by
    refine .waiting hchances fun rule hrule => ?_
    rcases List.mem_pair.1 hrule with rfl | rfl
    · exact harmor
    · exact hhand
  generalize htaken : (fun rule => (chanceLists armor hand rule).getD []) = taken
  have hget (rule : Rule) (hrule : rule ∈ chanceRules) (items : List Tag) (hitems : taken rule = items) :
      GivesChances rule.chanceSlots items (allChances taken) := by
    subst hitems
    have hnodup : rule.chanceSlots.Nodup := by
      revert hrule
      cases rule <;> decide
    have hown : GivesChances rule.chanceSlots (taken rule) (chances rule.chanceSlots (taken rule)) :=
      gives_chances hnodup (htaken ▸ hlists rule hrule)
    intro i slot hslot
    obtain ⟨x, hx, hvalue⟩ := hown i slot hslot
    exact ⟨x, by rw [get?_allChances hrule, hx, Option.some_or], hvalue⟩
  refine ⟨allChances taken, names_allChances taken,
    hget armorChances (by decide) _ (htaken ▸ rfl), hget handChances (by decide) _ (htaken ▸ rfl), ?_⟩
  intro registry harmorRule hhandRule
  have hgone : ∀ rule ∈ chanceRules, Entries.get? rule.field (registry.run entity) = none := by
    intro rule hrule
    refine get?_field_run_of_mem hlists hrule ?_ hstart
    rcases List.mem_pair.1 hrule with rfl | rfl
    · exact harmorRule
    · exact hhandRule
  refine ⟨registry.run entity, ?_⟩
  cases merging_run hlists registry hstart with
  | waiting hnone hwaiting =>
    -- A list that is there is taken, so the chances are.
    have hnone (rule : Rule) (hrule : rule ∈ chanceRules) : chanceLists armor hand rule = none :=
      Option.map_eq_none_iff.1 ((hwaiting rule hrule).symm.trans (hgone rule hrule))
    have harmorNone : armor = none := hnone armorChances (by decide)
    have hhandNone : hand = none := hnone handChances (by decide)
    rw [harmorNone, hhandNone] at hsome
    rcases hsome with h | h <;> cases h
  | merged inner taken' hinner hshows htakenAll =>
    have hall : allChances taken' = allChances taken := by
      unfold allChances
      refine congrArg List.flatten (List.map_congr_left fun rule hrule => ?_)
      rw [(htakenAll rule hrule).eq_getD (hgone rule hrule), ← htaken]
    exact ⟨inner, rfl, hgone armorChances (by decide), hgone handChances (by decide), hinner,
      hall ▸ hshows.perm, fun name hname => get?_run hname entity⟩

/-- An entity with one chance for worn items and three for held ones, one too many. -/
def chancyZombie : Entries :=
  [("ArmorDropChances".toList, .list [.int 1]),
    ("HandDropChances".toList, .list [.float (.finite false Binary64.one), .bool true, .int (-7)])]

/-- Both orders of registration. -/
theorem chances_merged_zombie :
    let armorFirst := register handChances.field handChances (register armorChances.field armorChances [])
    let handFirst := register armorChances.field armorChances (register handChances.field handChances [])
    ∃ chances : Entries, chances.names = armorSlots ++ handSlots ∧
      GivesChances armorSlots [.int 1] chances ∧
      GivesChances handSlots [.float (.finite false Binary64.one), .bool true, .int (-7)] chances ∧
      ∀ registry ∈ [armorFirst, handFirst], ∃ new merged,
        registry.convert (.compound chancyZombie) = .ok (.compound new) ∧
        Entries.get? "ArmorDropChances" new = none ∧ Entries.get? "HandDropChances" new = none ∧
        Entries.get? "drop_chances" new = some (.compound merged) ∧ merged.Perm chances := by
  intro armorFirst handFirst
  have hmoderate : ∀ tag ∈ [Tag.int 1] ++ [.float (.finite false Binary64.one), .bool true, .int (-7)],
      tag.IsModerate := by
    simp only [List.singleton_append, List.forall_mem_cons]
    refine ⟨?_, ?_, trivial, ?_, fun _ h => absurd h List.not_mem_nil⟩
    · exact (by decide +kernel : (1 : Int).natAbs < Nat.pow 10 300)
    · exact (by decide +kernel : Binary64.one < Nat.pow 10 300 * Binary64.one)
    · exact (by decide +kernel : (-7 : Int).natAbs < Nat.pow 10 300)
  have harmorList : Entries.get? "ArmorDropChances" chancyZombie =
      (some [Tag.int 1]).map .list := rfl
  have hhandList : Entries.get? "HandDropChances" chancyZombie =
      (some [.float (.finite false Binary64.one), .bool true, .int (-7)]).map .list := rfl
  obtain ⟨chances, hnames, harmor, hhand, hall⟩ :=
    chances_merged rfl harmorList hhandList (.inl rfl) hmoderate
  refine ⟨chances, hnames, harmor, hhand, fun registry hregistry => ?_⟩
  obtain ⟨new, merged, hnew, hrest⟩ := hall registry (by
    rcases List.mem_pair.1 hregistry with rfl | rfl <;> decide) (by
    rcases List.mem_pair.1 hregistry with rfl | rfl <;> decide)
  exact ⟨new, merged, hnew, hrest.1, hrest.2.1, hrest.2.2.1, hrest.2.2.2.1⟩

end Registry

end CommandUpgrade
