import CommandUpgrade.Entity.Registry
import CommandUpgrade.Proofs.Tag.Entries

/-!
# What the rules leave alone

A rule changes the field that it renews, and `equipment` or `drop_chances` if it fills slots. Every
other field is as it was, also where the rule ends early (`Rule.leaves_edit`), and so it is after all
rules of a registry (`Registry.get?_run`). The riders of an entity are such a field: they stay as they
are, and are in their new form only if they were before.
-/

namespace CommandUpgrade

open Text

namespace Edit

variable {α β : Type} {name : Text}

/-- An edit leaves the tag under a name as it is, also where it ends early. -/
def Leaves (name : Text) (edit : Edit α) : Prop :=
  ∀ entries : Entries, Entries.get? name (StateT.run (ExceptT.run edit) entries).2 =
    Entries.get? name entries

theorem leaves_pure (a : α) : Leaves name (pure a) := fun _ => rfl

theorem leaves_throw (fault : Fault) : Leaves name (throw fault : Edit α) := fun _ => rfl

theorem leaves_lift (x : Outcome α) : Leaves name (liftM x) := by
  intro entries
  cases x <;> rfl

theorem leaves_find (other : Text) : Leaves name (find other) := fun _ => rfl

theorem Leaves.bind {edit : Edit α} {next : α → Edit β} (h : edit.Leaves name)
    (hnext : ∀ a, (next a).Leaves name) : (edit >>= next).Leaves name := by
  intro entries
  have hfirst := h entries
  rw [ExceptT.run_bind, StateT.run_bind]
  cases hrun : StateT.run (ExceptT.run edit) entries with
  | mk result new =>
    rw [hrun] at hfirst
    cases result with
    | error fault => exact hfirst
    | ok a => exact (hnext a new).trans hfirst

theorem leaves_forM {items : List α} {edit : α → Edit Unit} (h : ∀ a, (edit a).Leaves name) :
    (items.forM edit).Leaves name := by
  induction items with
  | nil => exact leaves_pure ()
  | cons a rest ih => exact (h a).bind fun _ => ih

theorem leaves_mapM {items : List α} {edit : α → Edit β} (h : ∀ a, (edit a).Leaves name) :
    (items.mapM edit).Leaves name := by
  induction items with
  | nil => exact leaves_pure []
  | cons a rest ih =>
    rw [List.mapM_cons]
    exact (h a).bind fun b => ih.bind fun new => leaves_pure (b :: new)

section Other

variable {other : Text} (hne : name ≠ other)

include hne

theorem leaves_put (tag : Tag) : (put other tag).Leaves name :=
  fun entries => Entries.get?_set_of_ne hne tag entries

theorem leaves_erase : (erase other).Leaves name :=
  fun entries => Entries.get?_erase_of_ne hne entries

theorem leaves_ensure : (ensure other).Leaves name := by
  refine (leaves_find other).bind fun found => ?_
  split
  · exact leaves_put hne _
  · exact leaves_pure ()

theorem leaves_putIn (slot : Text) (tag : Tag) : (putIn other slot tag).Leaves name := by
  refine (leaves_find other).bind fun found => ?_
  split
  · exact leaves_put hne _
  · exact leaves_throw .wrongKind

theorem leaves_ensureIn (slot : Text) (tag : Tag) : (ensureIn other slot tag).Leaves name := by
  refine (leaves_find other).bind fun found => ?_
  split
  · refine (leaves_lift _).bind fun mentions => ?_
    split
    · exact leaves_putIn hne slot tag
    · exact leaves_pure ()
  · exact leaves_throw .wrongKind

end Other

theorem Leaves.run {edit : Edit Unit} (h : edit.Leaves name) (entries : Entries) :
    Entries.get? name (edit.run entries).1 = Entries.get? name entries := by
  have hnew := h entries
  unfold Edit.run
  split <;> rename_i heq <;> rwa [heq] at hnew

end Edit

namespace Rule

open Edit

/-- The fields that a rule may change. -/
def touched (rule : Rule) : List Text :=
  match rule with
  | armorItems | handItems => ["equipment", rule.field]
  | armorChances | handChances => ["drop_chances", rule.field]
  | customName | inventory | selectedItem => [rule.field]

variable {name : Text}

theorem leaves_equip (h : name ≠ "equipment".toList) (slot : Text) (item : Tag) :
    (equip slot item).Leaves name := by
  unfold equip
  split
  · refine (leaves_lift _).bind fun new => ?_
    split
    · exact leaves_putIn h slot _
    · exact leaves_pure ()
  · exact leaves_pure ()

theorem leaves_equip_all (h : name ≠ "equipment".toList) (slots : List Text) (items : List Tag) :
    ((slots.zip items).forM fun (slot, item) => equip slot item).Leaves name :=
  leaves_forM fun pair => leaves_equip h pair.1 pair.2

theorem leaves_editArmor (h : name ≠ "equipment".toList) (hfield : name ≠ "ArmorItems".toList) :
    editArmor.Leaves name := by
  refine (leaves_find _).bind fun found => ?_
  split
  · refine (leaves_ensure h).bind fun _ => ?_
    exact (leaves_equip_all h armorSlots _).bind fun _ => leaves_erase hfield
  · exact leaves_pure ()

theorem leaves_editHands (h : name ≠ "equipment".toList) (hfield : name ≠ "HandItems".toList) :
    editHands.Leaves name := by
  refine (leaves_find _).bind fun found => ?_
  split
  · refine (leaves_ensure h).bind fun _ => ?_
    dsimp only
    split
    · split
      · exact (leaves_equip_all h handSlots _).bind fun _ => leaves_erase hfield
      · exact (leaves_equip h _ _).bind fun _ => leaves_erase hfield
    · exact (leaves_equip_all h handSlots _).bind fun _ => leaves_erase hfield
  · exact leaves_pure ()

theorem leaves_editChances (h : name ≠ "drop_chances".toList) {field : Text} (hfield : name ≠ field)
    (slots : List Text) : (editChances field slots).Leaves name := by
  refine (leaves_find _).bind fun found => ?_
  split
  · refine (leaves_ensure h).bind fun _ => ?_
    refine (leaves_forM fun pair => ?_).bind fun _ => ?_
    · exact (leaves_lift _).bind fun tag => leaves_putIn h pair.1 tag
    · refine (leaves_forM fun slot => leaves_ensureIn h slot _).bind fun _ => ?_
      exact leaves_erase hfield
  · exact leaves_pure ()

theorem leaves_editName (h : name ≠ "CustomName".toList) : editName.Leaves name := by
  refine (leaves_find _).bind fun found => ?_
  split
  · exact (leaves_lift _).bind fun tag => leaves_put h tag
  · exact leaves_pure ()

theorem leaves_editInventory (h : name ≠ "Inventory".toList) : editInventory.Leaves name := by
  refine (leaves_find _).bind fun found => ?_
  split
  · exact (leaves_mapM fun _ => leaves_lift _).bind fun items => leaves_put h _
  · exact leaves_pure ()

theorem leaves_editSelected (h : name ≠ "SelectedItem".toList) : editSelected.Leaves name := by
  refine (leaves_find _).bind fun found => ?_
  split
  · refine (leaves_lift _).bind fun new => ?_
    split
    · exact leaves_put h _
    · exact leaves_pure ()
  · exact leaves_pure ()

/-- A rule leaves every field alone that is not one of its own. -/
theorem leaves_edit {rule : Rule} (h : name ∉ rule.touched) : rule.edit.Leaves name := by
  have hne : ∀ field ∈ rule.touched, name ≠ field := fun field hfield heq => h (heq ▸ hfield)
  cases rule with
  | armorItems =>
    exact leaves_editArmor (hne _ List.mem_cons_self) (hne _ (List.mem_cons_of_mem _ List.mem_cons_self))
  | handItems =>
    exact leaves_editHands (hne _ List.mem_cons_self) (hne _ (List.mem_cons_of_mem _ List.mem_cons_self))
  | armorChances | handChances =>
    exact leaves_editChances (hne _ List.mem_cons_self)
      (hne _ (List.mem_cons_of_mem _ List.mem_cons_self)) _
  | customName => exact leaves_editName (hne _ List.mem_cons_self)
  | inventory => exact leaves_editInventory (hne _ List.mem_cons_self)
  | selectedItem => exact leaves_editSelected (hne _ List.mem_cons_self)

/-- A rule does nothing to an entity without its field. -/
theorem run_edit_of_absent {rule : Rule} {entries : Entries}
    (h : Entries.get? rule.field entries = none) : rule.edit.run entries = (entries, none) := by
  have hstart : ∀ {next : Option Tag → Edit Unit}, next none = pure () →
      ((find rule.field) >>= next).run entries = (entries, none) := by
    intro next hnext
    unfold Edit.run
    rw [ExceptT.run_bind, StateT.run_bind]
    have hfound : StateT.run (ExceptT.run (find rule.field)) entries = (.ok none, entries) := by
      rw [← h]
      rfl
    rw [hfound]
    dsimp only [bind, StateT.run]
    rw [hnext]
    rfl
  cases rule <;> exact hstart rfl

theorem run_editName {entries : Entries} {name : Text} {tag : Tag}
    (h : Entries.get? "CustomName" entries = some (.text name)) (hnew : newName name = .ok tag) :
    customName.edit.run entries = (Entries.set "CustomName" tag entries, none) := by
  have hfound : StateT.run (ExceptT.run (find "CustomName")) entries =
      (.ok (some (.text name)), entries) := by
    rw [← h]
    rfl
  unfold Edit.run edit editName
  rw [ExceptT.run_bind, StateT.run_bind, hfound]
  dsimp only [bind, StateT.run]
  rw [hnew]
  rfl

theorem newName_ne_text (name s : Text) : newName name ≠ .ok (.text s) := by
  unfold newName
  dsimp only
  split
  · intro h
    cases h
  cases Style.lineComponents (unquote name) with
  | error fault =>
    intro h
    cases h
  | ok components =>
    dsimp only [bind, Except.bind]
    split <;> intro h <;> cases h

end Rule

namespace Registry

/-- Only the rule itself changes its field. -/
theorem eq_of_field_mem_touched {rule other : Rule} (h : rule.field ∈ other.touched) : other = rule := by
  revert h
  cases rule <;> cases other <;> decide

/-- No rule brings a missing field of a rule back. -/
theorem get?_field_of_absent {rule : Rule} {entries : Entries}
    (h : Entries.get? rule.field entries = none) (other : Rule) :
    Entries.get? rule.field (other.edit.run entries).1 = none := by
  by_cases htouched : rule.field ∈ other.touched
  · rw [eq_of_field_mem_touched htouched, Rule.run_edit_of_absent h, h]
  · rw [(Rule.leaves_edit htouched).run entries, h]

/-- A field is left alone if the rules that may change it do not find their own fields. -/
theorem get?_run_of_absent {registry : Registry} {name : Text} {entries : Entries}
    (h : ∀ entry ∈ registry, name ∈ entry.2.touched → Entries.get? entry.2.field entries = none) :
    Entries.get? name (registry.run entries) = Entries.get? name entries := by
  unfold run
  induction registry generalizing entries with
  | nil => rfl
  | cons entry rest ih =>
    obtain ⟨hentry, hrest⟩ := List.forall_mem_cons.1 h
    rw [List.foldl_cons]
    dsimp only
    split
    · rw [ih fun later hlater htouched => get?_field_of_absent (hrest later hlater htouched) entry.2]
      by_cases htouched : name ∈ entry.2.touched
      · rw [Rule.run_edit_of_absent (hentry htouched)]
      · exact (Rule.leaves_edit htouched).run entries
    · exact ih hrest

/-- The rules of a registry leave every field alone that is none of theirs. -/
theorem get?_run {registry : Registry} {name : Text}
    (h : ∀ entry ∈ registry, name ∉ entry.2.touched) (entries : Entries) :
    Entries.get? name (registry.run entries) = Entries.get? name entries :=
  get?_run_of_absent fun entry hentry htouched => absurd htouched (h entry hentry)

/-- An entity without fields that are renewed stays as it is. -/
theorem run_eq_self {registry : Registry} {entries : Entries}
    (h : ∀ entry ∈ registry, Entries.get? entry.2.field entries = none) :
    registry.run entries = entries := by
  unfold run
  induction registry with
  | nil => rfl
  | cons entry rest ih =>
    obtain ⟨hentry, hrest⟩ := List.forall_mem_cons.1 h
    rw [List.foldl_cons]
    dsimp only
    rw [Rule.run_edit_of_absent hentry, ite_self]
    exact ih hrest

theorem run_append (front back : Registry) (entries : Entries) :
    run (front ++ back) entries = run back (run front entries) := List.foldl_append

theorem run_customName_cons (rest : Registry) (entries : Entries) :
    run ((Rule.customName.field, .customName) :: rest) entries =
      run rest (Rule.customName.edit.run entries).1 := rfl

/-- A name is in its new form after the rules, if it has one. -/
theorem get?_run_customName {entries : Entries} {name : Text} {tag : Tag}
    (h : Entries.get? "CustomName" entries = some (.text name)) (hnew : Rule.newName name = .ok tag) :
    Entries.get? "CustomName" (standard.run entries) = some tag := by
  have hsplit : standard =
      [Rule.armorItems, .handItems, .armorChances, .handChances].map (fun rule => (rule.field, rule)) ++
        (Rule.customName.field, .customName) ::
          [Rule.inventory, .selectedItem].map fun rule => (rule.field, rule) := rfl
  rw [hsplit, run_append, run_customName_cons, get?_run (by decide), Rule.run_editName _ hnew]
  · exact Entries.get?_set_self _ _ _
  · exact (get?_run (by decide) entries).trans h

theorem convert_compound (registry : Registry) (entries : Entries) :
    registry.convert (.compound entries) = .ok (.compound (registry.run entries)) := rfl

/-- Riders are not converted: whatever else of an entity is renewed, it has the same riders in the same
order. So they are in their new form only if each of them was in it before, as a rider without fields
that are renewed is, and a rider with a name is not. -/
theorem convert_passengers {entries : Entries} {passengers : List Tag}
    (h : Entries.get? "Passengers" entries = some (.list passengers)) :
    ∃ new, standard.convert (.compound entries) = .ok (.compound new) ∧
      Entries.get? "Passengers" new = some (.list passengers) ∧
      ((∃ converted, Entries.get? "Passengers" new = some (.list converted) ∧
          List.Forall₂ (fun old new => standard.convert old = .ok new) passengers converted) ↔
        ∀ rider ∈ passengers, standard.convert rider = .ok rider) ∧
      (∀ rider : Entries, (∀ rule : Rule, Entries.get? rule.field rider = none) →
        standard.convert (.compound rider) = .ok (.compound rider)) ∧
      ∀ (rider : Entries) (name : Text) (tag : Tag),
        Entries.get? "CustomName" rider = some (.text name) → Rule.newName name = .ok tag →
          standard.convert (.compound rider) ≠ .ok (.compound rider) := by
  have hkept : Entries.get? "Passengers" (standard.run entries) = some (.list passengers) :=
    (get?_run (by decide) entries).trans h
  refine ⟨standard.run entries, rfl, hkept, ⟨?_, ?_⟩, ?_, ?_⟩
  · rintro ⟨converted, hconverted, hall⟩
    obtain rfl : passengers = converted := by
      rw [hkept] at hconverted
      cases hconverted
      rfl
    exact List.forall₂_same.1 hall
  · intro hall
    exact ⟨passengers, hkept, List.forall₂_same.2 hall⟩
  · intro rider hrider
    rw [convert_compound, run_eq_self fun entry _ => hrider entry.2]
  · intro rider name tag hname hnew heq
    rw [convert_compound] at heq
    have hsame : standard.run rider = rider := Tag.compound.inj (Except.ok.inj heq)
    have htag := get?_run_customName hname hnew
    rw [hsame, hname] at htag
    rw [← Option.some.inj htag] at hnew
    exact Rule.newName_ne_text name name hnew

/-- A rider with a name, and an entity that carries it. -/
def namedRider : Entries :=
  [("id".toList, .text "Skeleton"), ("CustomName".toList, .text "Bob")]

def riddenZombie : Entries :=
  [("id".toList, .text "Zombie"), ("Passengers".toList, .list [.compound namedRider])]

theorem convert_passengers_named :
    ∃ new, standard.convert (.compound riddenZombie) = .ok (.compound new) ∧
      Entries.get? "Passengers" new = some (.list [.compound namedRider]) ∧
      ¬ ∃ converted, Entries.get? "Passengers" new = some (.list converted) ∧
        List.Forall₂ (fun old new => standard.convert old = .ok new) [.compound namedRider]
          converted := by
  have hrider : Entries.get? "Passengers" riddenZombie = some (.list [.compound namedRider]) := rfl
  obtain ⟨new, hnew, hkept, hiff, -, hname⟩ := convert_passengers hrider
  refine ⟨new, hnew, hkept, fun hconverted => ?_⟩
  exact hname namedRider "Bob" (.compound [Style.words "Bob"]) rfl rfl
    (hiff.1 hconverted _ (List.mem_singleton.2 rfl))

end Registry

end CommandUpgrade
