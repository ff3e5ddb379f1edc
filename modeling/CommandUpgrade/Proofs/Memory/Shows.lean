import CommandUpgrade.Memory.Basic
import CommandUpgrade.Proofs.Tag.Entries
import Mathlib.Data.Fintype.Card
import Mathlib.Data.List.Forall2

/-!
# What a value shows

A value shows a tag if reading the objects behind it gives the tag (`Shows`). A list of open addresses
says which objects are not to be read, since they are still being changed: objects outside the open
addresses stay, and so does what they show (`Shows.keeps`). No more objects can be inside each other than
there are, so the number of objects is depth enough to read a value (`Shows.read_length`).
-/

namespace CommandUpgrade

/-! ## Reading -/

namespace Value

theorem mapM_eq_some_iff {α β : Type} {f : α → Option β} {items : List α} {results : List β} :
    items.mapM f = some results ↔ List.Forall₂ (fun a b => f a = some b) items results := by
  induction items generalizing results with
  | nil =>
    rw [List.mapM_nil, List.forall₂_nil_left_iff]
    exact ⟨fun h => (Option.some.inj h).symm, fun h => congrArg some h.symm⟩
  | cons a rest ih =>
    rw [List.mapM_cons, List.forall₂_cons_left_iff]
    constructor
    · intro h
      obtain ⟨b, hb, h⟩ := Option.bind_eq_some_iff.1 h
      obtain ⟨others, hothers, h⟩ := Option.bind_eq_some_iff.1 h
      exact ⟨b, others, hb, ih.1 hothers, (Option.some.inj h).symm⟩
    · rintro ⟨b, others, hb, hothers, rfl⟩
      rw [hb, ih.2 hothers]
      rfl

variable {object? other? : Address → Option Object}

/-- The values of a list or of fields show, to some depth, these tags. -/
inductive Opens (object? : Address → Option Object) (depth : Nat) : Object → Tag → Prop
  | list {items : List Value} {tags : List Tag}
      (h : List.Forall₂ (fun value tag => value.read object? depth = some tag) items tags) :
      Opens object? depth (.list items) (.list tags)
  | compound {fields : Fields} {entries : Entries}
      (h : List.Forall₂ (fun field entry => field.1 = entry.1 ∧
        field.2.read object? depth = some entry.2) fields entries) :
      Opens object? depth (.compound fields) (.compound entries)

theorem read_ref {depth : Nat} {address : Address} {tag : Tag} :
    (ref address).read object? (depth + 1) = some tag ↔
      ∃ object, object? address = some object ∧ Opens object? depth object tag := by
  rw [Value.read]
  cases object? address with
  | none => simp
  | some object =>
    cases object with
    | list items =>
      simp only [Option.some.injEq, exists_eq_left', Option.map_eq_some_iff, mapM_eq_some_iff]
      constructor
      · rintro ⟨tags, h, rfl⟩
        exact .list h
      · intro h
        cases h with
        | list h => exact ⟨_, h, rfl⟩
    | compound fields =>
      have hfield (field : Text × Value) (entry : Text × Tag) :
          (field.2.read object? depth).map (field.1, ·) = some entry ↔
            field.1 = entry.1 ∧ field.2.read object? depth = some entry.2 := by
        rw [Option.map_eq_some_iff]
        constructor
        · rintro ⟨tag, htag, rfl⟩
          exact ⟨rfl, htag⟩
        · rintro ⟨hname, htag⟩
          exact ⟨entry.2, htag, Prod.ext hname rfl⟩
      simp only [Option.some.injEq, exists_eq_left', Option.map_eq_some_iff, mapM_eq_some_iff, hfield]
      constructor
      · rintro ⟨entries, h, rfl⟩
        exact .compound h
      · intro h
        cases h with
        | compound h => exact ⟨_, h, rfl⟩

theorem Opens.imp {depth depth' : Nat}
    (himp : ∀ value tag, Value.read object? depth value = some tag →
      Value.read other? depth' value = some tag) {object : Object} {tag : Tag}
    (h : Opens object? depth object tag) : Opens other? depth' object tag := by
  cases h with
  | list h => exact .list (h.imp fun _ _ => himp _ _)
  | compound h => exact .compound (h.imp fun _ _ hfield => ⟨hfield.1, himp _ _ hfield.2⟩)

/-- More objects and a greater depth give the same tag. -/
theorem read_mono (hobjects : ∀ address object, object? address = some object →
      other? address = some object) {depth depth' : Nat} (hdepth : depth ≤ depth') :
    ∀ value tag, Value.read object? depth value = some tag →
      Value.read other? depth' value = some tag := by
  induction depth generalizing depth' with
  | zero =>
    intro value tag h
    cases value with
    | ref address => cases h
    | _ => cases depth' <;> exact h
  | succ depth ih =>
    intro value tag h
    cases value with
    | ref address =>
      obtain ⟨object, hobject, hopens⟩ := read_ref.1 h
      obtain ⟨depth', rfl⟩ := Nat.exists_eq_add_of_le hdepth
      rw [Nat.add_right_comm]
      exact read_ref.2 ⟨object, hobjects _ _ hobject, hopens.imp (ih (Nat.le_add_right _ _))⟩
    | _ => cases depth' <;> exact h

theorem read_deeper {depth depth' : Nat} (hdepth : depth ≤ depth') {value : Value} {tag : Tag}
    (h : value.read object? depth = some tag) : value.read object? depth' = some tag :=
  read_mono (fun _ _ hobject => hobject) hdepth _ _ h

/-! ## How deep to read -/

/-- The depth `depth + 1` is the least one at which the value can be read. -/
def NeedsMore (object? : Address → Option Object) (depth : Nat) (value : Value) : Prop :=
  value.read object? depth = none ∧ ∃ tag, value.read object? (depth + 1) = some tag

theorem NeedsMore.eq_ref {depth : Nat} {value : Value} (h : NeedsMore object? depth value) :
    ∃ address object, value = ref address ∧ object? address = some object := by
  obtain ⟨hnone, tag, htag⟩ := h
  cases value with
  | ref address =>
    obtain ⟨object, hobject, -⟩ := read_ref.1 htag
    exact ⟨address, object, rfl, hobject⟩
  | _ => cases depth <;> cases hnone

theorem NeedsMore.unique {depth depth' : Nat} {value : Value} (h : NeedsMore object? depth value)
    (h' : NeedsMore object? depth' value) : depth = depth' := by
  have hle {d d' : Nat} (h : NeedsMore object? d value) (h' : NeedsMore object? d' value) :
      ¬ d < d' := by
    intro hlt
    obtain ⟨tag, htag⟩ := h.2
    have hread := read_deeper hlt htag
    rw [h'.1] at hread
    cases hread
  exact Nat.le_antisymm (Nat.not_lt.1 (hle h' h)) (Nat.not_lt.1 (hle h h'))

/-- Where some value needs a depth, some value needs one less. -/
theorem NeedsMore.pred {depth : Nat} {value : Value} (h : NeedsMore object? (depth + 1) value) :
    ∃ inner, NeedsMore object? depth inner := by
  by_contra hnone
  rw [not_exists] at hnone
  obtain ⟨address, object, rfl, -⟩ := h.eq_ref
  obtain ⟨hunread, tag, htag⟩ := h
  obtain ⟨object, hobject, hopens⟩ := read_ref.1 htag
  have hless : ∀ value tag, Value.read object? (depth + 1) value = some tag →
      Value.read object? depth value = some tag := by
    intro value tag hread
    cases hvalue : Value.read object? depth value with
    | none => exact absurd ⟨hvalue, tag, hread⟩ (hnone value)
    | some other =>
      rw [← hread, ← read_deeper (Nat.le_succ depth) hvalue]
  rw [read_ref.2 ⟨object, hobject, hopens.imp hless⟩] at hunread
  cases hunread

theorem NeedsMore.exists_of_le {depth : Nat} {value : Value} (h : NeedsMore object? depth value) :
    ∀ less ≤ depth, ∃ address object, object? address = some object ∧
      NeedsMore object? less (ref address) := by
  induction depth generalizing value with
  | zero =>
    intro less hless
    obtain rfl := Nat.le_zero.1 hless
    obtain ⟨address, object, rfl, hobject⟩ := h.eq_ref
    exact ⟨address, object, hobject, h⟩
  | succ depth ih =>
    intro less hless
    rcases Nat.le_succ_iff.1 hless with hless | rfl
    · obtain ⟨inner, hinner⟩ := h.pred
      exact ih hinner less hless
    · obtain ⟨address, object, rfl, hobject⟩ := h.eq_ref
      exact ⟨address, object, hobject, h⟩

/-- Every depth that is needed is needed by an object of its own, so there are as many objects. -/
theorem NeedsMore.lt_length {memory : Memory} {depth : Nat} {value : Value}
    (h : NeedsMore (memory[·]?) depth value) : depth < memory.length := by
  have hall (less : Fin (depth + 1)) : ∃ address : Fin memory.length,
      NeedsMore (memory[·]?) less (ref address) := by
    obtain ⟨address, object, hobject, hneeds⟩ := h.exists_of_le less (Nat.lt_succ_iff.1 less.2)
    exact ⟨⟨address, (List.getElem?_eq_some_iff.1 hobject).1⟩, hneeds⟩
  choose address haddress using hall
  have hinjective : Function.Injective address := fun less less' heq =>
    Fin.ext ((haddress less).unique (heq ▸ haddress less'))
  have hcard := Fintype.card_le_of_injective address hinjective
  rwa [Fintype.card_fin, Fintype.card_fin] at hcard

/-- The number of objects is depth enough. -/
theorem read_length {memory : Memory} {depth : Nat} {value : Value} {tag : Tag}
    (h : value.read (memory[·]?) depth = some tag) :
    value.read (memory[·]?) memory.length = some tag := by
  induction depth with
  | zero => exact read_deeper (Nat.zero_le _) h
  | succ depth ih =>
    cases hless : value.read (memory[·]?) depth with
    | none =>
      have hneeds : NeedsMore (memory[·]?) depth value := ⟨hless, tag, h⟩
      exact read_deeper hneeds.lt_length h
    | some other =>
      have hsame := read_deeper (Nat.le_succ depth) hless
      obtain rfl : other = tag := Option.some.inj (hsame.symm.trans h)
      exact ih hless

end Value

/-! ## Showing -/

/-- The objects of a memory outside the open addresses. -/
def Memory.outside (openAt : List Address) (memory : Memory) (address : Address) : Option Object :=
  if address ∈ openAt then none else memory[address]?

theorem Memory.outside_eq_some_iff {openAt : List Address} {memory : Memory} {address : Address}
    {object : Object} :
    memory.outside openAt address = some object ↔
      address ∉ openAt ∧ memory[address]? = some object := by
  unfold Memory.outside
  split
  case isTrue h => simp [h]
  case isFalse h => simp [h]

/-- The value stands for the tag, and no open object is part of it. -/
def Shows (openAt : List Address) (memory : Memory) (value : Value) (tag : Tag) : Prop :=
  ∃ depth, value.read (memory.outside openAt) depth = some tag

/-- Fields have the names of the entries, and values that stand in a relation to their tags. -/
def Fields.Match (R : Text → Value → Tag → Prop) : Fields → Entries → Prop :=
  List.Forall₂ fun field entry => field.1 = entry.1 ∧ R field.1 field.2 entry.2

/-- The values that an object holds show what a tag holds. -/
inductive Displays (openAt : List Address) (memory : Memory) : Object → Tag → Prop
  | list {items : List Value} {tags : List Tag} (h : List.Forall₂ (Shows openAt memory) items tags) :
      Displays openAt memory (.list items) (.list tags)
  | compound {fields : Fields} {entries : Entries}
      (h : fields.Match (fun _ => Shows openAt memory) entries) :
      Displays openAt memory (.compound fields) (.compound entries)

section Shows

variable {openAt openAt' : List Address} {memory memory' : Memory} {value : Value} {tag : Tag}
  {address : Address}

/-- Values of which each can be read to some depth can all be read to one. -/
theorem exists_forall₂_read {α β : Type} {P : α → β → Prop} {value : α → Value} {tag : β → Tag}
    {items : List α} {results : List β}
    (h : List.Forall₂ (fun a b => P a b ∧ Shows openAt memory (value a) (tag b)) items results) :
    ∃ depth, List.Forall₂ (fun a b => P a b ∧
      (value a).read (memory.outside openAt) depth = some (tag b)) items results := by
  induction h with
  | nil => exact ⟨0, .nil⟩
  | cons hfirst _ ih =>
    obtain ⟨depth, hdepth⟩ := hfirst.2
    obtain ⟨depth', hrest⟩ := ih
    exact ⟨max depth depth', .cons ⟨hfirst.1, Value.read_deeper (Nat.le_max_left _ _) hdepth⟩
      (hrest.imp fun _ _ hread => ⟨hread.1, Value.read_deeper (Nat.le_max_right _ _) hread.2⟩)⟩

theorem shows_ref_iff :
    Shows openAt memory (.ref address) tag ↔
      address ∉ openAt ∧ ∃ object, memory[address]? = some object ∧
        Displays openAt memory object tag := by
  constructor
  · rintro ⟨depth, hread⟩
    cases depth with
    | zero => cases hread
    | succ depth =>
      obtain ⟨object, hobject, hopens⟩ := Value.read_ref.1 hread
      obtain ⟨hopen, hobject⟩ := Memory.outside_eq_some_iff.1 hobject
      refine ⟨hopen, object, hobject, ?_⟩
      cases hopens with
      | list h => exact .list (h.imp fun _ _ hread => ⟨depth, hread⟩)
      | compound h => exact .compound (h.imp fun _ _ hfield => ⟨hfield.1, depth, hfield.2⟩)
  · rintro ⟨hopen, object, hobject, hdisplays⟩
    have hobject := Memory.outside_eq_some_iff.2 ⟨hopen, hobject⟩
    cases hdisplays with
    | list h =>
      obtain ⟨depth, hread⟩ := exists_forall₂_read (h.imp fun _ _ hshows => ⟨trivial, hshows⟩)
      exact ⟨depth + 1, Value.read_ref.2 ⟨_, hobject, .list (hread.imp fun _ _ hread => hread.2)⟩⟩
    | compound h =>
      obtain ⟨depth, hread⟩ := exists_forall₂_read h
      exact ⟨depth + 1, Value.read_ref.2 ⟨_, hobject, .compound hread⟩⟩

theorem Shows.imp (h : Shows openAt memory value tag)
    (himp : ∀ address object, address ∉ openAt → memory[address]? = some object →
      address ∉ openAt' ∧ memory'[address]? = some object) : Shows openAt' memory' value tag := by
  obtain ⟨depth, hread⟩ := h
  refine ⟨depth, Value.read_mono (fun address object hobject => ?_) (Nat.le_refl _) _ _ hread⟩
  obtain ⟨hopen, hobject⟩ := Memory.outside_eq_some_iff.1 hobject
  exact Memory.outside_eq_some_iff.2 (himp address object hopen hobject)

theorem Shows.read_length (h : Shows openAt memory value tag) :
    value.read (memory[·]?) memory.length = some tag := by
  obtain ⟨depth, hread⟩ := h
  have hall : value.read (memory[·]?) depth = some tag := by
    refine Value.read_mono (fun address object hobject => ?_) (Nat.le_refl _) _ _ hread
    exact (Memory.outside_eq_some_iff.1 hobject).2
  exact Value.read_length hall

end Shows

end CommandUpgrade
