import CommandUpgrade.Proofs.Entity.Passengers

/-!
# Rules that fill slots

Four rules put the tags of a list into the slots of a compound, one after another, and remove the list
at the end (`Filling`, `Rule.edit_eq`). A tag without a new form ends such a rule early. Then the slots
before it are filled, and the list is still there (`Filling.exec_edit_error`).
-/

namespace CommandUpgrade

open Text

/-! ## Edits that end early -/

namespace Edit

variable {α β : Type}

/-- What an edit gives, and the entries after it. -/
def exec (edit : Edit α) (entries : Entries) : Except Fault α × Entries :=
  StateT.run (ExceptT.run edit) entries

theorem exec_bind_of_ok {edit : Edit α} {next : α → Edit β} {entries between : Entries} {a : α}
    (h : exec edit entries = (.ok a, between)) :
    exec (edit >>= next) entries = exec (next a) between := by
  unfold exec at h ⊢
  rw [ExceptT.run_bind, StateT.run_bind, h]
  rfl

theorem exec_bind_of_error {edit : Edit α} {next : α → Edit β} {entries new : Entries} {fault : Fault}
    (h : exec edit entries = (.error fault, new)) :
    exec (edit >>= next) entries = (.error fault, new) := by
  unfold exec at h ⊢
  rw [ExceptT.run_bind, StateT.run_bind, h]
  rfl

theorem run_fst (edit : Edit Unit) (entries : Entries) :
    (edit.run entries).1 = (exec edit entries).2 := by
  unfold run exec
  split <;> rename_i heq <;> rw [heq]

/-- An edit that ends early ends early in one of its steps. -/
theorem exec_bind_error {edit : Edit α} {next : α → Edit β} {entries new : Entries} {fault : Fault}
    (h : exec (edit >>= next) entries = (.error fault, new)) :
    exec edit entries = (.error fault, new) ∨
      ∃ a between, exec edit entries = (.ok a, between) ∧
        exec (next a) between = (.error fault, new) := by
  cases hrun : exec edit entries with
  | mk result between =>
    cases result with
    | error other =>
      rw [exec_bind_of_error hrun] at h
      cases h
      exact .inl rfl
    | ok a =>
      rw [exec_bind_of_ok hrun] at h
      exact .inr ⟨a, between, rfl, h⟩

theorem run_snd_eq_some {edit : Edit Unit} {entries : Entries} {fault : Fault}
    (h : (edit.run entries).2 = some fault) :
    exec edit entries = (.error fault, (edit.run entries).1) := by
  unfold run at h ⊢
  unfold exec
  cases hrun : StateT.run (ExceptT.run edit) entries with
  | mk result new =>
    rw [hrun] at h
    cases result with
    | ok a => cases h
    | error other =>
      obtain rfl : other = fault := Option.some.inj h
      rfl

theorem exec_lift (x : Outcome α) (entries : Entries) :
    exec (liftM x : Edit α) entries = (x, entries) := by
  cases x <;> rfl

theorem exec_mapM_lift (f : α → Outcome β) (items : List α) (entries : Entries) :
    exec (items.mapM fun a => (liftM (f a) : Edit β)) entries = (items.mapM f, entries) := by
  induction items with
  | nil => rfl
  | cons a rest ih =>
    rw [List.mapM_cons, List.mapM_cons]
    cases ha : f a with
    | error fault =>
      exact exec_bind_of_error (exec_lift (.error fault) entries)
    | ok b =>
      refine (exec_bind_of_ok (exec_lift (.ok b) entries)).trans ?_
      cases hrest : rest.mapM f with
      | error fault =>
        rw [hrest] at ih
        exact exec_bind_of_error ih
      | ok others =>
        rw [hrest] at ih
        exact exec_bind_of_ok ih

/-- An edit does not change some entries, also where it ends early. -/
def Still (entries : Entries) (edit : Edit α) : Prop := (exec edit entries).2 = entries

section Still

variable {entries : Entries}

theorem still_pure (a : α) : Still entries (pure a) := rfl

theorem still_throw (fault : Fault) : Still entries (throw fault : Edit α) := rfl

theorem still_find (name : Text) : Still entries (find name) := rfl

theorem still_lift (x : Outcome α) : Still entries (liftM x : Edit α) := by
  unfold Still
  rw [exec_lift]

theorem Still.bind {edit : Edit α} {next : α → Edit β} (h : Still entries edit)
    (hnext : ∀ a, Still entries (next a)) : Still entries (edit >>= next) := by
  unfold Still at h ⊢
  cases hrun : exec edit entries with
  | mk result between =>
    rw [hrun] at h
    obtain rfl : between = entries := h
    cases result with
    | error fault => rw [exec_bind_of_error hrun]
    | ok a =>
      rw [exec_bind_of_ok hrun]
      exact hnext a

theorem still_forM {items : List α} {edit : α → Edit Unit} (h : ∀ a, Still entries (edit a)) :
    Still entries (items.forM edit) := by
  induction items with
  | nil => exact still_pure ()
  | cons a rest ih => exact (h a).bind fun _ => ih

theorem still_mapM {items : List α} {edit : α → Edit β} (h : ∀ a, Still entries (edit a)) :
    Still entries (items.mapM edit) := by
  induction items with
  | nil => exact still_pure []
  | cons a rest ih =>
    rw [List.mapM_cons]
    exact (h a).bind fun b => ih.bind fun new => still_pure (b :: new)

/-- Before a last step that cannot end early nothing is changed, and so nothing is left behind. -/
theorem Still.eq_of_error {edit : Edit α} {next : α → Edit β} (h : Still entries edit)
    (hnext : ∀ a between, ∃ b new, exec (next a) between = (.ok b, new)) {new : Entries} {fault : Fault}
    (herror : exec (edit >>= next) entries = (.error fault, new)) : new = entries := by
  rcases exec_bind_error herror with hfirst | ⟨a, between, -, hlast⟩
  · unfold Still at h
    rw [hfirst] at h
    exact h
  · obtain ⟨b, after, hok⟩ := hnext a between
    rw [hok] at hlast
    cases hlast

end Still

theorem exec_find_bind (name : Text) (next : Option Tag → Edit β) (entries : Entries) :
    exec (find name >>= next) entries = exec (next (Entries.get? name entries)) entries := rfl

/-! ### Slots of a compound -/

/-- The slots under a name, none yet if the name is missing. Other tags than compounds have no slots. -/
def slots? (owner : Text) (entries : Entries) : Option Entries :=
  ((Entries.get? owner entries).getD (.compound [])).entries?

section Compound

variable {owner : Text} {entries inner : Entries}
  (h : Entries.get? owner entries = some (.compound inner))

include h

theorem exec_putIn (slot : Text) (tag : Tag) :
    exec (putIn owner slot tag) entries =
      (.ok (), entries.set owner (.compound (inner.set slot tag))) := by
  unfold putIn
  rw [exec_find_bind, h]
  rfl

/-- Nothing is put into a slot that is filled. -/
theorem exec_ensureIn (slot : Text) (tag : Tag) :
    exec (ensureIn owner slot tag) entries = (.ok (), if Entries.has slot inner then entries
      else entries.set owner (.compound (inner.set slot tag))) := by
  have hmentions : exec (liftM (Tag.mentions slot (.compound inner)) : Edit Bool) entries =
      (.ok (Entries.has slot inner), entries) := rfl
  unfold ensureIn
  rw [exec_find_bind, h]
  dsimp only
  rw [exec_bind_of_ok hmentions]
  cases Entries.has slot inner with
  | true => rfl
  | false => exact exec_putIn h slot tag

/-- Zero or another tag is put into every slot of a list that is free. -/
theorem exec_ensureIn_all (slots : List Text) (tag : Tag) :
    exec (slots.forM fun slot => ensureIn owner slot tag) entries =
      (.ok (), entries.set owner (.compound (inner.pad slots tag))) := by
  induction slots generalizing entries inner with
  | nil => exact Prod.ext rfl (Entries.set_of_get? h).symm
  | cons slot rest ih =>
    have hfirst := exec_ensureIn h slot tag
    rw [Entries.pad_cons]
    cases hslot : Entries.has slot inner with
    | true =>
      rw [hslot, if_pos rfl] at hfirst
      exact (exec_bind_of_ok hfirst).trans (ih h)
    | false =>
      rw [hslot, if_neg Bool.false_ne_true] at hfirst
      have hrest := ih (Entries.get?_set_self owner (.compound (inner.set slot tag)) entries)
      rw [Entries.set_set] at hrest
      exact (exec_bind_of_ok hfirst).trans hrest

end Compound

section NoCompound

variable {owner : Text} {entries : Entries} (h : slots? owner entries = none)

include h

theorem still_putIn (slot : Text) (tag : Tag) : Still entries (putIn owner slot tag) := by
  unfold putIn Still
  rw [exec_find_bind]
  split
  · rename_i inner hinner
    unfold slots? at h
    rw [hinner] at h
    cases h
  · rfl

theorem still_ensureIn (slot : Text) (tag : Tag) : Still entries (ensureIn owner slot tag) := by
  refine (still_find owner).bind fun found => ?_
  split
  · refine (still_lift _).bind fun mentions => ?_
    split
    · exact still_putIn h slot tag
    · exact still_pure ()
  · exact still_throw .wrongKind

end NoCompound

theorem exec_ensure_of_none {owner : Text} {entries : Entries} (h : slots? owner entries = none) :
    exec (ensure owner) entries = (.ok (), entries) := by
  unfold ensure
  rw [exec_find_bind]
  cases hget : Entries.get? owner entries with
  | none =>
    unfold slots? at h
    rw [hget] at h
    cases h
  | some tag => rfl

theorem exists_exec_ensure {owner : Text} {entries inner : Entries}
    (h : slots? owner entries = some inner) :
    ∃ new, exec (ensure owner) entries = (.ok (), new) ∧
      Entries.get? owner new = some (.compound inner) ∧
      ∀ tag, new.set owner tag = entries.set owner tag := by
  unfold slots? at h
  unfold ensure
  rw [exec_find_bind]
  cases hget : Entries.get? owner entries with
  | none =>
    rw [hget] at h
    obtain rfl : [] = inner := Option.some.inj h
    exact ⟨_, rfl, Entries.get?_set_self _ _ _, fun tag => Entries.set_set _ _ _ _⟩
  | some tag =>
    rw [hget] at h
    cases tag with
    | null | bool | int | float | text | list => cases h
    | compound slots =>
      obtain rfl : slots = inner := Option.some.inj h
      exact ⟨entries, rfl, hget, fun _ => rfl⟩

/-! ### Lists -/

/-- What is done with a list under a name. -/
def onList (field : Text) (body : List Tag → Edit Unit) : Edit Unit := do
  let some (.list items) ← find field | return
  body items

theorem exec_onList_error {field : Text} {body : List Tag → Edit Unit} {entries new : Entries}
    {fault : Fault} (h : exec (onList field body) entries = (.error fault, new)) :
    ∃ items, Entries.get? field entries = some (.list items) ∧
      exec (body items) entries = (.error fault, new) := by
  unfold onList at h
  rw [exec_find_bind] at h
  split at h
  · rename_i items hitems
    exact ⟨items, hitems, h⟩
  · cases h

end Edit

/-! ## Filled slots -/

/-- How a rule fills slots: the compound that has them, the tags of a list with their slots, what is put
into a slot for a tag, and the slots that are given zero if nothing is in them. -/
structure Filling where
  owner : Text
  pairs : List Tag → List (Text × Tag)
  made : Tag → Outcome (Option Tag)
  padding : List Text
  distinct : ∀ items, ((pairs items).map Prod.fst).Nodup
  mem_items : ∀ items, ∀ pair ∈ pairs items, pair.2 ∈ items

namespace Filling

open Edit

/-- Puts what is made of a tag into its slot. -/
def fill (f : Filling) (pair : Text × Tag) : Edit Unit := do
  if let some new ← f.made pair.2 then putIn f.owner pair.1 new

/-- Fills the slots from a list under a name. -/
def edit (f : Filling) (field : Text) : Edit Unit :=
  onList field fun items => do
    ensure f.owner
    (f.pairs items).forM f.fill
    f.padding.forM fun slot => ensureIn f.owner slot (.float (.ofInt 0))
    erase field

/-- The slots that are filled before a tag without a new form is met. -/
def filled (f : Filling) : List (Text × Tag) → Entries
  | [] => []
  | pair :: rest =>
    match f.made pair.2 with
    | .error _ => []
    | .ok none => f.filled rest
    | .ok (some new) => (pair.1, new) :: f.filled rest

variable (f : Filling)

/-- What is in a filled slot is the new form of the tag for it. -/
theorem exists_of_mem_filled {pairs : List (Text × Tag)} {slot : Text} {new : Tag}
    (h : (slot, new) ∈ f.filled pairs) : ∃ tag, (slot, tag) ∈ pairs ∧ f.made tag = .ok (some new) := by
  induction pairs with
  | nil => cases h
  | cons pair rest ih =>
    have hlater (h : (slot, new) ∈ f.filled rest) :
        ∃ tag, (slot, tag) ∈ pair :: rest ∧ f.made tag = .ok (some new) := by
      obtain ⟨tag, hmem, hmade⟩ := ih h
      exact ⟨tag, List.mem_cons_of_mem _ hmem, hmade⟩
    unfold filled at h
    split at h
    · cases h
    · exact hlater h
    · rename_i tag hmade
      rcases List.mem_cons.1 h with heq | h
      · obtain ⟨rfl, rfl⟩ := Prod.mk.inj heq
        exact ⟨pair.2, List.mem_cons_self, hmade⟩
      · exact hlater h

theorem names_filled_sublist (pairs : List (Text × Tag)) :
    (f.filled pairs).names.Sublist (pairs.map Prod.fst) := by
  induction pairs with
  | nil => exact List.Sublist.refl _
  | cons pair rest ih =>
    unfold filled
    split
    · exact List.nil_sublist _
    · exact ih.cons pair.1
    · exact ih.cons_cons pair.1

/-- Filling slots in turn leaves those before a fault filled. Without a fault it goes through. -/
theorem exists_exec_fill {entries inner : Entries}
    (h : Entries.get? f.owner entries = some (.compound inner)) (pairs : List (Text × Tag)) :
    ∃ result, exec (pairs.forM f.fill) entries =
        (result, entries.set f.owner (.compound (inner.merge (f.filled pairs)))) ∧
      ((∀ pair ∈ pairs, ∃ new, f.made pair.2 = .ok new) → result = .ok ()) := by
  induction pairs generalizing entries inner with
  | nil => exact ⟨.ok (), Prod.ext rfl (Entries.set_of_get? h).symm, fun _ => rfl⟩
  | cons pair rest ih =>
    unfold filled
    cases hmade : f.made pair.2 with
    | error fault =>
      have hfill : exec (f.fill pair) entries = (.error fault, entries) := by
        unfold fill
        rw [hmade]
        rfl
      refine ⟨.error fault, (exec_bind_of_error hfill).trans ?_, fun hall => ?_⟩
      · exact Prod.ext rfl (Entries.set_of_get? h).symm
      · obtain ⟨new, hnew⟩ := hall pair List.mem_cons_self
        rw [hmade] at hnew
        cases hnew
    | ok new? =>
      cases new? with
      | none =>
        have hfill : exec (f.fill pair) entries = (.ok (), entries) := by
          unfold fill
          rw [hmade]
          rfl
        obtain ⟨result, hrest, hok⟩ := ih h
        exact ⟨result, (exec_bind_of_ok hfill).trans hrest, fun hall =>
          hok fun pair hpair => hall pair (List.mem_cons_of_mem _ hpair)⟩
      | some new =>
        have hfill : exec (f.fill pair) entries =
            (.ok (), entries.set f.owner (.compound (inner.set pair.1 new))) := by
          unfold fill
          rw [hmade]
          exact exec_putIn h pair.1 new
        obtain ⟨result, hrest, hok⟩ := ih (Entries.get?_set_self f.owner _ entries)
        rw [Entries.set_set] at hrest
        exact ⟨result, (exec_bind_of_ok hfill).trans hrest, fun hall =>
          hok fun pair hpair => hall pair (List.mem_cons_of_mem _ hpair)⟩

theorem still_fill {entries : Entries} (h : slots? f.owner entries = none) (pair : Text × Tag) :
    Still entries (f.fill pair) := by
  refine (still_lift _).bind fun new => ?_
  split
  · exact still_putIn h pair.1 _
  · exact still_pure ()

/-- A rule that fills slots and ends early leaves those filled that it came to, beside the list. If there
is no place for slots, nothing is changed. -/
theorem exec_edit_error {field : Text} {entries new : Entries} {fault : Fault}
    (h : exec (f.edit field) entries = (.error fault, new)) :
    ∃ items, Entries.get? field entries = some (.list items) ∧
      (slots? f.owner entries = none → new = entries) ∧
      ∀ inner, slots? f.owner entries = some inner →
        new = entries.set f.owner (.compound (inner.merge (f.filled (f.pairs items)))) := by
  obtain ⟨items, hitems, h⟩ := exec_onList_error h
  refine ⟨items, hitems, fun hslots => ?_, fun inner hslots => ?_⟩
  · rw [exec_bind_of_ok (exec_ensure_of_none hslots)] at h
    have hstill : Still entries (((f.pairs items).forM f.fill) >>= fun _ =>
        f.padding.forM fun slot => ensureIn f.owner slot (.float (.ofInt 0))) :=
      (still_forM fun pair => f.still_fill hslots pair).bind fun _ =>
        still_forM fun slot => still_ensureIn hslots slot _
    rw [← bind_assoc] at h
    exact hstill.eq_of_error (fun _ between => ⟨(), between.erase field, rfl⟩) h
  · obtain ⟨between, hensure, hinner, hset⟩ := exists_exec_ensure hslots
    rw [exec_bind_of_ok hensure] at h
    obtain ⟨result, hfill, -⟩ := f.exists_exec_fill hinner (f.pairs items)
    rw [hset] at hfill
    cases result with
    | error other =>
      rw [exec_bind_of_error hfill] at h
      exact (Prod.mk.inj h).2.symm
    | ok done =>
      -- Once all slots are filled, no step can end early.
      rw [exec_bind_of_ok hfill] at h
      rw [exec_bind_of_ok (exec_ensureIn_all (Entries.get?_set_self f.owner _ entries) f.padding _)] at h
      cases h

/-- A rule that fills slots and goes through: the free slots of its padding hold zero, and the list is
gone. -/
theorem exec_edit_of_made {field : Text} {entries inner : Entries} {items : List Tag}
    (hitems : Entries.get? field entries = some (.list items))
    (hinner : slots? f.owner entries = some inner)
    (hmade : ∀ pair ∈ f.pairs items, ∃ new, f.made pair.2 = .ok new) :
    exec (f.edit field) entries =
      (.ok (), Entries.erase field (entries.set f.owner (.compound
        ((inner.merge (f.filled (f.pairs items))).pad f.padding (.float (.ofInt 0)))))) := by
  obtain ⟨between, hensure, hslots, hset⟩ := exists_exec_ensure hinner
  obtain ⟨result, hfill, hok⟩ := f.exists_exec_fill hslots (f.pairs items)
  rw [hset, hok hmade] at hfill
  have hpad := exec_ensureIn_all (Entries.get?_set_self f.owner
    (.compound (inner.merge (f.filled (f.pairs items)))) entries) f.padding (.float (.ofInt 0))
  rw [Entries.set_set] at hpad
  unfold edit onList
  rw [exec_find_bind, hitems]
  dsimp only
  rw [exec_bind_of_ok hensure, exec_bind_of_ok hfill, exec_bind_of_ok hpad]
  rfl

end Filling

namespace Rule

/-- The new form of an item that is not empty. -/
def newItem (item : Tag) : Outcome (Option Tag) :=
  if item.isFilled then (Item.upgradeTag item).map (Option.map Tag.compound) else .ok none

/-- Held items with their slots. A second item alone goes into the main hand. -/
def handPairs (items : List Tag) : List (Text × Tag) :=
  match items with
  | first :: .compound (entry :: entries) :: _ =>
    if first.isFilled then handSlots.zip items
    else [("mainhand".toList, .compound (entry :: entries))]
  | _ => handSlots.zip items

theorem nodup_map_fst_zip {slots : List Text} (h : slots.Nodup) (items : List Tag) :
    ((slots.zip items).map Prod.fst).Nodup := by
  have hsub : ((slots.zip items).map Prod.fst).Sublist slots := by
    induction slots generalizing items with
    | nil => exact List.Sublist.refl _
    | cons slot rest ih =>
      cases items with
      | nil => exact List.nil_sublist _
      | cons item items => exact (ih (List.nodup_cons.1 h).2 items).cons_cons slot
  exact h.sublist hsub

theorem handPairs_cases (items : List Tag) :
    handPairs items = handSlots.zip items ∨
      ∃ first second rest, items = first :: second :: rest ∧
        handPairs items = [("mainhand".toList, second)] := by
  unfold handPairs
  split
  · split
    · exact .inl rfl
    · exact .inr ⟨_, _, _, rfl, rfl⟩
  · exact .inl rfl

def armorFilling : Filling where
  owner := "equipment"
  pairs := armorSlots.zip
  made := newItem
  padding := []
  distinct := nodup_map_fst_zip (by decide)
  mem_items _ _ h := (List.of_mem_zip h).2

def handFilling : Filling where
  owner := "equipment"
  pairs := handPairs
  made := newItem
  padding := []
  distinct items := by
    rcases handPairs_cases items with h | ⟨first, second, rest, -, h⟩
    · rw [h]
      exact nodup_map_fst_zip (by decide) items
    · rw [h]
      exact List.nodup_singleton _
  mem_items items pair hpair := by
    rcases handPairs_cases items with h | ⟨first, second, rest, rfl, h⟩
    · rw [h] at hpair
      exact (List.of_mem_zip hpair).2
    · rw [h] at hpair
      rw [List.mem_singleton.1 hpair]
      exact List.mem_cons_of_mem _ List.mem_cons_self

def chanceFilling (slots : List Text) (h : slots.Nodup) : Filling where
  owner := "drop_chances"
  pairs := slots.zip
  made tag := (chance tag).map some
  padding := slots ++ armorSlots ++ handSlots
  distinct := nodup_map_fst_zip h
  mem_items _ _ hpair := (List.of_mem_zip hpair).2

/-- The slots that a rule fills. -/
def filling? : Rule → Option Filling
  | armorItems => some armorFilling
  | handItems => some handFilling
  | armorChances => some (chanceFilling armorSlots (by decide))
  | handChances => some (chanceFilling handSlots (by decide))
  | customName | inventory | selectedItem => none

theorem equip_eq {f : Filling} (howner : f.owner = "equipment".toList) (hmade : f.made = newItem)
    (pair : Text × Tag) : equip pair.1 pair.2 = f.fill pair := by
  unfold equip Filling.fill
  rw [hmade, howner]
  unfold newItem
  by_cases hfilled : pair.2.isFilled = true
  · rw [if_pos hfilled, if_pos hfilled]
    cases Item.upgradeTag pair.2 with
    | error fault => rfl
    | ok new => cases new <;> rfl
  · rw [if_neg hfilled, if_neg hfilled]
    rfl

theorem editArmor_eq : editArmor = armorFilling.edit "ArmorItems" := by
  refine congrArg (Edit.onList "ArmorItems") (funext fun items => bind_congr fun _ => ?_)
  have hfill : (fun pair : Text × Tag => equip pair.1 pair.2) = armorFilling.fill :=
    funext (equip_eq rfl rfl)
  exact congrArg (fun fill => (armorSlots.zip items).forM fill >>= fun _ => Edit.erase "ArmorItems") hfill

theorem editHands_eq : editHands = handFilling.edit "HandItems" := by
  refine congrArg (Edit.onList "HandItems") (funext fun items => bind_congr fun _ => ?_)
  have hfill : (fun pair : Text × Tag => equip pair.1 pair.2) = handFilling.fill :=
    funext (equip_eq rfl rfl)
  refine Eq.trans ?_
    (congrArg (fun fill => (handPairs items).forM fill >>= fun _ => Edit.erase "HandItems") hfill)
  rcases items with _ | ⟨first, _ | ⟨second, rest⟩⟩
  · rfl
  · rfl
  cases second with
  | null | bool | int | float | text | list => rfl
  | compound entries =>
    cases entries with
    | nil => rfl
    | cons entry entries =>
      unfold handPairs
      dsimp only
      split
      · rfl
      · exact congrArg (· >>= fun _ => Edit.erase "HandItems") bind_pure_unit.symm

theorem editChances_eq (field : Text) {slots : List Text} (h : slots.Nodup) :
    editChances field slots = (chanceFilling slots h).edit field := by
  refine congrArg (Edit.onList field) (funext fun items => bind_congr fun _ => ?_)
  have hfill (pair : Text × Tag) : (do Edit.putIn "drop_chances" pair.1 (← chance pair.2)) =
      (chanceFilling slots h).fill pair := by
    have hmade : (chanceFilling slots h).made pair.2 = (chance pair.2).map some := rfl
    unfold Filling.fill
    rw [hmade]
    cases chance pair.2 <;> rfl
  exact congrArg (fun fill => (slots.zip items).forM fill >>= fun _ =>
    (slots ++ armorSlots ++ handSlots).forM (fun slot =>
      Edit.ensureIn "drop_chances" slot (.float (.ofInt 0))) >>= fun _ => Edit.erase field) (funext hfill)

/-- A rule with slots does what its filling says. -/
theorem edit_eq {rule : Rule} {f : Filling} (h : rule.filling? = some f) :
    rule.edit = f.edit rule.field := by
  cases rule with
  | armorItems =>
    obtain rfl := Option.some.inj h
    exact editArmor_eq
  | handItems =>
    obtain rfl := Option.some.inj h
    exact editHands_eq
  | armorChances | handChances =>
    obtain rfl := Option.some.inj h
    exact editChances_eq _ _
  | customName | inventory | selectedItem => cases h

end Rule

end CommandUpgrade
