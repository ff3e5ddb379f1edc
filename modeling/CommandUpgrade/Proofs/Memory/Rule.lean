import CommandUpgrade.Proofs.Entity.Filling
import CommandUpgrade.Proofs.Memory.Carried

/-!
# Rules in memory

A rule in memory follows the edit of its entries (`Follows`): both end alike, and the entity stands with the
entries of the edit, also where a fault ended it. What is written belongs to the entity: its own compound, and
the equipment and the drop chances that the rules made for it.
-/

namespace CommandUpgrade.Heap

open Text Style Memory Outcome

/-- The compounds that the rules fill slot by slot. -/
def ownNames : List Text := ["equipment".toList, "drop_chances".toList]

/-- The program and the edit end alike and leave the same entries. They change what belongs to the entity,
and put no compound of slots there or away. -/
structure Follows (openAt : List Address) (root : Address) (owned : Owned) (memory : Memory)
    (entries : Entries) (program : Heap Unit) (edit : Edit Unit) : Prop where
  keeps : memory.Keeps (root :: owned.map Prod.snd) (exec program memory).2
  same : (exec program memory).1 = (Edit.exec edit entries).1
  stands : Stands openAt (exec program memory).2 root owned (Edit.exec edit entries).2
  names : ∀ name ∈ ownNames, Entries.has name (Edit.exec edit entries).2 = Entries.has name entries

variable {α β : Type} {openAt : List Address} {root address : Address} {owned : Owned} {memory : Memory}
  {entries : Entries} {value : Value} {tag : Tag}

namespace Follows

variable {program : Heap Unit} {edit : Edit Unit}

theorem nothing (h : Stands openAt memory root owned entries) :
    Follows openAt root owned memory entries (pure ()) (pure ()) :=
  ⟨Keeps.refl _ _, rfl, h, fun _ _ => rfl⟩

theorem bind {next : Unit → Heap Unit} {next' : Unit → Edit Unit}
    (h : Follows openAt root owned memory entries program edit)
    (hnext : ∀ memory' entries', memory.Keeps (root :: owned.map Prod.snd) memory' →
      Stands openAt memory' root owned entries' →
      Follows openAt root owned memory' entries' (next ()) (next' ())) :
    Follows openAt root owned memory entries (program >>= next) (edit >>= next') := by
  obtain ⟨hkeeps, hsame, hstands, hnames⟩ := h
  cases hexec : exec program memory with
  | mk result memory' =>
    cases hedit : Edit.exec edit entries with
    | mk result' entries' =>
      rw [hexec, hedit] at hsame hstands
      rw [hexec] at hkeeps
      rw [hedit] at hnames
      obtain rfl : result = result' := hsame
      cases result with
      | error fault =>
        have hrun := exec_bind_of_error hexec next
        have hrun' : Edit.exec (edit >>= next') entries = (.error fault, entries') :=
          Edit.exec_bind_of_error hedit
        exact ⟨hrun ▸ hkeeps, hrun ▸ hrun' ▸ rfl, hrun ▸ hrun' ▸ hstands, hrun' ▸ hnames⟩
      | ok =>
        have hrun := exec_bind_of_ok hexec next
        have hrun' : Edit.exec (edit >>= next') entries = Edit.exec (next' ()) entries' :=
          Edit.exec_bind_of_ok hedit
        have hlast := hnext memory' entries' hkeeps hstands
        exact ⟨hrun ▸ hkeeps.trans hlast.keeps, hrun ▸ hrun' ▸ hlast.same, hrun ▸ hrun' ▸ hlast.stands,
          fun name hname => hrun' ▸ (hlast.names name hname).trans (hnames name hname)⟩

/-- A step of the program that changes nothing. -/
theorem reads {step : Heap α} {a : α} {next : α → Heap Unit} (h : exec step memory = (.ok a, memory))
    (hnext : Follows openAt root owned memory entries (next a) edit) :
    Follows openAt root owned memory entries (step >>= next) edit := by
  have hrun := exec_bind_of_ok h next
  exact ⟨hrun ▸ hnext.keeps, hrun ▸ hnext.same, hrun ▸ hnext.stands, hnext.names⟩

/-- A step of the edit that looks for an entry. -/
theorem finds {name : Text} {next : Option Tag → Edit Unit}
    (h : Follows openAt root owned memory entries program (next (Entries.get? name entries))) :
    Follows openAt root owned memory entries program (Edit.find name >>= next) :=
  ⟨h.keeps, h.same, h.stands, h.names⟩

/-- A step that makes new objects, for a step of the edit that only gives a result. -/
theorem lift {step : Heap α} {step' : Edit β} {outcome : Outcome β} {R : Memory → α → β → Prop}
    {next : α → Heap Unit} {next' : β → Edit Unit} (hstands : Stands openAt memory root owned entries)
    (h : Runs [] memory step outcome R) (hstep : Edit.exec step' entries = (outcome, entries))
    (hnext : ∀ memory' a b, memory.Keeps [] memory' → R memory' a b →
      Stands openAt memory' root owned entries →
      Follows openAt root owned memory' entries (next a) (next' b)) :
    Follows openAt root owned memory entries (step >>= next) (step' >>= next') := by
  obtain ⟨hkeeps, halike⟩ := h
  cases hexec : exec step memory with
  | mk result memory' =>
    rw [hexec] at hkeeps halike
    have hstands' := hstands.keeps hkeeps (List.nil_subset _) fun _ _ => List.not_mem_nil
    have hkeeps' := hkeeps.mono (List.nil_subset (root :: owned.map Prod.snd))
    cases halike with
    | error fault =>
      have hrun := exec_bind_of_error hexec next
      have hrun' : Edit.exec (step' >>= next') entries = (.error fault, entries) :=
        Edit.exec_bind_of_error hstep
      exact ⟨hrun ▸ hkeeps', hrun ▸ hrun' ▸ rfl, hrun ▸ hrun' ▸ hstands', fun _ _ => hrun' ▸ rfl⟩
    | @ok a b hR =>
      have hrun := exec_bind_of_ok hexec next
      have hrun' : Edit.exec (step' >>= next') entries = Edit.exec (next' b) entries :=
        Edit.exec_bind_of_ok hstep
      have hlast := hnext memory' a b hkeeps hR hstands'
      exact ⟨hrun ▸ hkeeps'.trans hlast.keeps, hrun ▸ hrun' ▸ hlast.same, hrun ▸ hrun' ▸ hlast.stands,
        fun name hname => hrun' ▸ hlast.names name hname⟩

/-- A step that makes new objects and has no counterpart in the edit. -/
theorem makes {step : Heap α} {R : Memory → α → Prop} {next : α → Heap Unit}
    (hstands : Stands openAt memory root owned entries) (h : Makes memory step R)
    (hnext : ∀ memory' a, memory.Keeps [] memory' → R memory' a →
      Stands openAt memory' root owned entries →
      Follows openAt root owned memory' entries (next a) edit) :
    Follows openAt root owned memory entries (step >>= next) edit := by
  obtain ⟨a, memory', hexec, hkeeps, hR⟩ := h
  have hrun := exec_bind_of_ok hexec next
  have hlast := hnext memory' a hkeeps hR
    (hstands.keeps hkeeps (List.nil_subset _) fun _ _ => List.not_mem_nil)
  exact ⟨hrun ▸ (hkeeps.mono (List.nil_subset _)).trans hlast.keeps, hrun ▸ hlast.same,
    hrun ▸ hlast.stands, hlast.names⟩

/-- The same outcome in the program and in the edit. -/
theorem both {outcome : Outcome β} {next : β → Heap Unit} {next' : β → Edit Unit}
    (hstands : Stands openAt memory root owned entries)
    (hnext : ∀ b, Follows openAt root owned memory entries (next b) (next' b)) :
    Follows openAt root owned memory entries ((liftM outcome : Heap β) >>= next)
      ((liftM outcome : Edit β) >>= next') := by
  have hruns : Runs [] memory (liftM outcome : Heap β) outcome fun memory' a b => memory' = memory ∧ a = b := by
    refine ⟨?_, ?_⟩
    · rw [exec_lift]
      exact Keeps.refl _ _
    · rw [exec_lift]
      cases outcome with
      | error fault => exact .error fault
      | ok b => exact .ok ⟨rfl, rfl⟩
  refine lift hstands hruns (Edit.exec_lift outcome entries) fun memory' a b _ hsame _ => ?_
  obtain ⟨rfl, rfl⟩ := hsame
  exact hnext a

/-- One program for each item. -/
theorem forM {P : Memory → α → β → Prop} {step : α → Heap Unit} {step' : β → Edit Unit}
    (hP : ∀ memory memory' a b, memory.Keeps (root :: owned.map Prod.snd) memory' → P memory a b →
      P memory' a b)
    (hstep : ∀ memory' entries' a b, memory.Keeps (root :: owned.map Prod.snd) memory' → P memory' a b →
      Stands openAt memory' root owned entries' →
      Follows openAt root owned memory' entries' (step a) (step' b))
    {items : List α} {others : List β} (h : List.Forall₂ (P memory) items others)
    (hstands : Stands openAt memory root owned entries) :
    Follows openAt root owned memory entries (items.forM step) (others.forM step') := by
  induction items generalizing memory entries others with
  | nil =>
    cases h
    exact nothing hstands
  | cons a items ih =>
    obtain ⟨b, others, hfirst, hrest, rfl⟩ := List.forall₂_cons_left_iff.1 h
    refine bind (hstep memory entries a b (Keeps.refl _ _) hfirst hstands)
      fun memory' entries' hkeeps hstands' => ?_
    exact ih (fun memory'' entries'' a b hkeeps' => hstep memory'' entries'' a b (hkeeps.trans hkeeps'))
      (hrest.imp fun a b => hP memory memory' a b hkeeps) hstands'

end Follows

/-! ## Slots -/

theorem Entries.has_set_of_has {name other : Text} (h : (Entries.get? other entries).isSome) :
    Entries.has name (entries.set other tag) = Entries.has name entries := by
  unfold Entries.has
  by_cases hname : name = other
  · subst hname
    rw [Entries.get?_set_self, h]
    rfl
  · rw [Entries.get?_set_of_ne hname]

theorem follows_putIn (h : Stands openAt memory root owned entries) {owner : Text}
    (howner : owned.lookup owner = some address) (hvalue : Shows openAt memory value tag) (name : Text) :
    Follows openAt root owned memory entries (putIn root owner name value) (Edit.putIn owner name tag) := by
  unfold putIn Edit.putIn
  rcases h.exec_findCompound howner with ⟨hnone, hexec⟩ | ⟨inner, hsome, hinner, hexec⟩
  · refine Follows.reads hexec (Follows.finds ?_)
    rw [hnone]
    exact ⟨Keeps.refl _ _, rfl, h, fun _ _ => rfl⟩
  · refine Follows.reads hexec (Follows.finds ?_)
    rw [hsome]
    have hmem : address ∈ root :: owned.map Prod.snd :=
      List.mem_cons_of_mem _ (List.mem_map_of_mem (mem_of_lookup howner))
    have hkeeps := keeps_modify memory address (Object.mapFields (Fields.set name value))
    have hstands := h.change howner hsome hkeeps (hinner.put (h.opened hmem) hvalue name)
    exact ⟨hkeeps.mono (List.cons_subset.2 ⟨hmem, List.nil_subset _⟩), rfl, hstands,
      fun other _ => Entries.has_set_of_has (by rw [hsome]; rfl)⟩

theorem follows_ensureIn (h : Stands openAt memory root owned entries) {owner : Text}
    (howner : owned.lookup owner = some address) (hvalue : Shows openAt memory value tag) (name : Text) :
    Follows openAt root owned memory entries (ensureIn root owner name value)
      (Edit.ensureIn owner name tag) := by
  unfold ensureIn Edit.ensureIn
  obtain ⟨found, hexec, hfound⟩ := h.exec_find owner
  refine Follows.reads hexec (Follows.finds ?_)
  cases hget : Entries.get? owner entries with
  | none =>
    rw [hget] at hfound
    cases hfound
    exact ⟨Keeps.refl _ _, rfl, h, fun _ _ => rfl⟩
  | some inner =>
    rw [hget] at hfound
    cases hfound with
    | some hpart =>
      obtain ⟨rfl, inner, rfl, hinner⟩ := (showsPart_of_some howner).1 hpart
      -- The compound is open, but it can be read.
      have hview : Shows [] memory (.ref address) (.compound inner) :=
        shows_compound_iff.2 ⟨List.not_mem_nil, hinner.reopen fun _ ha => absurd ha List.not_mem_nil⟩
      refine Follows.reads (exec_view hview) (Follows.both h fun mentioned => ?_)
      cases mentioned with
      | true => exact Follows.nothing h
      | false => exact follows_putIn h howner hvalue name

/-- One step for each slot of a list of slots. -/
theorem follows_padding (h : Stands openAt memory root owned entries) {owner : Text}
    (howner : owned.lookup owner = some address) (slots : List Text) (x : Binary64) :
    Follows openAt root owned memory entries (slots.forM fun slot => ensureIn root owner slot (.float x))
      (slots.forM fun slot => Edit.ensureIn owner slot (.float x)) :=
  Follows.forM (P := fun _ a b => a = b) (fun _ _ _ _ _ heq => heq)
    (fun _ _ slot _ _ heq h => heq ▸ follows_ensureIn h howner ⟨0, rfl⟩ slot) (List.forall₂_refl slots) h

theorem follows_erase (h : Stands openAt memory root owned entries) {name : Text} (hname : name ∉ ownNames) :
    Follows openAt root owned memory entries (erase root name) (Edit.erase name) := by
  refine ⟨(keeps_modify _ _ _).mono ?_, rfl, h.erase name, fun other hother => ?_⟩
  · exact List.cons_subset.2 ⟨List.mem_cons_self, List.nil_subset _⟩
  · have hne : other ≠ name := ne_of_mem_of_not_mem hother hname
    exact congrArg Option.isSome (Entries.get?_erase_of_ne hne entries)

/-! ## What is put into slots -/

/-- The values of slots show their tags. -/
def ShowsSlot (openAt : List Address) (memory : Memory) (a : Text × Value) (b : Text × Tag) : Prop :=
  a.1 = b.1 ∧ Shows openAt memory a.2 b.2

/-- The programs give the slots of a filling and what is put into them. -/
structure Fills (f : Filling) (pairs : List Value → Heap (List (Text × Value)))
    (made : Value → Heap (Option Value)) : Prop where
  pairs : ∀ (openAt : List Address) (memory : Memory) (values : List Value) (tags : List Tag),
    List.Forall₂ (Shows openAt memory) values tags → ∃ found, exec (pairs values) memory =
      (.ok found, memory) ∧ List.Forall₂ (ShowsSlot openAt memory) found (f.pairs tags)
  made : ∀ (openAt : List Address) (memory : Memory) (value : Value) (tag : Tag),
    Below openAt memory → Shows openAt memory value tag →
      Runs [] memory (made value) (f.made tag) fun memory' => Option.Rel (Shows openAt memory')

theorem forall₂_zip (slots : List Text) {values : List Value} {tags : List Tag}
    (h : List.Forall₂ (Shows openAt memory) values tags) :
    List.Forall₂ (ShowsSlot openAt memory) (slots.zip values) (slots.zip tags) := by
  induction slots generalizing values tags with
  | nil => exact .nil
  | cons slot slots ih =>
    cases h with
    | nil => exact .nil
    | cons hfirst hrest => exact .cons ⟨rfl, hfirst⟩ (ih hrest)

theorem runs_newItem (hbelow : Below openAt memory) (hvalue : Shows openAt memory value tag) :
    Runs [] memory (newItem value) (Rule.newItem tag) fun memory' => Option.Rel (Shows openAt memory') := by
  unfold newItem Rule.newItem
  refine Runs.reads (exec_view hvalue) ?_
  cases tag.isFilled with
  | false => exact Runs.pure .none
  | true =>
    obtain ⟨found, hexec, hfound⟩ := exec_compound? hvalue
    refine Runs.reads hexec ?_
    cases tag with
    | compound item =>
      change Option.Rel _ found (some item) at hfound
      cases hfound with
      | some hcompound =>
        have hmap : (Item.upgrade item).map (Option.map Tag.compound) =
            Item.upgrade item >>= fun made? => .ok (made?.map Tag.compound) := by
          cases Item.upgrade item <;> rfl
        rw [if_pos rfl, Item.upgradeTag, hmap]
        refine (runs_upgrade hbelow hcompound).bind (List.nil_subset _)
          fun memory' new? made? _ _ hnew => Runs.pure ?_
        cases hnew with
        | none => exact .none
        | some hnew =>
          obtain ⟨components, hfresh, hstands⟩ := hnew
          exact .some (Making.shows hstands hbelow hfresh)
    | _ =>
      cases hfound
      exact Runs.pure .none

theorem exec_isSecondAlone {first second : Value} {firstTag secondTag : Tag}
    (hfirst : Shows openAt memory first firstTag) (hsecond : Shows openAt memory second secondTag) :
    exec (isSecondAlone first second) memory =
      (.ok (!firstTag.isFilled && secondTag.isFilled && secondTag.entries?.isSome), memory) := by
  unfold isSecondAlone
  rw [exec_bind_of_ok (exec_view hfirst)]
  cases firstTag.isFilled with
  | true => rfl
  | false =>
    refine (exec_bind_of_ok (exec_view hsecond) _).trans ?_
    cases secondTag.isFilled with
    | false => rfl
    | true =>
      obtain ⟨found, hexec, hfound⟩ := exec_compound? hsecond
      refine (exec_bind_of_ok hexec _).trans ?_
      generalize secondTag.entries? = entries? at hfound ⊢
      cases hfound <;> rfl

theorem exec_handPairs {values : List Value} {tags : List Tag}
    (h : List.Forall₂ (Shows openAt memory) values tags) :
    ∃ found, exec (handPairs values) memory = (.ok found, memory) ∧
      List.Forall₂ (ShowsSlot openAt memory) found (Rule.handPairs tags) := by
  have hall := forall₂_zip Rule.handSlots h
  cases h with
  | nil => exact ⟨_, rfl, hall⟩
  | @cons first firstTag values tags hfirst hrest =>
    cases hrest with
    | nil => exact ⟨_, rfl, hall⟩
    | @cons second secondTag values tags hsecond hrest =>
      have halone := exec_isSecondAlone hfirst hsecond
      unfold handPairs Rule.handPairs
      dsimp only
      rw [exec_bind_of_ok halone]
      cases secondTag with
      | compound inner =>
        cases inner with
        | nil =>
          cases firstTag.isFilled <;> exact ⟨_, rfl, hall⟩
        | cons entry inner =>
          dsimp only
          cases firstTag.isFilled with
          | true => exact ⟨_, rfl, hall⟩
          | false => exact ⟨_, rfl, .cons ⟨rfl, hsecond⟩ .nil⟩
      | _ =>
        rw [show Tag.entries? _ = none from rfl, Option.isSome_none, Bool.and_false]
        exact ⟨_, rfl, hall⟩

theorem runs_newChance (hbelow : Below openAt memory) (hvalue : Shows openAt memory value tag) :
    Runs [] memory (newChance value) ((Rule.chance tag).map some)
      fun memory' => Option.Rel (Shows openAt memory') := by
  have hmap : (Rule.chance tag).map some = Rule.chance tag >>= fun new => .ok (some new) := by
    cases Rule.chance tag <;> rfl
  unfold newChance
  rw [hmap]
  refine Runs.reads (exec_view hvalue) (Runs.lift fun new _ => ?_)
  exact (makes_store new hbelow).runs fun memory' stored _ hstored => Runs.pure (.some hstored)

theorem fills_armor : Fills Rule.armorFilling (fun items => pure (Rule.armorSlots.zip items)) newItem :=
  ⟨fun _ _ _ _ h => ⟨_, rfl, forall₂_zip _ h⟩, fun _ _ _ _ => runs_newItem⟩

theorem fills_hands : Fills Rule.handFilling handPairs newItem :=
  ⟨fun _ _ _ _ => exec_handPairs, fun _ _ _ _ => runs_newItem⟩

theorem fills_chances {slots : List Text} (h : slots.Nodup) :
    Fills (Rule.chanceFilling slots h) (fun items => pure (slots.zip items)) newChance :=
  ⟨fun _ _ _ _ h => ⟨_, rfl, forall₂_zip _ h⟩, fun _ _ _ _ => runs_newChance⟩

/-- Once there is a place for slots, they are filled in memory as in the entries. -/
theorem follows_fill {f : Filling} {pairs : List Value → Heap (List (Text × Value))}
    {made : Value → Heap (Option Value)} (hf : Fills f pairs made) (hbelow : Below openAt memory)
    (h : Stands openAt memory root owned entries) (howner : owned.lookup f.owner = some address)
    {field : Text} (hfield : field ∉ ownNames) {values : List Value} {tags : List Tag}
    (hvalues : List.Forall₂ (Shows openAt memory) values tags) :
    Follows openAt root owned memory entries (do
      (← pairs values).forM fun (slot, item) => do
        if let some new ← made item then putIn root f.owner slot new
      f.padding.forM fun slot => ensureIn root f.owner slot (.float (.ofInt 0))
      erase root field) (do
      (f.pairs tags).forM f.fill
      f.padding.forM fun slot => Edit.ensureIn f.owner slot (.float (.ofInt 0))
      Edit.erase field) := by
  obtain ⟨found, hexec, hfound⟩ := hf.pairs openAt memory values tags hvalues
  refine Follows.reads hexec (Follows.bind (Follows.forM (P := ShowsSlot openAt) ?_ ?_ hfound h)
    fun memory₁ entries₁ _ h₁ => Follows.bind (follows_padding h₁ howner _ _)
      fun memory₂ entries₂ _ h₂ => follows_erase h₂ hfield)
  · exact fun _ _ _ _ hkeeps hslot => ⟨hslot.1, hslot.2.keeps hkeeps h.opened⟩
  · rintro memory₁ entries₁ ⟨slot, value⟩ ⟨slot', tag⟩ hkeeps ⟨hslot, hvalue⟩ h₁
    obtain rfl : slot = slot' := hslot
    refine Follows.lift h₁ (hf.made openAt memory₁ value tag (hbelow.keeps hkeeps) hvalue)
      (Edit.exec_lift _ _) fun memory₂ new? made? _ hnew h₂ => ?_
    cases hnew with
    | none => exact Follows.nothing h₂
    | some hnew => exact follows_putIn h₂ howner hnew slot

end CommandUpgrade.Heap
