import CommandUpgrade.Item.Components
import CommandUpgrade.Proofs.Tag.Printable

/-!
# The new form of a printable item is printable

Every number of a new item is one of the old item, or read from it; all other tags that the
conversion makes are texts and truth values. A conversion may stop, so all results are about what it
gives if it gives anything.
-/

namespace CommandUpgrade

/-! ## What a computation gives -/

/-- What a computation gives, if it gives anything, has a property. -/
def Outcome.Gives {α : Type} (x : Outcome α) (Q : α → Prop) : Prop := ∀ a, x = .ok a → Q a

namespace Outcome

variable {α β : Type} {P : α → Prop} {Q : β → Prop}

theorem gives_any (x : Outcome α) : Gives x fun _ => True := fun _ _ => trivial

theorem gives_pure {b : β} (h : Q b) : Gives (pure b) Q := by
  intro a ha
  cases ha
  exact h

theorem gives_bind {x : Outcome α} {f : α → Outcome β} (hx : Gives x P)
    (hf : ∀ a, P a → Gives (f a) Q) : Gives (x >>= f) Q := by
  intro b hb
  cases x with
  | error fault => cases hb
  | ok a => exact hf a (hx a rfl) b hb

theorem gives_map {x : Outcome α} {f : α → β} (hx : Gives x P) (hf : ∀ a, P a → Q (f a)) :
    Gives (x.map f) Q := by
  intro b hb
  cases x with
  | error fault => cases hb
  | ok a =>
    cases hb
    exact hf a (hx a rfl)

theorem gives_mapM {f : α → Outcome β} {items : List α} (h : ∀ a ∈ items, Gives (f a) Q) :
    Gives (items.mapM f) fun new => ∀ b ∈ new, Q b := by
  induction items with
  | nil => exact gives_pure (by simp)
  | cons a rest ih =>
    obtain ⟨hfirst, hrest⟩ := List.forall_mem_cons.1 h
    rw [List.mapM_cons]
    refine gives_bind hfirst fun b hb => ?_
    refine gives_bind (ih hrest) fun new hnew => ?_
    exact gives_pure (List.forall_mem_cons.2 ⟨hb, hnew⟩)

theorem gives_mapM_option {f : α → Outcome β} {item : Option α} (h : ∀ a ∈ item, Gives (f a) Q) :
    Gives (item.mapM f) fun new => ∀ b ∈ new.toList, Q b := by
  cases item with
  | none => exact gives_pure (by simp)
  | some a =>
    refine gives_bind (h a rfl) fun b hb => ?_
    exact gives_pure (by simpa using hb)

end Outcome

open Text Outcome

/-! ## Components of styled texts -/

namespace Style

theorem isPrintable_words (s : Text) : (words s).2.IsPrintable := .text s

theorem isPrintable_upright : upright.2.IsPrintable := .bool false

theorem arePrintable_plainComponent (s : Text) : (plainComponent s).ArePrintable :=
  (Entries.arePrintable_singleton isPrintable_upright).cons (isPrintable_words s)

theorem arePrintable_settled {component : Entries} (h : component.ArePrintable) :
    (settled component).ArePrintable := by
  unfold settled
  split
  · exact h
  · exact h.append (Entries.arePrintable_singleton isPrintable_upright)

theorem arePrintable_reordered {component : Entries} (h : component.ArePrintable) :
    (reordered component).ArePrintable := by
  refine Entries.ArePrintable.append ?_ (h.filter _)
  intro entry hentry
  obtain ⟨name, -, hname⟩ := List.mem_filterMap.1 hentry
  obtain ⟨tag, htag, rfl⟩ := Option.map_eq_some_iff.1 hname
  exact h.get? htag

namespace Machine

/-- What a machine holds can be printed. -/
structure State.IsPrintable (state : State) : Prop where
  done : ∀ component ∈ state.done, component.ArePrintable
  format : state.format.ArePrintable

variable {m : Machine}

theorem arePrintable_apply (hbase : m.base.ArePrintable) {format : Entries}
    (h : format.ArePrintable) (code : Char) : (m.apply format code).ArePrintable := by
  unfold apply
  split
  · exact hbase.cons (.text _)
  split
  · exact hbase
  split
  · split
    · exact h.set (.bool true) _
    · exact h
  · exact h

theorem arePrintable_component (m : Machine) {format : Entries} (h : format.ArePrintable)
    (s : Text) : (m.component format s).ArePrintable := by
  unfold component
  split
  · exact h.cons (isPrintable_words s)
  · exact h.append (Entries.arePrintable_singleton (isPrintable_words s))

theorem isPrintable_flush (m : Machine) {state : State} (h : state.IsPrintable) :
    (m.flush state).IsPrintable := by
  unfold flush
  split
  · exact h
  refine ⟨List.forall_mem_append.2 ⟨h.done, ?_⟩, ?_⟩
  · exact List.forall_mem_singleton.2 (arePrintable_component m h.format _)
  · dsimp only
    split
    · exact Entries.arePrintable_nil
    · exact h.format

theorem isPrintable_step (hbase : m.base.ArePrintable) {state : State} (h : state.IsPrintable)
    (mark : Mark) : (m.step state mark).IsPrintable := by
  cases mark with
  | code c =>
    have hflushed := isPrintable_flush m h
    exact ⟨hflushed.done, arePrintable_apply hbase hflushed.format c⟩
  | words s => exact ⟨h.done, h.format⟩

theorem isPrintable_run (hstart : m.start.ArePrintable) (hbase : m.base.ArePrintable)
    (marks : List Mark) : (m.run marks).IsPrintable := by
  have hinitial : State.IsPrintable ⟨[], [], m.start⟩ := ⟨by simp, hstart⟩
  unfold run
  generalize State.mk [] [] m.start = state at hinitial ⊢
  induction marks generalizing state with
  | nil => exact hinitial
  | cons mark rest ih => exact ih _ (isPrintable_step hbase hinitial mark)

/-- The components at the end of a text, with formatting that no text followed. -/
theorem arePrintable_components (m : Machine) {state : State} (h : state.IsPrintable) :
    ∀ component ∈
      if state.pending.isEmpty then
        if state.done.isEmpty || state.format.isEmpty then state.done
        else state.done ++ [state.format ++ [words []]]
      else (m.flush state).done, component.ArePrintable := by
  split
  · split
    · exact h.done
    · refine List.forall_mem_append.2 ⟨h.done, List.forall_mem_singleton.2 ?_⟩
      exact h.format.append (Entries.arePrintable_singleton (isPrintable_words []))
  · exact (isPrintable_flush m h).done

end Machine

theorem gives_lineComponents (s : Text) :
    Gives (lineComponents s) fun components => ∀ component ∈ components, component.ArePrintable := by
  refine gives_bind (gives_any _) fun marks _ => ?_
  have hrun := Machine.isPrintable_run (m := lineMachine) Entries.arePrintable_nil
    (Entries.arePrintable_singleton isPrintable_upright) marks
  refine iteInduction (motive := fun outcome => Gives outcome _) (fun _ => ?_) fun _ => ?_
  · exact gives_pure (List.forall_mem_singleton.2 (arePrintable_plainComponent []))
  · refine gives_pure (List.forall_mem_map.2 fun component hcomponent => ?_)
    exact arePrintable_settled (Machine.arePrintable_components lineMachine hrun _ hcomponent)

theorem gives_nameComponents (s : Text) :
    Gives (nameComponents s) fun components => ∀ component ∈ components, component.ArePrintable := by
  refine gives_bind (gives_any _) fun marks _ => ?_
  have hrun := Machine.isPrintable_run (m := nameMachine) Entries.arePrintable_nil
    Entries.arePrintable_nil marks
  refine gives_pure (List.forall_mem_map.2 fun component hcomponent => ?_)
  exact arePrintable_reordered (arePrintable_settled
    (Machine.arePrintable_components nameMachine hrun _ hcomponent))

theorem isPrintable_list_compound {components : List Entries}
    (h : ∀ component ∈ components, component.ArePrintable) :
    (Tag.list (components.map .compound)).IsPrintable :=
  .list (List.forall_mem_map.2 fun component hcomponent => .compound (h component hcomponent))

theorem gives_nameTag (s : Text) : Gives (nameTag s) Tag.IsPrintable := by
  unfold nameTag
  split
  · exact gives_pure (.compound (arePrintable_plainComponent s))
  · refine gives_bind (gives_nameComponents s) fun components hcomponents => ?_
    exact gives_pure (isPrintable_list_compound hcomponents)

end Style

/-! ## Items -/

namespace Item

open Style

theorem gives_damageValue {tag : Tag} (h : tag.IsPrintable) : Gives (damageValue tag) IsShort := by
  intro n hn
  cases h with
  | text s => exact isShort_readInt hn
  | null => cases hn
  | bool b => exact (Tag.IsPrintable.bool b).isShort_toInt hn
  | int h => exact (Tag.IsPrintable.int h).isShort_toInt hn
  | float h => exact (Tag.IsPrintable.float h).isShort_toInt hn
  | list h => cases hn
  | compound h => cases hn

theorem gives_itemName {id : Tag} (h : id.IsPrintable) : Gives (itemName id) Tag.IsPrintable := by
  refine gives_bind (gives_any _) fun mentions _ => ?_
  split
  · exact gives_pure h
  · exact gives_pure (.text _)

theorem gives_identity {item : Entries} (h : item.ArePrintable) :
    Gives (identity item) Entries.ArePrintable := by
  unfold identity
  split
  · exact gives_pure Entries.arePrintable_nil
  rename_i id hid
  refine gives_bind (gives_itemName (h.get? hid)) fun name hname => ?_
  split
  · exact gives_pure (Entries.arePrintable_singleton hname)
  · exact gives_pure (Entries.arePrintable_singleton hname)
  split
  · refine gives_bind (gives_any _) fun damage _ => ?_
    refine gives_pure (Entries.arePrintable_singleton ?_)
    cases skull? damage with
    | none => exact hname
    | some head => exact .text head
  · exact gives_pure (Entries.arePrintable_singleton hname)

theorem gives_count {item : Entries} (h : item.ArePrintable) :
    Gives (count item) Entries.ArePrintable := by
  unfold count
  split
  · exact gives_pure Entries.arePrintable_nil
  · rename_i number hnumber
    refine gives_bind (fun _ => (h.get? hnumber).isShort_toInt) fun n hn => ?_
    exact gives_pure (Entries.arePrintable_singleton (.int hn))

/-! ### Display -/

theorem gives_displayName (name : Tag) : Gives (displayName name) Tag.IsPrintable := by
  unfold displayName
  dsimp only
  split
  · exact gives_pure (.text _)
  refine gives_bind (gives_nameTag _) fun tag htag => ?_
  split
  · exact gives_pure (htag.items _ List.mem_cons_self)
  · exact gives_pure htag

theorem isPrintable_singleton_list {tag : Tag} (h : tag.IsPrintable) : (Tag.list [tag]).IsPrintable :=
  .list (List.forall_mem_singleton.2 h)

theorem gives_loreLine (line : Tag) : Gives (loreLine line) Tag.IsPrintable := by
  unfold loreLine
  split
  · split
    · exact gives_map (gives_lineComponents _) fun _ => isPrintable_list_compound
    split <;>
      exact gives_pure (isPrintable_singleton_list (.compound (arePrintable_plainComponent _)))
  · exact gives_pure (.compound (arePrintable_plainComponent []))

/-- What is made of an entry, if the entry is there. -/
theorem gives_made {α : Type} {entries : Entries} (h : entries.ArePrintable) {name : Text}
    {value : Tag → Outcome α} {made : α → Text × Tag} {P : α → Prop}
    (hvalue : ∀ tag, tag.IsPrintable → Gives (value tag) P)
    (hmade : ∀ a, P a → (made a).2.IsPrintable) :
    Gives ((Entries.get? name entries).mapM fun tag => return made (← value tag))
      fun made => Entries.ArePrintable made.toList := by
  refine gives_mapM_option fun tag htag => ?_
  exact gives_bind (hvalue tag (h.get? htag)) fun a ha => gives_pure (hmade a ha)

theorem gives_lore (lines : List Tag) :
    Gives (some <$> do return component "lore" (.list (← loreLines lines))) fun lore =>
      Entries.ArePrintable lore.toList := by
  refine gives_map (P := fun entry => entry.2.IsPrintable) ?_
    fun entry => Entries.arePrintable_singleton
  refine gives_bind (gives_mapM fun line _ => gives_loreLine line) fun lines hlines => ?_
  exact gives_pure (Tag.IsPrintable.list hlines)

theorem gives_displayComponents {display : Entries} (h : display.ArePrintable) :
    Gives (displayComponents display) Entries.ArePrintable := by
  refine gives_bind (gives_made h (fun _ htag _ => htag.isShort_toInt) fun n hn => ?_)
    fun color hcolor => ?_
  · exact .int hn
  refine gives_bind (gives_made h (fun tag _ => gives_displayName tag) fun tag htag => ?_)
    fun name hname => ?_
  · exact htag
  have hall {lore : Option (Text × Tag)} (hlore : Entries.ArePrintable lore.toList) :
      Gives (pure (color.toList ++ name.toList ++ lore.toList)) Entries.ArePrintable :=
    gives_pure ((hcolor.append hname).append hlore)
  dsimp only
  split
  · exact gives_bind (gives_lore _) fun lore hlore => hall hlore
  · refine gives_bind (P := (· = none)) (gives_pure rfl) fun lore hlore => ?_
    subst hlore
    exact hall Entries.arePrintable_nil

theorem isPrintable_display {item : Entries} (h : item.ArePrintable) : (display item).IsPrintable := by
  have hempty : (Tag.compound []).IsPrintable := .compound Entries.arePrintable_nil
  unfold display
  dsimp only
  split
  · rename_i tag htag
    split
    · exact h.getD _ hempty
    · exact (h.get? htag).entries.getD _ hempty
  · exact h.getD _ hempty
  · split
    · exact h.getD _ hempty
    · exact hempty

/-! ### Enchantments and owners -/

theorem gives_enchantment {tag : Tag} (h : tag.IsPrintable) :
    Gives (enchantment tag) fun new => ∀ tag ∈ new, tag.IsPrintable := by
  unfold enchantment
  split
  · split
    · exact gives_pure (by simp)
    · refine gives_bind (P := IsShort) (fun n hn => ?_) fun level hlevel => ?_
      · have hone : (Tag.int 1).IsPrintable := .int (isShort_of_lt (by decide))
        exact (h.entries.getD _ hone).isShort_toInt hn
      · refine gives_pure fun tag htag => ?_
        cases htag
        exact .compound ((Entries.arePrintable_singleton (.int hlevel)).cons (.text _))
  · exact gives_pure (by simp)

theorem gives_enchantments {tags : List Tag} (h : ∀ tag ∈ tags, tag.IsPrintable) :
    Gives (enchantments tags) fun new => ∀ tag ∈ new, tag.IsPrintable := by
  refine gives_bind (gives_mapM fun tag htag => gives_enchantment (h tag htag)) fun new hnew => ?_
  refine gives_pure fun tag htag => ?_
  obtain ⟨made, hmade, heq⟩ := List.mem_filterMap.1 htag
  exact hnew made hmade tag heq

theorem isPrintable_profile? {owner : Entries} (h : owner.ArePrintable) {profile : Tag}
    (hprofile : profile? owner = some profile) : profile.IsPrintable := by
  have hproperties := h.getD "Properties".toList (.compound Entries.arePrintable_nil)
  unfold profile? at hprofile
  split at hprofile
  case h_2 => cases hprofile
  rename_i properties heq
  rw [heq] at hproperties
  have htextures := hproperties.entries.getD "textures".toList (.list (List.forall_mem_nil _))
  split at hprofile
  case h_2 => cases hprofile
  rename_i texture rest heq
  rw [heq] at htextures
  have htexture := htextures.items texture List.mem_cons_self
  split at hprofile
  case h_2 => cases hprofile
  obtain ⟨value, hvalue, hmade⟩ := Option.bind_eq_some_iff.1 hprofile
  obtain ⟨-, heq⟩ | ⟨-, heq⟩ := ite_eq_iff.1 hmade
  · cases heq
    have hentry : Entries.ArePrintable [("value".toList, value)] :=
      Entries.arePrintable_singleton (htexture.entries.get? hvalue)
    exact .compound (Entries.arePrintable_singleton
      (isPrintable_singleton_list (.compound (hentry.cons (.text _)))))
  · cases heq

theorem gives_damage {entries : Entries} (h : entries.ArePrintable) :
    Gives ((Entries.get? "Damage" entries).mapM fun damage =>
      return component "damage" (.int (← damageValue damage))) fun damage =>
        Entries.ArePrintable damage.toList :=
  gives_made h (fun _ => gives_damageValue) fun _ => .int

theorem gives_tagComponents {tag : Entries} (h : tag.ArePrintable) :
    Gives (tagComponents tag) Entries.ArePrintable := by
  unfold tagComponents
  extract_lets owner next
  have hnext (enchanted : Entries) (henchanted : enchanted.ArePrintable) :
      Gives (next enchanted) Entries.ArePrintable := by
    refine gives_bind (gives_damage h) fun damage hdamage => ?_
    refine gives_pure (Entries.ArePrintable.append (henchanted.append ?_) hdamage)
    dsimp only [owner]
    split
    · rename_i owner howner
      intro entry hentry
      obtain ⟨profile, hprofile, rfl⟩ := Option.map_eq_some_iff.1 (Option.mem_toList.1 hentry)
      exact isPrintable_profile? (h.get? howner).entries hprofile
    · exact Entries.arePrintable_nil
  split
  · rename_i tags htags
    refine gives_bind (gives_enchantments (h.get? htags).items) fun new hnew => ?_
    refine gives_bind (gives_pure ?_) hnext
    split
    · exact Entries.arePrintable_nil
    · exact Entries.arePrintable_singleton (.list hnew)
  · exact gives_bind (gives_pure Entries.arePrintable_nil) hnext

/-! ### Whole items -/

theorem gives_components {item : Entries} (h : item.ArePrintable) :
    Gives (components item) Entries.ArePrintable := by
  refine gives_bind (gives_damage h) fun damage hdamage => ?_
  extract_lets next
  have hnext (shown : Entries) (hshown : shown.ArePrintable) :
      Gives (next shown) Entries.ArePrintable := by
    have hmerge (inner : Entries) (hinner : inner.ArePrintable) :
        Gives (pure (Entries.merge (damage.toList ++ shown) inner)) Entries.ArePrintable :=
      gives_pure (Entries.ArePrintable.merge (hdamage.append hshown) hinner)
    dsimp only [next]
    split
    · rename_i tag htag
      exact gives_bind (gives_tagComponents (h.get? htag).entries) hmerge
    · exact gives_bind (gives_pure Entries.arePrintable_nil) hmerge
  · have hdisplay := isPrintable_display h
    split
    · rename_i display heq
      rw [heq] at hdisplay
      exact gives_bind (gives_displayComponents hdisplay.entries) hnext
    · exact gives_bind (gives_pure Entries.arePrintable_nil) hnext

/-- The new form of a printable item is printable. -/
theorem gives_upgrade {item : Entries} (h : item.ArePrintable) :
    Gives (upgrade item) fun new => ∀ entries ∈ new, Entries.ArePrintable entries := by
  refine gives_bind (gives_identity h) fun identity hidentity => ?_
  refine gives_bind (gives_count h) fun count hcount => ?_
  refine gives_bind (gives_components h) fun components hcomponents => ?_
  refine gives_pure fun entries hentries => ?_
  obtain ⟨-, heq⟩ | ⟨-, heq⟩ := ite_eq_iff.1 hentries
  · cases heq
  cases heq
  refine (hidentity.append hcount).append ?_
  split
  · exact Entries.arePrintable_nil
  · exact Entries.arePrintable_singleton (.compound hcomponents)

end Item

end CommandUpgrade
