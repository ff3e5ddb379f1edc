import CommandUpgrade.Memory.Item
import CommandUpgrade.Proofs.Item.Dropped
import CommandUpgrade.Proofs.Memory.Owned

/-!
# New items are new objects

The programs that renew an item in memory end as `Item.upgrade` does. They write into two objects of their
own, the new item and its components, so all that was in memory before stays (`runs_upgrade`).
-/

namespace CommandUpgrade.Heap

open Text Style Memory Outcome

variable {openAt : List Address} {memory : Memory} {item new : Address} {entries made : Entries}

/-! ## Fields -/

theorem merge_merge (entries new more : Entries) :
    (entries.merge new).merge more = entries.merge (new ++ more) := by
  unfold Entries.merge
  rw [List.foldl_append]

/-- Entries with new names come behind. -/
theorem merge_eq_append {entries new : Entries} (h : (Entries.names (entries ++ new)).Nodup) :
    entries.merge new = entries ++ new := by
  induction new generalizing entries with
  | nil => exact (List.append_nil _).symm
  | cons entry rest ih =>
    obtain ⟨name, tag⟩ := entry
    have hname : name ∉ entries.names := by
      unfold Entries.names at h ⊢
      rw [List.map_append, List.map_cons] at h
      exact fun hmem => (List.disjoint_of_nodup_append h) hmem List.mem_cons_self
    have hset := Entries.set_of_notMem hname tag
    calc entries.merge ((name, tag) :: rest) = (entries.set name tag).merge rest := rfl
      _ = (entries ++ [(name, tag)]).merge rest := by rw [hset]
      _ = entries ++ [(name, tag)] ++ rest := ih (by rwa [List.append_assoc])
      _ = entries ++ (name, tag) :: rest := List.append_assoc _ _ _

/-- The compound at an open address holds more entries than before. -/
def Adds (openAt : List Address) (address : Address) (made : Entries) (memory : Memory) (new : Entries) :
    Prop :=
  HoldsAt openAt memory address (made.merge new)

/-- An object that is not open is kept where open ones change. -/
theorem Compound.keeps {changed : List Address} {memory' : Memory}
    (h : Compound openAt memory item entries) (hkeeps : memory.Keeps changed memory')
    (hsub : changed ⊆ openAt) : Compound openAt memory' item entries :=
  ⟨h.1, h.2.keeps hkeeps hsub fun hmem => h.1 (hsub hmem)⟩

/-- The value shows the tag of an entry of this name. -/
def ShowsEntry (openAt : List Address) (name : Text) (memory : Memory) (value : Value)
    (entry : Text × Tag) : Prop :=
  entry.1 = name ∧ Shows openAt memory value entry.2

theorem runs_putField {field name : Text} {renew : Tag → Heap Value}
    {outcome : Tag → Outcome (Text × Tag)}
    (hitem : Compound openAt memory item entries) (hnew : HoldsAt openAt memory new made)
    (hopen : new ∈ openAt)
    (hrenew : ∀ tag, Runs [] memory (renew tag) (outcome tag) (ShowsEntry openAt name)) :
    Runs [new] memory (putField new item field name renew)
      ((Entries.get? field entries).mapM outcome)
      fun memory' _ added => Adds openAt new made memory' added.toList := by
  unfold putField
  obtain ⟨found, hexec, hfound⟩ := exec_find hitem.2 field
  refine Runs.reads hexec ?_
  generalize Entries.get? field entries = tag? at hfound
  cases hfound with
  | none => exact Runs.pure hnew
  | @some value tag hvalue =>
    refine Runs.reads (exec_view hvalue) ?_
    have hput : Runs [new] memory (renew tag >>= fun value => put new name value)
        (outcome tag >>= pure) fun memory' _ added => Adds openAt new made memory' [added] := by
      refine (hrenew tag).bind (List.nil_subset _) fun memory₁ value added hkeeps _ hshows => ?_
      obtain ⟨rfl, hshows⟩ := hshows
      refine Runs.last (Runs.put (hnew.keeps hkeeps (List.nil_subset _) List.not_mem_nil) hopen
        List.mem_cons_self hshows fun memory₂ _ hholds => ?_)
      exact Runs.pure hholds
    rw [bind_pure] at hput
    exact hput.map fun _ _ _ _ hadds => hadds

theorem runs_int (name : Text) (outcome : Outcome Int) :
    Runs [] memory (do return .int (← outcome)) (do return (name, .int (← outcome)))
      (ShowsEntry openAt name) :=
  Runs.lift fun _ _ => Runs.pure ⟨rfl, 0, rfl⟩

theorem runs_stored (name : Text) (hbelow : Below openAt memory) (outcome : Outcome Tag) :
    Runs [] memory (do store (← outcome)) (do return (name, ← outcome)) (ShowsEntry openAt name) :=
  Runs.lift fun tag _ =>
    Runs.last ((makes_store tag hbelow).runs fun _ _ _ hvalue => Runs.pure ⟨rfl, hvalue⟩)

/-! ## Identity -/

theorem runs_putHead {name damage : Value} {nameTag damageTag : Tag}
    (hname : Shows openAt memory name nameTag) (hdamage : Shows openAt memory damage damageTag)
    (hnew : HoldsAt openAt memory new (made.set "id" nameTag)) (hopen : new ∈ openAt) :
    Runs [new] memory (putHead new name damage)
      (if nameTag.isText "skull" || nameTag.isText "minecraft:skull" then do
        let head := Item.skull? (← damageTag.toInt)
        return [("id".toList, (head.map Tag.text).getD nameTag)]
      else return [("id".toList, nameTag)])
      fun memory' _ added => Adds openAt new made memory' added := by
  unfold putHead
  refine Runs.reads (exec_view hname) ?_
  split
  case isFalse => exact Runs.pure hnew
  case isTrue =>
    refine Runs.reads (exec_view hdamage) (Runs.lift fun n _ => ?_)
    dsimp only
    cases Item.skull? n with
    | none => exact Runs.pure hnew
    | some head =>
      have hhead : Shows openAt memory (.text head) (.text head) := ⟨0, rfl⟩
      refine Runs.last (Runs.put hnew hopen List.mem_cons_self hhead fun memory' _ hholds => ?_)
      rw [Entries.set_set] at hholds
      exact Runs.pure hholds

theorem runs_putIdentity (hitem : Compound openAt memory item entries)
    (hnew : HoldsAt openAt memory new made) (hopen : new ∈ openAt) :
    Runs [new] memory (putIdentity new item) (Item.identity entries)
      fun memory' _ added => Adds openAt new made memory' added := by
  unfold putIdentity Item.identity
  obtain ⟨found, hexec, hfound⟩ := exec_find hitem.2 "id"
  refine Runs.reads hexec ?_
  generalize Entries.get? "id" entries = id? at hfound ⊢
  cases hfound with
  | none => exact Runs.pure hnew
  | @some value tag hid =>
    refine Runs.reads (exec_view hid) ?_
    dsimp only
    unfold Item.itemName
    rw [bind_assoc]
    refine Runs.lift fun named _ => ?_
    obtain ⟨nameTag, hname, hpure⟩ : ∃ nameTag, Shows openAt memory
        (if named = true then value else .text (namespaced tag.asName)) nameTag ∧
        (if named = true then (pure tag : Outcome Tag) else pure (.text (namespaced tag.asName))) =
          pure nameTag := by
      cases named with
      | true => exact ⟨tag, hid, rfl⟩
      | false => exact ⟨_, ⟨0, rfl⟩, rfl⟩
    rw [hpure, pure_bind]
    generalize (if named = true then value else .text (namespaced tag.asName)) = name at hname ⊢
    have hsub : [new] ⊆ openAt := List.cons_subset.2 ⟨hopen, List.nil_subset _⟩
    refine Runs.put hnew hopen List.mem_cons_self hname fun memory₁ hkeeps hholds => ?_
    have hname₁ := hname.keeps hkeeps hsub
    obtain ⟨found, hexec, hfound⟩ := exec_find (hitem.keeps hkeeps hsub).2 "Damage"
    refine Runs.reads hexec ?_
    generalize Entries.get? "Damage" entries = damage? at hfound ⊢
    cases hfound with
    | none => exact Runs.pure hholds
    | @some damage damageTag hdamage =>
      have hhead := runs_putHead hname₁ hdamage hholds hopen
      -- Only a missing damage and a null are left out.
      cases damage with
      | null =>
        obtain ⟨depth, hread⟩ := hdamage
        cases depth <;> cases hread <;> exact Runs.pure hholds
      | ref address =>
        obtain ⟨-, object, -, hdisplays⟩ := shows_ref_iff.1 hdamage
        cases hdisplays <;> exact hhead
      | _ =>
        obtain ⟨depth, hread⟩ := hdamage
        cases depth <;> cases hread <;> exact hhead

theorem runs_putCount (hitem : Compound openAt memory item entries)
    (hnew : HoldsAt openAt memory new made) (hopen : new ∈ openAt) :
    Runs [new] memory (putCount new item) (Item.count entries)
      fun memory' _ added => Adds openAt new made memory' added := by
  have hcount : Item.count entries = Option.toList <$> (Entries.get? "Count" entries).mapM fun tag =>
      (return ("count".toList, .int (← tag.toInt)) : Outcome (Text × Tag)) := by
    unfold Item.count
    cases Entries.get? "Count" entries with
    | none => rfl
    | some tag => cases htag : tag.toInt <;> simp [htag]
  rw [hcount]
  exact (runs_putField hitem hnew hopen fun tag => runs_int _ tag.toInt).map fun _ _ _ _ hadds => hadds

/-! ## Lore -/

/-- Every component of a line says whether it is italic. -/
theorem has_italic_of_mem {line : Text} {components : List Entries}
    (h : lineComponents line = .ok components) :
    ∀ component ∈ components, Entries.has "italic" component = true := by
  have hsettled (component : Entries) : Entries.has "italic" (settled component) = true := by
    unfold settled
    split
    case isTrue hhas => exact hhas
    case isFalse hhas =>
      unfold Entries.has at hhas ⊢
      rw [Entries.get?_append, Option.not_isSome_iff_eq_none.1 hhas]
      rfl
  unfold lineComponents at h
  obtain ⟨steps, -, h⟩ := bind_eq_ok h
  dsimp only at h
  generalize (if (lineMachine.run steps).pending.isEmpty = true then _ else _) = given at h
  cases given with
  | nil =>
    obtain rfl := Except.ok.inj h
    exact List.forall_mem_singleton.2 rfl
  | cons first rest =>
    obtain rfl := Except.ok.inj h
    exact List.forall_mem_map.2 fun component _ => hsettled component

theorem exec_settle {component : Address} (h : Compound openAt memory component entries)
    (hitalic : Entries.has "italic" entries = true) :
    exec (settle component) memory = (.ok (), memory) := by
  obtain ⟨found, hexec, hfound⟩ := exec_find h.2 "italic"
  unfold settle
  rw [exec_bind_of_ok hexec]
  unfold Entries.has at hitalic
  generalize Entries.get? "italic" entries = tag? at hfound hitalic
  cases hfound with
  | none => cases hitalic
  | some hvalue => rfl

theorem exec_forM_settle {parts : List Address} {components : List Entries}
    (h : List.Forall₂ (Compound openAt memory) parts components)
    (hitalic : ∀ component ∈ components, Entries.has "italic" component = true) :
    exec (parts.forM settle) memory = (.ok (), memory) := by
  induction h with
  | nil => rfl
  | cons hfirst _ ih =>
    obtain ⟨hfirstItalic, hrest⟩ := List.forall_mem_cons.1 hitalic
    exact (exec_bind_of_ok (exec_settle hfirst hfirstItalic) _).trans (ih hrest)

theorem makes_storeComponent (hbelow : Below openAt memory) (component : Entries) :
    Makes memory (storeComponent component) fun memory' address =>
      Compound openAt memory' address component := by
  unfold storeComponent
  refine (makes_storeEntries component hbelow).bind fun memory₁ fields hkeeps hfields => ?_
  have hnew := shows_compound_iff.1 (shows_new_compound (hbelow.keeps hkeeps) hfields)
  have hmade : Makes memory₁ (alloc (.compound fields) >>= pure) fun memory' address =>
      Compound openAt memory' address component := Makes.alloc (Makes.pure hnew)
  rwa [bind_pure] at hmade

theorem runs_loreLine {line : Value} {tag : Tag} (hbelow : Below openAt memory)
    (hline : Shows openAt memory line tag) :
    Runs [] memory (loreLine line) (Item.loreLine tag) (Shows openAt) := by
  have hstore (tag : Tag) : Runs [] memory (store tag) (.ok tag) (Shows openAt) :=
    Runs.last ((makes_store tag hbelow).runs fun _ _ _ hvalue => Runs.pure hvalue)
  cases line with
  | text line =>
    obtain rfl : tag = .text line := by
      obtain ⟨depth, hread⟩ := hline
      cases depth <;> cases hread <;> rfl
    unfold loreLine Item.loreLine
    dsimp only
    split
    case isFalse =>
      split
      case isTrue => exact hstore _
      case isFalse => exact hstore _
    case isTrue =>
      have hparts (components : List Entries) (hcomponents : lineComponents line = .ok components) :
          Runs [] memory (do
            let parts ← components.mapM storeComponent
            if !(Text.has "§o" line || Text.has "§O" line) then parts.forM settle
            return .ref (← alloc (.list (parts.map .ref))))
            (.ok (.list (components.map .compound))) (Shows openAt) := by
        refine Makes.runs (Makes.mapM (S := Compound openAt)
          (fun _ _ _ _ hkeeps h => h.keeps hkeeps (List.nil_subset _))
          (fun _ component hkeeps => makes_storeComponent (hbelow.keeps hkeeps) component)
          components) fun memory₁ parts hkeeps hall => ?_
        have hitems : List.Forall₂ (Shows openAt memory₁) (parts.map .ref)
            (components.map .compound) :=
          List.forall₂_map_left_iff.2 (List.forall₂_map_right_iff.2
            (hall.imp fun _ _ hpart => shows_compound_iff.2 hpart))
        have hlast : Runs [] (memory₁ ++ [.list (parts.map .ref)]) (pure (.ref memory₁.length))
            (.ok (.list (components.map .compound))) (Shows openAt) :=
          Runs.pure (shows_new_list (hbelow.keeps hkeeps) hitems)
        split
        case isFalse => exact Runs.alloc hlast
        case isTrue =>
          exact Runs.reads (exec_forM_settle hall (has_italic_of_mem hcomponents)) (Runs.alloc hlast)
      have hmap : (lineComponents line).map (fun parts => Tag.list (parts.map .compound)) =
          lineComponents line >>= fun parts => .ok (Tag.list (parts.map .compound)) := by
        cases lineComponents line <;> rfl
      rw [hmap]
      exact Runs.lift hparts
  | ref address =>
    obtain ⟨-, object, -, hdisplays⟩ := shows_ref_iff.1 hline
    cases hdisplays <;> exact hstore _
  | _ =>
    obtain ⟨depth, hread⟩ := hline
    cases depth <;> cases hread <;> exact hstore _

/-! ## Display -/

/-- The lore component of a display. -/
def loreComponent (display : Entries) : Outcome (Option (Text × Tag)) :=
  match Entries.get? "Lore" display with
  | some (.list (line :: lines)) =>
    some <$> return Item.component "lore" (.list (← Item.loreLines (line :: lines)))
  | _ => pure none

theorem runs_putLore (hbelow : Below openAt memory) (hdisplay : Compound openAt memory item entries)
    (hnew : HoldsAt openAt memory new made) (hopen : new ∈ openAt) :
    Runs [new] memory (putLore new item) (loreComponent entries)
      fun memory' _ added => Adds openAt new made memory' added.toList := by
  unfold putLore loreComponent
  obtain ⟨found, hexec, hfound⟩ := exec_findList hdisplay.2 "Lore"
  refine Runs.reads hexec ?_
  generalize Entries.get? "Lore" entries = lore? at hfound ⊢
  cases lore? with
  | none =>
    cases hfound
    exact Runs.pure hnew
  | some tag =>
    cases tag with
    | list tags =>
      change Option.Rel _ found (some tags) at hfound
      cases hfound with
      | @some lines _ hlines =>
        cases tags with
        | nil =>
          cases hlines
          exact Runs.pure hnew
        | cons tag tags =>
          have hlore : Runs [] memory (lines.mapM loreLine) (Item.loreLines (tag :: tags))
              fun memory' => List.Forall₂ (Shows openAt memory') :=
            Runs.mapM (P := Shows openAt) (fun _ _ _ _ hkeeps h => h.keeps hkeeps (List.nil_subset _))
              (fun _ _ _ _ hkeeps h => h.keeps hkeeps (List.nil_subset _))
              (fun _ _ _ hkeeps h => runs_loreLine (hbelow.keeps hkeeps) h) hlines
          have hput : Runs [new] memory (do
              let lines ← lines.mapM loreLine
              if !lines.isEmpty then put new (namespaced "lore") (.ref (← alloc (.list lines))))
              (do return Item.component "lore" (.list (← Item.loreLines (tag :: tags))))
              fun memory' _ added => Adds openAt new made memory' [added] := by
            refine hlore.bind (List.nil_subset _) fun memory₁ values tags' hkeeps hok hvalues => ?_
            have hfilled : values.isEmpty = false := by
              have hlength := hvalues.length_eq.trans (mapM_eq_ok_iff.1 hok).length_eq.symm
              cases values with
              | nil => cases hlength
              | cons value values => rfl
            rw [hfilled]
            have hkeeps₂ := keeps_append memory₁ [.list values]
            refine Runs.alloc (Runs.last (Runs.put ((hnew.keeps hkeeps (List.nil_subset _)
              List.not_mem_nil).keeps hkeeps₂ (List.nil_subset _) List.not_mem_nil) hopen
              List.mem_cons_self (shows_new_list (hbelow.keeps hkeeps) hvalues)
              fun memory₂ _ hholds => Runs.pure hholds))
          exact hput.map fun _ _ _ _ hadds => hadds
    | _ =>
      cases hfound
      exact Runs.pure hnew

theorem displayComponents_eq (display : Entries) :
    Item.displayComponents display = (do
      let color ← (Entries.get? "color" display).mapM fun color =>
        return Item.component "dyed_color" (.int (← color.toInt))
      let name ← (Entries.get? "Name" display).mapM fun name =>
        return Item.component "custom_name" (← Item.displayName name)
      let lore ← loreComponent display
      return color.toList ++ name.toList ++ lore.toList) := by
  unfold Item.displayComponents loreComponent
  refine bind_congr fun color => bind_congr fun name => ?_
  generalize Entries.get? "Lore" display = lore?
  cases lore? with
  | none => rfl
  | some tag =>
    cases tag with
    | list lines => cases lines <;> rfl
    | _ => rfl

theorem runs_putShown {shown : Address} (hbelow : Below openAt memory)
    (hshown : Compound openAt memory shown entries) (hnew : HoldsAt openAt memory new made)
    (hopen : new ∈ openAt) :
    Runs [new] memory (do
      putColor new shown
      putName new shown
      putLore new shown) (Item.displayComponents entries)
      fun memory' _ added => Adds openAt new made memory' added := by
  have hsub : [new] ⊆ openAt := List.cons_subset.2 ⟨hopen, List.nil_subset _⟩
  rw [displayComponents_eq]
  refine (runs_putField hshown hnew hopen fun tag => runs_int _ tag.toInt).bind (List.Subset.refl _)
    fun memory₁ _ color hkeeps _ hcolor => ?_
  have hshown₁ := hshown.keeps hkeeps hsub
  have hbelow₁ := hbelow.keeps hkeeps
  refine (runs_putField hshown₁ hcolor hopen fun tag => runs_stored _ hbelow₁ (Item.displayName tag)).bind
    (List.Subset.refl _) fun memory₂ _ name hkeeps₂ _ hname => ?_
  rw [bind_pure_comp]
  refine (runs_putLore (hbelow₁.keeps hkeeps₂) (hshown₁.keeps hkeeps₂ hsub) hname hopen).map
    fun _ _ lore _ hlore => ?_
  unfold Adds at hlore ⊢
  rwa [merge_merge, merge_merge, ← List.append_assoc] at hlore

theorem exec_isFilled {value? : Option Value} {tag? : Option Tag}
    (h : Option.Rel (Shows openAt memory) value? tag?) :
    exec (isFilled value?) memory = (.ok (tag?.any Tag.isFilled), memory) := by
  unfold isFilled
  cases h with
  | none => rfl
  | some hvalue => exact exec_bind_of_ok (exec_view hvalue) _

/-- The program finds the display of an item, or none if the display is empty. -/
theorem exec_display (hitem : Compound openAt memory item entries) :
    ∃ found, exec (display item) memory = (.ok found, memory) ∧
      (found = none ∧ Item.display entries = .compound [] ∨
        ∃ value, found = some value ∧ Shows openAt memory value (Item.display entries)) := by
  -- What is found beside the tag, or an empty display.
  have hgetD {value? : Option Value} {tag? : Option Tag}
      (h : Option.Rel (Shows openAt memory) value? tag?) :
      value? = none ∧ tag?.getD (.compound []) = .compound [] ∨
        ∃ value, value? = some value ∧ Shows openAt memory value (tag?.getD (.compound [])) := by
    cases h with
    | none => exact .inl ⟨rfl, rfl⟩
    | some hvalue => exact .inr ⟨_, rfl, hvalue⟩
  unfold display Item.display
  obtain ⟨beside, hbeside, hshown⟩ := exec_find hitem.2 "display"
  obtain ⟨tag, htag, hinner⟩ := exec_find hitem.2 "tag"
  rw [exec_bind_of_ok hbeside, exec_bind_of_ok (exec_isFilled hshown)]
  generalize Entries.get? "display" entries = shown? at hshown ⊢
  generalize Entries.get? "tag" entries = tag? at hinner ⊢
  have hfilled : (shown?.getD (.compound [])).isFilled = shown?.any Tag.isFilled := by
    cases shown? <;> rfl
  dsimp only
  rw [hfilled]
  cases shown?.any Tag.isFilled with
  | true =>
    refine ⟨beside, rfl, ?_⟩
    cases tag? with
    | none => exact hgetD hshown
    | some tag => cases tag <;> exact hgetD hshown
  | false =>
    rw [if_neg Bool.false_ne_true, exec_bind_of_ok htag]
    cases hinner with
    | none => exact ⟨none, rfl, .inl ⟨rfl, rfl⟩⟩
    | @some value tag hvalue =>
      obtain ⟨address?, hexec, hcompound⟩ := exec_compound? hvalue
      dsimp only
      rw [exec_bind_of_ok hexec]
      cases tag with
      | compound tag =>
        change Option.Rel _ address? (some tag) at hcompound
        cases hcompound with
        | some htag =>
          obtain ⟨found, hfind, hfound⟩ := exec_find htag.2 "display"
          exact ⟨found, hfind, hgetD hfound⟩
      | _ =>
        cases hcompound
        exact ⟨beside, rfl, hgetD hshown⟩

/-- The components of what an item shows. -/
def shownComponents (item : Entries) : Outcome Entries :=
  match Item.display item with
  | .compound display => Item.displayComponents display
  | _ => pure []

theorem runs_putDisplay (hbelow : Below openAt memory) (hitem : Compound openAt memory item entries)
    (hnew : HoldsAt openAt memory new made) (hopen : new ∈ openAt) :
    Runs [new] memory (putDisplay new item) (shownComponents entries)
      fun memory' _ added => Adds openAt new made memory' added := by
  unfold putDisplay shownComponents
  obtain ⟨found, hexec, hfound⟩ := exec_display hitem
  refine Runs.reads hexec ?_
  generalize Item.display entries = display at hfound ⊢
  rcases hfound with ⟨rfl, rfl⟩ | ⟨value, rfl, hvalue⟩
  · exact Runs.pure hnew
  · obtain ⟨address?, hexec, hcompound⟩ := exec_compound? hvalue
    refine Runs.reads hexec ?_
    cases display with
    | compound display =>
      change Option.Rel _ address? (some display) at hcompound
      cases hcompound with
      | some hshown => exact runs_putShown hbelow hshown hnew hopen
    | _ =>
      cases hcompound
      exact Runs.pure hnew

/-! ## Enchantments and owners -/

/-- The enchantments of a tag. -/
def enchantedComponents (tag : Entries) : Outcome Entries :=
  match Entries.get? "ench" tag with
  | some (.list tags) => do
    let new ← Item.enchantments tags
    pure (if new.isEmpty then [] else [Item.component "enchantments" (.list new)])
  | _ => pure []

/-- The owner of a tag. -/
def ownerComponents (tag : Entries) : Entries :=
  match Entries.get? "SkullOwner" tag with
  | some (.compound owner) => ((Item.profile? owner).map (Item.component "profile")).toList
  | _ => []

theorem tagComponents_eq (tag : Entries) :
    Item.tagComponents tag = (do
      let enchanted ← enchantedComponents tag
      let owner ← pure (ownerComponents tag)
      let damage ← (Entries.get? "Damage" tag).mapM fun damage =>
        return Item.component "damage" (.int (← Item.damageValue damage))
      return enchanted ++ owner ++ damage.toList) := by
  unfold Item.tagComponents enchantedComponents ownerComponents
  generalize Entries.get? "ench" tag = tags?
  cases tags? with
  | none => rfl
  | some tags =>
    cases tags with
    | list tags => exact (bind_assoc (Item.enchantments tags) _ _).symm
    | _ => rfl

theorem runs_putEnchantments {tag : Address} (hbelow : Below openAt memory)
    (htag : Compound openAt memory tag entries) (hnew : HoldsAt openAt memory new made)
    (hopen : new ∈ openAt) :
    Runs [new] memory (putEnchantments new tag) (enchantedComponents entries)
      fun memory' _ added => Adds openAt new made memory' added := by
  unfold putEnchantments enchantedComponents
  obtain ⟨found, hexec, hfound⟩ := exec_findList htag.2 "ench"
  refine Runs.reads hexec ?_
  generalize Entries.get? "ench" entries = tags? at hfound ⊢
  cases tags? with
  | none =>
    cases hfound
    exact Runs.pure hnew
  | some tags =>
    cases tags with
    | list tags =>
      change Option.Rel _ found (some tags) at hfound
      cases hfound with
      | some hvalues =>
        refine Runs.reads (exec_mapM_view hvalues) (Runs.lift fun new' _ => ?_)
        cases new' with
        | nil => exact Runs.pure hnew
        | cons first rest =>
          refine (makes_store (.list (first :: rest)) hbelow).runs fun memory₁ value hkeeps hvalue => ?_
          have hnew₁ := hnew.keeps hkeeps (List.nil_subset _) List.not_mem_nil
          exact Runs.last (Runs.put hnew₁ hopen List.mem_cons_self hvalue fun memory₂ _ hholds =>
            Runs.pure hholds)
    | _ =>
      cases hfound
      exact Runs.pure hnew

/-- The profile of a texture. -/
def profileOf (texture : Tag) : Tag :=
  .compound [("properties".toList,
    .list [.compound [("name".toList, .lit "textures"), ("value".toList, texture)]])]

def textureProfile? (texture : Tag) : Option Tag := do
  let .compound texture := texture | none
  let value ← Entries.get? "Value" texture
  if value.isFilled then some (profileOf value) else none

/-- The value is the texture of a profile. -/
def ShowsTexture (openAt : List Address) (memory : Memory) (value : Value) (tag : Tag) : Prop :=
  ∃ texture, Shows openAt memory value texture ∧ tag = profileOf texture

theorem exec_textureValue? {value : Value} {tag : Tag} (h : Shows openAt memory value tag) :
    ∃ found, exec (textureValue? value) memory = (.ok found, memory) ∧
      Option.Rel (ShowsTexture openAt memory) found (textureProfile? tag) := by
  unfold textureValue? textureProfile?
  obtain ⟨texture?, hexec, htexture⟩ := exec_compound? h
  rw [exec_bind_of_ok hexec]
  cases tag with
  | compound texture =>
    change Option.Rel _ texture? (some texture) at htexture
    cases htexture with
    | some htexture =>
      obtain ⟨value?, hexec, hvalue⟩ := exec_find htexture.2 "Value"
      dsimp only
      rw [exec_bind_of_ok hexec, exec_bind_of_ok (exec_isFilled hvalue)]
      refine ⟨_, rfl, ?_⟩
      generalize Entries.get? "Value" texture = tag? at hvalue ⊢
      cases hvalue with
      | none => exact .none
      | @some value tag hvalue =>
        change Option.Rel _ (if tag.isFilled = true then some value else none)
          (if tag.isFilled = true then some (profileOf tag) else none)
        split
        case isTrue => exact .some ⟨tag, hvalue, rfl⟩
        case isFalse => exact .none
  | _ =>
    cases htexture
    exact ⟨none, rfl, .none⟩

theorem exec_texture? {owner : Address} (howner : Compound openAt memory owner entries) :
    ∃ found, exec (texture? owner) memory = (.ok found, memory) ∧
      Option.Rel (ShowsTexture openAt memory) found (Item.profile? entries) := by
  unfold texture? Item.profile?
  obtain ⟨properties?, hexec, hproperties⟩ := exec_findCompound howner.2 "Properties"
  rw [exec_bind_of_ok hexec]
  generalize Entries.get? "Properties" entries = properties at hproperties ⊢
  cases properties with
  | none =>
    cases hproperties
    exact ⟨none, rfl, .none⟩
  | some properties =>
    cases properties with
    | compound properties =>
      change Option.Rel _ properties? (some properties) at hproperties
      cases hproperties with
      | some hproperties =>
        obtain ⟨textures?, hexec, htextures⟩ := exec_findList hproperties.2 "textures"
        dsimp only [Option.getD_some]
        rw [exec_bind_of_ok hexec]
        generalize Entries.get? "textures" properties = textures at htextures ⊢
        cases textures with
        | none =>
          cases htextures
          exact ⟨none, rfl, .none⟩
        | some textures =>
          cases textures with
          | list textures =>
            change Option.Rel _ textures? (some textures) at htextures
            cases htextures with
            | some htextures =>
              cases htextures with
              | nil => exact ⟨none, rfl, .none⟩
              | cons hfirst _ => exact exec_textureValue? hfirst
          | _ =>
            cases htextures
            exact ⟨none, rfl, .none⟩
    | _ =>
      cases hproperties
      exact ⟨none, rfl, .none⟩

theorem makes_profile {value : Value} {texture : Tag} (hbelow : Below openAt memory)
    (hvalue : Shows openAt memory value texture) :
    Makes memory (profile value) fun memory' value => Shows openAt memory' value (profileOf texture) := by
  refine Makes.alloc (Makes.alloc (Makes.alloc (Makes.pure ?_)))
  have hbelow₁ {more : Memory} : Below openAt (memory ++ more) := hbelow.keeps (keeps_append memory more)
  have hname : Shows openAt memory (.text "textures") (.lit "textures") := ⟨0, rfl⟩
  refine shows_new_compound (hbelow₁.keeps (keeps_append _ _)) (.cons ⟨rfl, ?_⟩ .nil)
  refine shows_new_list hbelow₁ (.cons ?_ .nil)
  exact shows_new_compound hbelow (.cons ⟨rfl, hname⟩ (.cons ⟨rfl, hvalue⟩ .nil))

theorem runs_putProfile {tag : Address} (hbelow : Below openAt memory)
    (htag : Compound openAt memory tag entries) (hnew : HoldsAt openAt memory new made)
    (hopen : new ∈ openAt) :
    Runs [new] memory (putProfile new tag) (pure (ownerComponents entries))
      fun memory' _ added => Adds openAt new made memory' added := by
  unfold putProfile ownerComponents
  obtain ⟨found, hexec, hfound⟩ := exec_findCompound htag.2 "SkullOwner"
  refine Runs.reads hexec ?_
  generalize Entries.get? "SkullOwner" entries = owner? at hfound ⊢
  cases owner? with
  | none =>
    cases hfound
    exact Runs.pure hnew
  | some owner =>
    cases owner with
    | compound owner =>
      change Option.Rel _ found (some owner) at hfound
      cases hfound with
      | some howner =>
        obtain ⟨texture?, hexec, htexture⟩ := exec_texture? howner
        refine Runs.reads hexec ?_
        dsimp only
        generalize Item.profile? owner = profile? at htexture ⊢
        cases htexture with
        | none => exact Runs.pure hnew
        | some htexture =>
          obtain ⟨texture, hvalue, rfl⟩ := htexture
          refine (makes_profile hbelow hvalue).runs fun memory₁ value hkeeps hprofile => ?_
          have hnew₁ := hnew.keeps hkeeps (List.nil_subset _) List.not_mem_nil
          exact Runs.last (Runs.put hnew₁ hopen List.mem_cons_self hprofile fun memory₂ _ hholds =>
            Runs.pure hholds)
    | _ =>
      cases hfound
      exact Runs.pure hnew

theorem runs_putDamage {owner : Address} (howner : Compound openAt memory owner entries)
    (hnew : HoldsAt openAt memory new made) (hopen : new ∈ openAt) :
    Runs [new] memory (putDamage new owner)
      ((Entries.get? "Damage" entries).mapM fun damage =>
        return Item.component "damage" (.int (← Item.damageValue damage)))
      fun memory' _ added => Adds openAt new made memory' added.toList :=
  runs_putField howner hnew hopen fun tag => runs_int _ (Item.damageValue tag)

/-! ## Items -/

/-- The components of the tag of an item. -/
def innerComponents (item : Entries) : Outcome Entries :=
  match Entries.get? "tag" item with
  | some (.compound tag) => Item.tagComponents tag
  | _ => pure []

theorem runs_putTag (hbelow : Below openAt memory) (hitem : Compound openAt memory item entries)
    (hnew : HoldsAt openAt memory new made) (hopen : new ∈ openAt) :
    Runs [new] memory (putTag new item) (innerComponents entries)
      fun memory' _ added => Adds openAt new made memory' added := by
  unfold putTag innerComponents
  obtain ⟨found, hexec, hfound⟩ := exec_findCompound hitem.2 "tag"
  refine Runs.reads hexec ?_
  generalize Entries.get? "tag" entries = tag? at hfound ⊢
  cases tag? with
  | none =>
    cases hfound
    exact Runs.pure hnew
  | some tag =>
    cases tag with
    | compound tag =>
      change Option.Rel _ found (some tag) at hfound
      cases hfound with
      | some htag =>
        have hsub : [new] ⊆ openAt := List.cons_subset.2 ⟨hopen, List.nil_subset _⟩
        dsimp only
        rw [tagComponents_eq]
        refine (runs_putEnchantments hbelow htag hnew hopen).bind (List.Subset.refl _)
          fun memory₁ _ enchanted hkeeps _ henchanted => ?_
        have htag₁ := htag.keeps hkeeps hsub
        refine (runs_putProfile (hbelow.keeps hkeeps) htag₁ henchanted hopen).bind
          (List.Subset.refl _) fun memory₂ _ owner hkeeps _ howner => ?_
        rw [bind_pure_comp]
        refine (runs_putDamage (htag₁.keeps hkeeps hsub) howner hopen).map
          fun _ _ damage _ hdamage => ?_
        unfold Adds at hdamage ⊢
        rwa [merge_merge, merge_merge, ← List.append_assoc] at hdamage
    | _ =>
      cases hfound
      exact Runs.pure hnew

theorem components_eq (item : Entries) :
    Item.components item = (do
      let damage ← (Entries.get? "Damage" item).mapM fun damage =>
        return Item.component "damage" (.int (← Item.damageValue damage))
      let shown ← shownComponents item
      let inner ← innerComponents item
      return Entries.merge (damage.toList ++ shown) inner) := by
  unfold Item.components shownComponents innerComponents
  refine bind_congr fun damage => ?_
  generalize Item.display item = shown
  generalize Entries.get? "tag" item = tag?
  cases tag? with
  | none => cases shown <;> rfl
  | some tag => cases tag <;> cases shown <;> rfl

/-- What is made of a field has its name at most. -/
theorem sublist_of_subset {name : Text} {made : Option (Text × Tag)}
    (h : Entries.names made.toList ⊆ [name]) : (Entries.names made.toList).Sublist [name] := by
  cases made with
  | none => exact List.nil_sublist _
  | some entry => exact List.singleton_sublist.2 (h List.mem_cons_self)

/-- The names of the components that are made in front of those of the tag, in order. -/
def frontNames : List Text :=
  ["damage", "dyed_color", "custom_name", "lore"].map fun name => namespaced name.toList

open Item in
theorem gives_displayComponents_sublist (display : Entries) :
    Gives (displayComponents display) fun shown => shown.names.Sublist (frontNames.drop 1) := by
  rw [displayComponents_eq]
  refine gives_bind (gives_component [_] List.mem_cons_self _ Tag.toInt Tag.int) fun color hcolor => ?_
  refine gives_bind (gives_component [_] List.mem_cons_self _ displayName id) fun name hname => ?_
  have hlore : Gives (loreComponent display) fun lore =>
      Entries.names lore.toList ⊆ [namespaced "lore".toList] := by
    unfold loreComponent
    split
    · refine gives_map (gives_bind (gives_any _) fun lines _ => ?_) fun _ hentry => hentry
      exact gives_pure (names_component_subset List.mem_cons_self _)
    · exact gives_pure (names_nil_subset _)
  refine gives_bind hlore fun lore hlore => gives_pure ?_
  have hall := ((sublist_of_subset hcolor).append (sublist_of_subset hname)).append
    (sublist_of_subset hlore)
  unfold Entries.names at hall ⊢
  rwa [List.map_append, List.map_append]

theorem nodup_front {damage : Option (Text × Tag)} {shown : Entries}
    (hdamage : Entries.names damage.toList ⊆ [namespaced "damage".toList])
    (hshown : shownComponents entries = .ok shown) :
    (Entries.names (damage.toList ++ shown)).Nodup := by
  have hnames : shown.names.Sublist (frontNames.drop 1) := by
    unfold shownComponents at hshown
    split at hshown
    · exact gives_displayComponents_sublist _ _ hshown
    · obtain rfl := Except.ok.inj hshown
      exact List.nil_sublist _
  have hall := (sublist_of_subset hdamage).append hnames
  unfold Entries.names at hall ⊢
  rw [List.map_append]
  exact hall.nodup (by decide)

theorem runs_putComponents (hbelow : Below openAt memory) (hitem : Compound openAt memory item entries)
    (hnew : HoldsAt openAt memory new []) (hopen : new ∈ openAt) :
    Runs [new] memory (putComponents new item) (Item.components entries)
      fun memory' _ made => HoldsAt openAt memory' new made := by
  have hsub : [new] ⊆ openAt := List.cons_subset.2 ⟨hopen, List.nil_subset _⟩
  unfold putComponents
  rw [components_eq]
  refine (runs_putDamage hitem hnew hopen).bind (List.Subset.refl _)
    fun memory₁ _ damage hkeeps hokDamage hdamage => ?_
  have hitem₁ := hitem.keeps hkeeps hsub
  refine (runs_putDisplay (hbelow.keeps hkeeps) hitem₁ hdamage hopen).bind (List.Subset.refl _)
    fun memory₂ _ shown hkeeps₂ hokShown hshown => ?_
  rw [bind_pure_comp]
  refine (runs_putTag ((hbelow.keeps hkeeps).keeps hkeeps₂) (hitem₁.keeps hkeeps₂ hsub) hshown hopen).map
    fun _ _ inner _ hinner => ?_
  have hdamageNames := Item.gives_component [_] List.mem_cons_self _ Item.damageValue Tag.int damage hokDamage
  have hfront : Entries.merge [] (damage.toList ++ shown) = damage.toList ++ shown :=
    merge_eq_append (nodup_front hdamageNames hokShown)
  unfold Adds at hinner
  rwa [merge_merge [] damage.toList shown, hfront] at hinner

/-! ## New items -/

theorem mem_or_fresh : ∀ a ∈ memory.length :: openAt, a ∈ openAt ∨ memory.length ≤ a :=
  List.forall_mem_cons.2 ⟨.inr (Nat.le_refl _), fun _ ha => .inl ha⟩

theorem HoldsAt.lt_length (h : HoldsAt openAt memory new entries) : new < memory.length := by
  obtain ⟨fields, hobject, -⟩ := h
  exact (List.getElem?_eq_some_iff.1 hobject).1

/-- Addresses that are not in use yet may be opened. -/
theorem Compound.reopen {openAt' : List Address} (h : Compound openAt memory item entries)
    (hopen : ∀ a ∈ openAt', a ∈ openAt ∨ memory.length ≤ a) : Compound openAt' memory item entries := by
  refine ⟨fun hmem => ?_, h.2.reopen hopen⟩
  rcases hopen item hmem with hold | hfresh
  · exact h.1 hold
  · exact Nat.not_lt.2 hfresh (HoldsAt.lt_length h.2)

theorem Compound.alloc (h : Compound openAt memory item entries) (object : Object) :
    Compound (memory.length :: openAt) (memory ++ [object]) item entries :=
  (h.reopen mem_or_fresh).keeps (keeps_append _ _) (List.nil_subset _)

/-- An item that was made since the memory had `start` objects: the new item owns its components. -/
def NewItem (openAt : List Address) (start : Nat) (memory : Memory) (new : Address) (entries : Entries) :
    Prop :=
  ∃ components, (∀ a ∈ [new, components], start ≤ a) ∧
    Stands (components :: new :: openAt) memory new [("components".toList, components)] entries

/-- The item is empty if its entries are. -/
theorem exec_fields_isEmpty {R : Text → Value → Tag → Prop} (h : ∃ found,
      memory[new]? = some (.compound found) ∧ Fields.Match R found made) :
    ∃ found, exec (fields new) memory = (.ok found, memory) ∧ found.isEmpty = made.isEmpty := by
  obtain ⟨found, hobject, hfields⟩ := h
  refine ⟨found, exec_fields hobject, ?_⟩
  cases hfields <;> rfl

open Item in
theorem nodup_kept (components : Entries) {named counted : Entries} (hnamed : identity entries = .ok named)
    (hcounted : count entries = .ok counted) :
    (Entries.names (named ++ counted ++ [("components".toList, .compound components)])).Nodup := by
  have hid : Gives (identity entries) fun new => new.names.Sublist ["id".toList] := by
    unfold identity
    split
    · exact gives_pure (List.nil_sublist _)
    · refine gives_bind (gives_any _) fun name _ => ?_
      split
      · exact gives_pure (List.Sublist.refl _)
      · exact gives_pure (List.Sublist.refl _)
      split
      · exact gives_bind (gives_any _) fun damage _ => gives_pure (List.Sublist.refl _)
      · exact gives_pure (List.Sublist.refl _)
  have hcount : Gives (count entries) fun new => new.names.Sublist ["count".toList] := by
    unfold count
    split
    · exact gives_pure (List.nil_sublist _)
    · exact gives_bind (gives_any _) fun n _ => gives_pure (List.Sublist.refl _)
  have hall := ((hid named hnamed).append (hcount counted hcounted)).append
    (List.Sublist.refl ["components".toList])
  unfold Entries.names at hall ⊢
  rw [List.map_append, List.map_append]
  exact hall.nodup (by decide)

/-- The components are put into the new item, if there are any. -/
theorem runs_finish {start : Nat} {components : Address} {kept : Entries}
    (hfresh : ∀ a ∈ [new, components], start ≤ a)
    (hne : components ≠ new)
    (hnodup : (Entries.names (kept ++ [("components".toList, .compound made)])).Nodup)
    (hnew : HoldsAt (components :: new :: openAt) memory new kept)
    (hcomponents : HoldsAt (components :: new :: openAt) memory components made) :
    Runs [components, new] memory (do
      if !(← fields components).isEmpty then put new "components" (.ref components)
      return if (← fields new).isEmpty then none else some new)
      (do
        let result := kept ++ if made.isEmpty then [] else [("components".toList, .compound made)]
        return if result.isEmpty then none else some result)
      fun memory' => Option.Rel (NewItem openAt start memory') := by
  have hnames : kept.names.Nodup ∧ "components".toList ∉ kept.names := by
    unfold Entries.names at hnodup ⊢
    rw [List.map_append, List.nodup_append'] at hnodup
    exact ⟨hnodup.1, fun hmem => hnodup.2.2 hmem List.mem_cons_self⟩
  have hstands : Stands (components :: new :: openAt) memory new [("components".toList, components)] kept := by
    have hopen : new ∈ components :: new :: openAt := List.mem_cons_of_mem _ List.mem_cons_self
    refine (Stands.of_holds hnew hnames.1 hopen).reserve (Entries.get?_eq_none hnames.2)
      List.mem_cons_self ?_
    exact fun hmem => hne (List.mem_singleton.1 hmem)
  -- Both branches end with the same step.
  have hlast {memory' : Memory} {result : Entries}
      (hresult : Stands (components :: new :: openAt) memory' new [("components".toList, components)] result) :
      Runs [components, new] memory' (do return if (← fields new).isEmpty then none else some new)
        (return if result.isEmpty then none else some result)
        fun memory' => Option.Rel (NewItem openAt start memory') := by
    obtain ⟨found, hexec, hempty⟩ := exec_fields_isEmpty hresult.parts
    refine Runs.reads hexec (Runs.pure ?_)
    rw [hempty]
    split
    · exact .none
    · exact .some ⟨components, hfresh, hresult⟩
  obtain ⟨found, hexec, hempty⟩ := exec_fields_isEmpty hcomponents
  refine Runs.reads hexec ?_
  rw [hempty]
  cases made with
  | nil =>
    have hresult := hlast hstands
    rwa [← List.append_nil kept] at hresult
  | cons entry rest =>
    have hvalue : ShowsPart [("components".toList, components)] (components :: new :: openAt) memory
        "components".toList (.ref components) (.compound (entry :: rest)) :=
      (showsPart_of_some rfl).2 ⟨rfl, _, rfl, hcomponents⟩
    have hput := hstands.put hvalue
    rw [Entries.set_of_notMem hnames.2] at hput
    refine Runs.step rfl ((keeps_modify memory new _).mono ?_) (hlast hput)
    exact List.cons_subset.2 ⟨List.mem_cons_of_mem _ List.mem_cons_self, List.nil_subset _⟩

theorem runs_upgrade (hbelow : Below openAt memory) (hitem : Compound openAt memory item entries) :
    Runs [] memory (upgrade item) (Item.upgrade entries)
      fun memory' => Option.Rel (NewItem openAt memory.length memory') := by
  unfold upgrade Item.upgrade
  refine Runs.of_fresh (Runs.alloc ?_ : Runs [memory.length] memory _ _ _)
    (List.forall_mem_singleton.2 (.inr (Nat.le_refl _)))
  have hitem₀ := hitem.alloc (.compound [])
  have hbelow₀ := hbelow.alloc (.compound [])
  have hnew₀ : HoldsAt (memory.length :: openAt) (memory ++ [.compound []]) memory.length [] := holds_new .nil
  have hsub₀ : [memory.length] ⊆ memory.length :: openAt :=
    List.cons_subset.2 ⟨List.mem_cons_self, List.nil_subset _⟩
  refine (runs_putIdentity hitem₀ hnew₀ List.mem_cons_self).bind (List.Subset.refl _)
    fun memory₁ _ named hkeeps₁ hokNamed hnamed => ?_
  have hitem₁ := hitem₀.keeps hkeeps₁ hsub₀
  refine (runs_putCount hitem₁ hnamed List.mem_cons_self).bind (List.Subset.refl _)
    fun memory₂ _ counted hkeeps₂ hokCounted hcounted => ?_
  have hitem₂ := hitem₁.keeps hkeeps₂ hsub₀
  have hbelow₂ := (hbelow₀.keeps hkeeps₁).keeps hkeeps₂
  have hlt : memory.length < memory₂.length := hbelow₂ _ List.mem_cons_self
  refine Runs.of_fresh (Runs.alloc ?_ : Runs [memory₂.length, memory.length] memory₂ _ _ _) ?_
  · have hnew₃ := ((hcounted.reopen mem_or_fresh).keeps (keeps_append _ [.compound []]) (List.nil_subset _)
      List.not_mem_nil)
    refine (runs_putComponents (hbelow₂.alloc (.compound [])) (hitem₂.alloc (.compound [])) (holds_new .nil)
      List.mem_cons_self).bind (List.cons_subset.2 ⟨List.mem_cons_self, List.nil_subset _⟩)
      fun memory₄ _ made hkeeps₄ _ hmade => ?_
    have hnodup := nodup_kept made hokNamed hokCounted
    have hkept : Entries.merge [] (named ++ counted) = named ++ counted := merge_eq_append (by
      unfold Entries.names at hnodup ⊢
      rw [List.map_append, List.nodup_append'] at hnodup
      exact hnodup.1)
    rw [merge_merge, hkept] at hnew₃
    have hnew₄ := hnew₃.keeps hkeeps₄ (List.cons_subset.2 ⟨List.mem_cons_self, List.nil_subset _⟩)
      (fun hmem => hlt.ne (List.mem_singleton.1 hmem))
    refine runs_finish ?_ hlt.ne' hnodup hnew₄ hmade
    exact List.forall_mem_cons.2 ⟨Nat.le_refl _, List.forall_mem_singleton.2 hlt.le⟩
  · exact List.forall_mem_cons.2
      ⟨.inr (Nat.le_refl _), List.forall_mem_singleton.2 (.inl List.mem_cons_self)⟩

end CommandUpgrade.Heap
