import CommandUpgrade.Memory.Rule
import CommandUpgrade.Proofs.Memory.Item

/-!
# Carried items are new objects

The items of an inventory and the item in hand are renewed as in `Rule.inventoryItem` and
`Rule.newSelected`. Afterwards their lore is replaced, and fields of the old item are shared. All of this is
written into the new item and the components that it owns (`runs_inventoryItem`, `runs_newSelected`).
-/

namespace CommandUpgrade.Heap

open Text Style Memory Outcome

variable {openAt : List Address} {memory : Memory} {item new : Address} {owned : Owned}
  {entries : Entries}

/-! ## Lore -/

theorem runs_flatten {lines : List Value} {tags : List Tag}
    (h : List.Forall₂ (Shows openAt memory) lines tags) :
    Runs [] memory (flatten lines) (.ok (Rule.flatten tags))
      fun memory' => List.Forall₂ (Shows openAt memory') := by
  have hparts : ∃ parts, exec (lines.mapM fun line => return (← list? line).getD [line]) memory =
      (.ok parts, memory) ∧ List.Forall₂ (Shows openAt memory) parts.flatten (Rule.flatten tags) := by
    induction h with
    | nil => exact ⟨[], rfl, .nil⟩
    | @cons line tag lines tags hline _ ih =>
      obtain ⟨parts, hexec, hrest⟩ := ih
      obtain ⟨found, hlist, hfound⟩ := exec_list? hline
      refine ⟨found.getD [line] :: parts, ?_, ?_⟩
      · have hfirst : exec (do return (← list? line).getD [line]) memory =
            (.ok (found.getD [line]), memory) := exec_bind_of_ok hlist _
        rw [List.mapM_cons, exec_bind_of_ok hfirst, exec_bind_of_ok hexec]
        rfl
      · have hpart : List.Forall₂ (Shows openAt memory) (found.getD [line]) (Rule.flatten [tag]) := by
          cases tag with
          | list items =>
            change Option.Rel _ found (some items) at hfound
            cases hfound with
            | some hitems => rwa [Rule.flatten, List.flatMap_singleton]
          | _ =>
            cases hfound
            exact .cons hline .nil
        have hcons : Rule.flatten (tag :: tags) = Rule.flatten [tag] ++ Rule.flatten tags := by
          unfold Rule.flatten
          rw [List.flatMap_cons, List.flatMap_singleton]
        rw [List.flatten_cons, hcons]
        exact List.rel_append hpart hrest
  obtain ⟨parts, hexec, hall⟩ := hparts
  exact Runs.reads hexec (Runs.pure hall)

/-- The lore is replaced in place by a new list. -/
theorem runs_changeLore {components : Address} {change : List Value → Heap (List Value)}
    {f : List Tag → List Tag} (hbelow : Below openAt memory) (h : HoldsAt openAt memory components entries)
    (hopen : components ∈ openAt)
    (hchange : ∀ lines tags, List.Forall₂ (Shows openAt memory) lines tags →
      Runs [] memory (change lines) (.ok (f tags)) fun memory' => List.Forall₂ (Shows openAt memory')) :
    Runs [components] memory (changeLore components change) (.ok (Rule.mapLore f entries))
      fun memory' _ made => HoldsAt openAt memory' components made := by
  unfold changeLore Rule.mapLore
  obtain ⟨found, hexec, hfound⟩ := exec_findList h "minecraft:lore"
  refine Runs.reads hexec ?_
  generalize Entries.get? "minecraft:lore" entries = lore? at hfound ⊢
  cases lore? with
  | none =>
    cases hfound
    exact Runs.pure h
  | some tag =>
    cases tag with
    | list tags =>
      change Option.Rel _ found (some tags) at hfound
      cases hfound with
      | @some lines _ hlines =>
        refine (hchange lines tags hlines).before (List.nil_subset _)
          fun memory₁ values hkeeps hvalues => Runs.alloc (Runs.last ?_)
        have hholds := (h.keeps hkeeps (List.nil_subset _) List.not_mem_nil).keeps
          (keeps_append memory₁ [.list values]) (List.nil_subset _) List.not_mem_nil
        exact Runs.put hholds hopen List.mem_cons_self (shows_new_list (hbelow.keeps hkeeps) hvalues)
          fun memory₂ _ hholds => Runs.pure hholds
    | _ =>
      cases hfound
      exact Runs.pure h

theorem exec_filterM_view {picks : Tag → Bool} {values : List Value} {tags : List Tag}
    (h : List.Forall₂ (Shows openAt memory) values tags) :
    ∃ picked, exec (values.filterM fun value => return picks (← view value)) memory =
      (.ok picked, memory) ∧ List.Forall₂ (Shows openAt memory) picked (tags.filter picks) := by
  have haux (front : List Value) : ∃ picked,
      exec (values.filterAuxM (fun value => return picks (← view value)) front) memory =
        (.ok (picked.reverse ++ front), memory) ∧
      List.Forall₂ (Shows openAt memory) picked (tags.filter picks) := by
    induction h generalizing front with
    | nil => exact ⟨[], rfl, .nil⟩
    | @cons value tag values tags hvalue _ ih =>
      have hpicks : exec (do return picks (← view value)) memory = (.ok (picks tag), memory) :=
        exec_bind_of_ok (exec_view hvalue) _
      rw [List.filterAuxM, exec_bind_of_ok hpicks, List.filter_cons]
      cases picks tag with
      | true =>
        obtain ⟨picked, hexec, hall⟩ := ih (value :: front)
        refine ⟨value :: picked, ?_, .cons hvalue hall⟩
        rw [List.reverse_cons, List.append_assoc]
        exact hexec
      | false => exact ih front
  obtain ⟨picked, hexec, hall⟩ := haux []
  refine ⟨picked, ?_, hall⟩
  unfold List.filterM
  rw [exec_bind_of_ok hexec, List.append_nil, List.reverse_reverse]
  rfl

/-- The fields of a component in their order. -/
theorem match_reordered {R : Text → Value → Tag → Prop} {fields : Fields} (h : fields.Match R entries) :
    Fields.Match R
      ((["color", "italic", "text"].map String.toList).filterMap
          (fun name => (fields.lookup name).map (name, ·)) ++
        fields.filter fun field => !(["color", "italic", "text"].map String.toList).contains field.1)
      (reordered entries) := by
  unfold reordered
  generalize ["color", "italic", "text"].map String.toList = first
  refine List.rel_append ?_ (h.filter fun name => !first.contains name)
  induction first with
  | nil => exact .nil
  | cons name rest ih =>
    have hfound := h.lookup name
    rw [List.filterMap_cons, List.filterMap_cons]
    generalize fields.lookup name = value? at hfound
    generalize Entries.get? name entries = tag? at hfound
    cases hfound with
    | none => exact ih
    | some hvalue => exact .cons ⟨rfl, hvalue⟩ ih

/-- A component with its fields in order. -/
def reorderedTag : Tag → Tag
  | .compound entries => .compound (reordered entries)
  | tag => tag

theorem runs_reorder {value : Value} {tag : Tag} (hbelow : Below openAt memory)
    (h : Shows openAt memory value tag) :
    Runs [] memory (reorder value) (.ok (reorderedTag tag)) (Shows openAt) := by
  unfold reorder
  obtain ⟨found, hexec, hfound⟩ := exec_compound? h
  refine Runs.reads hexec ?_
  cases tag with
  | compound entries =>
    change Option.Rel _ found (some entries) at hfound
    cases hfound with
    | some hcompound =>
      obtain ⟨-, fields, hobject, hfields⟩ := hcompound
      refine Runs.reads (exec_fields hobject) (Runs.alloc (Runs.pure ?_))
      exact shows_new_compound hbelow (match_reordered hfields)
  | _ =>
    cases hfound
    exact Runs.pure h

theorem runs_selectedLore {lines : List Value} {tags : List Tag} (hbelow : Below openAt memory)
    (h : List.Forall₂ (Shows openAt memory) lines tags) :
    Runs [] memory (selectedLore lines) (.ok (Rule.selectedLore tags))
      fun memory' => List.Forall₂ (Shows openAt memory') := by
  have hlore : Rule.selectedLore tags =
      ((Rule.flatten tags).filter (!Rule.isEmptyComponent ·)).map reorderedTag := by
    unfold Rule.selectedLore
    refine List.map_congr_left fun tag _ => ?_
    cases tag <;> rfl
  refine (runs_flatten h).before (List.nil_subset _) fun memory₁ values hkeeps hvalues => ?_
  obtain ⟨filled, hexec, hfilled⟩ := exec_filterM_view hvalues
  refine Runs.reads hexec ?_
  rw [hlore, ← mapM_eq_ok fun tag _ => rfl]
  exact Runs.mapM (P := Shows openAt) (fun _ _ _ _ hkeeps h => h.keeps hkeeps (List.nil_subset _))
    (fun _ _ _ _ hkeeps h => h.keeps hkeeps (List.nil_subset _))
    (fun _ _ _ hkeeps' h => runs_reorder ((hbelow.keeps hkeeps).keeps hkeeps') h) hfilled

/-! ## Shared fields -/

/-- The fields of the old item that the new one lacks. -/
def missing (item new : Entries) (names : List Text) : Entries :=
  names.filterMap fun name => if Entries.has name new then none else (Entries.get? name item).map (name, ·)

section Missing

variable {old made : Entries} {name : Text} {names : List Text}

theorem missing_cons_of_some {tag : Tag} (h : Entries.get? name made = some tag) :
    missing old made (name :: names) = missing old made names := by
  unfold missing Entries.has
  rw [List.filterMap_cons, h]
  rfl

theorem missing_cons_of_none (h : Entries.get? name made = none) :
    missing old made (name :: names) =
      ((Entries.get? name old).map (name, ·)).toList ++ missing old made names := by
  unfold missing Entries.has
  rw [List.filterMap_cons, h]
  cases Entries.get? name old <;> rfl

/-- A new entry of another name does not matter. -/
theorem missing_set (hname : name ∉ names) (tag : Tag) :
    missing old (made.set name tag) names = missing old made names := by
  unfold missing Entries.has
  refine List.filterMap_congr fun other hother => ?_
  rw [Entries.get?_set_of_ne (ne_of_mem_of_not_mem hother hname)]

end Missing

theorem runs_share {old : Entries} {names : List Text} (hitem : Compound openAt memory item old)
    (hnew : Stands openAt memory new owned entries) (hnames : names.Nodup)
    (hfree : ∀ name ∈ names, owned.lookup name = none) :
    Runs [new] memory (share new item names) (.ok (entries ++ missing old entries names))
      fun memory' _ made => Stands openAt memory' new owned made := by
  induction names generalizing memory entries with
  | nil =>
    refine Runs.pure ?_
    rwa [missing, List.filterMap_nil, List.append_nil]
  | cons name names ih =>
    obtain ⟨hname, hnames⟩ := List.nodup_cons.1 hnames
    obtain ⟨hfreeName, hfree⟩ := List.forall_mem_cons.1 hfree
    -- What the first name does, and what it leaves to the others.
    have hstep {program : Heap Unit} {memory' : Memory} {made : Entries}
        (hexec : exec program memory = (.ok (), memory')) (hkeeps : memory.Keeps [new] memory')
        (hmade : Stands openAt memory' new owned made)
        (hall : made ++ missing old made names = entries ++ missing old entries (name :: names)) :
        Runs [new] memory (program >>= fun _ => share new item names)
          (.ok (entries ++ missing old entries (name :: names)))
          fun memory' _ made => Stands openAt memory' new owned made := by
      have hsub : [new] ⊆ openAt :=
        List.cons_subset.2 ⟨hnew.opened List.mem_cons_self, List.nil_subset _⟩
      rw [← hall]
      exact Runs.step hexec hkeeps (ih (hitem.keeps hkeeps hsub) hmade hnames hfree)
    obtain ⟨found, hexec, hfound⟩ := hnew.exec_find name
    obtain ⟨value?, hexecOld, hvalue⟩ := exec_find hitem.2 name
    cases hhas : Entries.get? name entries with
    | some tag =>
      rw [hhas] at hfound
      cases hfound with
      | some =>
        refine hstep (exec_bind_of_ok hexec _) (Keeps.refl _ _) hnew ?_
        rw [missing_cons_of_some hhas]
    | none =>
      rw [hhas] at hfound
      cases hfound with
      | none =>
        have hall : missing old entries (name :: names) =
            ((Entries.get? name old).map (name, ·)).toList ++ missing old entries names :=
          missing_cons_of_none hhas
        cases hold : Entries.get? name old with
        | none =>
          rw [hold] at hvalue hall
          cases hvalue
          refine hstep ((exec_bind_of_ok hexec _).trans (exec_bind_of_ok hexecOld _)) (Keeps.refl _ _) hnew ?_
          rw [hall]
          rfl
        | some tag =>
          rw [hold] at hvalue hall
          cases hvalue with
          | some hvalue =>
            refine hstep ((exec_bind_of_ok hexec _).trans (exec_bind_of_ok hexecOld _))
              (keeps_modify _ _ _) (hnew.put ((showsPart_of_none hfreeName).2 hvalue)) ?_
            rw [missing_set hname, Entries.set_of_notMem (Entries.notMem_names hhas), hall]
            exact List.append_assoc _ _ _

/-! ## Carried items -/

section NewItem

variable {start : Nat} {components : Address} {inner made : Entries} {memory' : Memory}

/-- The new item and its components as they are being filled. -/
def Making (openAt : List Address) (memory : Memory) (new components : Address) (made : Entries) : Prop :=
  Stands (components :: new :: openAt) memory new [("components".toList, components)] made

theorem Making.shows (h : Making openAt memory new components made) (hstart : ∀ a ∈ openAt, a < start)
    (hfresh : ∀ a ∈ [new, components], start ≤ a) : Shows openAt memory (.ref new) (.compound made) :=
  Stands.shows h (List.subset_cons_of_subset _ (List.subset_cons_self _ _)) fun a ha hmem =>
    Nat.lt_irrefl _ ((hstart a hmem).trans_le (hfresh a ha))

/-- The lore of a new item is replaced in its components. -/
theorem runs_relore {change : List Value → Heap (List Value)} {f : List Tag → List Tag}
    (hbelow : Below (components :: new :: openAt) memory) (h : Making openAt memory new components made)
    (hentry : Entries.get? "components" made = some (.compound inner))
    (hinner : HoldsAt (components :: new :: openAt) memory components inner)
    (hchange : ∀ lines tags, List.Forall₂ (Shows (components :: new :: openAt) memory) lines tags →
      Runs [] memory (change lines) (.ok (f tags))
        fun memory' => List.Forall₂ (Shows (components :: new :: openAt) memory')) :
    Runs [components, new] memory (changeLore components change)
      (.ok (made.set "components" (.compound (Rule.mapLore f inner))))
      fun memory' _ made => Making openAt memory' new components made := by
  refine Runs.last ((runs_changeLore hbelow hinner List.mem_cons_self hchange).before ?_
    fun memory₁ _ hkeeps hmade => Runs.pure ?_)
  · exact List.cons_subset.2 ⟨List.mem_cons_self, List.nil_subset _⟩
  · exact Stands.change h List.lookup_cons_self hentry hkeeps hmade

/-- A new item has no components, or its components are found. -/
theorem NewItem.cases (h : NewItem openAt start memory new made) (hbelow : Below openAt memory) :
    ∃ components, (∀ a ∈ [new, components], start ≤ a) ∧ Making openAt memory new components made ∧
      ((Entries.get? "components" made = none ∧
        exec (findCompound new "components") memory = (.ok none, memory)) ∨
      ∃ inner, Entries.get? "components" made = some (.compound inner) ∧
        HoldsAt (components :: new :: openAt) memory components inner ∧
        Below (components :: new :: openAt) memory ∧
        exec (findCompound new "components") memory = (.ok (some components), memory)) := by
  obtain ⟨components, hfresh, hstands⟩ := h
  refine ⟨components, hfresh, hstands, ?_⟩
  rcases hstands.exec_findCompound List.lookup_cons_self with hnone | ⟨inner, hsome, hinner, hexec⟩
  · exact .inl hnone
  · obtain ⟨fields, hobject, -⟩ := hstands.parts
    have hnew := (List.getElem?_eq_some_iff.1 hobject).1
    exact .inr ⟨inner, hsome, hinner, List.forall_mem_cons.2 ⟨HoldsAt.lt_length hinner,
      List.forall_mem_cons.2 ⟨hnew, hbelow⟩⟩, hexec⟩

end NewItem

theorem lookup_ne {name other : Text} {address : Address} (h : name ≠ other) :
    List.lookup name [(other, address)] = none := by
  rw [List.lookup_cons, beq_false_of_ne h]
  rfl

theorem runs_inventoryItem {value : Value} {tag : Tag} (hbelow : Below openAt memory)
    (hvalue : Shows openAt memory value tag) :
    Runs [] memory (inventoryItem value) (Rule.inventoryItem tag) (Shows openAt) := by
  unfold inventoryItem Rule.inventoryItem
  obtain ⟨found, hexec, hfound⟩ := exec_compound? hvalue
  refine Runs.reads hexec ?_
  cases tag with
  | compound old =>
    change Option.Rel _ found (some old) at hfound
    cases hfound with
    | @some item _ hitem =>
      refine (runs_upgrade hbelow hitem).bind_fresh (List.nil_subset _)
        fun memory₁ new? made? hkeeps _ hnew => ?_
      cases hnew with
      | none =>
        exact ⟨[], fun _ ha => .inl ha, Runs.pure (hvalue.keeps hkeeps (List.nil_subset _))⟩
      | @some new made hnew =>
        obtain ⟨components, hfresh, hmaking, hcases⟩ := hnew.cases (hbelow.keeps hkeeps)
        have hfresh' : ∀ a ∈ [components, new], memory.length ≤ a :=
          fun a ha => hfresh a (List.mem_pair.2 (List.mem_pair.1 ha).symm)
        refine ⟨[components, new], fun a ha => .inr (hfresh' a ha), ?_⟩
        rcases hcases with ⟨hnone, hexec⟩ | ⟨inner, hsome, hinner, hbelow₁, hexec⟩
        · refine Runs.reads hexec ?_
          dsimp only
          rw [hnone]
          exact Runs.pure (hmaking.shows hbelow hfresh)
        · refine Runs.reads hexec ?_
          dsimp only
          rw [hsome]
          have hitem₁ : Compound (components :: new :: openAt) memory₁ item old := by
            refine (hitem.reopen ?_).keeps hkeeps (List.nil_subset _)
            exact List.forall_mem_cons.2 ⟨.inr (hfresh' _ List.mem_cons_self),
              List.forall_mem_cons.2 ⟨.inr (hfresh _ List.mem_cons_self), fun _ ha => .inl ha⟩⟩
          refine (runs_relore hbelow₁ hmaking hsome hinner fun _ _ => runs_flatten).before
            (List.Subset.refl _) fun memory₂ _ hkeeps₂ hrelored => ?_
          have hitem₂ := hitem₁.keeps hkeeps₂ (by simp)
          have hfree : ∀ name ∈ ["id", "count", "Slot"].map String.toList, name ≠ "components".toList := by
            decide
          refine (runs_share hitem₂ hrelored (by decide) fun name hname => lookup_ne (hfree name hname)).before
            (by simp) fun memory₃ _ _ hshared => Runs.pure (Making.shows hshared hbelow hfresh)
  | _ =>
    cases hfound
    exact Runs.pure hvalue

theorem runs_newSelected {old : Entries} (hbelow : Below openAt memory)
    (hitem : Compound openAt memory item old) :
    Runs [] memory (newSelected item) (Rule.newSelected old)
      fun memory' => Option.Rel fun new made => Shows openAt memory' (.ref new) (.compound made) := by
  unfold newSelected Rule.newSelected
  refine (runs_upgrade hbelow hitem).bind_fresh (List.nil_subset _)
    fun memory₁ new? made? hkeeps _ hnew => ?_
  cases hnew with
  | none => exact ⟨[], fun _ ha => .inl ha, Runs.pure .none⟩
  | @some new made hnew =>
    obtain ⟨components, hfresh, hmaking, hcases⟩ := hnew.cases (hbelow.keeps hkeeps)
    have hfresh' : ∀ a ∈ [components, new], memory.length ≤ a :=
      fun a ha => hfresh a (List.mem_pair.2 (List.mem_pair.1 ha).symm)
    refine ⟨[components, new], fun a ha => .inr (hfresh' a ha), ?_⟩
    rcases hcases with ⟨hnone, hexec⟩ | ⟨inner, hsome, hinner, hbelow₁, hexec⟩
    · refine Runs.reads hexec ?_
      dsimp only
      rw [hnone]
      exact Runs.pure (.some (hmaking.shows hbelow hfresh))
    · refine Runs.reads hexec ?_
      dsimp only
      rw [hsome]
      refine (runs_relore hbelow₁ hmaking hsome hinner fun _ _ => runs_selectedLore hbelow₁).before
        (List.Subset.refl _) fun memory₂ _ hkeeps₂ hrelored => ?_
      obtain ⟨found, hexec, hfound⟩ := Stands.exec_find hrelored "count"
      refine Runs.reads hexec ?_
      dsimp only
      generalize made.set "components" _ = relored at hrelored hfound
      unfold Entries.has
      cases hcount : Entries.get? "count" relored with
      | some tag =>
        rw [hcount] at hfound
        cases hfound with
        | some => exact Runs.pure (.some (Making.shows hrelored hbelow hfresh))
      | none =>
        rw [hcount] at hfound
        cases hfound with
        | none =>
          have hone : ShowsPart [("components".toList, components)] (components :: new :: openAt) memory₂
              "count" (.int 1) (.int 1) := (showsPart_of_none (lookup_ne (by decide))).2 ⟨0, rfl⟩
          have hput := Stands.put hrelored hone
          rw [Entries.set_of_notMem (Entries.notMem_names hcount)] at hput
          refine Runs.step rfl ((keeps_modify _ _ _).mono (by simp)) (Runs.pure (.some ?_))
          exact Making.shows hput hbelow hfresh

end CommandUpgrade.Heap
