import CommandUpgrade.Proofs.Entity.Filling
import CommandUpgrade.Proofs.Item.Dropped
import CommandUpgrade.Proofs.Style.AnyText
import CommandUpgrade.Proofs.Text.Nesting

/-!
# The lore of carried items

The lines of a lore become lists of components, and in an inventory these lists are strung together. So
the new lore has an entry for each component, not for each line: the lines and the entries agree if and
only if every line is whole, that is, has one component (`inventory_lore_lines`).
-/

namespace CommandUpgrade

open Text Outcome

namespace Style

/-! ## How many components a line has -/

/-- The codes of a text. -/
def codes (s : Text) : List Char := (divide s).2.map Prod.fst

/-- Bold, strikethrough and underline: they divide a line, but a line does not keep them. -/
def isUnkept (code : Char) : Bool := code == 'l' || code == 'm' || code == 'n'

/-- A line is whole if no text stands in front of one of its codes. If the line keeps none of its
codes, one text may stand there, with none behind it. -/
def IsWhole (s : Text) : Prop :=
  (pieces s).dropLast.filter (· ≠ []) = [] ∨
    ((pieces s).dropLast.filter (· ≠ [])).length = 1 ∧ (pieces s).getLast? = some [] ∧
      ∀ code ∈ codes s, isUnkept code = true

instance (s : Text) : Decidable (IsWhole s) := inferInstanceAs (Decidable (_ ∨ _))

theorem isCode_of_mem_codes (s : Text) : ∀ code ∈ codes s, isCode code = true := by
  unfold codes
  induction s using divide.induct with
  | case1 => exact List.forall_mem_nil _
  | case2 c => exact List.forall_mem_nil _
  | case3 c d r hcode piece rest hdivide ih =>
    obtain ⟨rfl, hd⟩ := hcode
    rw [divide_code hd]
    exact List.forall_mem_cons.2 ⟨hd, ih⟩
  | case4 c d r hcode piece rest hdivide ih =>
    rw [divide, if_neg hcode]
    exact ih

/-- A code is a colour, a reset or a style. -/
theorem color?_of_isCode {code : Char} (h : isCode code = true) :
    (color? code).isSome = true ∨ code = 'r' ∨ code = 'o' ∨ isUnkept code = true := by
  simp only [isCode, Bool.or_eq_true, Bool.and_eq_true, decide_eq_true_eq, beq_iff_eq] at h
  rcases h with (((((⟨hle, hge⟩ | ⟨hle, hge⟩) | rfl) | rfl) | rfl) | rfl) | rfl
  · left
    obtain ⟨n, hlow, hhigh, rfl⟩ : ∃ n, 48 ≤ n ∧ n ≤ 57 ∧ code = Char.ofNat n :=
      ⟨code.toNat, hle, hge, by simp⟩
    interval_cases n <;> rfl
  · left
    obtain ⟨n, hlow, hhigh, rfl⟩ : ∃ n, 97 ≤ n ∧ n ≤ 102 ∧ code = Char.ofNat n :=
      ⟨code.toNat, hle, hge, by simp⟩
    interval_cases n <;> rfl
  · exact .inr (.inl rfl)
  · exact .inr (.inr (.inr rfl))
  · exact .inr (.inr (.inl rfl))
  · exact .inr (.inr (.inr rfl))
  · exact .inr (.inr (.inr rfl))

/-- The formatting stays empty only under codes that a line does not keep. -/
theorem lineMachine_apply_eq_nil_iff {code : Char} (h : isCode code = true) (format : Entries) :
    lineMachine.apply format code = [] ↔ format = [] ∧ isUnkept code = true := by
  rcases color?_of_isCode h with hcolor | rfl | rfl | hunkept
  · obtain ⟨color, hcolor⟩ := Option.isSome_iff_exists.1 hcolor
    have hunkept : isUnkept code ≠ true := by
      rintro hunkept
      simp only [isUnkept, Bool.or_eq_true, beq_iff_eq] at hunkept
      rcases hunkept with (rfl | rfl) | rfl <;> cases hcolor
    unfold Machine.apply
    rw [hcolor]
    simp [hunkept]
  · simp [Machine.apply, lineMachine, isUnkept, color?]
  · have hitalic : lineMachine.apply format 'o' = format.set "italic" (.bool true) := rfl
    have hget := Entries.get?_set_self "italic" (.bool true) format
    refine ⟨fun hnil => ?_, fun hunkept => absurd hunkept.2 (by decide)⟩
    rw [← hitalic, hnil] at hget
    cases hget
  · have happly : lineMachine.apply format code = format := by
      simp only [isUnkept, Bool.or_eq_true, beq_iff_eq] at hunkept
      rcases hunkept with (rfl | rfl) | rfl <;> rfl
    rw [happly]
    simp [hunkept]

theorem foldl_apply_eq_nil_iff {codes : List Char} (h : ∀ code ∈ codes, isCode code = true)
    (format : Entries) :
    codes.foldl lineMachine.apply format = [] ↔
      format = [] ∧ ∀ code ∈ codes, isUnkept code = true := by
  induction codes generalizing format with
  | nil => simp
  | cons code rest ih =>
    obtain ⟨hcode, hrest⟩ := List.forall_mem_cons.1 h
    rw [List.foldl_cons, ih hrest, lineMachine_apply_eq_nil_iff hcode, List.forall_mem_cons, and_assoc]

/-- Behind the codes and pieces of a text, the machine has given out every piece but the last. -/
theorem foldl_step_pieces (state : Machine.State) (rest : List (Char × Text)) :
    let last := (rest.flatMap fun piece => Mark.code piece.1 :: stepsOf piece.2).foldl
      lineMachine.step state
    (state.pending :: rest.map Prod.snd).getLast? = some last.pending ∧
    last.done.length = state.done.length +
      ((state.pending :: rest.map Prod.snd).dropLast.filter (· ≠ [])).length ∧
    last.format = (rest.map Prod.fst).foldl lineMachine.apply state.format := by
  induction rest generalizing state with
  | nil => simp
  | cons piece rest ih =>
    obtain ⟨code, piece⟩ := piece
    have hflush : (lineMachine.flush state).pending = [] ∧
        (lineMachine.flush state).format = state.format ∧
        (lineMachine.flush state).done.length =
          state.done.length + if state.pending = [] then 0 else 1 := by
      unfold Machine.flush
      by_cases hpending : state.pending = []
      · simp [hpending]
      · simp [hpending, lineMachine]
    -- The state behind the code and its piece.
    have hnext : (stepsOf piece).foldl lineMachine.step
        (lineMachine.step state (.code code)) =
          ⟨(lineMachine.flush state).done, piece, lineMachine.apply state.format code⟩ := by
      unfold stepsOf
      split
      case isTrue h => simp [Machine.step, hflush, h]
      case isFalse => simp [Machine.step, hflush]
    obtain ⟨hlast, hdone, hformat⟩ := ih
      ⟨(lineMachine.flush state).done, piece, lineMachine.apply state.format code⟩
    simp only [List.flatMap_cons, List.cons_append, List.foldl_cons, List.foldl_append, hnext,
      List.map_cons]
    refine ⟨hlast, ?_, hformat⟩
    rw [hdone, hflush.2.2, List.dropLast_cons_cons]
    by_cases hpending : state.pending = []
    · simp [hpending]
    · simp [hpending]
      omega

theorem length_closing (state : Machine.State) :
    (lineMachine.closing state).length = state.done.length +
      if state.pending ≠ [] ∨ state.done ≠ [] ∧ state.format ≠ [] then 1 else 0 := by
  unfold Machine.closing
  by_cases hpending : state.pending = []
  · by_cases hkept : state.done = [] ∨ state.format = []
    · rcases hkept with h | h <;> simp [hpending, h]
    · obtain ⟨hdone, hformat⟩ := not_or.1 hkept
      simp [hpending, hdone, hformat]
  · simp [hpending, Machine.flush]

/-- The machine behind a whole line has given out one component at most. -/
theorem length_closing_le_one_iff {s : Text} :
    (lineMachine.closing (lineMachine.run (codedMarks s))).length ≤ 1 ↔ IsWhole s := by
  have hrun : lineMachine.run (codedMarks s) =
      ((divide s).2.flatMap fun piece => Mark.code piece.1 :: stepsOf piece.2).foldl
        lineMachine.step ⟨[], (divide s).1, []⟩ := by
    unfold Machine.run codedMarks stepsOf
    rw [List.foldl_append]
    split
    case isTrue h => rw [h]; rfl
    case isFalse => rfl
  obtain ⟨hlast, hdone, hformat⟩ := foldl_step_pieces ⟨[], (divide s).1, []⟩ (divide s).2
  rw [← hrun] at hlast hdone hformat
  have hunkept : (lineMachine.run (codedMarks s)).format = [] ↔
      ∀ code ∈ codes s, isUnkept code = true := by
    rw [hformat]
    simpa [codes] using foldl_apply_eq_nil_iff (isCode_of_mem_codes s) []
  rw [length_closing, IsWhole, pieces, hlast, ← hunkept, Option.some_inj]
  have hfront : (lineMachine.run (codedMarks s)).done.length =
      ((pieces s).dropLast.filter (· ≠ [])).length := hdone.trans (Nat.zero_add _)
  unfold pieces at hfront
  generalize lineMachine.run (codedMarks s) = state at hfront ⊢
  generalize List.filter _ _ = front at hfront ⊢
  have hnone : state.done = [] ↔ front = [] := by
    rw [← List.length_eq_zero_iff, hfront, List.length_eq_zero_iff]
  rw [hfront]
  split
  case isTrue hmore =>
    have hzero : front.length + 1 ≤ 1 ↔ front = [] := by rw [← List.length_eq_zero_iff]; omega
    rw [hzero]
    grind
  case isFalse hmore =>
    have hone : front.length + 0 ≤ 1 ↔ front = [] ∨ front.length = 1 := by
      rw [← List.length_eq_zero_iff]; omega
    rw [hone]
    grind

/-- A coded line has a component, and one alone if and only if it is whole. -/
theorem length_lineComponents {s : Text} (h : IsCoded s) {components : List Entries}
    (hline : lineComponents s = .ok components) :
    components ≠ [] ∧ (components.length = 1 ↔ IsWhole s) := by
  rw [← length_closing_le_one_iff]
  have hclosing : lineComponents s =
      if (lineMachine.closing (lineMachine.run (codedMarks s))).isEmpty then .ok [plainComponent []]
      else .ok ((lineMachine.closing (lineMachine.run (codedMarks s))).map settled) := by
    unfold lineComponents
    rw [marks_eq h]
    rfl
  rw [hclosing] at hline
  generalize lineMachine.closing (lineMachine.run (codedMarks s)) = closing at hline ⊢
  cases closing with
  | nil =>
    obtain rfl := Except.ok.inj hline
    simp
  | cons first rest =>
    obtain rfl := Except.ok.inj hline
    simp

/-- Where every section sign makes a code, every piece is legible. -/
theorem IsCoded.legible {s : Text} (h : IsCoded s) : ∀ piece ∈ Style.pieces s, Legible piece := by
  have hlegible {piece : Text} (hsign : sign ∉ piece) : Legible piece :=
    ⟨fun hhead => absurd (List.mem_of_mem_head? hhead) hsign, fun _ => unformatted_of_notMem hsign⟩
  intro piece hmem
  rcases List.mem_cons.1 hmem with rfl | hmem
  · exact hlegible h.pieces.1
  · obtain ⟨coded, hcoded, rfl⟩ := List.mem_map.1 hmem
    exact hlegible (h.pieces.2 coded hcoded)

theorem exists_lineComponents_unformatted {s : Text} (h : IsCoded s) :
    ∃ components, lineComponents s = .ok components ∧
      components.flatMap textOf = unformatted s := by
  obtain ⟨components, hline, htext⟩ :=
    exists_lineComponents_of_notMem fun hmem => not_legible_sign (h.legible _ hmem)
  refine ⟨components, hline, ?_⟩
  rw [htext, unformatted_eq_flatMap]
  exact List.flatMap_congr fun piece hmem => (legible_iff piece).1 (h.legible piece hmem)

end Style

namespace Item

open Style

/-! ## Lore lines -/

/-- What a lore shows of a line: nothing if it is blank, and else its text without the codes. -/
def loreText (line : Text) : Text := if (trim line).isEmpty then [] else unformatted line

/-- The components of a line show it, and there is one alone if and only if the line is whole. -/
structure ShowsLine (line : Text) (part : List Entries) : Prop where
  nonempty : part ≠ []
  text : part.flatMap textOf = loreText line
  length : part.length = 1 ↔ IsWhole line

theorem isWhole_of_notMem {s : Text} (h : sign ∉ s) : IsWhole s := by
  left
  rw [pieces, divide_of_notMem h]
  rfl

theorem trim_ne_nil_of_mem {s : Text} (h : sign ∈ s) : trim s ≠ [] := by
  intro htrim
  obtain ⟨a, b, hs, ha, hb⟩ := exists_trim_append s
  rw [hs, htrim, List.nil_append] at h
  have hblank : isBlank sign = true := (List.mem_append.1 h).elim (ha sign) (hb sign)
  revert hblank
  decide

theorem exists_loreLine {line : Text} (h : IsCoded line) :
    ∃ part, loreLine (.text line) = .ok (.list (part.map .compound)) ∧ ShowsLine line part := by
  unfold loreLine
  dsimp only
  by_cases hsign : sign ∈ line
  · have hstyled : isStyled line = true := List.contains_iff_mem.2 hsign
    obtain ⟨components, hline, htext⟩ := exists_lineComponents_unformatted h
    obtain ⟨hnonempty, hlength⟩ := length_lineComponents h hline
    refine ⟨components, ?_, hnonempty, ?_, hlength⟩
    · rw [if_pos hstyled, hline]
      rfl
    · rw [htext, loreText, if_neg (by simpa using trim_ne_nil_of_mem hsign)]
  · have hplain : isStyled line = false := by simpa [isStyled] using hsign
    have hone (s : Text) (htext : s = loreText line) : ShowsLine line [plainComponent s] :=
      ⟨List.cons_ne_nil _ _, by simpa [(carries_plainComponent s).textOf] using htext,
        iff_of_true rfl (isWhole_of_notMem hsign)⟩
    rw [hplain, if_neg Bool.false_ne_true]
    split
    case isTrue hblank => exact ⟨_, rfl, hone [] (if_pos hblank).symm⟩
    case isFalse hblank =>
      refine ⟨_, rfl, hone line ?_⟩
      rw [loreText, if_neg hblank, unformatted_of_notMem hsign]

theorem exists_loreLines {lines : List Text} (h : ∀ line ∈ lines, IsCoded line) :
    ∃ parts : List (List Entries),
      loreLines (lines.map .text) = .ok (parts.map fun part => .list (part.map .compound)) ∧
      List.Forall₂ ShowsLine lines parts := by
  induction lines with
  | nil => exact ⟨[], rfl, .nil⟩
  | cons line rest ih =>
    obtain ⟨hline, hrest⟩ := List.forall_mem_cons.1 h
    obtain ⟨part, hpart, hshows⟩ := exists_loreLine hline
    obtain ⟨parts, hparts, hall⟩ := ih hrest
    refine ⟨part :: parts, ?_, .cons hshows hall⟩
    unfold loreLines at hparts ⊢
    rw [List.map_cons, List.mapM_cons, hpart, hparts]
    rfl

/-- Strung together, the parts of lines are one entry for each line if and only if all lines are
whole. -/
theorem forall₂_flatten_iff {lines : List Text} {parts : List (List Entries)}
    (h : List.Forall₂ ShowsLine lines parts) :
    List.Forall₂ (fun line entry => textOf entry = loreText line) lines parts.flatten ↔
      ∀ line ∈ lines, IsWhole line := by
  have hle : lines.length ≤ parts.flatten.length ∧
      (parts.flatten.length = lines.length → ∀ line ∈ lines, IsWhole line) := by
    induction h with
    | nil => simp
    | @cons line part rest parts hshows _ ih =>
      have hpos := List.length_pos_iff.2 hshows.nonempty
      rw [List.flatten_cons, List.length_append, List.length_cons]
      refine ⟨by omega, fun hlength => List.forall_mem_cons.2 ⟨hshows.length.1 (by omega), ?_⟩⟩
      exact ih.2 (by omega)
  refine ⟨fun hentries => hle.2 hentries.length_eq.symm, fun hwhole => ?_⟩
  clear hle
  induction h with
  | nil => exact .nil
  | @cons line part rest parts hshows _ ih =>
    obtain ⟨hline, hrest⟩ := List.forall_mem_cons.1 hwhole
    obtain ⟨entry, rfl⟩ := List.length_eq_one_iff.1 (hshows.length.2 hline)
    exact .cons (by simpa using hshows.text) (ih hrest)

/-! ## Items with a lore -/

/-- The tag of an item has a display with these lines as its lore. -/
structure HasLore (item tag display : Entries) (lines : List Text) : Prop where
  inItem : Entries.get? "tag" item = some (.compound tag)
  inTag : Entries.get? "display" tag = some (.compound display)
  inDisplay : Entries.get? "Lore" display = some (.list (lines.map .text))

/-- The item has a display beside its tag, which hides the one in the tag. -/
def HasOwnDisplay (item : Entries) : Prop :=
  ((Entries.get? "display" item).getD (.compound [])).isFilled = true

instance (item : Entries) : Decidable (HasOwnDisplay item) := inferInstanceAs (Decidable (_ = true))

/-- The item with another display in its tag. -/
def withDisplay (item tag display : Entries) : Entries :=
  item.set "tag" (.compound (tag.set "display" (.compound display)))

/-- The components of a display apart from its lore. -/
def unlored (display : Entries) : Outcome Entries := do
  let color ← (Entries.get? "color" display).mapM fun color =>
    return component "dyed_color" (.int (← color.toInt))
  let name ← (Entries.get? "Name" display).mapM fun name =>
    return component "custom_name" (← displayName name)
  return color.toList ++ name.toList

/-- The names of the components that `unlored` makes. -/
def unloredNames : List Text :=
  ["damage", "dyed_color", "custom_name"].map fun name => namespaced name.toList

theorem gives_unlored_names (display : Entries) :
    Gives (unlored display) fun new => new.names ⊆ unloredNames := by
  refine gives_bind (gives_component unloredNames (by decide) _ Tag.toInt Tag.int)
    fun color hcolor => ?_
  refine gives_bind (gives_component unloredNames (by decide) _ displayName id) fun name hname => ?_
  exact gives_pure (names_append_subset hcolor hname)

theorem displayComponents_of_lore {display : Entries} {lines new : List Tag} (hne : lines ≠ [])
    (hlore : Entries.get? "Lore" display = some (.list lines)) (hnew : loreLines lines = .ok new) :
    displayComponents display = (· ++ [component "lore" (.list new)]) <$> unlored display := by
  obtain ⟨line, rest, rfl⟩ := List.exists_cons_of_ne_nil hne
  unfold displayComponents unlored
  rw [hlore]
  dsimp only
  rw [hnew]
  cases (Entries.get? "color" display).mapM fun color =>
      (return component "dyed_color" (.int (← color.toInt)) : Outcome (Text × Tag)) with
  | error fault => rfl
  | ok color =>
    cases (Entries.get? "Name" display).mapM fun name =>
        (return component "custom_name" (← displayName name) : Outcome (Text × Tag)) with
    | error fault => rfl
    | ok name => rfl

theorem displayComponents_erase_lore (display : Entries) :
    displayComponents (display.erase "Lore") = unlored display := by
  unfold displayComponents unlored
  rw [Entries.get?_erase_self, Entries.get?_erase_of_ne (by decide), Entries.get?_erase_of_ne (by decide)]
  dsimp only
  cases (Entries.get? "color" display).mapM fun color =>
      (return component "dyed_color" (.int (← color.toInt)) : Outcome (Text × Tag)) with
  | error fault => rfl
  | ok color =>
    cases (Entries.get? "Name" display).mapM fun name =>
        (return component "custom_name" (← displayName name) : Outcome (Text × Tag)) with
    | error fault => rfl
    | ok name => exact congrArg Except.ok (List.append_nil _)

/-- The components of an item apart from its lore: those that stand in front of it, and those of its
tag. -/
def unloredComponents (item tag display : Entries) : Outcome (Entries × Entries) := do
  let damage ← (Entries.get? "Damage" item).mapM fun damage =>
    return component "damage" (.int (← damageValue damage))
  let shown ← unlored display
  let inner ← tagComponents tag
  return (damage.toList ++ shown, inner)

theorem gives_unloredComponents_names (item tag display : Entries) :
    Gives (unloredComponents item tag display) fun made =>
      made.1.names ⊆ unloredNames ∧ made.2.names ⊆ innerNames := by
  refine gives_bind (gives_component unloredNames (by decide) _ damageValue Tag.int)
    fun damage hdamage => ?_
  refine gives_bind (gives_unlored_names display) fun shown hshown => ?_
  refine gives_bind (gives_tagComponents_names tag) fun inner hinner => ?_
  exact gives_pure ⟨names_append_subset hdamage hshown, hinner⟩

section Display

variable {item tag display : Entries} {lines : List Text}

theorem display_of_hasLore (h : HasLore item tag display lines) (hown : ¬ HasOwnDisplay item) :
    Item.display item = .compound display := by
  unfold Item.display
  rw [h.inItem]
  exact (if_neg hown).trans (by rw [h.inTag]; rfl)

theorem get?_withDisplay {name : Text} (hname : name ≠ "tag") (item tag display : Entries) :
    Entries.get? name (withDisplay item tag display) = Entries.get? name item :=
  Entries.get?_set_of_ne hname _ _

theorem identity_withDisplay (item tag display : Entries) :
    identity (withDisplay item tag display) = identity item := by
  unfold identity
  rw [get?_withDisplay (by decide), get?_withDisplay (by decide)]

theorem count_withDisplay (item tag display : Entries) :
    count (withDisplay item tag display) = count item := by
  unfold count
  rw [get?_withDisplay (by decide)]

theorem tagComponents_set_display (tag : Entries) (display : Tag) :
    tagComponents (tag.set "display" display) = tagComponents tag := by
  unfold tagComponents
  rw [Entries.get?_set_of_ne (by decide), Entries.get?_set_of_ne (by decide),
    Entries.get?_set_of_ne (by decide)]

theorem hasOwnDisplay_withDisplay (item tag display : Entries) :
    HasOwnDisplay (withDisplay item tag display) ↔ HasOwnDisplay item := by
  unfold HasOwnDisplay
  rw [get?_withDisplay (by decide)]

theorem display_withDisplay (hown : ¬ HasOwnDisplay item) (tag display : Entries) :
    Item.display (withDisplay item tag display) = .compound display := by
  have hown' := (hasOwnDisplay_withDisplay item tag display).not.2 hown
  unfold Item.display withDisplay
  rw [Entries.get?_set_self]
  exact (if_neg hown').trans (by rw [Entries.get?_set_self]; rfl)

/-- The components of an item whose display makes some more than `unlored`, and whose tag makes those of
another one. -/
theorem components_of_shown {shown inner more : Entries} (hdisplay : Item.display item = .compound shown)
    (hinner : Entries.get? "tag" item = some (.compound inner))
    (hshown : displayComponents shown = (· ++ more) <$> unlored display)
    (htag : tagComponents inner = tagComponents tag) :
    components item = (unloredComponents item tag display).map fun made =>
      Entries.merge (made.1 ++ more) made.2 := by
  unfold components unloredComponents
  rw [hdisplay, hinner]
  dsimp only
  rw [hshown, htag]
  cases (Entries.get? "Damage" item).mapM fun damage =>
      (return component "damage" (.int (← damageValue damage)) : Outcome (Text × Tag)) with
  | error fault => rfl
  | ok damage =>
    cases unlored display with
    | error fault => rfl
    | ok shown =>
      cases tagComponents tag with
      | error fault => rfl
      | ok inner =>
        exact congrArg (fun front => Except.ok (Entries.merge front inner))
          (List.append_assoc _ _ _).symm

theorem components_of_hasLore (h : HasLore item tag display lines) (hown : ¬ HasOwnDisplay item)
    (hne : lines ≠ []) {new : List Tag} (hnew : loreLines (lines.map .text) = .ok new) :
    components item = (unloredComponents item tag display).map fun made =>
      Entries.merge (made.1 ++ [component "lore" (.list new)]) made.2 :=
  components_of_shown (display_of_hasLore h hown) h.inItem
    (displayComponents_of_lore (by simpa using hne) h.inDisplay hnew) rfl

theorem unloredComponents_withDisplay (item tag display other : Entries) :
    unloredComponents (withDisplay item tag other) tag display = unloredComponents item tag display := by
  unfold unloredComponents
  rw [get?_withDisplay (by decide)]

theorem components_without_lore (hown : ¬ HasOwnDisplay item) (tag display : Entries) :
    components (withDisplay item tag (display.erase "Lore")) =
      (unloredComponents item tag display).map fun made => Entries.merge made.1 made.2 := by
  have hshown : displayComponents (display.erase "Lore") = (· ++ []) <$> unlored display := by
    simp only [displayComponents_erase_lore, List.append_nil, id_map']
  rw [components_of_shown (display_withDisplay hown tag _) (Entries.get?_set_self _ _ _) hshown
    (tagComponents_set_display tag _), unloredComponents_withDisplay]
  simp only [List.append_nil]

/-- With a display of its own, the item does not show the one in its tag. -/
theorem upgrade_withDisplay (hown : HasOwnDisplay item)
    (htag : Entries.get? "tag" item = some (.compound tag)) (display : Entries) :
    upgrade (withDisplay item tag display) = upgrade item := by
  have hdisplay : Item.display (withDisplay item tag display) = Item.display item := by
    have hown' := (hasOwnDisplay_withDisplay item tag display).2 hown
    unfold Item.display
    rw [htag, withDisplay, Entries.get?_set_self]
    refine (if_pos hown').trans (Eq.trans ?_ (if_pos hown).symm)
    rw [Entries.get?_set_of_ne (by decide)]
  have hcomponents : components (withDisplay item tag display) = components item := by
    unfold components
    rw [hdisplay, htag, get?_withDisplay (by decide), withDisplay, Entries.get?_set_self]
    dsimp only
    rw [tagComponents_set_display]
  unfold upgrade
  rw [identity_withDisplay, count_withDisplay, hcomponents]

end Display

/-! ## New items -/

theorem gives_identity_names (item : Entries) :
    Gives (identity item) fun new => new.names ⊆ ["id".toList, "count".toList] := by
  have hid (name : Tag) : Entries.names [("id".toList, name)] ⊆ ["id".toList, "count".toList] :=
    List.cons_subset.2 ⟨List.mem_cons_self, List.nil_subset _⟩
  unfold identity
  split
  · exact gives_pure (names_nil_subset _)
  · refine gives_bind (gives_any _) fun name _ => ?_
    split
    · exact gives_pure (hid _)
    · exact gives_pure (hid _)
    split
    · exact gives_bind (gives_any _) fun damage _ => gives_pure (hid _)
    · exact gives_pure (hid _)

theorem gives_count_names (item : Entries) :
    Gives (count item) fun new => new.names ⊆ ["id".toList, "count".toList] := by
  unfold count
  split
  · exact gives_pure (names_nil_subset _)
  · refine gives_bind (gives_any _) fun n _ => gives_pure ?_
    exact List.cons_subset.2 ⟨List.mem_cons_of_mem _ List.mem_cons_self, List.nil_subset _⟩

theorem get?_components_append {kept components : Entries} (hkept : "components".toList ∉ kept.names)
    (hfilled : components ≠ []) :
    Entries.get? "components" (kept ++
      if components.isEmpty then [] else [("components".toList, .compound components)]) =
        some (.compound components) := by
  rw [Entries.get?_append_of_notMem hkept, if_neg (by simpa using hfilled)]
  rfl

/-- If the item without its lore has a new form, the item has one with the new lines as its lore;
else both stop at the same fault. -/
theorem upgrade_of_hasLore {item tag display : Entries} {lines : List Text}
    (h : HasLore item tag display lines) (hown : ¬ HasOwnDisplay item) (hne : lines ≠ [])
    {new : List Tag} (hnew : loreLines (lines.map .text) = .ok new) :
    (∀ fault, upgrade item = .error fault ↔
      upgrade (withDisplay item tag (display.erase "Lore")) = .error fault) ∧
    Gives (upgrade item) fun result => ∃ fields components, result = some fields ∧
      Entries.get? "components" fields = some (.compound components) ∧
      Entries.get? "minecraft:lore" components = some (.list new) := by
  have hcomponents := components_of_hasLore h hown hne hnew
  have hidentity := gives_identity_names item
  have hcount := gives_count_names item
  have hnames := gives_unloredComponents_names item tag display
  have hfilled {components : Entries} {lore : Tag}
      (hlore : Entries.get? "minecraft:lore" components = some lore) : components ≠ [] := by
    rintro rfl
    cases hlore
  unfold upgrade
  rw [identity_withDisplay, count_withDisplay, components_without_lore hown, hcomponents]
  cases hi : identity item with
  | error fault => exact ⟨fun _ => Iff.rfl, fun _ hok => by cases hok⟩
  | ok named =>
    cases hc : count item with
    | error fault => exact ⟨fun _ => Iff.rfl, fun _ hok => by cases hok⟩
    | ok counted =>
      cases hu : unloredComponents item tag display with
      | error fault => exact ⟨fun _ => Iff.rfl, fun _ hok => by cases hok⟩
      | ok made =>
        obtain ⟨hfront, hinner⟩ := hnames made hu
        have hlore : Entries.get? "minecraft:lore"
            (Entries.merge (made.1 ++ [component "lore" (.list new)]) made.2) =
              some (.list new) := by
          rw [Entries.get?_merge_of_notMem fun hmem => absurd (hinner hmem) (by decide),
            Entries.get?_append_of_notMem fun hmem => absurd (hfront hmem) (by decide)]
          rfl
        have hfields : "components".toList ∉ Entries.names (named ++ counted) := fun hmem =>
          absurd (names_append_subset (hidentity named hi) (hcount counted hc) hmem) (by decide)
        refine ⟨fun fault => iff_of_false (fun hfault => by cases hfault) (fun hfault => by
          cases hfault), fun result hresult => ?_⟩
        exact ⟨_, _, (Except.ok.inj hresult).symm.trans (if_neg (by simp [hfilled hlore])),
          get?_components_append hfields (hfilled hlore), hlore⟩

end Item

/-! ## Inventories -/

namespace Rule

open Item Style

theorem apply_of_exec_ok {rule : Rule} {entries new : Entries}
    (h : Edit.exec rule.edit entries = (.ok (), new)) :
    rule.apply (.compound entries) = .ok (.compound new) := by
  unfold Edit.exec at h
  unfold Rule.apply Edit.run
  dsimp only
  rw [h]
  rfl

theorem apply_of_exec_error {rule : Rule} {entries new : Entries} {fault : Fault}
    (h : Edit.exec rule.edit entries = (.error fault, new)) :
    rule.apply (.compound entries) = .error fault := by
  unfold Edit.exec at h
  unfold Rule.apply Edit.run
  dsimp only
  rw [h]
  rfl

/-- The inventory of an entity is renewed item by item. -/
theorem apply_inventory {entity : Entries} {items : List Tag}
    (h : Entries.get? "Inventory" entity = some (.list items)) :
    Rule.inventory.apply (.compound entity) =
      (items.mapM inventoryItem).map fun new => .compound (entity.set "Inventory" (.list new)) := by
  have hexec : Edit.exec editInventory entity = Edit.exec
      ((items.mapM fun item => (liftM (inventoryItem item) : Edit Tag)) >>= fun new =>
        Edit.put "Inventory" (.list new)) entity := by
    unfold editInventory
    rw [Edit.exec_find_bind, h]
  have hitems := Edit.exec_mapM_lift inventoryItem items entity
  cases hnew : items.mapM inventoryItem with
  | error fault =>
    rw [hnew] at hitems
    exact apply_of_exec_error (hexec.trans (Edit.exec_bind_of_error hitems))
  | ok new =>
    rw [hnew] at hitems
    exact apply_of_exec_ok (hexec.trans (Edit.exec_bind_of_ok hitems))

theorem inventoryItem_eq_error_iff {item : Entries} {fault : Fault} :
    inventoryItem (.compound item) = .error fault ↔ upgrade item = .error fault := by
  unfold inventoryItem
  dsimp only
  cases upgrade item with
  | error other => exact ⟨fun hfault => congrArg _ (Except.error.inj hfault), fun hfault =>
      congrArg _ (Except.error.inj hfault)⟩
  | ok result =>
    refine iff_of_false (fun hfault => ?_) (fun hfault => by cases hfault)
    cases result with
    | none => cases hfault
    | some new =>
      dsimp only [bind, Except.bind] at hfault
      split at hfault <;> cases hfault

theorem flatten_lists (parts : List (List Entries)) :
    flatten (parts.map fun part => .list (part.map .compound)) = parts.flatten.map .compound := by
  unfold flatten
  rw [List.flatMap_map, List.map_flatten]
  rfl

/-- The new item has a lore of these entries. -/
def HasEntries (new : Tag) (entries : List Entries) : Prop :=
  ∃ fields components, new = .compound fields ∧
    Entries.get? "components" fields = some (.compound components) ∧
    Entries.get? "minecraft:lore" components = some (.list (entries.map .compound))

theorem hasEntries_inventoryItem {item fields components : Entries} {parts : List (List Entries)}
    (hupgrade : upgrade item = .ok (some fields))
    (hcomponents : Entries.get? "components" fields = some (.compound components))
    (hlore : Entries.get? "minecraft:lore" components =
      some (.list (parts.map fun part => .list (part.map .compound)))) :
    ∃ new, inventoryItem (.compound item) = .ok new ∧ HasEntries new parts.flatten := by
  have hmap : mapLore flatten components =
      components.set "minecraft:lore" (.list (parts.flatten.map .compound)) := by
    unfold mapLore
    rw [hlore, ← flatten_lists]
  obtain ⟨missing, hnew⟩ : ∃ missing, inventoryItem (.compound item) = .ok (.compound
      (fields.set "components" (.compound (mapLore flatten components)) ++ missing)) := by
    unfold inventoryItem
    dsimp only
    rw [hupgrade]
    dsimp only [bind, Except.bind]
    rw [hcomponents]
    exact ⟨_, rfl⟩
  refine ⟨_, hnew, _, _, rfl, ?_, hmap ▸ Entries.get?_set_self _ _ _⟩
  rw [Entries.get?_append, Entries.get?_set_self]
  rfl

/-- An inventory is renewed item by item. An item whose tag has a lore of coded lines stops at the
faults of the item without the lore. If it has a new form, the entries of its lore are the components
of its lines, one line after another, and each line has one entry, with its text, if and only if all
lines are whole. A display beside the tag hides that lore. -/
theorem inventory_lore_lines {item tag display : Entries} {lines : List Text}
    (h : HasLore item tag display lines) (hne : lines ≠ []) (hcoded : ∀ line ∈ lines, IsCoded line) :
    (∀ (entity : Entries) (items : List Tag), Entries.get? "Inventory" entity = some (.list items) →
      Rule.inventory.apply (.compound entity) =
        (items.mapM inventoryItem).map fun new => .compound (entity.set "Inventory" (.list new))) ∧
    (HasOwnDisplay item → ∀ other : Entries,
      upgrade (withDisplay item tag other) = upgrade item) ∧
    (¬ HasOwnDisplay item →
      (∀ fault, inventoryItem (.compound item) = .error fault ↔
        inventoryItem (.compound (withDisplay item tag (display.erase "Lore"))) = .error fault) ∧
      ∀ new, inventoryItem (.compound item) = .ok new → ∃ parts : List (List Entries),
        HasEntries new parts.flatten ∧ List.Forall₂ ShowsLine lines parts ∧
        (List.Forall₂ (fun line entry => textOf entry = loreText line) lines parts.flatten ↔
          ∀ line ∈ lines, IsWhole line)) := by
  refine ⟨fun entity items => apply_inventory, fun hown => upgrade_withDisplay hown h.inItem,
    fun hown => ?_⟩
  obtain ⟨parts, hparts, hshows⟩ := exists_loreLines hcoded
  obtain ⟨hfaults, hgives⟩ := upgrade_of_hasLore h hown hne hparts
  refine ⟨fun fault => ?_, fun new hnew => ⟨parts, ?_, hshows, forall₂_flatten_iff hshows⟩⟩
  · rw [inventoryItem_eq_error_iff, inventoryItem_eq_error_iff, hfaults]
  · cases hupgrade : upgrade item with
    | error fault =>
      rw [inventoryItem_eq_error_iff.2 hupgrade] at hnew
      cases hnew
    | ok result =>
      obtain ⟨fields, components, rfl, hcomponents, hlore⟩ := hgives result hupgrade
      obtain ⟨made, hmade, hentries⟩ := hasEntries_inventoryItem hupgrade hcomponents hlore
      rw [hmade] at hnew
      exact Except.ok.inj hnew ▸ hentries

/-- A line in two colours becomes two entries. -/
theorem inventory_lore_lines_two_colours :
    let line : Text := "§aA§bB"
    let display : Entries := [("Lore".toList, .list [.text line])]
    let tag : Entries := [("display".toList, .compound display)]
    let item : Entries := [("id".toList, .text "minecraft:stone"), ("tag".toList, .compound tag)]
    ∃ new parts, inventoryItem (.compound item) = .ok new ∧ HasEntries new (List.flatten parts) ∧
      List.Forall₂ ShowsLine [line] parts ∧
      ¬ List.Forall₂ (fun line entry => textOf entry = loreText line) [line] (List.flatten parts) := by
  intro line display tag item
  have hok : (inventoryItem (.compound item)).isOk = true := by decide +kernel
  have hline : HasLore item tag display [line] := ⟨rfl, rfl, rfl⟩
  obtain ⟨-, -, hlore⟩ := inventory_lore_lines hline (List.cons_ne_nil _ _) (by decide +kernel)
  cases hnew : inventoryItem (.compound item) with
  | error fault =>
    rw [hnew] at hok
    cases hok
  | ok new =>
    obtain ⟨parts, hentries, hshows, hiff⟩ := (hlore (by decide)).2 new hnew
    refine ⟨new, parts, rfl, hentries, hshows, fun hall => ?_⟩
    have hwhole := hiff.1 hall line List.mem_cons_self
    revert hwhole
    decide +kernel

end Rule

end CommandUpgrade
