import CommandUpgrade.Entity.Data
import CommandUpgrade.Proofs.Text.Absent

/-!
# Text steps that settle

Effects, names and lore are renewed on the text by a step that is repeated. Each step takes an
occurrence of what it looks for away and adds none, so the repetition ends by itself: after it the
step finds nothing any more.
-/

namespace CommandUpgrade

open Text

namespace Effects

/-- The old name of the field of effects, with its colon. -/
def oldField : Text := "ActiveEffects:"

theorem oldField_ne_nil : oldField ≠ [] := by decide

theorem apart_number : ∀ name ∈ "speed" :: names,
    Apart oldField ("id:\"minecraft:".toList ++ name.toList ++ "\"".toList) := by
  decide +kernel

theorem name?_mem {digits name : Text} (h : name? digits = some name) :
    ∃ n ∈ names, name = n.toList := by
  unfold name? at h
  obtain ⟨⟨n, i⟩, hmem, hname⟩ := List.exists_of_findSome?_eq_some h
  dsimp only at hname
  split at hname
  · exact ⟨n, List.fst_mem_of_mem_zipIdx hmem, (Option.some.inj hname).symm⟩
  · cases hname

theorem takes_number {taken : Text} {kept : List Text} (h : number.Takes taken kept) :
    taken ≠ [] := by
  simp only [number, Pattern.takes_append, Pattern.Takes] at h
  obtain ⟨_, _, _, _, ⟨_, _, _, _, ⟨rfl, -⟩, -, rfl, -⟩, -, rfl, -⟩ := h
  simp

theorem takes_bareFlag {field : String} {taken : Text} {kept : List Text}
    (h : (bareFlag field).Takes taken kept) :
    ∃ c, (c = '0' ∨ c = '1') ∧ taken = field.toList ++ [c] ∧ kept = [[c]] := by
  simp only [bareFlag, Pattern.takes_append, Pattern.Takes, Pattern.notBefore] at h
  obtain ⟨_, _, _, _, ⟨_, _, _, _, ⟨_, _, _, _, ⟨rfl, rfl⟩, ⟨rfl, rfl⟩, rfl, rfl⟩,
    ⟨_, ⟨⟨c, hc, rfl⟩, rfl⟩, rfl⟩, rfl, rfl⟩, ⟨rfl, rfl⟩, rfl, rfl⟩ := h
  exact ⟨c, by simpa [Pattern.of] using hc, by simp, rfl⟩

theorem takes_entry {taken : Text} {kept : List Text} (h : entry.Takes taken kept) :
    ∃ fields, taken = '{' :: fields ++ ['}'] ∧ kept = [fields] := by
  simp only [entry, Pattern.takes_append, Pattern.Takes] at h
  obtain ⟨_, _, _, _, ⟨_, fields, _, _, ⟨rfl, rfl⟩, ⟨_, ⟨_, _, _, _, ⟨_, _, _, _, ⟨_, _, _, _,
    ⟨_, _, _, _, ⟨-, -, rfl⟩, ⟨-, rfl⟩, -, rfl⟩, ⟨-, -, rfl⟩, -, rfl⟩, hmark, -, rfl⟩,
    ⟨-, -, rfl⟩, -, rfl⟩, rfl⟩, rfl, rfl⟩, ⟨rfl, rfl⟩, rfl, rfl⟩ := h
  refine ⟨fields, rfl, ?_⟩
  rcases hmark with ⟨-, rfl⟩ | ⟨-, rfl⟩ <;> rfl

theorem sparser_number (fields : Text) : Sparser oldField fields (number.replace (fun m =>
    "id:\"minecraft:" ++ (name? (m.group 1)).getD "speed" ++ "\"") fields) := by
  refine sparser_pattern (fun _ _ => takes_number) (fun m _ => ?_) fields
  refine Apart.sparser oldField_ne_nil ?_ _
  cases hname : name? (m.group 1) with
  | none => exact apart_number "speed" List.mem_cons_self
  | some name =>
    obtain ⟨n, hn, rfl⟩ := name?_mem hname
    exact apart_number n (List.mem_cons_of_mem _ hn)

theorem sparser_markFlag {field : String}
    (hzero : Apart oldField (field.toList ++ ['0'] ++ ['b']))
    (hone : Apart oldField (field.toList ++ ['1'] ++ ['b'])) (s : Text) :
    Sparser oldField s (markFlag field s) := by
  refine sparser_pattern (fun taken kept hm => ?_) (fun m hm => ?_) s
  · obtain ⟨c, -, rfl, -⟩ := takes_bareFlag hm
    simp
  · obtain ⟨c, hc, -, hkept⟩ := takes_bareFlag hm
    rw [Pattern.group_one hkept]
    rcases hc with rfl | rfl
    · exact Apart.sparser oldField_ne_nil hzero _
    · exact Apart.sparser oldField_ne_nil hone _

/-- The new form of fields holds the old name of the field of effects no more often. -/
theorem sparser_upgradeFields (fields : Text) : Sparser oldField fields (upgradeFields fields) := by
  refine (sparser_number fields).trans ?_
  have hlevel : Apart oldField "amplifier:".toList := by decide
  have htime : Apart oldField "duration:".toList := by decide
  have hshown : Apart oldField "show_particles:".toList := by decide
  refine (hlevel.sparser_replace oldField_ne_nil (by decide : "Amplifier:".toList ≠ []) _).trans ?_
  refine (htime.sparser_replace oldField_ne_nil (by decide : "Duration:".toList ≠ []) _).trans ?_
  refine (hshown.sparser_replace oldField_ne_nil (by decide : "ShowParticles:".toList ≠ []) _).trans ?_
  have hamplifier := @sparser_markFlag "amplifier:" (by decide) (by decide)
  have hparticles := @sparser_markFlag "show_particles:" (by decide) (by decide)
  exact (hamplifier _).trans (hparticles _)

theorem sparser_upgradeEntries (s : Text) : Sparser oldField s (upgradeEntries s) := by
  refine sparser_pattern (fun taken kept hm => ?_) (fun m hm => ?_) s
  · obtain ⟨fields, rfl, -⟩ := takes_entry hm
    simp
  · obtain ⟨fields, hwhole, hkept⟩ := takes_entry hm
    rw [hwhole, Pattern.group_one hkept]
    exact ((sparser_upgradeFields fields).cons '{').append (.refl ['}'])

theorem sparser_upgradeList (s : Text) : Sparser oldField s (upgradeList s) := by
  unfold upgradeList
  split
  · rename_i r
    split
    · rename_i stop hstop
      have hopen : closing? '[' ']' none ('[' :: r) =
          (closing?.go '[' ']' none (0 + 1) (some '[') r).map (· + 1) := rfl
      obtain ⟨k, -, rfl⟩ := Option.map_eq_some_iff.1 (hopen.symm.trans hstop)
      have hcut : '[' :: r = '[' :: slice 1 (k + 1) ('[' :: r) ++ ('[' :: r).drop (k + 1) := by
        simp [slice]
      nth_rewrite 1 [hcut]
      exact ((sparser_upgradeEntries _).cons '[').append (.refl _)
    · exact .refl _
  · exact .refl _

/-- A step renames the field and changes the text behind it. -/
theorem upgradeFirst?_eq_some {s t : Text} (h : upgradeFirst? s = some t) :
    ∃ front rest, s = front ++ (oldField ++ rest) ∧
      t = front ++ ("active_effects:".toList ++ upgradeList rest) := by
  obtain ⟨⟨front, rest⟩, hcut, rfl⟩ := Option.map_eq_some_iff.1 h
  refine ⟨front, rest, ?_, List.append_assoc ..⟩
  rw [cut?_eq_some hcut, List.append_assoc]
  rfl

/-- Each step takes the old name of the field away once, and adds it nowhere. -/
theorem occurrences_upgradeFirst? {s t : Text} (h : upgradeFirst? s = some t) :
    occurrences oldField t < occurrences oldField s := by
  obtain ⟨front, rest, rfl, rfl⟩ := upgradeFirst?_eq_some h
  have hnew := occurrences_around oldField_ne_nil (by decide : Apart oldField "active_effects:".toList)
    front (upgradeList rest)
  have hlist := (sparser_upgradeList rest).le
  have hold := occurrences_append_le oldField_ne_nil front (oldField ++ rest)
  rw [occurrences_append_self oldField_ne_nil] at hold
  omega

/-- Behind the repeated step no list of effects has its old name. -/
theorem upgrade_settled (s : Text) : upgradeFirst? (upgrade s) = none :=
  settle_settled (fun _ _ => occurrences_upgradeFirst?) (le_refl (occurrences oldField s))

theorem upgradeFirst?_eq_none_iff (s : Text) : upgradeFirst? s = none ↔ ¬ oldField <:+: s := by
  unfold upgradeFirst?
  rw [Option.map_eq_none_iff]
  exact cut?_eq_none_iff

/-- On every text the lists of effects are renewed one by one until none has its old name. No run of the step,
to its end or not, has more steps than the text has old names. -/
theorem upgrade_ends (s : Text) :
    (∀ n t, afterSteps upgradeFirst? n s = some t → n ≤ occurrences oldField s) ∧
    (∃ n, afterSteps upgradeFirst? n s = some (upgrade s)) ∧ upgradeFirst? (upgrade s) = none ∧
    ¬ oldField <:+: upgrade s := by
  have hnone := upgrade_settled s
  refine ⟨fun n t hrun => ?_, exists_afterSteps_settle _ _ s, hnone, (upgradeFirst?_eq_none_iff _).1 hnone⟩
  have hmeasure := measure_afterSteps (fun _ _ => occurrences_upgradeFirst?) hrun
  omega

end Effects

namespace DisplayQuotes

/-! ## Names -/

theorem escape_eq (s : Text) : escape s = s.flatMap fun c =>
    if c = '\\' then ['\\', '\\'] else if c = '"' then ['\\', '"'] else [c] := by
  have hmarks : "\\".toList = ['\\'] ∧ "\"".toList = ['"'] := ⟨rfl, rfl⟩
  unfold escape
  rw [hmarks.1, hmarks.2, replace_replace_singleton]
  rfl

/-- The start of a name that is a JSON text. -/
def nameStart : Text := "Name:\"\x7b"

theorem nameStart_ne_nil : nameStart ≠ [] := by decide

theorem sparser_escape_name (s : Text) : Sparser nameStart s (escape s) := by
  have hslash : Apart nameStart "\\\\".toList := by decide
  have hquote : Apart nameStart "\\\"".toList := by decide
  exact (hslash.sparser_replace nameStart_ne_nil (by decide) s).trans
    (hquote.sparser_replace nameStart_ne_nil (by decide) _)

/-- The text up to a closing character ends with it. -/
theorem take_closing {opening closes : Char} {isOpen before : Option Char} {depth : Int} {s : Text}
    {i : Nat} (h : closing?.go opening closes isOpen depth before s = some i) :
    ∃ inside, s.take (i + 1) = inside ++ [closes] := by
  induction s generalizing isOpen before depth i with
  | nil => cases h
  | cons c r ih =>
    have hmore : ∀ {isOpen before depth},
        (closing?.go opening closes isOpen depth before r).map (· + 1) = some i →
        ∃ inside, (c :: r).take (i + 1) = inside ++ [closes] := by
      intro isOpen before depth h
      obtain ⟨j, hj, rfl⟩ := Option.map_eq_some_iff.1 h
      obtain ⟨inside, hinside⟩ := ih hj
      exact ⟨c :: inside, by rw [List.take_succ_cons, hinside, List.cons_append]⟩
    rw [closing?.go] at h
    split at h
    · exact hmore h
    split at h
    · exact hmore h
    split at h
    · exact hmore h
    split at h
    · rename_i hclose
      split at h
      · cases h
        exact ⟨[], by rw [beq_iff_eq.1 hclose]; rfl⟩
      · exact hmore h
    · exact hmore h

/-- A step escapes the text of a name, up to its last brace. -/
theorem escapeName?_eq_some {s t : Text} (h : escapeName? s = some t) :
    ∃ front body gap behind, s = front ++ (nameStart ++ (body ++ '}' :: (gap ++ '"' :: behind))) ∧
      t = front ++ ("Name:\"\\\"\x7b".toList ++ (escape body ++ ("\x7d\"".toList ++ behind))) := by
  unfold escapeName? at h
  obtain ⟨⟨front, rest⟩, hcut, h⟩ := Option.bind_eq_some_iff.1 h
  dsimp only at h
  obtain ⟨length, hlength, h⟩ := Option.bind_eq_some_iff.1 h
  obtain ⟨i, hclose, rfl⟩ := Option.map_eq_some_iff.1 hlength
  obtain ⟨inside, hinside⟩ := take_closing hclose
  cases inside with
  | nil => simp at hinside
  | cons c body =>
    obtain ⟨rfl, hbody⟩ := List.cons.inj hinside
    split at h
    · rename_i behind hbehind
      rw [List.drop_succ_cons] at hbehind
      obtain ⟨gap, hgap⟩ : ∃ gap, rest.drop i = gap ++ '"' :: behind :=
        ⟨_, by rw [← hbehind, List.takeWhile_append_dropWhile]⟩
      have hrest : rest = body ++ '}' :: (gap ++ '"' :: behind) := by
        rw [← List.take_append_drop i rest, hbody, hgap]
        simp
      refine ⟨front, body, gap, behind, ?_, ?_⟩
      · rw [cut?_eq_some hcut, hrest, List.append_assoc]
        rfl
      · rw [← Option.some.inj h, hinside]
        have hescape : escape ('"' :: ('{' :: body ++ ['}'])) =
            "\\\"\x7b".toList ++ (escape body ++ ['}']) := by
          rw [List.cons_append, escape_eq, escape_eq]
          simp
        rw [hescape]
        simp
    · cases h

/-- Each step takes the start of a name away once, and adds it nowhere. -/
theorem occurrences_escapeName? {s t : Text} (h : escapeName? s = some t) :
    occurrences nameStart t < occurrences nameStart s := by
  obtain ⟨front, body, gap, behind, rfl, rfl⟩ := escapeName?_eq_some h
  have hfront := occurrences_around nameStart_ne_nil
    (by decide : Apart nameStart "Name:\"\\\"\x7b".toList) front
    (escape body ++ ("\x7d\"".toList ++ behind))
  have hbehind := occurrences_around nameStart_ne_nil
    (by decide : Apart nameStart "\x7d\"".toList) (escape body) behind
  have hbody := (sparser_escape_name body).le
  have hold := occurrences_append_le nameStart_ne_nil front
    (nameStart ++ (body ++ '}' :: (gap ++ '"' :: behind)))
  rw [occurrences_append_self nameStart_ne_nil] at hold
  have hrest := occurrences_append_le nameStart_ne_nil body ('}' :: (gap ++ '"' :: behind))
  have hlast := occurrences_append_le nameStart_ne_nil ('}' :: (gap ++ ['"'])) behind
  simp only [List.cons_append, List.append_assoc, List.nil_append] at hlast
  omega

/-- Whether a name that is a JSON text is left. -/
def nameLeft (s : Text) : Bool := has nameStart s

theorem nameLeft_of_escapeName? {s t : Text} (h : escapeName? s = some t) : nameLeft s = true := by
  obtain ⟨found, hcut, -⟩ := Option.bind_eq_some_iff.1 h
  exact Option.isSome_iff_exists.2 ⟨found, hcut⟩

theorem occurrences_pos_of_nameLeft {s : Text} (h : nameLeft s = true) : 0 < occurrences nameStart s :=
  occurrences_pos nameStart_ne_nil (has_eq_true_iff.1 h)

/-- Behind the repeated step no name is left to escape. -/
theorem escapeNames_settled (s : Text) : escapeName? (escapeNames s) = none :=
  settle_settled (fun _ _ => occurrences_escapeName?) (le_refl (occurrences nameStart s))

/-! ## Lore -/

/-- The quoted name of the field that holds the words of a component. -/
def textField : Text := "\"text\""

theorem textField_ne_nil : textField ≠ [] := by decide

theorem head?_escape (s : Text) : (escape s).head? ≠ some '"' := by
  rw [escape_eq]
  cases s with
  | nil => simp
  | cons c r =>
    rw [List.flatMap_cons]
    split
    · simp
    split
    · simp
    · rename_i hquote
      simpa using hquote

/-- Every quote of an escaped text has a backslash in front. -/
theorem not_infix_escape {c : Char} (hc : c ≠ '\\') (s : Text) : ¬ [c, '"'] <:+: escape s := by
  induction s with
  | nil => simp [escape_eq]
  | cons d r ih =>
    have hhead : ¬ ['"'] <+: escape r := by
      rintro ⟨rest, hrest⟩
      exact head?_escape r (by rw [← hrest]; rfl)
    rw [escape_eq, List.flatMap_cons, ← escape_eq]
    split
    · simp only [List.cons_append, List.nil_append, List.infix_cons_iff, List.cons_prefix_cons]
      tauto
    split
    · simp only [List.cons_append, List.nil_append, List.infix_cons_iff, List.cons_prefix_cons]
      tauto
    · simp only [List.cons_append, List.nil_append, List.infix_cons_iff, List.cons_prefix_cons]
      tauto

/-- In an escaped text no field has its quoted name. -/
theorem occurrences_escape (s : Text) : occurrences textField (escape s) = 0 := by
  cases hcount : occurrences textField (escape s) with
  | zero => rfl
  | succ n =>
    have hholds := holds_occurrences textField_ne_nil (escape s)
    rw [hcount] at hholds
    generalize htext : escape s = text at hholds
    cases hholds with
    | @more _ rest front h =>
      have hfield : textField = "\"tex".toList ++ ['t', '"'] := by decide
      refine absurd ?_ (not_infix_escape (by decide : 't' ≠ '\\') s)
      rw [htext, hfield]
      exact ⟨front ++ "\"tex".toList, rest, by simp only [List.append_assoc]⟩

theorem takes_component {taken : Text} {kept : List Text} (h : component.Takes taken kept) :
    (∃ a b, taken = '{' :: (a ++ textField ++ b) ++ ['}']) ∧ kept = [taken] := by
  simp only [component, Pattern.takes_append, Pattern.Takes] at h
  obtain ⟨_, ⟨_, _, _, _, ⟨_, b, _, _, ⟨_, _, _, _, ⟨_, a, _, _, ⟨rfl, rfl⟩, ⟨-, -, rfl⟩, rfl, rfl⟩,
    ⟨rfl, rfl⟩, rfl, rfl⟩, ⟨-, -, rfl⟩, rfl, rfl⟩, ⟨rfl, rfl⟩, rfl, rfl⟩, rfl⟩ := h
  exact ⟨⟨a, b, rfl⟩, rfl⟩

/-- A component with its quotes escaped has lost its fields' names. -/
theorem thinner_component {left right taken : Text} (hleft : Apart textField (left ++ ['{']))
    (hright : Apart textField ('}' :: right)) (h : ∃ a b, taken = '{' :: (a ++ textField ++ b) ++ ['}'])
    {left' right' : Text} :
    Thinner textField (left' ++ (taken ++ right')) (left ++ (escape taken ++ right)) := by
  obtain ⟨a, b, rfl⟩ := h
  have hescape : escape ('{' :: (a ++ textField ++ b) ++ ['}']) =
      '{' :: escape (a ++ textField ++ b) ++ ['}'] := by
    rw [escape_eq, escape_eq]
    simp
  refine Or.inr fun before behind => ?_
  have hnew := occurrences_around textField_ne_nil hleft before
    (escape (a ++ textField ++ b) ++ ('}' :: right ++ behind))
  have hinner := occurrences_around textField_ne_nil hright (escape (a ++ textField ++ b)) behind
  rw [occurrences_escape] at hinner
  have hold := occurrences_append_le textField_ne_nil (before ++ left' ++ '{' :: a)
    (textField ++ (b ++ '}' :: right' ++ behind))
  rw [occurrences_append_self textField_ne_nil] at hold
  have hfront := occurrences_append_le textField_ne_nil before (left' ++ '{' :: a)
  have hbehind := occurrences_append_le textField_ne_nil (b ++ '}' :: right') behind
  rw [hescape]
  simp only [List.cons_append, List.append_assoc, List.nil_append] at hnew hinner hold hfront hbehind ⊢
  omega

theorem takes_bareLine {taken : Text} {kept : List Text} (h : bareLine.Takes taken kept) :
    ∃ c inner d, (c = ',' ∨ c = '[') ∧ (d = ',' ∨ d = ']') ∧
      (∃ a b, inner = '{' :: (a ++ textField ++ b) ++ ['}']) ∧ taken = [c] ++ (inner ++ [d]) ∧
      kept = [[c], inner, [d]] := by
  obtain ⟨_, _, _, _, ⟨_, inner, _, _, ⟨_, ⟨⟨c, hc, rfl⟩, rfl⟩, rfl⟩, hinner, rfl, rfl⟩,
    ⟨_, ⟨⟨d, hd, rfl⟩, rfl⟩, rfl⟩, rfl, rfl⟩ := Pattern.takes_append.1 h
  obtain ⟨hparts, rfl⟩ := takes_component hinner
  exact ⟨c, inner, d, by simpa [Pattern.of] using hc, by simpa [Pattern.of] using hd, hparts,
    by simp, rfl⟩

theorem takes_quotedLine {taken : Text} {kept : List Text} (h : quotedLine.Takes taken kept) :
    ∃ inner, (∃ a b, inner = '{' :: (a ++ textField ++ b) ++ ['}']) ∧
      taken = ['"'] ++ (inner ++ ['"']) ∧ kept = [inner] := by
  obtain ⟨_, _, _, _, ⟨_, inner, _, _, ⟨rfl, rfl⟩, hinner, rfl, rfl⟩, ⟨rfl, rfl⟩, rfl, rfl⟩ :=
    Pattern.takes_append.1 h
  obtain ⟨hparts, rfl⟩ := takes_component hinner
  exact ⟨inner, hparts, by simp, rfl⟩

theorem thinner_bareLine (s : Text) : Thinner textField s (bareLine.replace (fun m =>
    m.group 1 ++ "\"" ++ escape (m.group 2) ++ "\"" ++ m.group 3) s) := by
  refine Thinner.pattern (fun taken kept h => ?_) (fun m h => ?_) s
  · obtain ⟨c, inner, d, -, -, -, rfl, -⟩ := takes_bareLine h
    simp
  · obtain ⟨c, inner, d, hc, hd, hinner, hwhole, hkept⟩ := takes_bareLine h
    have hleft : Apart textField ([c, '"'] ++ ['{']) := by rcases hc with rfl | rfl <;> decide
    have hright : Apart textField ('}' :: ['"', d]) := by rcases hd with rfl | rfl <;> decide
    have hthin := @thinner_component _ _ _ hleft hright hinner [c] [d]
    unfold Match.group
    rw [hwhole, hkept]
    simpa using hthin

theorem thinner_quotedLine (s : Text) : Thinner textField s (quotedLine.replace (fun m =>
    if isEscaped (m.group 1) then m.whole else "\"" ++ escape (m.group 1) ++ "\"") s) := by
  refine Thinner.pattern (fun taken kept h => ?_) (fun m h => ?_) s
  · obtain ⟨inner, -, rfl, -⟩ := takes_quotedLine h
    simp
  · obtain ⟨inner, hinner, hwhole, hkept⟩ := takes_quotedLine h
    split
    · exact .refl _
    · have hthin := @thinner_component [] [] inner (by decide) (by decide) hinner [] []
      have hquoted := ((Thinner.refl ['"']).append hthin).append (.refl ['"'])
      unfold Match.group
      rw [hwhole, hkept]
      simpa using hquoted

theorem thinner_escapeLines (lines : Text) : Thinner textField lines (escapeLines lines) :=
  (thinner_bareLine lines).trans (thinner_quotedLine _)

/-- A step changes the lines of a lore. -/
theorem escapeLore?_eq_some {s t : Text} (h : escapeLore? s = some t) :
    ∃ front lines rest, s = front ++ ("Lore:[".toList ++ (lines ++ rest)) ∧
      t = front ++ ("Lore:[".toList ++ (escapeLines lines ++ rest)) ∧ escapeLines lines ≠ lines := by
  unfold escapeLore? at h
  obtain ⟨⟨front, rest⟩, hcut, h⟩ := Option.bind_eq_some_iff.1 h
  dsimp only at h
  split at h
  · cases h
  obtain ⟨stop, -, h⟩ := Option.bind_eq_some_iff.1 h
  split at h
  · cases h
  rename_i hchanged
  refine ⟨front, rest.take stop, rest.drop stop, ?_, ?_, hchanged⟩
  · rw [cut?_eq_some hcut, List.take_append_drop, List.append_assoc]
  · rw [← Option.some.inj h]
    simp

/-- Each step takes the name of a field away, and adds none. -/
theorem occurrences_escapeLore? {s t : Text} (h : escapeLore? s = some t) :
    occurrences textField t < occurrences textField s := by
  obtain ⟨front, lines, rest, rfl, rfl, hchanged⟩ := escapeLore?_eq_some h
  rcases thinner_escapeLines lines with heq | hthin
  · exact absurd heq hchanged
  · have hless := hthin (front ++ "Lore:[".toList) rest
    simpa using hless

/-- Whether a lore is left, and a line that is a JSON text in quotes. -/
def loreLeft (s : Text) : Bool := has "Lore:[" s && has "\"\x7b\"text\"" s

theorem loreLeft_of_escapeLore? {s t : Text} (h : escapeLore? s = some t) : loreLeft s = true := by
  unfold escapeLore? at h
  obtain ⟨found, hcut, h⟩ := Option.bind_eq_some_iff.1 h
  have hlore : has "Lore:[".toList s = true := Option.isSome_iff_exists.2 ⟨found, hcut⟩
  dsimp only at h
  split at h
  · cases h
  · rename_i hline
    exact Bool.and_eq_true_iff.2 ⟨hlore, by simpa using hline⟩

theorem occurrences_pos_of_loreLeft {s : Text} (h : loreLeft s = true) : 0 < occurrences textField s := by
  have hline := has_eq_true_iff.1 (Bool.and_eq_true_iff.1 h).2
  have hfield : textField <:+: "\"\x7b\"text\"".toList := ⟨"\"\x7b".toList, [], rfl⟩
  exact occurrences_pos textField_ne_nil (hfield.trans hline)

/-- Behind the repeated step no lore is left to escape. -/
theorem escapeLores_settled (s : Text) : escapeLore? (escapeLores s) = none :=
  settle_settled (fun _ _ => occurrences_escapeLore?) (Nat.le_succ (occurrences textField s))

/-- On every text both loops end, and with the texts that the bounded repetitions give. The loop over names
has no more iterations than the text has starts of names. The loop over lore has no more iterations than the
text behind the first loop has `"text"`, its last one included, in which it may find nothing to change. -/
theorem fix_ends (s : Text) :
    (∃ n ≤ occurrences nameStart s,
      ∀ m t, Loops nameLeft escapeName? m s t ↔ m = n ∧ t = escapeNames s) ∧
    ∃ n ≤ occurrences textField (escapeNames s),
      ∀ m t, Loops loreLeft escapeLore? m (escapeNames s) t ↔ m = n ∧ t = fix s := by
  constructor
  · exact loops_iff_settle (fun _ _ => occurrences_escapeName?) (fun _ _ => nameLeft_of_escapeName?)
      (fun _ => occurrences_pos_of_nameLeft) (le_refl (occurrences nameStart s))
  · exact loops_iff_settle (fun _ _ => occurrences_escapeLore?) (fun _ _ => loreLeft_of_escapeLore?)
      (fun _ => occurrences_pos_of_loreLeft) (Nat.le_succ (occurrences textField (escapeNames s)))

end DisplayQuotes

end CommandUpgrade
