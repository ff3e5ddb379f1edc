import CommandUpgrade.Proofs.Entity.OldNames

/-!
# The first old name

On the written text of an entity each old name is renewed by a stage of its own. A stage keeps every
front of the text in which its name does not begin, and puts the new name for the old one behind such
a front (`Stage.Renews`). So the first of all the old names in a text is renewed by its own stage, and
the others keep the text up to the new name (`prefix_renewed`). Quotes and backslashes apart, the
steps on displays do not touch that either: a text that has an old name does not come out as it was
(`oldNames_absent`).
-/

namespace CommandUpgrade

open Text

namespace Entity

/-- A step that renews a name in a text. -/
structure Stage where
  old : Text
  new : Text
  run : Text → Text

namespace Stage

/-- The stage keeps fronts without its name, and renews its name behind a given one. -/
structure Renews (stage : Stage) (a : Text) : Prop where
  keeps : ∀ {w s : Text}, Clear stage.old w → w <+: s → w <+: stage.run s
  renews : ∀ {s : Text}, First stage.old a → ¬ stage.old <:+: a → a ++ stage.old <+: s →
    a ++ stage.new <+: stage.run s

/-- A stage that replaces every occurrence. -/
theorem renews_replace {old new : Text} (hold : old ≠ []) (a : Text) :
    Renews ⟨old, new, replace old new⟩ a where
  keeps := by
    rintro w s hw ⟨rest, rfl⟩
    show w <+: replace old new (w ++ rest)
    rw [hw.replace_append]
    exact List.prefix_append w _
  renews := by
    rintro s hfirst - ⟨rest, rfl⟩
    show a ++ new <+: replace old new (a ++ old ++ rest)
    rw [List.append_assoc, hfirst.replace_eq hold, ← List.append_assoc]
    exact List.prefix_append (a ++ new) _

/-- A stage that repeats a step, which changes the text from an occurrence on. -/
theorem renews_settle {old new a : Text} {step? : Text → Option Text} (limit : Text → Nat)
    (hapart : Apart old new)
    (hstep : ∀ {s t}, step? s = some t → ∃ front rest, s = front ++ (old ++ rest) ∧ front <+: t)
    (hfirst : ∀ b, First old a → ∃ t, step? (a ++ (old ++ b)) = some t ∧ a ++ new <+: t)
    (hlimit : ∀ b, 0 < limit (a ++ (old ++ b))) :
    Renews ⟨old, new, fun s => settle step? (limit s) s⟩ a := by
  have keeps : ∀ {w s : Text} (n : Nat), Clear old w → w <+: s → w <+: settle step? n s := by
    intro w s n hw hs
    refine settle_induction (P := fun s => w <+: s) (fun s t hst hs => ?_) n hs
    obtain ⟨front, rest, rfl, hfront⟩ := hstep hst
    exact (hw.prefix_front hs).trans hfront
  refine ⟨fun hw hs => keeps _ hw hs, ?_⟩
  rintro s hat habsent ⟨b, rfl⟩
  rw [List.append_assoc]
  obtain ⟨t, hone, ht⟩ := hfirst b hat
  obtain ⟨n, hn⟩ := Nat.exists_eq_add_one.2 (hlimit b)
  show a ++ new <+: settle step? (limit (a ++ (old ++ b))) (a ++ (old ++ b))
  rw [hn, settle, hone]
  exact keeps n (hapart.clear_append habsent) ht

end Stage

/-- The old names in the order of their stages, each with the beginning of what stands for it. -/
def renewals : List (Text × Text) :=
  [("MaxHeatlh:", "MaxHealth:"), ("Fuse:", "fuse:"), ("ActiveEffects:", "active_effects:"),
    ("Block:", "BlockState:"), (FallingBlock.mark, "Block:")]

/-- The stages in order. The last one takes away the marks that the one before it put. -/
def stages (tables : Tables) : List Stage :=
  [⟨"MaxHeatlh:", "MaxHealth:", replace "MaxHeatlh:" "MaxHealth:"⟩,
    ⟨"Fuse:", "fuse:", replace "Fuse:" "fuse:"⟩,
    ⟨"ActiveEffects:", "active_effects:", Effects.upgrade⟩,
    ⟨"Block:", "BlockState:", settle (FallingBlock.upgradeFirst? tables) 100⟩,
    ⟨FallingBlock.mark, "Block:", replace FallingBlock.mark "Block:"⟩]

/-- The text after all stages. -/
def renewed (tables : Tables) (s : Text) : Text := (stages tables).foldl (fun s stage => stage.run s) s

theorem finish_eq (tables : Tables) (tag : Tag) :
    finish tables tag = DisplayQuotes.fix (renewed tables tag.write) := rfl

theorem renews_effects (a : Text) :
    Stage.Renews ⟨"ActiveEffects:", "active_effects:", Effects.upgrade⟩ a := by
  refine Stage.renews_settle _ (by decide) (fun hst => ?_) (fun b hfirst => ?_) fun b => ?_
  · obtain ⟨front, rest, hs, rfl⟩ := Effects.upgradeFirst?_eq_some hst
    exact ⟨front, rest, hs, List.prefix_append front _⟩
  · refine ⟨a ++ "active_effects:" ++ Effects.upgradeList b, ?_, List.prefix_append _ _⟩
    unfold Effects.upgradeFirst?
    rw [hfirst.cut?_eq Effects.oldField_ne_nil]
    rfl
  · have hbehind := occurrences_append_le Effects.oldField_ne_nil a (Effects.oldField ++ b)
    rw [occurrences_append_self Effects.oldField_ne_nil] at hbehind
    show 0 < occurrences Effects.oldField (a ++ (Effects.oldField ++ b))
    omega

theorem upgradeFirst?_of_cut? (tables : Tables) {s front rest : Text}
    (h : cut? "Block:" s = some (front, rest)) :
    ∃ t, FallingBlock.upgradeFirst? tables s = some t ∧
      front ++ (if FallingBlock.inState front then FallingBlock.mark else "BlockState:") <+: t := by
  unfold FallingBlock.upgradeFirst?
  rw [h]
  refine ⟨_, rfl, ?_⟩
  dsimp only
  split
  · exact List.prefix_append _ _
  · rw [List.append_assoc, List.append_assoc, List.append_assoc]
    exact (List.prefix_append_right_inj front).2 (List.prefix_append "BlockState:".toList _)

theorem renews_blocks (tables : Tables) {a : Text} (ha : FallingBlock.inState a = false) :
    Stage.Renews ⟨"Block:", "BlockState:", settle (FallingBlock.upgradeFirst? tables) 100⟩ a := by
  refine Stage.renews_settle (fun _ => 100) (by decide) (fun {s t} hst => ?_)
    (fun b hfirst => ?_) fun _ => by decide
  · obtain ⟨⟨front, rest⟩, hcut, -⟩ := Option.map_eq_some_iff.1 hst
    obtain ⟨t', ht', hstarts⟩ := upgradeFirst?_of_cut? tables hcut
    obtain rfl := Option.some.inj (hst.symm.trans ht')
    refine ⟨front, rest, ?_, (List.prefix_append front _).trans hstarts⟩
    rw [cut?_eq_some hcut, List.append_assoc]
  · have hfound := upgradeFirst?_of_cut? tables (hfirst.cut?_eq (by decide) b)
    rwa [ha, if_neg Bool.false_ne_true] at hfound

theorem renews_stages (tables : Tables) {a : Text} (ha : FallingBlock.inState a = false) :
    ∀ stage ∈ stages tables, stage.Renews a := by
  simp only [stages, List.forall_mem_cons]
  exact ⟨Stage.renews_replace (by decide) a, Stage.renews_replace (by decide) a, renews_effects a,
    renews_blocks tables ha, Stage.renews_replace (by decide) a, by simp⟩

/-! ## All stages -/

/-- No stage touches the old name of a later one, or the new name of an earlier one. -/
def Stage.Commutes (first second : Stage) : Prop :=
  Apart first.old second.old ∧ Apart second.old first.new

theorem pairwise_stages (tables : Tables) : (stages tables).Pairwise Stage.Commutes := by
  have hnames : renewals.Pairwise fun first second =>
      Apart first.1 second.1 ∧ Apart second.1 first.2 := by
    decide +kernel
  have hstages : ((stages tables).map fun stage => (stage.old, stage.new)).Pairwise fun first second =>
      Apart first.1 second.1 ∧ Apart second.1 first.2 := hnames
  rwa [List.pairwise_map] at hstages

section Runs

variable {run : List Stage} {a : Text} (hrun : ∀ stage ∈ run, stage.Renews a)

include hrun

theorem prefix_kept {w s : Text} (hw : ∀ stage ∈ run, Clear stage.old w) (hs : w <+: s) :
    w <+: run.foldl (fun s stage => stage.run s) s := by
  induction run generalizing s with
  | nil => exact hs
  | cons stage rest ih =>
    obtain ⟨hstage, hrest⟩ := List.forall_mem_cons.1 hrun
    obtain ⟨hclear, hclears⟩ := List.forall_mem_cons.1 hw
    exact ih hrest hclears (hstage.keeps hclear hs)

/-- The stages before that of the first old name keep it, and those after it keep the new one. -/
theorem prefix_renewed (hcommute : run.Pairwise Stage.Commutes) (ha : ∀ stage ∈ run, ¬ stage.old <:+: a)
    {stage : Stage} (hmem : stage ∈ run) (hfirst : First stage.old a) {s : Text}
    (hs : a ++ stage.old <+: s) :
    a ++ stage.new <+: run.foldl (fun s stage => stage.run s) s := by
  induction run generalizing s with
  | nil => cases hmem
  | cons head rest ih =>
    obtain ⟨hhead, hrest⟩ := List.forall_mem_cons.1 hrun
    obtain ⟨habsent, habsents⟩ := List.forall_mem_cons.1 ha
    obtain ⟨hothers, hcommute⟩ := List.pairwise_cons.1 hcommute
    rcases List.mem_cons.1 hmem with rfl | hmem
    · refine prefix_kept hrest (fun later hlater => ?_) (hhead.renews hfirst habsent hs)
      exact (hothers later hlater).2.clear_append (habsents later hlater)
    · refine ih hrest hcommute habsents hmem (hhead.keeps ?_ hs)
      exact (hothers stage hmem).1.clear_append habsent

end Runs

end Entity

/-! ## Displays -/

namespace DisplayQuotes

theorem prefix_escapeNames {w s : Text} (hw : Clear nameStart w) (hs : w <+: s) :
    w <+: escapeNames s := by
  refine settle_induction (P := fun s => w <+: s) (fun s t hst hs => ?_) _ hs
  obtain ⟨front, body, gap, behind, rfl, rfl⟩ := escapeName?_eq_some hst
  exact (hw.prefix_front hs).trans (List.prefix_append front _)

/-- The text without quotes and backslashes. -/
def bare (s : Text) : Text := s.filter fun c => c != '"' && c != '\\'

theorem bare_append (s t : Text) : bare (s ++ t) = bare s ++ bare t := List.filter_append s t

theorem bare_escape (s : Text) : bare (escape s) = bare s := by
  rw [escape_eq]
  induction s with
  | nil => rfl
  | cons c r ih =>
    rw [List.flatMap_cons, bare_append, ih]
    unfold bare
    by_cases hslash : c = '\\'
    · simp [hslash]
    · by_cases hquote : c = '"'
      · simp [hquote]
      · simp [hslash, hquote]

theorem bare_pattern {p : Pattern} {new : Match → Text}
    (hp : ∀ taken kept, p.Takes taken kept → taken ≠ [])
    (h : ∀ m : Match, p.Takes m.whole m.groups → bare (new m) = bare m.whole) (s : Text) :
    bare (p.replace new s) = bare s := by
  refine Pattern.replace_rel (R := fun s t => bare t = bare s) hp rfl (fun c s t hst => ?_)
    (fun m hm s t hst => ?_) s
  · rw [← List.singleton_append, bare_append, hst, ← bare_append]
    rfl
  · rw [bare_append, bare_append, h m hm, hst]

theorem bare_escapeLines (lines : Text) : bare (escapeLines lines) = bare lines := by
  have hquote : bare "\"".toList = [] := by decide
  have hquoted : ∀ m : Match, quotedLine.Takes m.whole m.groups →
      bare (if isEscaped (m.group 1) then m.whole else "\"" ++ escape (m.group 1) ++ "\"") =
        bare m.whole := by
    intro m h
    obtain ⟨inner, -, hwhole, hkept⟩ := takes_quotedLine h
    split
    · rfl
    · rw [hwhole, Pattern.group_one hkept, bare_append, bare_append, bare_escape, bare_append,
        bare_append, hquote]
      rfl
  have hbare : ∀ m : Match, bareLine.Takes m.whole m.groups →
      bare (m.group 1 ++ "\"" ++ escape (m.group 2) ++ "\"" ++ m.group 3) = bare m.whole := by
    intro m h
    obtain ⟨c, inner, d, -, -, -, hwhole, hkept⟩ := takes_bareLine h
    unfold Match.group
    rw [hwhole, hkept]
    simp only [bare_append, hquote, bare_escape]
    simp
  unfold escapeLines
  dsimp only
  rw [bare_pattern (fun taken kept h => ?_) hquoted, bare_pattern (fun taken kept h => ?_) hbare]
  · obtain ⟨c, inner, d, -, -, -, rfl, -⟩ := takes_bareLine h
    simp
  · obtain ⟨inner, -, rfl, -⟩ := takes_quotedLine h
    simp

/-- Lines of a lore get quotes and backslashes, and nothing else. -/
theorem bare_escapeLores (s : Text) : bare (escapeLores s) = bare s := by
  refine settle_induction (P := fun t => bare t = bare s) (fun t u hst ht => ?_) _ rfl
  obtain ⟨front, lines, rest, rfl, rfl, -⟩ := escapeLore?_eq_some hst
  rw [← ht]
  simp only [bare_append, bare_escapeLines]

end DisplayQuotes

namespace Entity

/-- What the renewals need of their names: old and new ones differ in a character that is no quote,
and no JSON name begins in a new one. -/
theorem renewals_distinct : ∀ names ∈ renewals, ¬ Meets names.1 names.2 ∧
    DisplayQuotes.bare names.1 = names.1 ∧ DisplayQuotes.bare names.2 = names.2 ∧
    Apart DisplayQuotes.nameStart names.2 := by
  decide +kernel

/-- An old name does not come out as it was, outside block states. -/
theorem oldNames_absent (tables : Tables) {tag : Tag} (hname : ¬ DisplayQuotes.nameStart <:+: tag.write)
    (hstate : ∀ front, front <+: tag.write → FallingBlock.inState front = false)
    (h : finish tables tag = tag.write) : ∀ old ∈ oldNames, ¬ old <:+: tag.write := by
  by_contra hsome
  push Not at hsome
  obtain ⟨a, old, b, hmem, hwrite, hfirst, habsent⟩ := exists_first (by decide) hsome
  -- The stage of the name.
  obtain ⟨stage, hstage, rfl⟩ : ∃ stage ∈ stages tables, stage.old = old :=
    List.mem_map.1 (show old ∈ (stages tables).map Stage.old from hmem)
  have hnames : (stage.old, stage.new) ∈ renewals :=
    List.mem_map_of_mem (f := fun stage : Stage => (stage.old, stage.new)) hstage
  obtain ⟨hmeets, hold, hnew, hapart⟩ := renewals_distinct _ hnames
  dsimp only at hmeets hold hnew hapart
  have hfront : a <+: tag.write := by
    rw [hwrite]
    exact List.prefix_append a _
  have hrenewed : a ++ stage.new <+: renewed tables tag.write := by
    refine prefix_renewed (renews_stages tables (hstate a hfront)) (pairwise_stages tables)
      (fun other hother => habsent _ (List.mem_map_of_mem (f := Stage.old) hother)) hstage hfirst ?_
    rw [hwrite, ← List.append_assoc]
    exact List.prefix_append _ b
  have hescaped := DisplayQuotes.prefix_escapeNames
    (hapart.clear_append fun hin => hname (hin.trans hfront.isInfix)) hrenewed
  -- Both names would follow the front, once quotes and backslashes are left out.
  have hbare : DisplayQuotes.bare (DisplayQuotes.escapeNames (renewed tables tag.write)) =
      DisplayQuotes.bare a ++ (stage.old ++ DisplayQuotes.bare b) := by
    calc DisplayQuotes.bare (DisplayQuotes.escapeNames (renewed tables tag.write))
        = DisplayQuotes.bare (finish tables tag) := by
          rw [finish_eq]
          exact (DisplayQuotes.bare_escapeLores _).symm
      _ = DisplayQuotes.bare (a ++ (stage.old ++ b)) := by rw [h, hwrite]
      _ = DisplayQuotes.bare a ++ (stage.old ++ DisplayQuotes.bare b) := by
        rw [DisplayQuotes.bare_append, DisplayQuotes.bare_append, hold]
  have hboth : DisplayQuotes.bare a ++ stage.new <+:
      DisplayQuotes.bare a ++ (stage.old ++ DisplayQuotes.bare b) := by
    rw [← hbare, ← hnew, ← DisplayQuotes.bare_append]
    exact hescaped.filter _
  exact hmeets (List.prefix_or_prefix_of_prefix (List.prefix_append stage.old _)
    ((List.prefix_append_right_inj _).1 hboth))

end Entity

end CommandUpgrade
