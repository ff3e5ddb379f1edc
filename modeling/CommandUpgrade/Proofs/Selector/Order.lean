import CommandUpgrade.Proofs.Selector.Parameters

/-!
# The order of the parameters of a selector

Parameters that do not touch the same argument may stand in any order: the selector that they are in
is upgraded or refused whatever the order, to the same parameters (`upgrade_reordered`). A parameter
that the upgrade has no rule for is found in the new selector as it was.
-/

namespace CommandUpgrade

open Text

namespace Selector

/-- The selector with a letter and parameters. -/
def selector (letter : Text) (params : List (Text × Text)) : Text :=
  '@' :: letter ++ '[' :: (join [','] (params.map parameter) ++ [']'])

def isScore (name : Text) : Bool := startsWith name "score_"

/-- The names with a rule of their own, without that of data. -/
def ruledNames : List Text :=
  [['x'], ['y'], ['z'], "type", "r", "rm", "distance", "c", "m", "rx", "rxm", "ry", "rym"]

instance (param : Text × Text) : Decidable (IsPlain param) :=
  decidable_of_iff _ (isPlain_iff param).symm

/-- Parameters of which no two give the same argument, and none gives data. -/
structure Independent (params : List (Text × Text)) : Prop where
  plain : ∀ param ∈ params, IsPlain param
  distinct : (params.map Prod.fst).Nodup
  noData : ∀ param ∈ params, param.1 ≠ "nbt"
  oneScore : ∀ a ∈ params, ∀ b ∈ params, isScore a.1 → isScore b.1 → a.1 = b.1
  oneDistance : ∀ a ∈ params, ∀ b ∈ params, a.1 = "distance" → b.1 ≠ "r" ∧ b.1 ≠ "rm"

/-! ## At most one part for each argument -/

/-- A function that has a value for one item of a list at most gives the same in every order. -/
theorem filterMap_eq_of_perm {α β : Type} {f : α → Option β} {items items' : List α}
    (hnodup : items.Nodup)
    (hone : ∀ a ∈ items, ∀ b ∈ items, (f a).isSome → (f b).isSome → a = b)
    (hperm : items.Perm items') : items.filterMap f = items'.filterMap f := by
  have hpairwise : (items.filterMap f).Pairwise fun _ _ => False := by
    refine List.pairwise_filterMap.2 (hnodup.imp_of_mem ?_)
    intro a b ha hb hne x hx y hy
    exact hne (hone a ha b hb (Option.isSome_of_mem hx) (Option.isSome_of_mem hy))
  exact (hperm.filterMap f).eq_of_pairwise (fun _ _ _ _ h => h.elim) hpairwise
    ((hperm.filterMap f).pairwise hpairwise fun h => h)

theorem Range.eq_of_side {range range' : Range} (h : ∀ side, range.side side = range'.side side) :
    range = range' := by
  cases range
  cases range'
  exact congrArg₂ Range.mk (h .low) (h .high)

theorem isScore_of_scoreOf? {param : Text × Text} (h : (scoreOf? param).isSome) :
    isScore param.1 = true := by
  unfold scoreOf? after? at h
  split_ifs at h with hstart
  · exact hstart
  · cases h

/-! ## The arguments in another order -/

variable {tables : Tables} {data : Text → Outcome Text} {letter : Text}
  {params params' : List (Text × Text)}

namespace Independent

variable (h : Independent params)

include h

theorem nodup : params.Nodup := List.Nodup.of_map Prod.fst h.distinct

theorem eq_of_fst_eq {a b : Text × Text} (ha : a ∈ params) (hb : b ∈ params) (hab : a.1 = b.1) :
    a = b := List.inj_on_of_nodup_map h.distinct ha hb hab

/-- Two parameters that give the same end of a range are one. -/
theorem eq_of_boundNames {a b : Text × Text} (ha : a ∈ params) (hb : b ∈ params) {slot : Slot}
    {side : Side} (hbound : a.1 ∈ boundNames slot side) (hbound' : b.1 ∈ boundNames slot side) :
    a = b := by
  refine h.eq_of_fst_eq ha hb ?_
  have hdistance := h.oneDistance a ha b hb
  have hdistance' := h.oneDistance b hb a ha
  cases slot <;> cases side <;> simp only [boundNames, List.mem_cons, List.not_mem_nil, or_false]
    at hbound hbound' <;> grind

theorem perm_toList_collect (hperm : params.Perm params') {g : Text × Text → Part}
    (hg : ∀ param ∈ params, Gives param.1 param.2 (g param)) :
    (collect (params.map g)).toList.Perm (collect (params'.map g)).toList := by
  have hwritten : (collect (params.map g)).written.Perm (collect (params'.map g)).written := by
    rw [written_collect, written_collect]
    exact (hperm.map g).flatMap_right Part.written
  have hscores : (collect (params.map g)).scores = (collect (params'.map g)).scores := by
    rw [scores_collect, scores_collect, List.filterMap_map, List.filterMap_map]
    refine congrArg _ (filterMap_eq_of_perm h.nodup ?_ hperm)
    intro a ha b hb hscore hscore'
    rw [Function.comp_apply, (hg a ha).score?_eq] at hscore
    rw [Function.comp_apply, (hg b hb).score?_eq] at hscore'
    exact h.eq_of_fst_eq ha hb
      (h.oneScore a ha b hb (isScore_of_scoreOf? hscore) (isScore_of_scoreOf? hscore'))
  have hrange (slot : Slot) (side : Side) : ((collect (params.map g)).range slot).side side
      = ((collect (params'.map g)).range slot).side side := by
    rw [side_range_collect, side_range_collect, List.filterMap_map, List.filterMap_map]
    refine congrArg _ (filterMap_eq_of_perm h.nodup ?_ hperm)
    intro a ha b hb hbound hbound'
    exact h.eq_of_boundNames ha hb ((hg a ha).mem_boundNames hbound) ((hg b hb).mem_boundNames hbound')
  have hdistance : (collect (params.map g)).distance = (collect (params'.map g)).distance :=
    Range.eq_of_side (hrange .distance)
  have hx : (collect (params.map g)).xRotation = (collect (params'.map g)).xRotation :=
    Range.eq_of_side (hrange .xRotation)
  have hy : (collect (params.map g)).yRotation = (collect (params'.map g)).yRotation :=
    Range.eq_of_side (hrange .yRotation)
  unfold Arguments.toList
  rw [hscores, hdistance, hx, hy]
  exact (((hwritten.append_right _).append_right _).append_right _).append_right _

end Independent

/-! ## The selector in another order -/

theorem withRandomOrder_of_perm {list list' : List Text} (hperm : list.Perm list') :
    (withRandomOrder list).Perm (withRandomOrder list') := by
  unfold withRandomOrder
  rw [hperm.contains_eq]
  split_ifs
  · exact hperm
  · exact hperm.append_right _

theorem withOrder_of_perm (letter : Text) {list list' : List Text} (hperm : list.Perm list') :
    (withOrder letter list).1 = (withOrder letter list').1 ∧
      (withOrder letter list).2.Perm (withOrder letter list').2 := by
  unfold withOrder
  split_ifs
  · exact ⟨rfl, withRandomOrder_of_perm hperm⟩
  · exact ⟨rfl, hperm⟩

theorem written_subset_toList (args : Arguments) : args.written ⊆ args.toList := by
  unfold Arguments.toList
  rw [List.append_assoc, List.append_assoc, List.append_assoc]
  exact List.subset_append_left _ _

/-- A text that a parameter has written is found among the new parameters. -/
theorem mem_parameters_of_written (hsolid : '[' ∉ letter) {text : Text} (hcomma : ',' ∉ text)
    {param : Text × Text} (hparam : param ∈ params) {g : Text × Text → Part}
    (htext : text ∈ (g param).written) :
    text ∈ parameters (write letter (collect (params.map g)).toList) := by
  have hwritten : text ∈ (collect (params.map g)).written := by
    rw [written_collect]
    exact List.mem_flatMap.2 ⟨g param, List.mem_map_of_mem hparam, htext⟩
  rw [parameters_write hsolid]
  refine List.mem_flatMap.2 ⟨text, subset_withOrder _ (written_subset_toList _ hwritten), ?_⟩
  rw [split_of_notMem hcomma]
  exact List.mem_singleton_self _

/-- A parameter without a rule is written as it is. -/
theorem partOf_of_notMem {name value : Text} (hname : name ∉ ruledNames) (hdata : name ≠ "nbt")
    (hscore : isScore name = false) :
    partOf tables data letter name value = .ok (.texts [parameter (name, value)]) := by
  have hafter : after? "score_" name = none := if_neg (Bool.eq_false_iff.1 hscore)
  simp only [ruledNames, List.mem_cons, not_or] at hname
  obtain ⟨hx, hy, hz, htype, hr, hrm, hdistance, hc, hm, hrx, hrxm, hry, hrym, -⟩ := hname
  unfold partOf
  rw [if_neg (not_or.2 ⟨hx, not_or.2 ⟨hy, hz⟩⟩), if_neg htype, if_neg hr, if_neg hrm,
    if_neg hdistance, if_neg hc, if_neg hm, if_neg hdata, hafter]
  dsimp only
  rw [if_neg hrx, if_neg hrxm, if_neg hry, if_neg hrym]
  rfl

/-- Parameters that are independent of each other give the same in every order, and those without a
rule stay as they are. -/
theorem upgrade_reordered (tables : Tables) (data : Text → Outcome Text) {letter : Text}
    (hne : letter ≠ []) (hsolid : '[' ∉ letter) {params params' : List (Text × Text)}
    (h : Independent params) (hperm : params.Perm params') :
    ((∃ fault, upgrade tables data (selector letter params) = .error fault) ∧
      ∃ fault, upgrade tables data (selector letter params') = .error fault) ∨
    ∃ s s', upgrade tables data (selector letter params) = .ok s ∧
      upgrade tables data (selector letter params') = .ok s' ∧
      front s = front s' ∧ (parameters s).Perm (parameters s') ∧
      ∀ param ∈ params, param.1 ∉ ruledNames → isScore param.1 = false →
        parameter param ∈ parameters s := by
  have hplain' : ∀ param ∈ params', IsPlain param := fun param hparam =>
    h.plain param (hperm.mem_iff.2 hparam)
  unfold selector
  rw [upgrade_eq tables data hne hsolid, upgrade_eq tables data hne hsolid,
    readArguments_join h.plain, readArguments_join hplain']
  cases hparts : partsOf tables data letter params with
  | error fault =>
    obtain ⟨param, hparam, hfault⟩ := Outcome.exists_of_mapM_eq_error hparts
    obtain ⟨fault', hparts'⟩ : ∃ fault', partsOf tables data letter params' = .error fault' :=
      Outcome.mapM_eq_error (hperm.mem_iff.1 hparam) (by simp [hfault])
    rw [hparts']
    exact Or.inl ⟨⟨fault, rfl⟩, ⟨fault', rfl⟩⟩
  | ok parts =>
    obtain ⟨g, hg, rfl⟩ := Outcome.exists_map_of_mapM_eq_ok hparts
    have hparts' : partsOf tables data letter params' = .ok (params'.map g) :=
      Outcome.mapM_eq_ok fun param hparam => hg param (hperm.mem_iff.2 hparam)
    have hlist := h.perm_toList_collect hperm fun param hparam => gives_of_partOf (hg param hparam)
    obtain ⟨hletter, horder⟩ := withOrder_of_perm letter hlist
    rw [hparts']
    refine Or.inr ⟨_, _, rfl, rfl, ?_, ?_, ?_⟩
    · rw [front_write hsolid, front_write hsolid, hletter]
    · rw [parameters_write hsolid, parameters_write hsolid]
      exact horder.flatMap_right (split ',')
    · intro param hparam hrule hscore
      have hpart : g param = .texts [parameter param] := Except.ok.inj <|
        (hg param hparam).symm.trans (partOf_of_notMem hrule (h.noData param hparam) hscore)
      exact mem_parameters_of_written hsolid (h.plain param hparam).noComma hparam
        (by rw [hpart]; exact List.mem_singleton_self _)

theorem upgrade_reordered_random :
    let tables : Tables := ⟨[], [], [], [], .compound [], []⟩
    let params : List (Text × Text) :=
      [("r", "5"), ("score_kills", "3"), ("name", "Steve"), ("c", "2"), ("rm", "10")]
    ((∃ fault, upgrade tables pure (selector ['r'] params) = .error fault) ∧
      ∃ fault, upgrade tables pure (selector ['r'] params.reverse) = .error fault) ∨
    ∃ s s', upgrade tables pure (selector ['r'] params) = .ok s ∧
      upgrade tables pure (selector ['r'] params.reverse) = .ok s' ∧
      front s = front s' ∧ (parameters s).Perm (parameters s') ∧
      ∀ param ∈ params, param.1 ∉ ruledNames → isScore param.1 = false →
        parameter param ∈ parameters s :=
  upgrade_reordered _ _ (by decide) (by decide)
    ⟨by decide, by decide, by decide, by decide, by decide⟩ (List.reverse_perm _).symm

end Selector

end CommandUpgrade
