import CommandUpgrade.Proofs.Selector.Parameters
import CommandUpgrade.Proofs.Text.Pattern

/-!
# Scores in a selector

Every parameter `score_…` becomes an entry of the argument `scores`, under the name behind `score_` and
with its own value. Nothing is done about a name that ends in `_min`: the minimum of an objective is an
entry of its own beside that of the objective, and not the lower end of a range (`scores_by_name`).
-/

namespace CommandUpgrade

open Text

theorem Text.after?_eq_some_iff {start s rest : Text} :
    after? start s = some rest ↔ s = start ++ rest := by
  unfold after?
  constructor
  · intro h
    split_ifs at h with hstart
    · obtain ⟨behind, rfl⟩ := List.isPrefixOf_iff_prefix.1 hstart
      rw [List.drop_left] at h
      rw [Option.some.inj h]
  · rintro rfl
    rw [if_pos (List.isPrefixOf_iff_prefix.2 (List.prefix_append _ _)), List.drop_left]

namespace Selector

/-! ## The entries -/

/-- The entries of the argument `scores`. -/
def scoreEntries (params : List (Text × Text)) : Lookup Text :=
  Lookup.setAll (params.filterMap scoreOf?)

/-- The value of the last parameter of a name. -/
def lastValue? (name : Text) (params : List (Text × Text)) : Option Text :=
  Lookup.get? name params.reverse

theorem get?_filterMap_scoreOf? (objective : Text) (params : List (Text × Text)) :
    Lookup.get? objective (params.filterMap scoreOf?) = Lookup.get? ("score_" ++ objective) params := by
  induction params with
  | nil => rfl
  | cons param rest ih =>
    obtain ⟨name, value⟩ := param
    rw [Lookup.get?_cons]
    cases hname : after? "score_" name with
    | none =>
      have hscore : scoreOf? (name, value) = none := congrArg (Option.map _) hname
      have hne : "score_" ++ objective ≠ name := by
        intro h
        rw [after?_eq_some_iff.2 h.symm] at hname
        cases hname
      rw [List.filterMap_cons_none hscore, ih, if_neg hne]
    | some other =>
      have hscore : scoreOf? (name, value) = some (other, value) := congrArg (Option.map _) hname
      have heq : ("score_" ++ objective = name) = (objective = other) := by
        rw [after?_eq_some_iff.1 hname, List.append_cancel_left_eq]
      rw [List.filterMap_cons_some hscore, Lookup.get?_cons, ih]
      simp only [heq]

/-- The entry of an objective has the last value given for its name. -/
theorem get?_scoreEntries (objective : Text) (params : List (Text × Text)) :
    Lookup.get? objective (scoreEntries params) = lastValue? ("score_" ++ objective) params := by
  unfold scoreEntries lastValue?
  rw [Lookup.get?_setAll, ← List.filterMap_reverse, get?_filterMap_scoreOf?]

/-! ## The other arguments -/

/-- The argument `scores`, if there is an entry. -/
def scoresArgument (entries : Lookup Text) : List Text :=
  if entries.isEmpty then []
  else ["scores=" ++ ('{' :: join [','] (entries.map parameter)) ++ ['}']]

/-- The arguments in front of the scores. -/
def Arguments.head (args : Arguments) : List Text :=
  args.written ++ args.distance.ordered.argument "distance"

/-- The arguments behind the scores. -/
def Arguments.tail (args : Arguments) : List Text :=
  args.xRotation.argument "x_rotation" ++ args.yRotation.argument "y_rotation"

theorem Arguments.toList_eq (args : Arguments) :
    args.toList = args.head ++ scoresArgument args.scores ++ args.tail := by
  unfold Arguments.toList Arguments.tail
  rw [← List.append_assoc]
  rfl

/-- Whether a parameter gives no score. -/
def isOther (param : Text × Text) : Bool := (scoreOf? param).isNone

/-- The parts without the scores. -/
def others (parts : List Part) : List Part := parts.filter fun part => part.score?.isNone

/-- The scores change nothing else. -/
theorem exists_collect_eq (parts : List Part) :
    ∃ scores, collect parts = { collect (others parts) with scores := scores } := by
  induction parts using List.reverseRecOn with
  | nil => exact ⟨[], rfl⟩
  | append_singleton parts part ih =>
    obtain ⟨scores, ih⟩ := ih
    rw [collect_concat, ih]
    cases part with
    | texts new =>
      have hothers : others (parts ++ [Part.texts new]) = others parts ++ [Part.texts new] := by
        simp [others, Part.score?]
      rw [hothers, collect_concat]
      exact ⟨scores, rfl⟩
    | score objective value =>
      have hothers : others (parts ++ [Part.score objective value]) = others parts := by
        simp [others, Part.score?]
      rw [hothers]
      exact ⟨Lookup.set objective value scores, rfl⟩
    | bound slot side value =>
      have hothers : others (parts ++ [Part.bound slot side value])
          = others parts ++ [Part.bound slot side value] := by
        simp [others, Part.score?]
      rw [hothers, collect_concat]
      cases slot <;> exact ⟨scores, rfl⟩

variable (tables : Tables) (data : Text → Outcome Text) (letter : Text)

theorem partOf_score (objective value : Text) :
    partOf tables data letter ("score_" ++ objective) value = .ok (.score objective value) := by
  have hafter : after? "score_" ("score_" ++ objective) = some objective := after?_eq_some_iff.2 rfl
  unfold partOf
  rw [if_neg (by simp), if_neg (by simp), if_neg (by simp), if_neg (by simp), if_neg (by simp),
    if_neg (by simp), if_neg (by simp), if_neg (by simp), hafter]
  rfl

/-- A parameter with a score does not fail. -/
theorem isOther_of_partOf_eq_error {param : Text × Text} {fault : Fault}
    (h : partOf tables data letter param.1 param.2 = .error fault) : isOther param = true := by
  unfold isOther scoreOf?
  cases hname : after? "score_" param.1 with
  | none => rfl
  | some objective =>
    rw [after?_eq_some_iff.1 hname, partOf_score] at h
    cases h

/-- The other parameters give what they give without the scores. -/
theorem partsOf_filter (params : List (Text × Text)) :
    partsOf tables data letter (params.filter isOther) = others <$> partsOf tables data letter params := by
  induction params with
  | nil => rfl
  | cons param rest ih =>
    unfold partsOf at ih ⊢
    rw [List.mapM_cons]
    cases hpart : partOf tables data letter param.1 param.2 with
    | error fault =>
      rw [List.filter_cons_of_pos (isOther_of_partOf_eq_error tables data letter hpart),
        List.mapM_cons, hpart]
      rfl
    | ok part =>
      have hscore : part.score?.isNone = isOther param :=
        congrArg Option.isNone (gives_of_partOf hpart).score?_eq
      by_cases hother : isOther param = true
      · rw [List.filter_cons_of_pos hother, List.mapM_cons, hpart, ih]
        cases rest.mapM fun param => partOf tables data letter param.1 param.2 with
        | error fault => rfl
        | ok parts =>
          have hothers : others (part :: parts) = part :: others parts :=
            List.filter_cons_of_pos (hscore.trans hother)
          exact congrArg Except.ok hothers.symm
      · rw [List.filter_cons_of_neg hother, ih]
        cases rest.mapM fun param => partOf tables data letter param.1 param.2 with
        | error fault => rfl
        | ok parts =>
          have hothers : others (part :: parts) = others parts :=
            List.filter_cons_of_neg (hscore ▸ hother)
          exact congrArg Except.ok hothers.symm

theorem scores_collect_of_partsOf {params : List (Text × Text)} {parts : List Part}
    (h : partsOf tables data letter params = .ok parts) :
    (collect parts).scores = scoreEntries params := by
  obtain ⟨g, hg, rfl⟩ := Outcome.exists_map_of_mapM_eq_ok h
  rw [scores_collect, List.filterMap_map]
  exact congrArg Lookup.setAll
    (List.filterMap_congr fun param hparam => (gives_of_partOf (hg param hparam)).score?_eq)

/-- The scores are one argument in its place, and the other parameters make up the rest. -/
theorem upgrade_eq_of_scores {letter : Text} (hne : letter ≠ []) (hsolid : '[' ∉ letter) (rest : Text) :
    upgrade tables data ('@' :: letter ++ '[' :: rest) =
      (fun parts => write letter ((collect parts).head
        ++ scoresArgument (scoreEntries (readArguments rest)) ++ (collect parts).tail)) <$>
          partsOf tables data letter ((readArguments rest).filter isOther) := by
  rw [upgrade_eq tables data hne hsolid, partsOf_filter]
  cases hparts : partsOf tables data letter (readArguments rest) with
  | error fault => rfl
  | ok parts =>
    obtain ⟨scores, hcollect⟩ := exists_collect_eq parts
    have hlist : (collect parts).toList = (collect (others parts)).head
        ++ scoresArgument (scoreEntries (readArguments rest)) ++ (collect (others parts)).tail := by
      rw [Arguments.toList_eq, scores_collect_of_partsOf tables data letter hparts, hcollect]
      rfl
    exact congrArg (fun list => Except.ok (write letter list)) hlist

/-! ## Selectors without a letter -/

/-- The pieces without `part` are the same in two texts; the first one, which more text may still come
in front of, is the same or has `part`. -/
def SamePieces (part : Text) (sep : Char) (s t : Text) : Prop :=
  ∃ a as b bs, split sep s = a :: as ∧ split sep t = b :: bs ∧ (part <:+: a ∨ b = a) ∧
    ∀ piece ∈ as, ¬ part <:+: piece → piece ∈ bs

theorem SamePieces.mem {part s t : Text} {sep : Char} (h : SamePieces part sep s t) {piece : Text}
    (hpiece : piece ∈ split sep s) (hfree : ¬ part <:+: piece) : piece ∈ split sep t := by
  obtain ⟨a, as, b, bs, hs, ht, hhead, htail⟩ := h
  rw [hs] at hpiece
  rw [ht]
  rcases List.mem_cons.1 hpiece with rfl | hpiece
  · rw [hhead.resolve_left hfree]
    exact List.mem_cons_self
  · exact List.mem_cons_of_mem _ (htail piece hpiece hfree)

/-- A piece in which nothing is to be replaced stays, if no match reaches over a separator. -/
theorem mem_split_replace {p : Pattern} {new : Match → Text} {part : Text} {sep : Char}
    (hpart : part ≠ []) (hp : ∀ taken kept, p.Takes taken kept → part <:+: taken ∧ sep ∉ taken)
    {s piece : Text} (hpiece : piece ∈ split sep s) (hfree : ¬ part <:+: piece) :
    piece ∈ split sep (p.replace new s) := by
  have hsame : SamePieces part sep s (p.replace new s) :=
    Pattern.replace_rel ?nonempty ?nil ?char ?found s
  · exact hsame.mem hpiece hfree
  case nonempty =>
    rintro taken kept htaken rfl
    exact hpart (List.infix_nil.1 (hp _ _ htaken).1)
  case nil => exact ⟨[], [], [], [], rfl, rfl, Or.inr rfl, by simp⟩
  case char =>
    intro c s t h
    have hmem : ∀ piece ∈ split sep s, ¬ part <:+: piece → piece ∈ split sep t := fun _ => h.mem
    obtain ⟨a, as, b, bs, hs, ht, hhead, htail⟩ := h
    by_cases hc : c = sep
    · rw [hs, ht] at hmem
      exact ⟨[], a :: as, [], b :: bs, by rw [hc, split_cons_sep, hs],
        by rw [hc, split_cons_sep, ht], Or.inr rfl, hmem⟩
    · refine ⟨c :: a, as, c :: b, bs, split_cons hc hs, split_cons hc ht, ?_, htail⟩
      rcases hhead with hhead | rfl
      · exact Or.inl (hhead.trans (List.suffix_cons c a).isInfix)
      · exact Or.inr rfl
  case found =>
    rintro m hm s t ⟨a, as, b, bs, hs, ht, -, htail⟩
    obtain ⟨hin, hsep⟩ := hp _ _ hm
    obtain ⟨first, rest, hsplit, hsub⟩ := exists_split_append ht (new m)
    exact ⟨m.whole ++ a, as, first, rest, split_append hsep hs, hsplit,
      Or.inl (hin.trans (List.prefix_append _ _).isInfix),
      fun piece hpiece hfree => hsub (htail piece hpiece hfree)⟩

theorem upgrade_bare (rest : Text) :
    upgrade tables data ('@' :: '[' :: rest) = upgradeBare tables ('@' :: '[' :: rest) := by
  unfold upgrade
  rw [if_neg (by simp [startsWith]), if_pos (by simp [startsWith])]

theorem parameters_entities (arguments : Text) :
    parameters ("@e[" ++ arguments ++ "]") = split ',' arguments := by
  have hsolid : '[' ∉ ['e'] := by decide
  have hparameters := parameters_withBrackets hsolid [arguments]
  rw [List.flatMap_singleton] at hparameters
  exact hparameters

/-- A type and its name. -/
def typePattern : Pattern := ("type=" : String) ++ .many 1 (Pattern.no [',', ']'])

theorem takes_typePattern {taken : Text} {kept : List Text} (h : typePattern.Takes taken kept) :
    "type=".toList <:+: taken ∧ ',' ∉ taken := by
  obtain ⟨first, second, -, -, ⟨rfl, -⟩, ⟨hsecond, -, -⟩, rfl, -⟩ := Pattern.takes_append.1 h
  refine ⟨(List.prefix_append _ _).isInfix, ?_⟩
  intro hmem
  rcases List.mem_append.1 hmem with hmem | hmem
  · exact absurd hmem (by decide)
  · exact absurd (hsecond ',' hmem) (by decide)

/-- A selector without a letter keeps every parameter in which no type is given. -/
theorem mem_parameters_of_bare {rest s : Text}
    (h : upgrade tables data ('@' :: '[' :: rest) = .ok s) {param : Text}
    (hparam : param ∈ split ',' (dropLast 1 rest)) (hfree : ¬ "type=".toList <:+: param) :
    param ∈ parameters s := by
  rw [upgrade_bare] at h
  unfold upgradeBare at h
  rw [if_neg (by simp [startsWith])] at h
  dsimp only [List.drop_succ_cons, List.drop_zero] at h
  split at h
  · cases h
    rw [parameters_entities]
    exact hparam
  · obtain ⟨new, hnew, h⟩ := Outcome.bind_eq_ok h
    obtain ⟨template, -, hreplace⟩ := Outcome.bind_eq_ok hnew
    cases hreplace
    cases h
    rw [parameters_entities]
    exact mem_split_replace (List.cons_ne_nil _ _) (fun _ _ => takes_typePattern) hparam hfree

/-! ## Objectives -/

/-- What a minimum asks for: the range from it up to the value of the objective, if that is given, and
no entry for the minimum itself. -/
def Ranged (params : List (Text × Text)) (entries : Lookup Text) (objective : Text) : Prop :=
  (∀ low, lastValue? ("score_" ++ objective ++ "_min") params = some low →
    Lookup.get? objective entries
      = some (low ++ ".." ++ (lastValue? ("score_" ++ objective) params).getD [])) ∧
  Lookup.get? (objective ++ "_min") entries = none

theorem ranged_scoreEntries_iff (params : List (Text × Text)) (objective : Text) :
    Ranged params (scoreEntries params) objective ↔
      lastValue? ("score_" ++ objective ++ "_min") params = none := by
  have hmin : Lookup.get? (objective ++ "_min") (scoreEntries params)
      = lastValue? ("score_" ++ objective ++ "_min") params := by
    rw [get?_scoreEntries, List.append_assoc]
  unfold Ranged
  rw [hmin]
  constructor
  · exact fun h => h.2
  · intro h
    rw [h]
    exact ⟨fun low hlow => absurd hlow (Option.some_ne_none low).symm, rfl⟩

/-- The scores of a selector are entries by the names behind `score_`, each with its last value, and
touch no other argument; a minimum never makes the range that it asks for. A selector without a letter
keeps its scores as they are. -/
theorem scores_by_name (tables : Tables) (data : Text → Outcome Text) (letter rest : Text)
    (hsolid : '[' ∉ letter) :
    (letter ≠ [] →
      let params := readArguments rest
      let entries := scoreEntries params
      upgrade tables data ('@' :: letter ++ '[' :: rest) =
        (fun parts => write letter
          ((collect parts).head ++ scoresArgument entries ++ (collect parts).tail)) <$>
            partsOf tables data letter (params.filter isOther) ∧
      (entries.map Prod.fst).Nodup ∧
      ∀ objective,
        Lookup.get? objective entries = lastValue? ("score_" ++ objective) params ∧
        (Ranged params entries objective ↔
          lastValue? ("score_" ++ objective ++ "_min") params = none)) ∧
    (letter = [] →
      ∀ s, upgrade tables data ('@' :: letter ++ '[' :: rest) = .ok s →
        ∀ param ∈ split ',' (dropLast 1 rest), ¬ "type=".toList <:+: param → param ∈ parameters s) := by
  constructor
  · intro hne params entries
    exact ⟨upgrade_eq_of_scores tables data hne hsolid rest, Lookup.nodup_setAll _,
      fun objective => ⟨get?_scoreEntries objective params, ranged_scoreEntries_iff params objective⟩⟩
  · rintro rfl s h param hparam hfree
    exact mem_parameters_of_bare tables data h hparam hfree

theorem scores_by_name_kills :
    let params := readArguments "score_kills_min=3,score_kills=5]"
    upgrade ⟨[], [], [], [], .compound [], []⟩ pure "@a[score_kills_min=3,score_kills=5]"
      = .ok "@a[scores=\x7bkills_min=3,kills=5\x7d]" ∧
    ¬ Ranged params (scoreEntries params) "kills" := by
  intro params
  have hsolid : '[' ∉ ['a'] := by decide
  obtain ⟨hupgrade, -, hobjectives⟩ := (scores_by_name ⟨[], [], [], [], .compound [], []⟩ pure ['a']
    "score_kills_min=3,score_kills=5]" hsolid).1 (List.cons_ne_nil _ _)
  refine ⟨hupgrade.trans (by decide +kernel), ?_⟩
  intro hranged
  exact absurd ((hobjectives "kills").2.1 hranged) (by decide +kernel)

end Selector

end CommandUpgrade
