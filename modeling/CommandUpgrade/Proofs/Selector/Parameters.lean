import CommandUpgrade.Proofs.Selector.Parts
import CommandUpgrade.Proofs.Text.Nesting

/-!
# The text of a selector

A selector with a letter is upgraded by reading its parameters, taking the parts that they give, and
writing the arguments that the parts come to (`upgrade_eq`). The parameters of a written selector are
read back as they are (`readArguments_join`), and so are those of the new one (`parameters_withBrackets`).
-/

namespace CommandUpgrade

open Text

theorem Text.dropLast_append_singleton (s : Text) (c : Char) : dropLast 1 (s ++ [c]) = s := by
  unfold dropLast
  simp

namespace Selector

/-! ## Reading -/

/-- The arguments in the text behind the opening bracket. -/
def readArguments (rest : Text) : List (Text × Text) :=
  (split ',' (stripEnd (· == ']') rest)).filterMap readArgument?

/-- A parameter that the brackets and commas around it leave as it is. -/
@[mk_iff]
structure IsPlain (param : Text × Text) : Prop where
  name : trim param.1 = param.1
  value : trim param.2 = param.2
  noEquals : '=' ∉ param.1
  noComma : ',' ∉ parameter param
  noBracket : ']' ∉ parameter param

theorem IsPlain.readArgument? {param : Text × Text} (h : IsPlain param) :
    readArgument? (parameter param) = some param := by
  unfold Selector.readArgument? parameter
  rw [trim_append_cons (by decide) h.name h.value, splitFirst?_append h.noEquals, Option.map_some]
  exact congrArg some (Prod.ext h.name h.value)

theorem readArguments_join {params : List (Text × Text)} (h : ∀ param ∈ params, IsPlain param) :
    readArguments (join [','] (params.map parameter) ++ [']']) = params := by
  have hpieces : ∀ piece ∈ params.map parameter, ',' ∉ piece ∧ ']' ∉ piece := by
    intro piece hpiece
    obtain ⟨param, hparam, rfl⟩ := List.mem_map.1 hpiece
    exact ⟨(h param hparam).noComma, (h param hparam).noBracket⟩
  have hstrip : stripEnd (· == ']') (join [','] (params.map parameter) ++ [']'])
      = join [','] (params.map parameter) := by
    rw [stripEnd_eq_rdropWhile, List.rdropWhile_concat_pos _ _ _ rfl, ← stripEnd_eq_rdropWhile]
    refine stripEnd_eq_self fun c hc => beq_false_of_ne ?_
    rintro rfl
    rcases mem_join hc with hsep | ⟨piece, hpiece, hmem⟩
    · exact absurd hsep (by decide)
    · exact (hpieces piece hpiece).2 hmem
  unfold readArguments
  rw [hstrip]
  cases params with
  | nil => rfl
  | cons param rest =>
    rw [split_join (by simp) fun piece hpiece => (hpieces piece hpiece).1, List.filterMap_map]
    calc (param :: rest).filterMap (readArgument? ∘ parameter)
        = (param :: rest).filterMap some :=
          List.filterMap_congr fun item hitem => (h item hitem).readArgument?
      _ = param :: rest := List.filterMap_some

/-! ## Writing -/

/-- The arguments with a random order among them. -/
def withRandomOrder (list : List Text) : List Text :=
  if list.contains "sort=random".toList then list else list ++ ["sort=random".toList]

/-- The new letter and arguments: for a random player, all entities in random order. -/
def withOrder (letter : Text) (list : List Text) : Text × List Text :=
  if letter = ['r'] then (['e'], withRandomOrder list) else (letter, list)

/-- A letter and the arguments in brackets, if there are any. -/
def withBrackets (letter : Text) (list : List Text) : Text :=
  if list.isEmpty then '@' :: letter else '@' :: letter ++ ['['] ++ join [','] list ++ [']']

/-- The new selector with given arguments. -/
def write (letter : Text) (list : List Text) : Text :=
  withBrackets (withOrder letter list).1 (withOrder letter list).2

theorem upgrade_eq (tables : Tables) (data : Text → Outcome Text) {letter : Text} (hne : letter ≠ [])
    (hsolid : '[' ∉ letter) (rest : Text) :
    upgrade tables data ('@' :: letter ++ '[' :: rest) =
      (fun parts => write letter (collect parts).toList) <$>
        partsOf tables data letter (readArguments rest) := by
  obtain ⟨c, r, rfl⟩ := List.exists_cons_of_ne_nil hne
  have hparts := foldlM_addArgument tables data (c :: r) {} (readArguments rest)
  unfold upgrade
  rw [if_neg (by simp [startsWith]), if_neg (by simp [startsWith, List.ne_of_not_mem_cons hsolid]),
    if_neg (by simp), List.cons_append, List.drop_one, List.tail_cons, splitFirst?_append hsolid]
  change (List.foldlM (fun args param => addArgument tables data (c :: r) args param.1 param.2) {}
    (readArguments rest) >>= _) = _
  rw [hparts]
  cases partsOf tables data (c :: r) (readArguments rest) with
  | error fault => rfl
  | ok parts =>
    exact (apply_ite Except.ok ((withOrder (c :: r) (collect parts).toList).2.isEmpty = true) _ _).symm

/-! ## Reading what was written -/

/-- What stands in front of the brackets. -/
def front (s : Text) : Text := ((splitFirst? '[' s).map Prod.fst).getD s

/-- The parameters in the brackets. -/
def parameters (s : Text) : List Text :=
  ((splitFirst? '[' s).map fun pair => split ',' (dropLast 1 pair.2)).getD []

section WithBrackets

variable {letter : Text} (h : '[' ∉ letter) (list : List Text)

include h

theorem splitFirst?_withBrackets (hne : list ≠ []) : splitFirst? '[' (withBrackets letter list)
    = some ('@' :: letter, join [','] list ++ [']']) := by
  have hfront : '[' ∉ '@' :: letter := by simpa using h
  unfold withBrackets
  rw [if_neg (by simpa using hne), List.append_assoc, List.append_assoc, List.singleton_append,
    splitFirst?_append hfront]

theorem front_withBrackets : front (withBrackets letter list) = '@' :: letter := by
  unfold front
  by_cases hne : list = []
  · have hfront : '[' ∉ '@' :: letter := by simpa using h
    rw [hne]
    exact congrArg (fun pair => (Option.map Prod.fst pair).getD ('@' :: letter))
      (splitFirst?_of_notMem hfront)
  · rw [splitFirst?_withBrackets h list hne]
    rfl

theorem parameters_withBrackets : parameters (withBrackets letter list) = list.flatMap (split ',') := by
  unfold parameters
  by_cases hne : list = []
  · have hfront : '[' ∉ '@' :: letter := by simpa using h
    rw [hne]
    exact congrArg (fun pair => (Option.map _ pair).getD []) (splitFirst?_of_notMem hfront)
  · rw [splitFirst?_withBrackets h list hne, Option.map_some, Option.getD_some,
      dropLast_append_singleton, split_join_eq_flatMap hne]

end WithBrackets

section Write

variable {letter : Text} (hsolid : '[' ∉ letter) (list : List Text)

theorem subset_withOrder : list ⊆ (withOrder letter list).2 := by
  unfold withOrder withRandomOrder
  split_ifs
  · exact List.Subset.refl _
  · exact List.subset_append_left _ _
  · exact List.Subset.refl _

include hsolid

theorem notMem_withOrder : '[' ∉ (withOrder letter list).1 := by
  unfold withOrder
  split_ifs
  · exact List.not_mem_cons_of_ne_of_not_mem (by decide) List.not_mem_nil
  · exact hsolid

theorem front_write : front (write letter list) = '@' :: (withOrder letter list).1 :=
  front_withBrackets (notMem_withOrder hsolid list) _

theorem parameters_write :
    parameters (write letter list) = (withOrder letter list).2.flatMap (split ',') :=
  parameters_withBrackets (notMem_withOrder hsolid list) _

end Write

end Selector

end CommandUpgrade
