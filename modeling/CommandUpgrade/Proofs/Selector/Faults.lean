import CommandUpgrade.Proofs.Selector.Parameters

/-!
# Selectors without a new form

Of all arguments, only a count and a coordinate can stop the conversion of a selector, besides the data of
an entity: a count that is no integer, and a coordinate that looks whole but is no number
(`partOf_eq_error_iff`). One such argument is enough, wherever it stands, and the fault is always one of a
value (`upgrade_error_iff`).
-/

namespace CommandUpgrade

open Text

/-! ## Faults of outcomes -/

namespace Outcome

variable {α β : Type}

theorem ite_eq_error_iff {c : Prop} [Decidable c] {x y : Outcome α} {fault : Fault} :
    (if c then x else y) = .error fault ↔ c ∧ x = .error fault ∨ ¬c ∧ y = .error fault := by
  by_cases hc : c <;> simp [hc]

theorem pure_ne_error {a : α} {fault : Fault} : ¬(pure a : Outcome α) = .error fault := nofun

/-- A step without faults behind another one adds none. -/
theorem bind_pure_eq_error_iff {x : Outcome α} {f : α → β} {fault : Fault} :
    (x >>= fun a => pure (f a)) = .error fault ↔ x = .error fault := by
  cases x with
  | error other => exact ⟨fun h => congrArg Except.error (Except.error.inj h), fun h => h ▸ rfl⟩
  | ok a => exact ⟨nofun, nofun⟩

/-- A list is without results if one of its items is. -/
theorem exists_mapM_eq_error_iff {f : α → Outcome β} {items : List α} :
    (∃ fault, items.mapM f = .error fault) ↔ ∃ a ∈ items, ∃ fault, f a = .error fault := by
  constructor
  · rintro ⟨fault, h⟩
    obtain ⟨a, ha, hfault⟩ := exists_of_mapM_eq_error h
    exact ⟨a, ha, fault, hfault⟩
  · rintro ⟨a, ha, fault, hfault⟩
    refine mapM_eq_error ha fun b hb => ?_
    cases hfault.symm.trans hb

end Outcome

/-- A text is read as an integer, or the fault is one of a value. -/
theorem Number.isValue_of_readInt {s : Text} {fault : Fault} (h : readInt s = .error fault) :
    fault.isValue = true := by
  unfold readInt at h
  dsimp only at h
  split_ifs at h <;> cases h <;> rfl

namespace Selector

/-! ## Arguments -/

/-- The names of coordinates. -/
def axes : List Text := ["x".toList, "y".toList, "z".toList]

theorem blockCentre_eq_error_iff {value : Text} {fault : Fault} :
    blockCentre value = .error fault ↔ allDigits (stripStart (· == '-') value) = true ∧
      Binary64.read? value = none ∧ fault = .notDecimal value := by
  unfold blockCentre
  simp only [Outcome.ite_eq_error_iff, Outcome.bind_pure_eq_error_iff, Outcome.pure_ne_error, and_false,
    or_false]
  refine and_congr_right fun _ => ?_
  unfold Binary64.read
  cases Binary64.read? value with
  | some x => exact ⟨nofun, nofun⟩
  | none => exact ⟨fun h => ⟨rfl, (Except.error.inj h).symm⟩, fun h => congrArg Except.error h.2.symm⟩

variable {tables : Tables} {data : Text → Outcome Text} {letter name value : Text} {fault : Fault}

/-- Which arguments are without a part. -/
theorem partOf_eq_error_iff (hname : name ≠ "nbt".toList) :
    partOf tables data letter name value = .error fault ↔
      name ∈ axes ∧ blockCentre value = .error fault ∨
        name = "c".toList ∧ Number.readInt value = .error fault := by
  have haxes : name ∈ axes ↔ name = ['x'] ∨ name = ['y'] ∨ name = ['z'] := by
    unfold axes
    rw [List.mem_cons, List.mem_cons, List.mem_singleton]
    rfl
  unfold partOf
  rw [haxes]
  simp only [Outcome.ite_eq_error_iff, Outcome.pure_ne_error, Outcome.bind_pure_eq_error_iff, and_false,
    false_or]
  constructor
  · rintro (hplace | ⟨-, -, -, -, -, hcount | ⟨-, -, ⟨hdata, -⟩ | ⟨-, hrest⟩⟩⟩)
    · exact .inl hplace
    · exact .inr hcount
    · exact absurd hdata hname
    · cases hscore : after? "score_".toList name with
      | some objective =>
        rw [hscore] at hrest
        exact absurd hrest Outcome.pure_ne_error
      | none =>
        rw [hscore] at hrest
        simp only [Outcome.ite_eq_error_iff, Outcome.pure_ne_error, and_false, or_false] at hrest
  · rintro (hplace | ⟨rfl, hcount⟩)
    · exact .inl hplace
    · exact .inr ⟨by decide, by decide, by decide, by decide, by decide, .inl ⟨rfl, hcount⟩⟩

/-! ## Selectors -/

/-- The arguments of a selector, none without brackets. -/
def argumentsOf (s : Text) : List (Text × Text) :=
  ((splitFirst? '[' (s.drop 1)).map fun pair => readArguments pair.2).getD []

/-- A count that is no integer, or a coordinate that looks whole but is no number. -/
def IsFaulty (param : Text × Text) : Prop :=
  param.1 = "c".toList ∧ (∃ fault, Number.readInt param.2 = .error fault) ∨
    param.1 ∈ axes ∧ allDigits (stripStart (· == '-') param.2) = true ∧ Binary64.read? param.2 = none

theorem exists_partOf_eq_error_iff (hname : name ≠ "nbt".toList) :
    (∃ fault, partOf tables data letter name value = .error fault) ↔ IsFaulty (name, value) := by
  simp only [partOf_eq_error_iff hname, blockCentre_eq_error_iff]
  unfold IsFaulty
  constructor
  · rintro ⟨fault, ⟨hplace, hdigits, hnone, -⟩ | hcount⟩
    · exact .inr ⟨hplace, hdigits, hnone⟩
    · exact .inl ⟨hcount.1, fault, hcount.2⟩
  · rintro (⟨hcount, fault, hfault⟩ | ⟨hplace, hdigits, hnone⟩)
    · exact ⟨fault, .inr ⟨hcount, hfault⟩⟩
    · exact ⟨_, .inl ⟨hplace, hdigits, hnone, rfl⟩⟩

theorem isValue_of_partOf (hname : name ≠ "nbt".toList)
    (h : partOf tables data letter name value = .error fault) : fault.isValue = true := by
  rcases (partOf_eq_error_iff hname).1 h with ⟨-, hplace⟩ | ⟨-, hcount⟩
  · obtain ⟨-, -, rfl⟩ := blockCentre_eq_error_iff.1 hplace
    rfl
  · exact Number.isValue_of_readInt hcount

/-- A selector with a letter has brackets behind it, or it is converted without any. -/
theorem cases_of_letter {s : Text} (hat : startsWith s "@" = true) (hletter : startsWith s "@[" = false) :
    ('[' ∉ s ∧ ∃ new, upgrade tables data s = .ok new) ∨
    ∃ letter rest, s = '@' :: letter ++ '[' :: rest ∧ letter ≠ [] ∧ '[' ∉ letter ∧
      argumentsOf s = readArguments rest := by
  cases s with
  | nil => cases hat
  | cons c r =>
    obtain rfl : c = '@' := by
      have hc : ('@' == c) = true := (Bool.and_eq_true _ _ ▸ hat).1
      exact (beq_iff_eq.1 hc).symm
    by_cases hmem : '[' ∈ r
    · obtain ⟨letter, rest, rfl, hsolid⟩ := List.eq_append_cons_of_mem hmem
      refine .inr ⟨letter, rest, rfl, ?_, hsolid, ?_⟩
      · rintro rfl
        cases hletter
      · unfold argumentsOf
        rw [List.drop_one, List.tail_cons, splitFirst?_append hsolid]
        rfl
    · refine .inl ⟨List.not_mem_cons_of_ne_of_not_mem (by decide) hmem, ?_⟩
      unfold upgrade
      rw [hat, hletter, List.drop_one, List.tail_cons, splitFirst?_of_notMem hmem, if_neg (by decide),
        if_neg Bool.false_ne_true]
      split <;> exact ⟨_, rfl⟩

/-- Which selectors with a letter and without data have no new form: those with brackets and, in them, a
count or a coordinate that is no number. The fault is one of a value. -/
theorem upgrade_error_iff (tables : Tables) (data : Text → Outcome Text) {s : Text}
    (hat : startsWith s "@" = true) (hletter : startsWith s "@[" = false)
    (hdata : ∀ param ∈ argumentsOf s, param.1 ≠ "nbt".toList) :
    ((∃ new, upgrade tables data s = .ok new) ∨
      ∃ fault, upgrade tables data s = .error fault ∧ fault.isValue = true) ∧
    ((∃ fault, upgrade tables data s = .error fault) ↔
      '[' ∈ s ∧ ∃ param ∈ argumentsOf s, IsFaulty param) := by
  rcases cases_of_letter hat hletter with ⟨hmem, new, hnew⟩ | ⟨letter, rest, rfl, hne, hsolid, hargs⟩
  · refine ⟨.inl ⟨new, hnew⟩, iff_of_false ?_ fun h => hmem h.1⟩
    rintro ⟨fault, hfault⟩
    cases hfault.symm.trans hnew
  · rw [hargs] at hdata ⊢
    have hmem : '[' ∈ '@' :: letter ++ '[' :: rest := List.mem_append_right _ List.mem_cons_self
    have hparts : ∀ fault, upgrade tables data ('@' :: letter ++ '[' :: rest) = .error fault ↔
        partsOf tables data letter (readArguments rest) = .error fault := by
      intro fault
      rw [upgrade_eq tables data hne hsolid rest, map_eq_pure_bind]
      exact Outcome.bind_pure_eq_error_iff
    unfold partsOf at hparts
    constructor
    · cases hupgrade : upgrade tables data ('@' :: letter ++ '[' :: rest) with
      | ok new => exact .inl ⟨new, rfl⟩
      | error fault =>
        obtain ⟨param, hparam, hfault⟩ := Outcome.exists_of_mapM_eq_error ((hparts fault).1 hupgrade)
        exact .inr ⟨fault, rfl, isValue_of_partOf (hdata param hparam) hfault⟩
    · simp only [hparts, hmem, true_and, Outcome.exists_mapM_eq_error_iff]
      exact exists_congr fun param => and_congr_right fun hparam =>
        exists_partOf_eq_error_iff (hdata param hparam)

/-- A coordinate with two signs looks whole. -/
theorem upgrade_error_iff_signs :
    let tables : Tables := ⟨[], [], [], [], .null, []⟩
    let s : Text := "@e[type=zombie,x=--5]"
    ∃ fault, upgrade tables .ok s = .error fault ∧ fault.isValue = true := by
  intro tables s
  have hargs : argumentsOf s = [("type".toList, "zombie".toList), ("x".toList, "--5".toList)] := by
    decide +kernel
  have hfaulty : IsFaulty ("x".toList, "--5".toList) :=
    .inr ⟨by decide, by decide +kernel, by decide +kernel⟩
  obtain ⟨hall, hiff⟩ := upgrade_error_iff tables .ok (s := s) (by decide) (by decide) (by
    rw [hargs]
    decide)
  obtain ⟨fault, hfault⟩ := hiff.2 ⟨by decide, _, by rw [hargs]; decide, hfaulty⟩
  rcases hall with ⟨new, hnew⟩ | hvalue
  · cases hfault.symm.trans hnew
  · exact hvalue

end Selector

end CommandUpgrade
