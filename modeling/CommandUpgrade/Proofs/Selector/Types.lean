import CommandUpgrade.Proofs.Selector.Parameters
import CommandUpgrade.Proofs.Table.Load

/-!
# Types in a selector

A type is looked up with all that stands behind `type=`, so a negation is part of the name that is looked
up and gets the namespace in front of it (`entityName_negated`). A negated type comes out as the negation
of the new type only if it has a namespace and is not renamed (`upgrade_negated_type`).
-/

namespace CommandUpgrade

open Text

/-! ## Names -/

theorem Text.bareName_negated (name : Text) : bareName ('!' :: name) = '!' :: bareName name := by
  unfold bareName replace
  rw [replace.go, if_neg (by simp)]

/-- The namespace comes in front of the negation. -/
theorem Tables.entityName_negated {tables : Tables} {name : Text}
    (h : Lookup.get? ('!' :: bareName name) tables.entities = none) :
    tables.entityName ('!' :: name) = if ':' ∈ name then '!' :: name else "minecraft:!" ++ name := by
  unfold entityName withNamespace
  rw [bareName_negated, h, Option.getD_none]
  simp only [List.contains_cons, List.contains_iff_mem, Bool.or_eq_true, beq_iff_eq]
  by_cases hname : ':' ∈ name
  · rw [if_pos (Or.inr hname), if_pos hname]
  · rw [if_neg (by simp [hname]), if_neg hname]
    rfl

/-- A negated name is renewed behind its negation only where nothing is to be renewed. -/
theorem Tables.entityName_negated_eq_iff {tables : Tables} {name : Text}
    (h : Lookup.get? ('!' :: bareName name) tables.entities = none) :
    tables.entityName ('!' :: name) = '!' :: tables.entityName name ↔
      ':' ∈ name ∧ tables.entityName name = name := by
  rw [entityName_negated h]
  by_cases hname : ':' ∈ name
  · rw [if_pos hname, List.cons_inj_right]
    exact ⟨fun heq => ⟨hname, heq.symm⟩, fun heq => heq.2.symm⟩
  · rw [if_neg hname]
    constructor
    · intro heq
      have hhead := congrArg List.head? heq
      simp at hhead
    · exact fun heq => absurd heq.1 hname

/-! ## Selectors -/

namespace Selector

/-- The selector of the entities of a type. -/
def typeSelector (type : Text) : Text := "@e[type=" ++ type ++ "]"

theorem upgrade_typeSelector (tables : Tables) (data : Text → Outcome Text) {type : Text}
    (h : IsPlain ("type", type)) :
    upgrade tables data (typeSelector type) = .ok (typeSelector (tables.entityName type)) := by
  have hsolid : '[' ∉ ['e'] := by decide
  have hupgrade := upgrade_eq tables data (List.cons_ne_nil 'e' []) hsolid
    (join [','] ([("type".toList, type)].map parameter) ++ [']'])
  rw [readArguments_join (List.forall_mem_singleton.2 h)] at hupgrade
  exact hupgrade

theorem typeSelector_inj {type type' : Text} :
    (Except.ok (typeSelector type) : Outcome Text) = .ok (typeSelector type') ↔ type = type' := by
  unfold typeSelector
  rw [Except.ok.injEq, List.append_left_inj, List.append_right_inj]

theorem isPlain_type {type : Text} (hcomma : ',' ∉ type) (hbracket : ']' ∉ type)
    (hblank : ∀ c ∈ type, isBlank c = false) : IsPlain ("type", type) := by
  have hname : trim "type".toList = "type".toList := by decide
  have hequals : '=' ∉ "type".toList := by decide
  have hmem {c : Char} (hfront : c ∉ "type=".toList) (htype : c ∉ type) :
      c ∉ parameter ("type", type) := by
    intro h
    rcases List.mem_append.1 (show c ∈ "type=".toList ++ type from h) with h | h
    · exact hfront h
    · exact htype h
  exact ⟨hname, stripBoth_eq_self hblank, hequals, hmem (by decide) hcomma, hmem (by decide) hbracket⟩

/-- A negated type is renewed together with its negation, which the new type therefore begins with only
if nothing is put in front. With tables that have no name for a negated entity, as the standard ones have
none, the result is the negation of the new type exactly for a name that has a namespace and is not
renamed. -/
theorem upgrade_negated_type (tables : Tables) (data : Text → Outcome Text) {name : Text}
    (hcomma : ',' ∉ name) (hbracket : ']' ∉ name) (hblank : ∀ c ∈ name, isBlank c = false) :
    upgrade tables data (typeSelector ('!' :: name)) =
      .ok (typeSelector (tables.entityName ('!' :: name))) ∧
    (Lookup.get? ('!' :: bareName name) tables.entities = none →
      tables.entityName ('!' :: name) = (if ':' ∈ name then '!' :: name else "minecraft:!" ++ name) ∧
      (upgrade tables data (typeSelector ('!' :: name)) =
          .ok (typeSelector ('!' :: tables.entityName name)) ↔
        ':' ∈ name ∧ tables.entityName name = name)) ∧
    (upgrade .standard data (typeSelector ('!' :: name)) =
        .ok (typeSelector ('!' :: Tables.standard.entityName name)) ↔
      ':' ∈ name ∧ Tables.standard.entityName name = name) := by
  have hplain : IsPlain ("type", '!' :: name) :=
    isPlain_type (List.not_mem_cons_of_ne_of_not_mem (by decide) hcomma)
      (List.not_mem_cons_of_ne_of_not_mem (by decide) hbracket)
      (List.forall_mem_cons.2 ⟨by decide, hblank⟩)
  have hexact (tables : Tables) := upgrade_typeSelector tables data hplain
  refine ⟨hexact tables, fun hrow => ⟨Tables.entityName_negated hrow, ?_⟩, ?_⟩
  · rw [hexact, typeSelector_inj, Tables.entityName_negated_eq_iff hrow]
  · rw [hexact, typeSelector_inj, Tables.entityName_negated_eq_iff (get?_standard_negated _)]

/-- The negation of a name without a namespace ends up inside the new name. -/
theorem upgrade_negated_type_zombie :
    upgrade .standard pure "@e[type=!zombie]" = .ok "@e[type=minecraft:!zombie]" ∧
    upgrade .standard pure "@e[type=!zombie]" ≠
      .ok (typeSelector ('!' :: Tables.standard.entityName "zombie")) := by
  have hselector : typeSelector ('!' :: "zombie") = "@e[type=!zombie]".toList := by decide
  have hcomma : ',' ∉ "zombie".toList := by decide
  have hcolon : ':' ∉ "zombie".toList := by decide
  have hsolid : "zombie".toList.all (!isBlank ·) = true := by decide
  have hblank : ∀ c ∈ "zombie".toList, isBlank c = false := by simpa using hsolid
  obtain ⟨hexact, hnames, hstandard⟩ :=
    upgrade_negated_type .standard pure hcomma (by decide) hblank
  rw [hselector] at hexact hstandard
  have hname := (hnames (get?_standard_negated _)).1
  rw [if_neg hcolon] at hname
  rw [hname] at hexact
  exact ⟨hexact, fun h => hcolon (hstandard.1 h).1⟩

end Selector

end CommandUpgrade
