import CommandUpgrade.Proofs.World.Import

/-!
# What the changes of a chunk make of it

The changes of a chunk are made one after the other, each on what the last one left. Said at once:
if one of them cannot be made on the block entities as they are, the chunk stays as it is; or else
each command block has the command of the last change that addresses it, and nothing else differs
(`isUpdate_changedChunk`).
-/

namespace CommandUpgrade.World

open Text

/-! ## Setting commands -/

theorem setEntry_setEntry (name : Text) (first second : Node) (entries : List (Text × Node)) :
    setEntry name second (setEntry name first entries) = setEntry name second entries := by
  induction entries with
  | nil => exact if_pos rfl
  | cons entry rest ih =>
    obtain ⟨n, old⟩ := entry
    by_cases h : n = name
    · rw [setEntry, setEntry, if_pos h, if_pos h, setEntry, if_pos h]
    · rw [setEntry, setEntry, if_neg h, if_neg h, setEntry, if_neg h, ih]

theorem lookup_setEntry_self (name : Text) (node : Node) (entries : List (Text × Node)) :
    (setEntry name node entries).lookup name = some node := by
  induction entries with
  | nil => rw [setEntry, List.lookup_cons_self]
  | cons entry rest ih =>
    obtain ⟨n, old⟩ := entry
    rw [setEntry]
    by_cases h : n = name
    · rw [if_pos h, h, List.lookup_cons_self]
    · rw [if_neg h, List.lookup_cons, beq_eq_false_iff_ne.2 (Ne.symm h), ih]

theorem lookup_setEntry_of_ne {name other : Text} (h : other ≠ name) (node : Node)
    (entries : List (Text × Node)) :
    (setEntry name node entries).lookup other = entries.lookup other := by
  induction entries with
  | nil => rw [setEntry, List.lookup_cons, beq_eq_false_iff_ne.2 h]
  | cons entry rest ih =>
    obtain ⟨n, old⟩ := entry
    rw [setEntry]
    by_cases hn : n = name
    · rw [if_pos hn, List.lookup_cons, List.lookup_cons, hn, beq_eq_false_iff_ne.2 h]
    · rw [if_neg hn, List.lookup_cons, List.lookup_cons, ih]

namespace Node

/-- The block entity with a command. -/
def withCommand (entity : Node) (command : Text) : Node := entity.set "Command" (.string command)

theorem withCommand_withCommand (entity : Node) (first second : Text) :
    (entity.withCommand first).withCommand second = entity.withCommand second := by
  cases entity with
  | compound entries => exact congrArg compound (setEntry_setEntry _ _ _ entries)
  | _ => rfl

/-- A command makes no difference to what a block entity is. -/
theorem isCommandBlock_withCommand (entity : Node) (command : Text) :
    (entity.withCommand command).isCommandBlock = entity.isCommandBlock := by
  cases entity with
  | compound entries =>
    have hid : get? "id" (withCommand (compound entries) command) = get? "id" (compound entries) :=
      lookup_setEntry_of_ne (by decide +kernel) _ entries
    unfold isCommandBlock
    exact congrArg (fun found : Option Node => Except.ok (found.any fun id =>
      id.isText "minecraft:command_block" || id.isText "command_block")) hid
  | _ => rfl

theorem command_withCommand {entity : Node} (h : entity.isCommandBlock = .ok true) (command : Text) :
    (entity.withCommand command).command = .string command := by
  cases entity with
  | compound entries =>
    have hget : get? "Command" (withCommand (compound entries) command) = some (.string command) :=
      lookup_setEntry_self _ _ entries
    unfold Node.command
    rw [hget]
    rfl
  | _ => cases h

/-- The block entity with a command, if it is a command block and there is one to give. -/
def given (entity : Node) (command : Option Text) : Node :=
  if entity.isCommandBlock = .ok true then (command.map entity.withCommand).getD entity else entity

theorem given_none (entity : Node) : entity.given none = entity := ite_self entity

theorem given_some {entity : Node} (h : entity.isCommandBlock = .ok true) (command : Text) :
    entity.given (some command) = entity.withCommand command := if_pos h

theorem given_of_ne {entity : Node} (h : entity.isCommandBlock ≠ .ok true) (command : Option Text) :
    entity.given command = entity := if_neg h

theorem isCommandBlock_given (entity : Node) (command : Option Text) :
    (entity.given command).isCommandBlock = entity.isCommandBlock := by
  by_cases h : entity.isCommandBlock = .ok true
  · cases command with
    | none => rw [given_none]
    | some command => rw [given_some h, isCommandBlock_withCommand]
  · rw [given_of_ne h]

/-- The later command counts. -/
theorem given_given (entity : Node) (first second : Option Text) :
    (entity.given first).given second = entity.given (second.or first) := by
  by_cases h : entity.isCommandBlock = .ok true
  · cases second with
    | none => rw [given_none, Option.none_or]
    | some second =>
      rw [given_some (by rw [isCommandBlock_given, h]), Option.some_or, given_some h]
      cases first with
      | none => rw [given_none]
      | some first => rw [given_some h, withCommand_withCommand]
  · rw [given_of_ne h, given_of_ne h, given_of_ne h]

end Node

namespace Import

/-! ## One change -/

/-- The change addresses the block entity at a position, counted from the front or from the end. -/
def Change.Addresses (change : Change) (length i : Nat) : Prop :=
  i < length ∧ (change.index = i ∨ change.index = (i : Int) - length)

instance (change : Change) (length i : Nat) : Decidable (change.Addresses length i) :=
  inferInstanceAs (Decidable (_ ∧ _))

/-- The change cannot be made on a block entity: that is no compound, or is a command block whose
command has no length, or there is no new command for it. -/
def Change.Refused (change : Change) (entity : Node) : Prop :=
  (∃ fault, entity.isCommandBlock = .error fault) ∨
    entity.isCommandBlock = .ok true ∧
      (change.command = none ∨ ∃ fault, entity.command.size = .error fault)

/-- The change cannot be made: it lies before the first block entity, or is refused by the one that
it addresses. -/
def Change.Raises (change : Change) (items : List Node) : Prop :=
  change.index < -(items.length : Int) ∨
    ∃ i entity, change.Addresses items.length i ∧ items[i]? = some entity ∧ change.Refused entity

theorem Change.Addresses.unique {change : Change} {length i j : Nat}
    (hi : change.Addresses length i) (hj : change.Addresses length j) : i = j := by
  obtain ⟨hi, hindex⟩ := hi
  obtain ⟨hj, hindex'⟩ := hj
  omega

/-- Where a change leads: before the list, behind it, or to the block entity that it addresses. -/
theorem position_cases (change : Change) (length : Nat) :
    (change.index < -(length : Int) ∧ ∃ fault, position length change.index = .error fault) ∨
    ((length : Int) ≤ change.index ∧ position length change.index = .ok none) ∨
    ∃ i, change.Addresses length i ∧ position length change.index = .ok (some i) := by
  unfold position
  by_cases hbehind : (length : Int) ≤ change.index
  · exact .inr (.inl ⟨hbehind, if_pos hbehind⟩)
  rw [if_neg hbehind]
  by_cases hfront : 0 ≤ change.index
  · rw [if_pos hfront]
    exact .inr (.inr ⟨change.index.toNat, ⟨by omega, .inl (by omega)⟩, rfl⟩)
  rw [if_neg hfront]
  by_cases hend : 0 ≤ change.index + length
  · rw [if_pos hend]
    exact .inr (.inr ⟨(change.index + length).toNat, ⟨by omega, .inr (by omega)⟩, rfl⟩)
  · rw [if_neg hend]
    exact .inl ⟨by omega, _, rfl⟩

/-- A change that can be made puts its command into the command block that it addresses. -/
def Change.apply (change : Change) (items : List Node) : List Node :=
  items.mapIdx fun i entity =>
    entity.given (if change.Addresses items.length i then change.command else none)

theorem getElem?_apply (change : Change) (items : List Node) (i : Nat) :
    (change.apply items)[i]? = items[i]?.map
      (·.given (if change.Addresses items.length i then change.command else none)) :=
  List.getElem?_mapIdx

theorem length_apply (change : Change) (items : List Node) :
    (change.apply items).length = items.length := List.length_mapIdx

theorem apply_eq_self {change : Change} {items : List Node}
    (h : ∀ i entity, change.Addresses items.length i → items[i]? = some entity →
      entity.isCommandBlock ≠ .ok true) : change.apply items = items := by
  refine List.ext_getElem? fun i => ?_
  rw [getElem?_apply]
  cases hi : items[i]? with
  | none => rfl
  | some entity =>
    rw [Option.map_some]
    by_cases haddress : change.Addresses items.length i
    · rw [Node.given_of_ne (h i entity haddress hi)]
    · rw [if_neg haddress, Node.given_none]

theorem apply_eq_set {change : Change} {items : List Node} {i : Nat} {entity : Node} {command : Text}
    (haddress : change.Addresses items.length i) (hi : items[i]? = some entity)
    (hblock : entity.isCommandBlock = .ok true) (hcommand : change.command = some command) :
    change.apply items = items.set i (entity.withCommand command) := by
  refine List.ext_getElem? fun j => ?_
  rw [getElem?_apply]
  by_cases heq : j = i
  · subst heq
    rw [hi, Option.map_some, if_pos haddress, hcommand, Node.given_some hblock,
      List.getElem?_set_self haddress.1]
  · rw [List.getElem?_set_ne (Ne.symm heq)]
    cases hj : items[j]? with
    | none => rfl
    | some other =>
      rw [Option.map_some, if_neg fun h => heq (h.unique haddress), Node.given_none]

section Addressed

variable {change : Change} {items : List Node} {i : Nat} {entity : Node}
  (haddress : change.Addresses items.length i) (hi : items[i]? = some entity)

include haddress hi

theorem raises_iff : change.Raises items ↔ change.Refused entity := by
  constructor
  · rintro (hbefore | ⟨j, other, hother, hj, hrefused⟩)
    · obtain ⟨hlt, hindex⟩ := haddress
      omega
    · obtain rfl := hother.unique haddress
      rwa [← Option.some.inj (hj.symm.trans hi)]
  · exact fun hrefused => .inr ⟨i, entity, haddress, hi, hrefused⟩

theorem apply_eq_self_of_ne (hblock : entity.isCommandBlock ≠ .ok true) :
    change.apply items = items := by
  refine apply_eq_self fun j other hother hj => ?_
  obtain rfl := hother.unique haddress
  rwa [← Option.some.inj (hi.symm.trans hj)]

/-- A change of a command block is refused or applied. -/
theorem changeBlock_cases (hblock : entity.isCommandBlock = .ok true) :
    (change.Refused entity ∧ ∃ fault, changeBlock change entity = .error fault) ∨
    (¬change.Refused entity ∧ ∃ new line, changeBlock change entity = .ok (new, line) ∧
      change.apply items = items.set i new) := by
  have hrefused : change.Refused entity ↔
      change.command = none ∨ ∃ fault, entity.command.size = .error fault := by
    unfold Change.Refused
    rw [hblock]
    simp
  rw [hrefused]
  unfold changeBlock
  cases hcommand : change.command with
  | none => exact .inl ⟨.inl rfl, _, rfl⟩
  | some command =>
    cases hsize : entity.command.size with
    | error fault => exact .inl ⟨.inr ⟨fault, rfl⟩, fault, rfl⟩
    | ok length =>
      exact .inr ⟨by simp, _, _, rfl, apply_eq_set haddress hi hblock hcommand⟩

end Addressed

/-- A change is refused, makes no difference, or is applied. -/
theorem applyChange_cases (change : Change) (items : List Node) :
    (change.Raises items ∧ ∃ fault, applyChange items change = .error fault) ∨
    (¬change.Raises items ∧ change.apply items = items ∧ applyChange items change = .ok none) ∨
    (¬change.Raises items ∧ ∃ line, applyChange items change =
      .ok (some (change.apply items, line))) := by
  unfold applyChange
  obtain ⟨hbefore, fault, hposition⟩ | ⟨hbehind, hposition⟩ | ⟨i, haddress, hposition⟩ :=
    position_cases change items.length
  · rw [hposition]
    exact .inl ⟨.inl hbefore, fault, rfl⟩
  · rw [hposition]
    have hnone : ∀ i, ¬change.Addresses items.length i := by
      rintro i ⟨hi, hindex⟩
      omega
    refine .inr (.inl ⟨?_, apply_eq_self fun i _ haddress => absurd haddress (hnone i), rfl⟩)
    rintro (hbefore | ⟨i, _, haddress, -⟩)
    · omega
    · exact hnone i haddress
  · obtain ⟨entity, hi⟩ : ∃ entity, items[i]? = some entity :=
      ⟨_, List.getElem?_eq_getElem haddress.1⟩
    have hget : items.getD i default = entity := by rw [List.getD_eq_getElem?_getD, hi]; rfl
    rw [hposition, raises_iff haddress hi]
    dsimp only [bind, Except.bind]
    rw [hget]
    cases hblock : entity.isCommandBlock with
    | error fault => exact .inl ⟨.inl ⟨fault, hblock⟩, fault, rfl⟩
    | ok isBlock =>
      cases isBlock with
      | false =>
        refine .inr (.inl ⟨?_, apply_eq_self_of_ne haddress hi (by rw [hblock]; simp), rfl⟩)
        unfold Change.Refused
        rw [hblock]
        simp
      | true =>
        obtain ⟨hrefused, fault, hchange⟩ | ⟨hrefused, new, line, hchange, happly⟩ :=
          changeBlock_cases haddress hi hblock
        · rw [hchange]
          exact .inl ⟨hrefused, fault, rfl⟩
        · rw [hchange, happly]
          exact .inr (.inr ⟨hrefused, line, rfl⟩)

/-! ## All changes of a chunk -/

/-- A change that is not refused by a command block has a command for it, and the block has one of
some length. -/
theorem command_of_not_refused {change : Change} {entity : Node}
    (hblock : entity.isCommandBlock = .ok true) (h : ¬change.Refused entity) :
    (∃ command, change.command = some command) ∧ ¬∃ fault, entity.command.size = .error fault := by
  unfold Change.Refused at h
  rw [hblock] at h
  simp only [reduceCtorEq, exists_false, true_and, false_or, not_or] at h
  exact ⟨Option.ne_none_iff_exists'.1 h.1, h.2⟩

theorem refused_withCommand {entity : Node} (hblock : entity.isCommandBlock = .ok true)
    (hsize : ¬∃ fault, entity.command.size = .error fault) (change : Change) (command : Text) :
    change.Refused (entity.withCommand command) ↔ change.Refused entity := by
  have hnew : ¬∃ fault, (entity.withCommand command).command.size = .error fault := by
    rw [Node.command_withCommand hblock]
    rintro ⟨fault, hfault⟩
    cases hfault
  unfold Change.Refused
  rw [Node.isCommandBlock_withCommand]
  simp only [hsize, hnew]

/-- Whether a change can be made does not depend on another one that was made before. -/
theorem raises_apply {change other : Change} {items : List Node} (h : ¬other.Raises items) :
    change.Raises (other.apply items) ↔ change.Raises items := by
  unfold Change.Raises
  rw [length_apply]
  refine or_congr_right (exists_congr fun i => ?_)
  rw [getElem?_apply]
  cases hi : items[i]? with
  | none => simp
  | some entity =>
    simp only [Option.map_some, Option.some.injEq, exists_and_left, exists_eq_left']
    refine and_congr_right fun _ => ?_
    by_cases hblock : entity.isCommandBlock = .ok true
    · by_cases haddress : other.Addresses items.length i
      · -- The new command has a length, and so had the old one, or the change had been refused.
        obtain ⟨⟨command, hcommand⟩, hsize⟩ := command_of_not_refused hblock
          (mt (raises_iff haddress hi).2 h)
        rw [if_pos haddress, hcommand, Node.given_some hblock]
        exact refused_withCommand hblock hsize change command
      · rw [if_neg haddress, Node.given_none]
    · rw [Node.given_of_ne hblock]

/-- The last of the changes that address a position. -/
def lastFor (changes : List Change) (length i : Nat) : Option Change :=
  (changes.filter fun change => decide (change.Addresses length i)).getLast?

/-- The block entities after changes: a command block has the command of the last one that addresses
it. -/
def updated (changes : List Change) (items : List Node) : List Node :=
  items.mapIdx fun i entity => entity.given ((lastFor changes items.length i).bind (·.command))

theorem getElem?_updated (changes : List Change) (items : List Node) (i : Nat) :
    (updated changes items)[i]? = items[i]?.map
      (·.given ((lastFor changes items.length i).bind (·.command))) := List.getElem?_mapIdx

theorem lastFor_cons (change : Change) (rest : List Change) (length i : Nat) :
    lastFor (change :: rest) length i =
      (lastFor rest length i).or (if change.Addresses length i then some change else none) := by
  unfold lastFor
  rw [List.filter_cons]
  by_cases h : change.Addresses length i
  · rw [if_pos (decide_eq_true h), List.getLast?_cons, if_pos h]
    cases (rest.filter fun change => decide (change.Addresses length i)).getLast? <;> rfl
  · rw [if_neg (by simpa using h), if_neg h, Option.or_none]

theorem addresses_of_lastFor {changes : List Change} {length i : Nat} {change : Change}
    (h : lastFor changes length i = some change) : change ∈ changes ∧ change.Addresses length i := by
  obtain ⟨hmem, haddress⟩ := List.mem_filter.1 (List.mem_of_getLast? h)
  exact ⟨hmem, of_decide_eq_true haddress⟩

theorem updated_nil (items : List Node) : updated [] items = items := by
  refine List.ext_getElem? fun i => ?_
  rw [getElem?_updated]
  cases items[i]? with
  | none => rfl
  | some entity => exact congrArg some entity.given_none

/-- The last change wins, so changes can be made one after the other. -/
theorem updated_cons {change : Change} {rest : List Change} {items : List Node}
    (hrest : ∀ other ∈ rest, ¬other.Raises items) :
    updated (change :: rest) items = updated rest (change.apply items) := by
  refine List.ext_getElem? fun i => ?_
  rw [getElem?_updated, getElem?_updated, getElem?_apply, length_apply, lastFor_cons]
  cases hi : items[i]? with
  | none => rfl
  | some entity =>
    rw [Option.map_some, Option.map_some, Option.map_some, Node.given_given]
    refine congrArg some ?_
    by_cases hblock : entity.isCommandBlock = .ok true
    · cases hlast : lastFor rest items.length i with
      | none =>
        rw [Option.none_or, Option.bind_none, Option.none_or]
        split <;> rfl
      | some last =>
        -- A later change that is not refused has a command, so the first change does not count.
        obtain ⟨hmem, haddress⟩ := addresses_of_lastFor hlast
        obtain ⟨⟨command, hcommand⟩, -⟩ := command_of_not_refused hblock
          (mt (raises_iff haddress hi).2 (hrest last hmem))
        rw [Option.some_or, Option.bind_some, hcommand, Option.some_or]
    · rw [Node.given_of_ne hblock, Node.given_of_ne hblock]

/-- A change that cannot be made on the block entities as they are stops all. -/
theorem applyChanges_of_raises {changes : List Change} {items : List Node}
    (h : ∃ change ∈ changes, change.Raises items) :
    ∃ fault, (applyChanges items changes).2 = .error fault := by
  induction changes generalizing items with
  | nil =>
    obtain ⟨change, hmem, -⟩ := h
    cases hmem
  | cons change rest ih =>
    rw [applyChanges]
    obtain ⟨-, fault, happly⟩ | ⟨hnot, -, happly⟩ | ⟨hnot, line, happly⟩ :=
      applyChange_cases change items
    · rw [happly]
      exact ⟨fault, rfl⟩
    · have hlater : ∃ other ∈ rest, other.Raises items := by
        obtain ⟨other, hmem, hraises⟩ := h
        rcases List.mem_cons.1 hmem with rfl | hmem
        · exact absurd hraises hnot
        · exact ⟨other, hmem, hraises⟩
      rw [happly]
      exact ih hlater
    · have hlater : ∃ other ∈ rest, other.Raises (change.apply items) := by
        obtain ⟨other, hmem, hraises⟩ := h
        rcases List.mem_cons.1 hmem with rfl | hmem
        · exact absurd hraises hnot
        · exact ⟨other, hmem, (raises_apply hnot).2 hraises⟩
      obtain ⟨fault, hfault⟩ := ih hlater
      rw [happly]
      refine ⟨fault, ?_⟩
      dsimp only
      rw [hfault]
      rfl

/-- Changes that can all be made give each command block its last command. -/
theorem applyChanges_of_not_raises {changes : List Change} {items : List Node}
    (h : ∀ change ∈ changes, ¬change.Raises items) :
    ∃ count, (applyChanges items changes).2 = .ok (updated changes items, count) ∧
      (count = 0 → updated changes items = items) := by
  induction changes generalizing items with
  | nil => exact ⟨0, by rw [updated_nil]; rfl, fun _ => updated_nil items⟩
  | cons change rest ih =>
    obtain ⟨hchange, hrest⟩ := List.forall_mem_cons.1 h
    rw [applyChanges, updated_cons hrest]
    obtain ⟨hraises, -⟩ | ⟨-, hself, happly⟩ | ⟨-, line, happly⟩ := applyChange_cases change items
    · exact absurd hraises hchange
    · rw [happly, hself]
      exact ih hrest
    · obtain ⟨count, hcount, -⟩ := ih fun other hmem => mt (raises_apply hchange).1 (hrest other hmem)
      rw [happly]
      refine ⟨count + 1, ?_, fun hzero => absurd hzero (Nat.succ_ne_zero count)⟩
      dsimp only
      rw [hcount]
      rfl

end Import

/-! ## Chunks -/

/-- The chunk can be read, and lists these block entities at a path. -/
structure Chunk.Lists (chunk : Chunk) (root : Node) (path : List Text) (items : List Node) : Prop where
  packing : chunk.packing = 2
  data : chunk.root? = some root
  entities : root.entities = .ok (some (path, .list items))

theorem Node.at?_of_entities {root node : Node} {path : List Text}
    (h : root.entities = .ok (some (path, node))) : root.at? path = some node := by
  unfold Node.entities at h
  cases hpath : root.entitiesPath with
  | error fault =>
    rw [hpath] at h
    cases h
  | ok found =>
    rw [hpath] at h
    cases found with
    | none => cases h
    | some place =>
      dsimp only [bind, Except.bind] at h
      cases hnode : root.at? place with
      | none =>
        rw [hnode] at h
        cases h
      | some other =>
        rw [hnode] at h
        dsimp only [pure, Except.pure] at h
        split at h
        · cases h
          exact hnode
        · cases h

namespace Import

/-- What the changes of a chunk make of it. A chunk without a list of block entities, one on which a
change cannot be made, and one that could not be stored with the new commands stay as they are; in
any other the commands of the addressed command blocks are set, and nothing else differs. -/
structure IsUpdate (changes : List Change) (before after : Chunk) : Prop where
  unlisted : (¬∃ root path items, before.Lists root path items) → after = before
  raised : ∀ {root path items}, before.Lists root path items →
    (∃ change ∈ changes, change.Raises items) → after = before
  changed : ∀ {root path items}, before.Lists root path items →
    (∀ change ∈ changes, ¬change.Raises items) →
    (Node.setAt (.list (updated changes items)) path root).fits = true →
    after = ⟨2, some (Node.setAt (.list (updated changes items)) path root)⟩
  tooLong : ∀ {root path items}, before.Lists root path items →
    (∀ change ∈ changes, ¬change.Raises items) →
    (Node.setAt (.list (updated changes items)) path root).fits = false → after = before

theorem changedChunk_eq_self {changes : List Change} {chunk : Chunk}
    (h : ∀ root, chunk.packing = 2 → chunk.root? = some root →
      ∀ new, (changeRoot root changes).2 ≠ .ok (some new)) : changedChunk changes chunk = chunk := by
  unfold changedChunk
  split
  case isFalse => rfl
  case isTrue hpacking =>
    cases hroot : chunk.root? with
    | none => rfl
    | some root =>
      rw [Option.map_some]
      split
      case h_1 new count heq =>
        exact absurd (Option.some.inj heq) (h root hpacking hroot (new, count))
      case h_2 => rfl

theorem changeRoot_of_unlisted {root : Node} (changes : List Change)
    (h : ∀ path items, root.entities ≠ .ok (some (path, .list items))) (new : Node × Nat) :
    (changeRoot root changes).2 ≠ .ok (some new) := by
  unfold changeRoot
  split
  case h_1 => exact fun heq => by cases heq
  case h_2 => exact fun heq => by cases heq
  case h_3 path items heq => exact absurd heq (h path items)
  case h_4 entities _ _ =>
    cases passedOver entities changes with
    | error fault => exact fun heq => by cases heq
    | ok passed => cases passed <;> exact fun heq => by cases heq

section Listed

variable {changes : List Change} {root : Node} {path : List Text} {items : List Node}
  (h : root.entities = .ok (some (path, .list items)))

include h

theorem changeRoot_of_raises (hraises : ∃ change ∈ changes, change.Raises items) (new : Node × Nat) :
    (changeRoot root changes).2 ≠ .ok (some new) := by
  obtain ⟨fault, hfault⟩ := applyChanges_of_raises hraises
  unfold changeRoot
  rw [h]
  dsimp only
  rw [hfault]
  exact fun heq => by cases heq

/-- With no change to refuse, the new data is stored unless it is too long or is the old data. -/
theorem changeRoot_of_not_raises (hraises : ∀ change ∈ changes, ¬change.Raises items) :
    ((Node.setAt (.list (updated changes items)) path root).fits = false →
      ∀ new, (changeRoot root changes).2 ≠ .ok (some new)) ∧
    ((Node.setAt (.list (updated changes items)) path root).fits = true →
      (changeRoot root changes).2 = .ok none ∧
          Node.setAt (.list (updated changes items)) path root = root ∨
        ∃ count, (changeRoot root changes).2 =
          .ok (some (Node.setAt (.list (updated changes items)) path root, count))) := by
  obtain ⟨count, hcount, hzero⟩ := applyChanges_of_not_raises hraises
  unfold changeRoot
  rw [h]
  dsimp only
  rw [hcount]
  dsimp only [bind, Except.bind]
  by_cases hnone : count = 0
  · rw [if_pos hnone, hzero hnone, Node.setAt_of_at? (Node.at?_of_entities h)]
    exact ⟨fun _ _ heq => (by cases heq), fun _ => .inl ⟨rfl, rfl⟩⟩
  · rw [if_neg hnone]
    constructor
    · intro hfits new
      rw [hfits]
      exact fun heq => by cases heq
    · intro hfits
      rw [hfits]
      exact .inr ⟨count, rfl⟩

end Listed

/-- What the changes of a chunk make of it. -/
theorem isUpdate_changedChunk (changes : List Change) (chunk : Chunk) :
    IsUpdate changes chunk (changedChunk changes chunk) where
  unlisted hnone := by
    refine changedChunk_eq_self fun root hpacking hroot => changeRoot_of_unlisted changes ?_
    exact fun path items heq => hnone ⟨root, path, items, hpacking, hroot, heq⟩
  raised hlists hraises := by
    refine changedChunk_eq_self fun root _ hroot => ?_
    obtain rfl := Option.some.inj (hlists.data.symm.trans hroot)
    exact changeRoot_of_raises hlists.entities hraises
  tooLong hlists hraises hfits := by
    refine changedChunk_eq_self fun root _ hroot => ?_
    obtain rfl := Option.some.inj (hlists.data.symm.trans hroot)
    exact (changeRoot_of_not_raises hlists.entities hraises).1 hfits
  changed hlists hraises hfits := by
    unfold changedChunk
    rw [if_pos hlists.packing, hlists.data, Option.map_some]
    obtain ⟨hchange, hsame⟩ | ⟨count, hchange⟩ :=
      (changeRoot_of_not_raises hlists.entities hraises).2 hfits
    · rw [hchange, hsame, ← hlists.packing, ← hlists.data]
    · rw [hchange]

end Import

end CommandUpgrade.World
