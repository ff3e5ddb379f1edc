import CommandUpgrade.Proofs.Sheet.Conversion
import CommandUpgrade.World.Import

/-!
# Command blocks of a chunk

The extraction lists a command block by its position among all block entities, and the import finds it
by that position. For the data of a chunk that can be read the two agree: the changes that come from
the listed blocks convert the command of each block that has one (`Node.withCommands`), and nothing
else.
-/

namespace CommandUpgrade.World

open Text Sheet

namespace Node

/-- The command of a block entity, if it is a command block and has one that is not empty. -/
def commandText? (entity : Node) : Option Text :=
  match entity.isCommandBlock, entity.get? "Command" with
  | .ok true, some (.string (c :: r)) => some (c :: r)
  | _, _ => none

/-- The block entity with its command converted. -/
def converted (convert : Text → Outcome Text) (entity : Node) : Node :=
  match entity.commandText? with
  | some command => entity.set "Command" (.string (convertedOr convert command))
  | none => entity

/-- The data of a chunk with the commands of its command blocks converted. -/
def withCommands (convert : Text → Outcome Text) (root : Node) : Node :=
  match root.entities with
  | .ok (some (path, .list items)) => setAt (.list (items.map (converted convert))) path root
  | _ => root

theorem converted_of_none (convert : Text → Outcome Text) {entity : Node}
    (h : entity.commandText? = none) : entity.converted convert = entity := by
  unfold converted
  rw [h]

theorem converted_of_some (convert : Text → Outcome Text) {entity : Node} {command : Text}
    (h : entity.commandText? = some command) :
    entity.converted convert = entity.set "Command" (.string (convertedOr convert command)) := by
  unfold converted
  rw [h]

/-- A block entity: a compound whose command, if it has one, is a text. -/
structure IsBlockEntity (entity : Node) : Prop where
  compound : ∃ entries, entity = .compound entries
  command : ∀ node, entity.get? "Command" = some node → ∃ s, node = .string s

/-- The data of a chunk that can be read: a compound under `Level`, if anything, and a list of block
entities, of a length that the format can say. -/
structure Readable (root : Node) : Prop where
  level : ∀ node, root.get? "Level" = some node → ∃ entries, node = .compound entries
  entities : ∀ path node, root.entitiesPath = .ok (some path) → root.at? path = some node →
    ∃ items : List Node, node = .list items ∧ items.length < 2 ^ 31 ∧
      ∀ entity ∈ items, entity.IsBlockEntity

/-! ## Where the block entities are -/

theorem mentions_compound (name : Text) (entries : List (Text × Node)) :
    mentions name (.compound entries) = .ok (get? name (.compound entries)).isSome := rfl

theorem Readable.entitiesPath {root : Node} (h : root.Readable) :
    root.entitiesPath = .ok none ∨
      ∃ path node, root.entitiesPath = .ok (some path) ∧ root.at? path = some node := by
  unfold Node.entitiesPath
  cases hlevel : root.get? "Level" with
  | none =>
    cases hblock : root.get? "block_entities" with
    | none => exact Or.inl rfl
    | some node => exact Or.inr ⟨[_], node, rfl, by rw [at?, hblock]; rfl⟩
  | some level =>
    obtain ⟨entries, rfl⟩ := h.level level hlevel
    dsimp only
    rw [mentions_compound]
    cases htile : get? "TileEntities" (compound entries) with
    | some node =>
      refine Or.inr ⟨["Level", "TileEntities"], node, rfl, ?_⟩
      rw [at?, hlevel, Option.bind_some, at?, htile]
      rfl
    | none =>
      cases hblock : root.get? "block_entities" with
      | none => exact Or.inl rfl
      | some node => exact Or.inr ⟨[_], node, rfl, by rw [at?, hblock]; rfl⟩

/-- The block entities of a chunk that can be read, if it has any. -/
theorem Readable.entities_cases {root : Node} (h : root.Readable) :
    root.entities = .ok none ∨ ∃ path items, root.entities = .ok (some (path, .list items)) ∧
      root.at? path = some (.list items) ∧ items.length < 2 ^ 31 ∧
      ∀ entity ∈ items, entity.IsBlockEntity := by
  rcases h.entitiesPath with hpath | ⟨path, node, hpath, hnode⟩
  · left
    unfold Node.entities
    rw [hpath]
    rfl
  · obtain ⟨items, rfl, hlength, hitems⟩ := h.entities path node hpath hnode
    have hentities : root.entities =
        .ok (if (list items).isFilled then some (path, list items) else none) := by
      unfold Node.entities
      rw [hpath]
      dsimp only [bind, Except.bind]
      rw [hnode]
      rfl
    rw [hentities]
    by_cases hfilled : (list items).isFilled = true
    · rw [if_pos hfilled]
      exact Or.inr ⟨path, items, rfl, hnode, hlength, hitems⟩
    · rw [if_neg hfilled]
      exact Or.inl rfl

/-! ## Putting back what is there -/

theorem setEntry_lookup {name : Text} {node : Node} {entries : List (Text × Node)}
    (h : entries.lookup name = some node) : setEntry name node entries = entries := by
  induction entries with
  | nil => cases h
  | cons entry rest ih =>
    obtain ⟨n, old⟩ := entry
    rw [List.lookup_cons] at h
    rw [setEntry]
    by_cases heq : n = name
    · rw [heq, beq_self_eq_true] at h
      rw [if_pos heq, Option.some.inj h]
    · rw [beq_eq_false_iff_ne.2 (Ne.symm heq)] at h
      rw [if_neg heq, ih h]

theorem set_of_get? {node : Node} {name : Text} {inner : Node} (h : node.get? name = some inner) :
    node.set name inner = node := by
  cases node with
  | compound entries => exact congrArg compound (setEntry_lookup h)
  | _ => cases h

theorem setAt_of_at? {path : List Text} {root node : Node} (h : root.at? path = some node) :
    setAt node path root = root := by
  induction path generalizing root with
  | nil => exact (Option.some.inj h).symm
  | cons name rest ih =>
    rw [at?] at h
    obtain ⟨inner, hinner, hrest⟩ := Option.bind_eq_some_iff.1 h
    rw [setAt, hinner]
    dsimp only
    rw [ih hrest, set_of_get? hinner]

/-! ## Listing -/

theorem commandText?_eq_some {entity : Node} {command : Text} (h : entity.commandText? = some command) :
    entity.isCommandBlock = .ok true ∧ entity.get? "Command" = some (.string command) ∧
      command ≠ [] := by
  unfold commandText? at h
  split at h
  · rename_i c r hblock hcommand
    cases h
    exact ⟨hblock, hcommand, List.cons_ne_nil c r⟩
  · cases h

/-- The listed form of a block entity with a command. -/
def listed (index : Nat) (entity : Node) (command : Text) : CommandBlock :=
  ⟨index, CommandBlock.coordinate entity "x", CommandBlock.coordinate entity "y",
    CommandBlock.coordinate entity "z", command, command.length, .of entity⟩

theorem IsBlockEntity.isCommandBlock {entity : Node} (h : entity.IsBlockEntity) :
    ∃ b, entity.isCommandBlock = .ok b := by
  obtain ⟨entries, rfl⟩ := h.compound
  exact ⟨_, rfl⟩

theorem IsBlockEntity.of?_eq {entity : Node} (h : entity.IsBlockEntity) (index : Nat) :
    CommandBlock.of? index entity = .ok (entity.commandText?.map (listed index entity)) := by
  obtain ⟨b, hb⟩ := h.isCommandBlock
  unfold CommandBlock.of? commandText?
  rw [hb]
  cases b with
  | false => rfl
  | true =>
    cases hnode : entity.get? "Command" with
    | none =>
      have hcommand : entity.command = .string [] := by unfold Node.command; rw [hnode]; rfl
      dsimp only [bind, Except.bind]
      rw [hcommand]
      rfl
    | some node =>
      obtain ⟨s, rfl⟩ := h.command node hnode
      have hcommand : entity.command = .string s := by unfold Node.command; rw [hnode]; rfl
      dsimp only [bind, Except.bind]
      rw [hcommand]
      cases s with
      | nil => rfl
      | cons c r => rfl

/-- The command blocks among block entities from a position on. -/
def listedFrom (index : Nat) : List Node → List CommandBlock
  | [] => []
  | entity :: rest =>
    (entity.commandText?.map (listed index entity)).toList ++ listedFrom (index + 1) rest

theorem listedFrom_cons_none {entity : Node} (h : entity.commandText? = none) (index : Nat)
    (rest : List Node) : listedFrom index (entity :: rest) = listedFrom (index + 1) rest := by
  rw [listedFrom, h]
  rfl

theorem listedFrom_cons_some {entity : Node} {command : Text}
    (h : entity.commandText? = some command) (index : Nat) (rest : List Node) :
    listedFrom index (entity :: rest) =
      listed index entity command :: listedFrom (index + 1) rest := by
  rw [listedFrom, h]
  rfl

theorem listFrom_eq {items : List Node} (h : ∀ entity ∈ items, entity.IsBlockEntity) (index : Nat) :
    CommandBlock.listFrom index items = (listedFrom index items, none) := by
  induction items generalizing index with
  | nil => rfl
  | cons entity rest ih =>
    obtain ⟨hentity, hrest⟩ := List.forall_mem_cons.1 h
    rw [CommandBlock.listFrom, hentity.of?_eq, listedFrom]
    dsimp only
    rw [ih hrest]

theorem exists_of_mem_listedFrom {items : List Node} {index : Nat} {block : CommandBlock}
    (h : block ∈ listedFrom index items) :
    ∃ i entity command, items[i]? = some entity ∧ entity.commandText? = some command ∧
      block = listed (index + i) entity command := by
  induction items generalizing index with
  | nil => cases h
  | cons entity rest ih =>
    rw [listedFrom] at h
    rcases List.mem_append.1 h with hhead | hrest
    · obtain ⟨command, hcommand, rfl⟩ := Option.map_eq_some_iff.1 (Option.mem_toList.1 hhead)
      exact ⟨0, entity, command, rfl, hcommand, rfl⟩
    · obtain ⟨i, e, command, hi, hcommand, rfl⟩ := ih hrest
      exact ⟨i + 1, e, command, hi, hcommand, by rw [Nat.add_assoc, Nat.add_comm 1 i]⟩

/-! ## Changing -/

/-- The change that converts a listed command. -/
def changeOf (convert : Text → Outcome Text) (block : CommandBlock) : Import.Change :=
  ⟨block.index, some (convertedOr convert block.command)⟩

/-- A change that addresses a command block of a list by its position. -/
theorem applyChange_eq {entity : Node} {command : Text} (h : entity.commandText? = some command)
    (front rest : List Node) (new : Text) :
    ∃ line, Import.applyChange (front ++ entity :: rest) ⟨front.length, some new⟩ =
      .ok (some (front ++ entity.set "Command" (.string new) :: rest, line)) := by
  obtain ⟨hblock, hnode, -⟩ := commandText?_eq_some h
  have hcommand : entity.command = .string command := by unfold Node.command; rw [hnode]; rfl
  have hposition : Import.position (front ++ entity :: rest).length front.length =
      .ok (some front.length) := by
    unfold Import.position
    rw [if_neg, if_pos (Int.natCast_nonneg _), Int.toNat_natCast]
    rw [List.length_append, List.length_cons]
    omega
  have hset : (front ++ entity :: rest).set front.length (entity.set "Command" (.string new)) =
      front ++ entity.set "Command" (.string new) :: rest := by
    rw [List.set_append_right _ _ (Nat.le_refl _), Nat.sub_self, List.set_cons_zero]
  unfold Import.applyChange Import.changeBlock
  rw [hposition]
  dsimp only [bind, Except.bind]
  rw [List.getD_append_right _ _ _ _ (Nat.le_refl _), Nat.sub_self, List.getD_cons_zero, hblock]
  dsimp only [if_true]
  rw [hcommand, ← hset]
  exact ⟨_, rfl⟩

/-- The changes of the listed blocks convert every command, whatever stands before the blocks. -/
theorem applyChanges_eq (convert : Text → Outcome Text) (front items : List Node) :
    (Import.applyChanges (front ++ items)
      ((listedFrom front.length items).map (changeOf convert))).2 =
      .ok (front ++ items.map (converted convert), (listedFrom front.length items).length) := by
  induction items generalizing front with
  | nil => rfl
  | cons entity rest ih =>
    have hstep := ih (front ++ [entity.converted convert])
    rw [List.length_append, List.length_singleton, List.append_assoc, List.append_assoc,
      List.singleton_append, List.singleton_append] at hstep
    cases hcommand : entity.commandText? with
    | none =>
      rw [List.map_cons, listedFrom_cons_none hcommand]
      rw [converted_of_none convert hcommand] at hstep ⊢
      exact hstep
    | some command =>
      obtain ⟨line, hline⟩ :=
        applyChange_eq hcommand front rest (convertedOr convert command)
      rw [List.map_cons, listedFrom_cons_some hcommand, List.map_cons]
      rw [converted_of_some convert hcommand] at hstep ⊢
      rw [show changeOf convert (listed front.length entity command) =
        ⟨front.length, some (convertedOr convert command)⟩ from rfl, Import.applyChanges, hline]
      dsimp only
      rw [hstep]
      rfl

/-! ## The data of a chunk -/

/-- The command blocks of a chunk. -/
def blocks (root : Node) : List CommandBlock := (CommandBlock.list root).1

/-- What there is to list and to change in a chunk that can be read. -/
theorem Readable.blocks_cases {root : Node} (h : root.Readable) :
    (root.entities = .ok none ∧ CommandBlock.list root = ([], none)) ∨
    ∃ path items, root.entities = .ok (some (path, .list items)) ∧
      root.at? path = some (.list items) ∧ items.length < 2 ^ 31 ∧
      CommandBlock.list root = (listedFrom 0 items, none) := by
  rcases h.entities_cases with hnone | ⟨path, items, hsome, hat, hlength, hitems⟩
  · left
    unfold CommandBlock.list
    rw [hnone]
    exact ⟨rfl, rfl⟩
  · right
    refine ⟨path, items, hsome, hat, hlength, ?_⟩
    unfold CommandBlock.list
    rw [hsome]
    exact listFrom_eq hitems 0

theorem Readable.list_eq {root : Node} (h : root.Readable) :
    CommandBlock.list root = (root.blocks, none) := by
  unfold blocks
  rcases h.blocks_cases with ⟨-, hlist⟩ | ⟨path, items, -, -, -, hlist⟩ <;> rw [hlist]

theorem map_converted_of_listedFrom (convert : Text → Outcome Text) {items : List Node} {index : Nat}
    (h : listedFrom index items = []) : items.map (converted convert) = items := by
  induction items generalizing index with
  | nil => rfl
  | cons entity rest ih =>
    cases hcommand : entity.commandText? with
    | none =>
      rw [listedFrom_cons_none hcommand] at h
      rw [List.map_cons, converted_of_none convert hcommand, ih h]
    | some command =>
      rw [listedFrom_cons_some hcommand] at h
      cases h

/-- A chunk without commands stays as it is. -/
theorem Readable.withCommands_eq_self {root : Node} (h : root.Readable) (convert : Text → Outcome Text)
    (hblocks : root.blocks = []) : root.withCommands convert = root := by
  unfold withCommands
  rcases h.blocks_cases with ⟨hnone, -⟩ | ⟨path, items, hsome, hat, -, hlist⟩
  · rw [hnone]
  · unfold blocks at hblocks
    rw [hlist] at hblocks
    rw [hsome]
    dsimp only
    rw [map_converted_of_listedFrom convert hblocks, setAt_of_at? hat]

/-- The changes of the listed blocks of a chunk convert its commands. -/
theorem Readable.changeRoot_eq {root : Node} (h : root.Readable) (convert : Text → Outcome Text)
    (hblocks : root.blocks ≠ []) (hfits : (root.withCommands convert).fits = true) :
    (Import.changeRoot root (root.blocks.map (changeOf convert))).2 =
      .ok (some (root.withCommands convert, root.blocks.length)) := by
  unfold blocks at hblocks ⊢
  unfold withCommands at hfits ⊢
  rcases h.blocks_cases with ⟨-, hlist⟩ | ⟨path, items, hsome, -, -, hlist⟩
  · rw [hlist] at hblocks
    exact absurd rfl hblocks
  · rw [hlist] at hblocks ⊢
    rw [hsome] at hfits ⊢
    have hchanges := applyChanges_eq convert [] items
    rw [List.nil_append, List.nil_append, List.length_nil] at hchanges
    unfold Import.changeRoot
    rw [hsome]
    dsimp only at hfits hblocks ⊢
    rw [hchanges]
    dsimp only [bind, Except.bind]
    rw [if_neg fun hzero => hblocks (List.eq_nil_of_length_eq_zero hzero), if_pos hfits]
    rfl

end Node

end CommandUpgrade.World
