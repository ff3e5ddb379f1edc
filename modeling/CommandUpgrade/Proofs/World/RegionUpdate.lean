import CommandUpgrade.Proofs.World.ChunkUpdate

/-!
# What grouped rows make of a region

Rows are grouped by region name and place, each group in the order of the rows (`changesFor_addGroups`).
A group changes the chunk at its place and no other (`chunkAt?_change`), so the groups that lead to a
region make of each chunk what the rows for its place do (`rel_chunkAt?`).
-/

namespace CommandUpgrade.World

/-! ## Chunks by place -/

/-- A place inside a region. -/
def Inside (x z : Int) : Prop := (0 ≤ x ∧ x < 32) ∧ 0 ≤ z ∧ z < 32

instance (x z : Int) : Decidable (Inside x z) := inferInstanceAs (Decidable (_ ∧ _))

namespace Region

/-- The chunk at a place. -/
def chunkAt? (region : Region) (x z : Int) : Option Chunk :=
  match region.slot (slotIndex x z) with
  | .ok slot => if slot.isEmpty then none else region.chunks.lookup slot.location
  | .error _ => none

/-- No two places of a region have their chunk at one location. -/
def Separate (region : Region) : Prop :=
  ∀ x z x' z' slot slot', Inside x z → Inside x' z' →
    region.slot (slotIndex x z) = .ok slot → region.slot (slotIndex x' z') = .ok slot' →
    slot.isEmpty = false → slot'.isEmpty = false → slot.location = slot'.location →
    x = x' ∧ z = z'

theorem slot_ofChunks_cases {chunks : List Placed} (h : WellPlaced chunks) {x z : Int}
    (hin : Inside x z) : (ofChunks chunks).slot (slotIndex x z) = .ok ⟨0, 0⟩ ∨
    ∃ i placed, chunks[i]? = some placed ∧ placed.place = (x, z) ∧
      (ofChunks chunks).slot (slotIndex x z) = .ok ⟨i + 2, placed.sectors⟩ := by
  by_cases hplaced : ∃ placed ∈ chunks, placed.place = (x, z)
  · obtain ⟨placed, hmem, hplace⟩ := hplaced
    obtain ⟨i, hi⟩ := List.mem_iff_getElem?.1 hmem
    obtain ⟨rfl, rfl⟩ := Prod.mk.inj hplace
    exact .inr ⟨i, placed, hi, rfl, slot_ofChunks h hi⟩
  · exact .inl (slot_ofChunks_empty h hin.1 hin.2 fun placed hmem hplace =>
      hplaced ⟨placed, hmem, hplace⟩)

/-- A region made of chunks has each at a location of its own. -/
theorem separate_ofChunks {chunks : List Placed} (h : WellPlaced chunks) :
    (ofChunks chunks).Separate := by
  intro x z x' z' slot slot' hin hin' hslot hslot' hempty hempty' hlocation
  obtain hnone | ⟨i, placed, hi, hplace, hfound⟩ := slot_ofChunks_cases h hin
  · cases Except.ok.inj (hnone.symm.trans hslot)
    cases hempty
  obtain hnone | ⟨j, other, hj, hplace', hfound'⟩ := slot_ofChunks_cases h hin'
  · cases Except.ok.inj (hnone.symm.trans hslot')
    cases hempty'
  cases Except.ok.inj (hfound.symm.trans hslot)
  cases Except.ok.inj (hfound'.symm.trans hslot')
  obtain rfl := Nat.add_right_cancel hlocation
  obtain rfl := Option.some.inj (hi.symm.trans hj)
  exact Prod.mk.inj (hplace.symm.trans hplace')

theorem lookup_setChunk (region : Region) (location other : Nat) (chunk : Chunk) :
    (region.setChunk location chunk).chunks.lookup other =
      (region.chunks.lookup other).map fun old => if other = location then chunk else old := by
  unfold setChunk
  dsimp only
  induction region.chunks with
  | nil => rfl
  | cons entry rest ih =>
    obtain ⟨place, old⟩ := entry
    have hentry : (if place = location then (place, chunk) else (place, old)) =
        (place, if place = location then chunk else old) := by split <;> rfl
    rw [List.map_cons, List.lookup_cons, List.lookup_cons, ih]
    dsimp only
    rw [hentry]
    by_cases heq : other = place
    · rw [heq, beq_self_eq_true]
      rfl
    · rw [beq_eq_false_iff_ne.2 heq]

theorem slot_congr {region other : Region} (hslots : other.slots = region.slots)
    (hspare : other.spare = region.spare) (index : Int) : other.slot index = region.slot index := by
  unfold slot
  rw [hslots, hspare]

end Region

namespace Import

section Change

variable {region : Region} (group : Group)

/-- A group finds no chunk, or changes the one at its place. -/
theorem change_cases (region : Region) (group : Group) :
    ((change region group).region = region ∧ region.chunkAt? group.x group.z = none) ∨
    ∃ slot chunk, region.slot (slotIndex group.x group.z) = .ok slot ∧ slot.isEmpty = false ∧
      region.chunks.lookup slot.location = some chunk ∧
      (change region group).region = (changeChunk region group slot.location chunk).region := by
  unfold change Region.chunkAt? Region.chunk
  cases hslot : region.slot (slotIndex group.x group.z) with
  | error fault => exact .inl ⟨rfl, rfl⟩
  | ok slot =>
    cases hempty : slot.isEmpty with
    | true => exact .inl ⟨by simp [hempty], by simp [hempty]⟩
    | false =>
      cases hchunk : region.chunks.lookup slot.location with
      | none => exact .inl ⟨by simp [hempty, hchunk], by simp [hempty, hchunk]⟩
      | some chunk => exact .inr ⟨slot, chunk, rfl, hempty, hchunk, by simp [hempty, hchunk]⟩

/-- A group leaves the header as it is. -/
theorem header_change (region : Region) (group : Group) :
    (change region group).region.slots = region.slots ∧
      (change region group).region.spare = region.spare := by
  obtain ⟨hkept, -⟩ | ⟨slot, chunk, -, -, -, hchange⟩ := change_cases region group
  · rw [hkept]
    exact ⟨rfl, rfl⟩
  · rw [hchange]
    rcases changeChunk_region region group slot.location chunk with ⟨hkept, -⟩ | hset
    · rw [hkept]
      exact ⟨rfl, rfl⟩
    · rw [hset]
      exact ⟨rfl, rfl⟩

theorem separate_change (h : region.Separate) : (change region group).region.Separate := by
  obtain ⟨hslots, hspare⟩ := header_change region group
  intro x z x' z' slot slot' hin hin' hslot hslot'
  rw [Region.slot_congr hslots hspare] at hslot hslot'
  exact h x z x' z' slot slot' hin hin' hslot hslot'

/-- Putting a chunk at the location of one place leaves the chunks at other places. -/
theorem chunkAt?_setChunk (h : region.Separate) {x z x' z' : Int} (hin : Inside x z)
    (hin' : Inside x' z') {slot : Slot} (hslot : region.slot (slotIndex x z) = .ok slot)
    (hempty : slot.isEmpty = false) (chunk : Chunk) :
    (region.setChunk slot.location chunk).chunkAt? x' z' =
      if x = x' ∧ z = z' then (region.chunkAt? x' z').map fun _ => chunk
      else region.chunkAt? x' z' := by
  have hsame : (region.setChunk slot.location chunk).slot (slotIndex x' z') =
      region.slot (slotIndex x' z') := rfl
  unfold Region.chunkAt?
  rw [hsame]
  cases hslot' : region.slot (slotIndex x' z') with
  | error fault => exact (ite_self _).symm
  | ok slot' =>
    dsimp only
    cases hempty' : slot'.isEmpty with
    | true => simp
    | false =>
      rw [if_neg Bool.false_ne_true, if_neg Bool.false_ne_true, Region.lookup_setChunk]
      by_cases hplace : x = x' ∧ z = z'
      · obtain ⟨rfl, rfl⟩ := hplace
        obtain rfl := Except.ok.inj (hslot.symm.trans hslot')
        rw [if_pos ⟨rfl, rfl⟩]
        exact congrArg (Option.map · _) (funext fun _ => if_pos rfl)
      · -- Another place has its chunk at another location.
        have hne : slot'.location ≠ slot.location := fun heq =>
          hplace (h x z x' z' slot slot' hin hin' hslot hslot' hempty hempty' heq.symm)
        rw [if_neg hplace]
        simp [hne]

/-- A group changes the chunk at its place and no other. -/
theorem chunkAt?_change (h : region.Separate) (hgroup : Inside group.x group.z) {x z : Int}
    (hin : Inside x z) :
    (change region group).region.chunkAt? x z =
      if group.x = x ∧ group.z = z then (region.chunkAt? x z).map (changedChunk group.changes)
      else region.chunkAt? x z := by
  obtain ⟨hkept, hnone⟩ | ⟨slot, chunk, hslot, hempty, hchunk, hchange⟩ := change_cases region group
  · rw [hkept]
    split
    · rename_i hplace
      rw [← hplace.1, ← hplace.2, hnone]
      rfl
    · rfl
  · have hfound : region.chunkAt? group.x group.z = some chunk := by
      unfold Region.chunkAt?
      rw [hslot]
      dsimp only
      rw [hempty, if_neg Bool.false_ne_true, hchunk]
    rw [hchange]
    rcases changeChunk_region region group slot.location chunk with ⟨hkept, hsame⟩ | hset
    · rw [hkept]
      split
      · rename_i hplace
        rw [← hplace.1, ← hplace.2, hfound, Option.map_some, hsame]
      · rfl
    · rw [hset, chunkAt?_setChunk h hgroup hin hslot hempty]
      split
      · rename_i hplace
        rw [← hplace.1, ← hplace.2, hfound]
        rfl
      · rfl

end Change

/-- Groups change the chunks at their places, one after the other. -/
theorem chunkAt?_foldl {groups : List Group} (hgroups : ∀ group ∈ groups, Inside group.x group.z)
    {region : Region} (h : region.Separate) {x z : Int} (hin : Inside x z) :
    (groups.foldl (fun region group => (change region group).region) region).chunkAt? x z =
      (groups.filter fun group => group.x = x ∧ group.z = z).foldl
        (fun chunk group => chunk.map (changedChunk group.changes)) (region.chunkAt? x z) := by
  induction groups generalizing region with
  | nil => rfl
  | cons group rest ih =>
    obtain ⟨hgroup, hrest⟩ := List.forall_mem_cons.1 hgroups
    rw [List.foldl_cons, ih hrest (separate_change group h), chunkAt?_change group h hgroup hin,
      List.filter_cons]
    by_cases hplace : group.x = x ∧ group.z = z
    · rw [if_pos hplace, if_pos (by simpa using hplace), List.foldl_cons]
    · rw [if_neg hplace, if_neg (by simpa using hplace)]

theorem header_foldl (groups : List Group) (region : Region) :
    (groups.foldl (fun region group => (change region group).region) region).slots =
      region.slots := by
  induction groups generalizing region with
  | nil => rfl
  | cons group rest ih => rw [List.foldl_cons, ih, (header_change region group).1]

/-! ## Grouping -/

/-- The region name and the place of a group. -/
def Group.key (group : Group) : Option Text × Int × Int := (group.region, group.x, group.z)

theorem key_eq_iff (group other : Group) :
    group.key = other.key ↔ group.region = other.region ∧ group.x = other.x ∧ group.z = other.z := by
  unfold Group.key
  rw [Prod.mk.injEq, Prod.mk.injEq]

/-- The changes of the first group of a key. -/
def changesFor (key : Option Text × Int × Int) : List Group → List Change
  | [] => []
  | group :: rest => if group.key = key then group.changes else changesFor key rest

theorem addGroup_cons (new group : Group) (rest : List Group) :
    addGroup new (group :: rest) =
      if group.key = new.key then { group with changes := group.changes ++ new.changes } :: rest
      else group :: addGroup new rest := by
  rw [addGroup]
  exact if_congr (key_eq_iff group new).symm rfl rfl

theorem changesFor_addGroup (key : Option Text × Int × Int) (new : Group) (all : List Group) :
    changesFor key (addGroup new all) =
      changesFor key all ++ if new.key = key then new.changes else [] := by
  induction all with
  | nil => rfl
  | cons group rest ih =>
    rw [addGroup_cons]
    by_cases hsame : group.key = new.key
    · rw [if_pos hsame, changesFor, changesFor, ← hsame]
      have hkey : ({ group with changes := group.changes ++ new.changes } : Group).key =
          group.key := rfl
      rw [hkey]
      by_cases heq : group.key = key
      · rw [if_pos heq, if_pos heq, if_pos heq]
      · rw [if_neg heq, if_neg heq, if_neg heq, List.append_nil]
    · rw [if_neg hsame, changesFor, changesFor]
      by_cases heq : group.key = key
      · rw [if_pos heq, if_pos heq, if_neg fun hnew => hsame (heq.trans hnew.symm), List.append_nil]
      · rw [if_neg heq, if_neg heq, ih]

/-- Each row goes to the end of the group of its key. -/
theorem changesFor_addGroups (key : Option Text × Int × Int) (all new : List Group) :
    changesFor key (addGroups all new) =
      changesFor key all ++ (new.filter (·.key = key)).flatMap (·.changes) := by
  unfold addGroups
  induction new generalizing all with
  | nil => exact (List.append_nil _).symm
  | cons group rest ih =>
    rw [List.foldl_cons, ih, changesFor_addGroup, List.append_assoc, List.filter_cons]
    refine congrArg _ ?_
    by_cases hkey : group.key = key
    · rw [if_pos hkey, if_pos (by simpa using hkey), List.flatMap_cons]
    · rw [if_neg hkey, if_neg (by simpa using hkey), List.nil_append]

theorem map_key_addGroup (new : Group) (all : List Group) :
    (addGroup new all).map Group.key =
      if new.key ∈ all.map Group.key then all.map Group.key else all.map Group.key ++ [new.key] := by
  induction all with
  | nil => rfl
  | cons group rest ih =>
    rw [addGroup_cons, List.map_cons]
    by_cases hsame : group.key = new.key
    · rw [if_pos hsame, if_pos (by rw [hsame]; exact List.mem_cons_self)]
      rfl
    · rw [if_neg hsame, List.map_cons, ih]
      have hmem : new.key ∈ group.key :: rest.map Group.key ↔ new.key ∈ rest.map Group.key := by
        rw [List.mem_cons, or_iff_right (Ne.symm hsame)]
      by_cases hrest : new.key ∈ rest.map Group.key
      · rw [if_pos hrest, if_pos (hmem.2 hrest)]
      · rw [if_neg hrest, if_neg (mt hmem.1 hrest), List.cons_append]

theorem keys_addGroup {all : List Group} (h : (all.map Group.key).Nodup) (new : Group) :
    ((addGroup new all).map Group.key).Nodup ∧
      ∀ key, key ∈ (addGroup new all).map Group.key ↔ key ∈ all.map Group.key ∨ key = new.key := by
  rw [map_key_addGroup]
  split
  case isTrue hmem =>
    refine ⟨h, fun key => ⟨.inl, ?_⟩⟩
    rintro (hkey | rfl)
    · exact hkey
    · exact hmem
  case isFalse hnew =>
    refine ⟨h.append (List.nodup_singleton _) (List.disjoint_singleton.2 hnew), fun key => ?_⟩
    rw [List.mem_append, List.mem_singleton]

/-- There is one group for each key of the rows. -/
theorem keys_addGroups {all : List Group} (h : (all.map Group.key).Nodup) (new : List Group) :
    ((addGroups all new).map Group.key).Nodup ∧
      ∀ key, key ∈ (addGroups all new).map Group.key ↔
        key ∈ all.map Group.key ∨ key ∈ new.map Group.key := by
  unfold addGroups
  induction new generalizing all with
  | nil => exact ⟨h, fun key => by simp⟩
  | cons group rest ih =>
    obtain ⟨hadded, hkeys⟩ := keys_addGroup h group
    obtain ⟨hnodup, hall⟩ := ih hadded
    refine ⟨hnodup, fun key => ?_⟩
    rw [List.foldl_cons, hall, hkeys, List.map_cons, List.mem_cons, or_assoc]

/-- A group has the key of a row. -/
theorem exists_key_eq {rows : List Group} {group : Group} (h : group ∈ addGroups [] rows) :
    ∃ row ∈ rows, row.key = group.key := by
  have hmem := ((@keys_addGroups [] List.nodup_nil rows).2 group.key).1 (List.mem_map_of_mem h)
  exact List.mem_map.1 (hmem.resolve_left List.not_mem_nil)

/-- With one group for each key, the changes of a group are those of its key. -/
theorem changesFor_of_mem {groups : List Group} (h : (groups.map Group.key).Nodup) {group : Group}
    (hmem : group ∈ groups) : changesFor group.key groups = group.changes := by
  induction groups with
  | nil => cases hmem
  | cons first rest ih =>
    obtain ⟨hfirst, hrest⟩ := List.nodup_cons.1 h
    rw [changesFor]
    rcases List.mem_cons.1 hmem with rfl | hmem
    · rw [if_pos rfl]
    · have hne : first.key ≠ group.key := fun heq =>
        hfirst (heq ▸ List.mem_map_of_mem hmem)
      rw [if_neg hne, ih hrest hmem]

theorem changedChunk_nil (chunk : Chunk) : changedChunk [] chunk = chunk := by
  refine changedChunk_eq_self fun root _ _ new => ?_
  unfold changeRoot
  split
  case h_1 => exact fun heq => by cases heq
  case h_2 => exact fun heq => by cases heq
  case h_3 => exact fun heq => by cases heq
  case h_4 entities _ _ =>
    unfold passedOver
    cases entities.size <;> exact fun heq => by cases heq

/-! ## The rows for a chunk -/

section Rows

variable {rows : List Group} {here : Option Text → Bool}
  (hname : ∀ row ∈ rows, ∀ other ∈ rows, here row.region = true → here other.region = true →
    row.region = other.region) (x z : Int)

/-- Whether a row or group is for the chunk at a place of the regions that names lead to. -/
def Group.isFor (here : Option Text → Bool) (x z : Int) (group : Group) : Bool :=
  here group.region && decide (group.x = x ∧ group.z = z)

theorem Group.isFor_iff {group : Group} :
    group.isFor here x z = true ↔ here group.region = true ∧ group.x = x ∧ group.z = z := by
  unfold Group.isFor
  rw [Bool.and_eq_true, decide_eq_true_eq]

include hname

theorem key_eq_of_isFor {row other : Group} (hrow : row ∈ rows) (hother : other ∈ rows)
    (hfor : row.isFor here x z = true) (hotherFor : other.isFor here x z = true) :
    row.key = other.key := by
  obtain ⟨hregion, hx, hz⟩ := (Group.isFor_iff x z).1 hfor
  obtain ⟨hregion', hx', hz'⟩ := (Group.isFor_iff x z).1 hotherFor
  exact (key_eq_iff row other).2
    ⟨hname row hrow other hother hregion hregion', hx.trans hx'.symm, hz.trans hz'.symm⟩

omit hname in
theorem isFor_of_key_eq {row group : Group} (h : row.key = group.key) :
    row.isFor here x z = group.isFor here x z := by
  obtain ⟨hregion, hx, hz⟩ := (key_eq_iff row group).1 h
  unfold Group.isFor
  rw [hregion, hx, hz]

theorem eq_of_isFor {group other : Group} (hgroup : group ∈ addGroups [] rows)
    (hother : other ∈ addGroups [] rows) (hfor : group.isFor here x z = true)
    (hotherFor : other.isFor here x z = true) : group = other := by
  obtain ⟨row, hrow, hrowKey⟩ := exists_key_eq hgroup
  obtain ⟨second, hsecond, hsecondKey⟩ := exists_key_eq hother
  rw [← isFor_of_key_eq x z hrowKey] at hfor
  rw [← isFor_of_key_eq x z hsecondKey] at hotherFor
  have hkey := key_eq_of_isFor hname x z hrow hsecond hfor hotherFor
  rw [hrowKey, hsecondKey] at hkey
  exact List.inj_on_of_nodup_map (@keys_addGroups [] List.nodup_nil rows).1 hgroup hother hkey

/-- The changes of a group are those of the rows for its chunk. -/
theorem changes_of_isFor {group : Group} (hgroup : group ∈ addGroups [] rows)
    (hfor : group.isFor here x z = true) :
    group.changes = (rows.filter (·.isFor here x z)).flatMap (·.changes) := by
  obtain ⟨first, hfirst, hkey⟩ := exists_key_eq hgroup
  rw [← isFor_of_key_eq x z hkey] at hfor
  have hfilter : rows.filter (·.isFor here x z) = rows.filter (·.key = group.key) := by
    refine List.filter_congr fun row hrow => Bool.eq_iff_iff.2 ?_
    rw [decide_eq_true_eq, ← hkey]
    constructor
    · exact fun hrowFor => key_eq_of_isFor hname x z hrow hfirst hrowFor hfor
    · exact fun hrowKey => by rw [isFor_of_key_eq x z hrowKey, hfor]
  rw [hfilter, ← changesFor_of_mem (@keys_addGroups [] List.nodup_nil rows).1 hgroup,
    changesFor_addGroups]
  exact List.nil_append _

/-- Where one name leads to a region, the rows for a chunk are one group. -/
theorem addGroups_isFor_cases :
    ((addGroups [] rows).filter (·.isFor here x z) = [] ∧ rows.filter (·.isFor here x z) = []) ∨
    ∃ group, (addGroups [] rows).filter (·.isFor here x z) = [group] ∧
      group.changes = (rows.filter (·.isFor here x z)).flatMap (·.changes) := by
  obtain ⟨hnodup, hkeys⟩ := @keys_addGroups [] List.nodup_nil rows
  cases hgroups : (addGroups [] rows).filter (·.isFor here x z) with
  | nil =>
    refine .inl ⟨rfl, List.filter_eq_nil_iff.2 fun row hrow hfor => ?_⟩
    obtain ⟨group, hgroup, hkey⟩ :=
      List.mem_map.1 ((hkeys row.key).2 (.inr (List.mem_map_of_mem hrow)))
    refine List.filter_eq_nil_iff.1 hgroups group hgroup ?_
    rw [isFor_of_key_eq x z hkey, hfor]
  | cons group rest =>
    have hall : ∀ g ∈ group :: rest, g ∈ addGroups [] rows ∧ g.isFor here x z = true := by
      intro g hg
      rw [← hgroups] at hg
      exact List.mem_filter.1 hg
    obtain ⟨hgroup, hfor⟩ := hall group List.mem_cons_self
    -- A second group for the chunk would be this one again.
    have hrest : rest = [] := by
      have honce : (group :: rest).Nodup := by
        rw [← hgroups]
        exact hnodup.of_map.filter _
      refine List.eq_nil_iff_forall_not_mem.2 fun other hother => ?_
      obtain ⟨hmem, hotherFor⟩ := hall other (List.mem_cons_of_mem _ hother)
      have heq := eq_of_isFor hname x z hgroup hmem hfor hotherFor
      exact (List.nodup_cons.1 honce).1 (heq ▸ hother)
    exact .inr ⟨group, by rw [hrest], changes_of_isFor hname x z hgroup hfor⟩

/-- The groups that lead to a region make of each chunk what the rows for it do. -/
theorem rel_chunkAt? (hinside : ∀ row ∈ rows, Inside row.x row.z) {region : Region}
    (h : region.Separate) (hin : Inside x z) :
    Option.Rel (IsUpdate ((rows.filter (·.isFor here x z)).flatMap (·.changes)))
      (region.chunkAt? x z)
      ((((addGroups [] rows).filter (here ·.region)).foldl
        (fun region group => (change region group).region) region).chunkAt? x z) := by
  have hgroups : ∀ group ∈ (addGroups [] rows).filter (here ·.region),
      Inside group.x group.z := by
    intro group hgroup
    obtain ⟨row, hrow, hkey⟩ := exists_key_eq (List.mem_of_mem_filter hgroup)
    obtain ⟨-, hx, hz⟩ := (key_eq_iff row group).1 hkey
    rw [← hx, ← hz]
    exact hinside row hrow
  have hfilter : ((addGroups [] rows).filter (here ·.region)).filter
      (fun group => group.x = x ∧ group.z = z) = (addGroups [] rows).filter (·.isFor here x z) := by
    rw [List.filter_filter]
    exact List.filter_congr fun group _ => Bool.and_comm _ _
  rw [chunkAt?_foldl hgroups h hin, hfilter]
  obtain ⟨hnone, hrows⟩ | ⟨group, hone, hchanges⟩ := addGroups_isFor_cases hname x z
  · rw [hnone, hrows]
    cases region.chunkAt? x z with
    | none => exact .none
    | some chunk =>
      refine .some ?_
      have hupdate := isUpdate_changedChunk [] chunk
      rwa [changedChunk_nil] at hupdate
  · rw [hone, ← hchanges]
    cases region.chunkAt? x z with
    | none => exact .none
    | some chunk => exact .some (isUpdate_changedChunk group.changes chunk)

end Rows

end Import

end CommandUpgrade.World
