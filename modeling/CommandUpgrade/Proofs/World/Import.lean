import CommandUpgrade.Proofs.World.Extraction

/-!
# Import into a region of chunks

Rows that come place by place are grouped by place (`foldl_addGroup_places`), and a group changes the
chunk at its place and no other (`change_ofChunks`). Together: the groups of the listed commands of a
region convert its commands (`foldl_change_groups`).
-/

namespace CommandUpgrade.World

open Text

namespace Import

/-! ## Groups -/

/-- The groups that the changes of one chunk are read as. -/
def singles (region : Option Text) (x z : Int) (changes : List Change) : List Group :=
  changes.map fun change => ⟨region, x, z, [change]⟩

/-- Adds groups one by one. -/
def addGroups (all new : List Group) : List Group :=
  new.foldl (fun all group => addGroup group all) all

theorem addGroup_append {new : Group} {all : List Group}
    (h : ∀ group ∈ all, ¬(group.x = new.x ∧ group.z = new.z)) (more : List Group) :
    addGroup new (all ++ more) = all ++ addGroup new more := by
  induction all with
  | nil => rfl
  | cons group rest ih =>
    obtain ⟨hgroup, hrest⟩ := List.forall_mem_cons.1 h
    rw [List.cons_append, addGroup, if_neg fun hsame => hgroup hsame.2, ih hrest, List.cons_append]

section Place

variable {all : List Group} {x z : Int} (h : ∀ group ∈ all, ¬(group.x = x ∧ group.z = z))
  (region : Option Text)

include h

theorem addGroups_started (done changes : List Change) :
    addGroups (all ++ [⟨region, x, z, done⟩]) (singles region x z changes) =
      all ++ [⟨region, x, z, done ++ changes⟩] := by
  unfold addGroups singles
  induction changes generalizing done with
  | nil => rw [List.map_nil, List.foldl_nil, List.append_nil]
  | cons change rest ih =>
    have hadd : addGroup ⟨region, x, z, [change]⟩ (all ++ [⟨region, x, z, done⟩]) =
        all ++ [⟨region, x, z, done ++ [change]⟩] := by
      rw [addGroup_append h, addGroup, if_pos ⟨rfl, rfl, rfl⟩]
    rw [List.map_cons, List.foldl_cons, hadd, ih, List.append_assoc, List.singleton_append]

/-- The changes of a new chunk make one group, unless there are none. -/
theorem addGroups_singles (changes : List Change) :
    addGroups all (singles region x z changes) =
      all ++ if changes.isEmpty then [] else [⟨region, x, z, changes⟩] := by
  cases changes with
  | nil => exact (List.append_nil all).symm
  | cons change rest =>
    have hadd : addGroup ⟨region, x, z, [change]⟩ all = all ++ [⟨region, x, z, [change]⟩] := by
      have := @addGroup_append ⟨region, x, z, [change]⟩ all h []
      rw [List.append_nil] at this
      exact this
    show addGroups (addGroup ⟨region, x, z, [change]⟩ all) (singles region x z rest) = _
    rw [hadd, addGroups_started h, List.singleton_append]
    rfl

end Place

/-- The group of the changes of a place. -/
def groupAt (region : Option Text) (changes : Nat × Nat → List Change) (place : Nat × Nat) : Group :=
  ⟨region, place.1, place.2, changes place⟩

/-- Changes that come place by place are grouped by place. -/
theorem addGroups_places (region : Option Text) (changes : Nat × Nat → List Change)
    {places : List (Nat × Nat)} (hdistinct : places.Nodup) (all : List Group)
    (h : ∀ group ∈ all, ∀ place ∈ places, ¬(group.x = place.1 ∧ group.z = place.2)) :
    addGroups all (places.flatMap fun place => singles region place.1 place.2 (changes place)) =
      all ++ (places.filter fun place => !(changes place).isEmpty).map (groupAt region changes) := by
  induction places generalizing all with
  | nil => exact (List.append_nil all).symm
  | cons place rest ih =>
    obtain ⟨hplace, hrest⟩ := List.nodup_cons.1 hdistinct
    have hnew : ∀ group ∈ all, ¬(group.x = place.1 ∧ group.z = place.2) :=
      fun group hgroup => h group hgroup place List.mem_cons_self
    have hstep : addGroups all (singles region place.1 place.2 (changes place)) =
        all ++ if (changes place).isEmpty then [] else [groupAt region changes place] :=
      addGroups_singles hnew region (changes place)
    have happend : ∀ first second, addGroups all (first ++ second) =
        addGroups (addGroups all first) second := fun first second => List.foldl_append
    rw [List.flatMap_cons, happend, hstep, ih hrest]
    · rw [List.append_assoc, List.filter_cons]
      cases (changes place).isEmpty <;> rfl
    · intro group hgroup other hother
      rcases List.mem_append.1 hgroup with hold | hadded
      · exact h group hold other (List.mem_cons_of_mem _ hother)
      · have hgroup : group = groupAt region changes place := by
          cases hempty : (changes place).isEmpty with
          | true => rw [hempty, if_pos rfl] at hadded; cases hadded
          | false =>
            rw [hempty, if_neg Bool.false_ne_true] at hadded
            exact List.mem_singleton.1 hadded
        rw [hgroup]
        rintro ⟨hx, hz⟩
        have : place = other := Prod.ext (Int.ofNat.inj hx) (Int.ofNat.inj hz)
        exact hplace (this ▸ hother)

/-! ## Regions -/

/-- The chunk after a group: its data changed, unless a fault keeps it. -/
def changedChunk (changes : List Change) (chunk : Chunk) : Chunk :=
  if chunk.packing = 2 then
    match chunk.root?.map fun root => (changeRoot root changes).2 with
    | some (.ok (some (new, _))) => ⟨2, some new⟩
    | _ => chunk
  else chunk

/-- A chunk of a region after a group, which may be of another place. -/
def changedBy (group : Group) (placed : Placed) : Placed :=
  if placed.place = (group.x, group.z) then
    { placed with chunk := changedChunk group.changes placed.chunk }
  else placed

theorem place_changedBy (group : Group) (placed : Placed) :
    (changedBy group placed).place = placed.place := by
  unfold changedBy
  split <;> rfl

theorem sectors_changedBy (group : Group) (placed : Placed) :
    (changedBy group placed).sectors = placed.sectors := by
  unfold changedBy
  split <;> rfl

theorem changeChunk_region (region : Region) (group : Group) (location : Nat) (chunk : Chunk) :
    (changeChunk region group location chunk).region = region ∧
        changedChunk group.changes chunk = chunk ∨
      (changeChunk region group location chunk).region =
        region.setChunk location (changedChunk group.changes chunk) := by
  unfold changeChunk changedChunk
  by_cases hpacking : chunk.packing = 2
  · rw [if_pos hpacking, if_pos hpacking]
    cases chunk.root? with
    | none => exact Or.inl ⟨rfl, rfl⟩
    | some root =>
      dsimp only [Option.map_some]
      cases hchange : changeRoot root group.changes with
      | mk lines result =>
        cases result with
        | error fault => exact Or.inl ⟨rfl, rfl⟩
        | ok new =>
          cases new with
          | none => exact Or.inl ⟨rfl, rfl⟩
          | some new => exact Or.inr rfl
  · rw [if_neg hpacking, if_neg hpacking]
    left
    split <;> exact ⟨rfl, rfl⟩

/-- A group changes the chunk at its place and no other. -/
theorem change_ofChunks {chunks : List Placed} (h : WellPlaced chunks) {group : Group}
    (hx : 0 ≤ group.x ∧ group.x < 32) (hz : 0 ≤ group.z ∧ group.z < 32) :
    (change (.ofChunks chunks) group).region = .ofChunks (chunks.map (changedBy group)) := by
  unfold change
  by_cases hplace : ∃ placed ∈ chunks, placed.place = (group.x, group.z)
  · obtain ⟨placed, hmem, hplace⟩ := hplace
    obtain ⟨i, hi⟩ := List.mem_iff_getElem?.1 hmem
    obtain ⟨hxeq, hzeq⟩ : placed.x = group.x ∧ placed.z = group.z := Prod.ext_iff.1 hplace
    rw [← hxeq, ← hzeq, Region.slot_ofChunks h hi]
    dsimp only
    rw [Region.isEmpty_slot (h.sectors placed hmem), if_neg Bool.false_ne_true,
      Region.chunk_ofChunks hi]
    dsimp only
    -- the chunk at the place is the only one that `changedBy` may change
    have hmap : chunks.map (changedBy group) =
        chunks.map (Region.putAt placed.place (changedChunk group.changes placed.chunk)) := by
      refine List.map_congr_left fun other hother => ?_
      unfold changedBy Region.putAt
      rw [hplace]
      by_cases hsame : other.place = (group.x, group.z)
      · obtain ⟨j, hj⟩ := List.mem_iff_getElem?.1 hother
        obtain rfl : j = i := h.eq_of_place hj hi (hsame.trans hplace.symm)
        obtain rfl : other = placed := Option.some.inj (hj.symm.trans hi)
        rfl
      · rw [if_neg hsame, if_neg hsame]
    rw [hmap]
    rcases changeChunk_region (.ofChunks chunks) group (i + 2) placed.chunk with ⟨hkept, hsame⟩ | hset
    · rw [hkept, hsame, Region.map_putAt_self h hi]
    · rw [hset, Region.setChunk_ofChunks h hi]
  · have hne : ∀ placed ∈ chunks, placed.place ≠ (group.x, group.z) := fun placed hmem heq =>
      hplace ⟨placed, hmem, heq⟩
    have hmap : chunks.map (changedBy group) = chunks := by
      refine (List.map_congr_left fun placed hmem => ?_).trans (List.map_id chunks)
      unfold changedBy
      rw [if_neg (hne placed hmem), id]
    rw [hmap, Region.slot_ofChunks_empty h hx hz hne]
    rfl

/-- Groups change the chunks at their places. -/
theorem foldl_change {groups : List Group}
    (hgroups : ∀ group ∈ groups, (0 ≤ group.x ∧ group.x < 32) ∧ 0 ≤ group.z ∧ group.z < 32)
    {chunks : List Placed} (h : WellPlaced chunks) :
    groups.foldl (fun region group => (change region group).region) (.ofChunks chunks) =
      .ofChunks (chunks.map fun placed => groups.foldl (fun placed group => changedBy group placed) placed) := by
  induction groups generalizing chunks with
  | nil => rw [List.foldl_nil]; exact congrArg Region.ofChunks (List.map_id' chunks).symm
  | cons group rest ih =>
    obtain ⟨⟨hx, hz⟩, hrest⟩ := List.forall_mem_cons.1 hgroups
    rw [List.foldl_cons, change_ofChunks h hx hz,
      ih hrest (h.map (place_changedBy group) (sectors_changedBy group)), List.map_map]
    rfl

/-! ## The groups of a region -/

section Groups

variable (region : Option Text) (changes : Nat × Nat → List Change)

theorem foldl_changedBy_of_forall_ne {places : List (Nat × Nat)} {placed : Placed}
    (h : ∀ place ∈ places, placed.place ≠ ((place.1 : Int), (place.2 : Int))) :
    (places.map (groupAt region changes)).foldl (fun placed group => changedBy group placed) placed =
      placed := by
  induction places with
  | nil => rfl
  | cons place rest ih =>
    obtain ⟨hplace, hrest⟩ := List.forall_mem_cons.1 h
    have hkept : changedBy (groupAt region changes place) placed = placed := by
      unfold changedBy groupAt
      rw [if_neg hplace]
    rw [List.map_cons, List.foldl_cons, hkept, ih hrest]

/-- Of groups of distinct places the one of a chunk changes it. -/
theorem foldl_changedBy_of_mem {places : List (Nat × Nat)} (hdistinct : places.Nodup)
    {place : Nat × Nat} (hmem : place ∈ places) {placed : Placed}
    (hplace : placed.place = ((place.1 : Int), (place.2 : Int))) :
    (places.map (groupAt region changes)).foldl (fun placed group => changedBy group placed) placed =
      { placed with chunk := changedChunk (changes place) placed.chunk } := by
  obtain ⟨front, rest, rfl⟩ := List.append_of_mem hmem
  obtain ⟨-, hsecond, hdisjoint⟩ := List.nodup_append.1 hdistinct
  have hother : ∀ other, other ≠ place → placed.place ≠ ((other.1 : Int), (other.2 : Int)) := by
    rintro other hne heq
    rw [hplace] at heq
    obtain ⟨hx, hz⟩ := Prod.ext_iff.1 heq
    exact hne (Prod.ext (Int.ofNat.inj hx).symm (Int.ofNat.inj hz).symm)
  have hchanged : changedBy (groupAt region changes place) placed =
      { placed with chunk := changedChunk (changes place) placed.chunk } := by
    unfold changedBy groupAt
    rw [if_pos hplace]
  have hfront : (front.map (groupAt region changes)).foldl (fun placed group => changedBy group placed)
      placed = placed :=
    foldl_changedBy_of_forall_ne region changes fun other hmem =>
      hother other fun heq => hdisjoint other hmem place List.mem_cons_self heq
  rw [List.map_append, List.foldl_append, hfront, List.map_cons, List.foldl_cons, hchanged]
  exact foldl_changedBy_of_forall_ne region changes fun other hmem =>
    hother other fun heq => (List.nodup_cons.1 hsecond).1 (heq ▸ hmem)

end Groups

/-! ## Listed commands -/

/-- The changes that convert the commands at a place. -/
def changesAt (convert : Text → Outcome Text) (chunks : List Placed) (place : Nat × Nat) :
    List Change :=
  (blocksAt chunks (place.1, place.2)).map (Node.changeOf convert)

/-- The groups that convert the commands of a region. -/
def groupsOf (convert : Text → Outcome Text) (name : Text) (chunks : List Placed) : List Group :=
  (places.filter fun place => !(changesAt convert chunks place).isEmpty).map
    (groupAt (some name) (changesAt convert chunks))

end Import

/-- A chunk with the commands of its command blocks converted. -/
def Placed.withCommands (convert : Text → Outcome Text) (placed : Placed) : Placed :=
  { placed with chunk :=
    { placed.chunk with root? := placed.chunk.root?.map (Node.withCommands convert) } }

/-- A chunk that can still be stored when its commands are converted. -/
def Chunk.Fits (convert : Text → Outcome Text) (chunk : Chunk) : Prop :=
  ∀ root ∈ chunk.root?, (root.withCommands convert).fits = true

namespace Import

theorem changedChunk_blocks {convert : Text → Outcome Text} {chunk : Chunk} (h : chunk.IsReadable)
    (hfits : chunk.Fits convert) (hblocks : chunk.blocks ≠ []) :
    changedChunk (chunk.blocks.map (Node.changeOf convert)) chunk =
      { chunk with root? := chunk.root?.map (Node.withCommands convert) } := by
  obtain ⟨root, rfl, hroot⟩ := h
  unfold changedChunk
  rw [if_pos rfl]
  dsimp only [Option.map_some]
  rw [show Chunk.blocks ⟨2, some root⟩ = root.blocks from rfl,
    hroot.changeRoot_eq convert hblocks (hfits root rfl)]

theorem inside_of_mem_groupsOf {convert : Text → Outcome Text} {name : Text} {chunks : List Placed}
    {group : Group} (h : group ∈ groupsOf convert name chunks) :
    (0 ≤ group.x ∧ group.x < 32) ∧ 0 ≤ group.z ∧ group.z < 32 := by
  obtain ⟨place, hplace, rfl⟩ := List.mem_map.1 h
  obtain ⟨hx, hz⟩ := mem_places_iff.1 (List.mem_of_mem_filter hplace)
  unfold groupAt
  dsimp only
  omega

/-- In a chunk without command blocks there is nothing to convert. -/
theorem withCommands_eq_self {convert : Text → Outcome Text} {placed : Placed}
    (h : placed.chunk.IsReadable) (hblocks : placed.chunk.blocks = []) :
    placed.withCommands convert = placed := by
  obtain ⟨root, hchunk, hroot⟩ := h
  have hempty : root.blocks = [] := by
    rw [hchunk] at hblocks
    exact hblocks
  unfold Placed.withCommands
  rw [hchunk, Option.map_some, hroot.withCommands_eq_self convert hempty, ← hchunk]

/-- The groups of the listed commands convert every command of a region, and change nothing else. -/
theorem foldl_change_groupsOf {convert : Text → Outcome Text} {chunks : List Placed}
    (h : WellPlaced chunks) (hreadable : ∀ placed ∈ chunks, placed.chunk.IsReadable)
    (hfits : ∀ placed ∈ chunks, placed.chunk.Fits convert) (name : Text) :
    (groupsOf convert name chunks).foldl (fun region group => (change region group).region)
      (.ofChunks chunks) = .ofChunks (chunks.map (Placed.withCommands convert)) := by
  rw [foldl_change (fun _ => inside_of_mem_groupsOf) h]
  refine congrArg Region.ofChunks (List.map_congr_left fun placed hmem => ?_)
  obtain ⟨i, hi⟩ := List.mem_iff_getElem?.1 hmem
  obtain ⟨⟨hx0, hx⟩, hz0, hz⟩ := h.inside placed hmem
  have hplace : placed.place = ((placed.x.toNat : Int), (placed.z.toNat : Int)) := by
    rw [Int.toNat_of_nonneg hx0, Int.toNat_of_nonneg hz0]
    rfl
  have hchanges : changesAt convert chunks (placed.x.toNat, placed.z.toNat) =
      placed.chunk.blocks.map (Node.changeOf convert) := by
    unfold changesAt
    dsimp only
    rw [← hplace, blocksAt_of_getElem? h hi]
  by_cases hblocks : placed.chunk.blocks = []
  · -- no group is of this place
    rw [withCommands_eq_self (hreadable placed hmem) hblocks]
    refine foldl_changedBy_of_forall_ne _ _ fun place hfilter heq => ?_
    obtain ⟨-, hfilled⟩ := List.mem_filter.1 hfilter
    rw [hplace] at heq
    obtain ⟨hx, hz⟩ := Prod.ext_iff.1 heq
    have hsame : place = (placed.x.toNat, placed.z.toNat) :=
      Prod.ext (Int.ofNat.inj hx).symm (Int.ofNat.inj hz).symm
    rw [hsame, hchanges, hblocks] at hfilled
    cases hfilled
  · have hfilter : (placed.x.toNat, placed.z.toNat) ∈
        places.filter fun place => !(changesAt convert chunks place).isEmpty := by
      refine List.mem_filter.2 ⟨mem_places_iff.2 (by omega), ?_⟩
      rw [hchanges, List.isEmpty_map, Bool.not_eq_true', List.isEmpty_eq_false_iff]
      exact hblocks
    have hfold := foldl_changedBy_of_mem (some name) (changesAt convert chunks)
      (nodup_places.filter _) hfilter hplace
    rw [hchanges, changedChunk_blocks (hreadable placed hmem) (hfits placed hmem) hblocks] at hfold
    exact hfold

end Import

end CommandUpgrade.World
