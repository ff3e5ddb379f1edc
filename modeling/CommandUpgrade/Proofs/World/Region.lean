import CommandUpgrade.Proofs.Digits
import CommandUpgrade.World.Region

/-!
# Regions of chunks

What the header and the chunks of a region are that is made up from a list of chunks: each chunk has
its entry and is found by it, and every other entry is empty.
-/

namespace CommandUpgrade.World

/-- The place of a chunk in its region. -/
def Placed.place (placed : Placed) : Int × Int := (placed.x, placed.z)

/-- Chunks that a region can hold: each inside the region, no two at one place, and each with
sectors. -/
@[mk_iff]
structure WellPlaced (chunks : List Placed) : Prop where
  inside : ∀ placed ∈ chunks, (0 ≤ placed.x ∧ placed.x < 32) ∧ 0 ≤ placed.z ∧ placed.z < 32
  distinct : (chunks.map Placed.place).Nodup
  sectors : ∀ placed ∈ chunks, placed.sectors ≠ 0

instance (chunks : List Placed) : Decidable (WellPlaced chunks) :=
  decidable_of_iff _ (wellPlaced_iff chunks).symm

theorem slotIndex_inj {x z x' z' : Int} (hx : 0 ≤ x ∧ x < 32) (hz : 0 ≤ z ∧ z < 32)
    (hx' : 0 ≤ x' ∧ x' < 32) (hz' : 0 ≤ z' ∧ z' < 32)
    (h : (slotIndex x z).toNat = (slotIndex x' z').toNat) : x = x' ∧ z = z' := by
  unfold slotIndex at h
  omega

theorem slotIndex_lt {x z : Int} (hx : 0 ≤ x ∧ x < 32) (hz : 0 ≤ z ∧ z < 32) :
    (slotIndex x z).toNat < Region.slotCount := by
  unfold slotIndex Region.slotCount
  omega

namespace WellPlaced

variable {chunks : List Placed} (h : WellPlaced chunks)

include h

/-- The chunk at a place is the only one there. -/
theorem eq_of_place {i j : Nat} {placed other : Placed} (hi : chunks[i]? = some placed)
    (hj : chunks[j]? = some other) (hplace : placed.place = other.place) : i = j := by
  have hi' : (chunks.map Placed.place)[i]? = some placed.place := by rw [List.getElem?_map, hi]; rfl
  have hj' : (chunks.map Placed.place)[j]? = some placed.place := by
    rw [List.getElem?_map, hj, hplace]; rfl
  have hlt : i < (chunks.map Placed.place).length := (List.getElem?_eq_some_iff.1 hi').1
  exact (List.getElem?_inj hlt h.distinct).1 (hi'.trans hj'.symm)

omit h in
theorem of_append {more : List Placed} (h : WellPlaced (chunks ++ more)) : WellPlaced chunks where
  inside placed hmem := h.inside placed (List.mem_append_left _ hmem)
  distinct := by
    have := h.distinct
    rw [List.map_append] at this
    exact (List.nodup_append.1 this).1
  sectors placed hmem := h.sectors placed (List.mem_append_left _ hmem)

/-- Chunks with the same places and sectors can be held as well. -/
theorem map {f : Placed → Placed} (hplace : ∀ placed, (f placed).place = placed.place)
    (hsectors : ∀ placed, (f placed).sectors = placed.sectors) : WellPlaced (chunks.map f) where
  inside := by
    intro placed hmem
    obtain ⟨old, hold, rfl⟩ := List.mem_map.1 hmem
    have hx : (f old).x = old.x := congrArg Prod.fst (hplace old)
    have hz : (f old).z = old.z := congrArg Prod.snd (hplace old)
    rw [hx, hz]
    exact h.inside old hold
  distinct := by
    have hcomp : Placed.place ∘ f = Placed.place := funext hplace
    rw [List.map_map, hcomp]
    exact h.distinct
  sectors := by
    intro placed hmem
    obtain ⟨old, hold, rfl⟩ := List.mem_map.1 hmem
    rw [hsectors]
    exact h.sectors old hold

end WellPlaced

namespace Region

theorem ofChunks_append (chunks : List Placed) (placed : Placed) :
    ofChunks (chunks ++ [placed]) = (ofChunks chunks).add placed := by
  unfold ofChunks
  rw [List.foldl_append]
  rfl

/-! ## Chunks -/

theorem chunks_ofChunks (chunks : List Placed) :
    (ofChunks chunks).chunks = chunks.mapIdx fun i placed => (i + 2, placed.chunk) := by
  induction chunks using List.reverseRecOn with
  | nil => rfl
  | append_singleton chunks placed ih =>
    rw [ofChunks_append, List.mapIdx_concat, ← ih]
    unfold add
    dsimp only
    rw [ih, List.length_mapIdx]

theorem spare_ofChunks (chunks : List Placed) : (ofChunks chunks).spare = 0 := by
  induction chunks using List.reverseRecOn with
  | nil => rfl
  | append_singleton chunks placed ih => rw [ofChunks_append]; exact ih

theorem lookup_mapIdx (chunks : List Placed) (i k : Nat) :
    (chunks.mapIdx fun i placed => (i + k, placed.chunk)).lookup (i + k) =
      chunks[i]?.map (·.chunk) := by
  induction chunks generalizing i k with
  | nil => rfl
  | cons placed rest ih =>
    rw [List.mapIdx_cons, List.lookup_cons]
    cases i with
    | zero => rw [beq_self_eq_true]; rfl
    | succ i =>
      rw [beq_eq_false_iff_ne.2 (by omega), List.getElem?_cons_succ, ← ih i (k + 1)]
      have hshift : ∀ i, i + 1 + k = i + (k + 1) := fun i => by omega
      simp only [hshift]

theorem chunk_ofChunks {chunks : List Placed} {i : Nat} {placed : Placed}
    (h : chunks[i]? = some placed) : (ofChunks chunks).chunk (i + 2) = .ok placed.chunk := by
  unfold chunk
  rw [chunks_ofChunks, lookup_mapIdx, h]
  rfl

/-! ## The header -/

theorem length_slots_ofChunks (chunks : List Placed) :
    (ofChunks chunks).slots.length = slotCount := by
  induction chunks using List.reverseRecOn with
  | nil => exact List.length_replicate
  | append_singleton chunks placed ih =>
    rw [ofChunks_append]
    unfold add
    dsimp only
    rw [List.length_set, ih]

theorem slots_add (region : Region) (placed : Placed) (k : Nat) :
    (region.add placed).slots[k]? =
      if (slotIndex placed.x placed.z).toNat = k then
        region.slots[k]?.map fun _ => ⟨region.chunks.length + 2, placed.sectors⟩
      else region.slots[k]? := by
  unfold add
  dsimp only
  rw [List.getElem?_set]
  by_cases h : (slotIndex placed.x placed.z).toNat = k
  · subst h
    rw [if_pos rfl, if_pos rfl]
    by_cases hlt : (slotIndex placed.x placed.z).toNat < region.slots.length
    · rw [if_pos hlt, List.getElem?_eq_getElem hlt]; rfl
    · rw [if_neg hlt, List.getElem?_eq_none (by omega)]; rfl
  · rw [if_neg h, if_neg h]

/-- An entry that belongs to no chunk is empty. -/
theorem slots_ofChunks_of_forall_ne {chunks : List Placed} {k : Nat} (hk : k < slotCount)
    (h : ∀ placed ∈ chunks, (slotIndex placed.x placed.z).toNat ≠ k) :
    (ofChunks chunks).slots[k]? = some ⟨0, 0⟩ := by
  induction chunks using List.reverseRecOn with
  | nil => exact List.getElem?_replicate_of_lt hk
  | append_singleton chunks placed ih =>
    rw [ofChunks_append, slots_add, if_neg (h placed (by simp)),
      ih fun q hq => h q (List.mem_append_left _ hq)]

/-- The entry of a chunk gives its location and its sectors. -/
theorem slots_ofChunks {chunks : List Placed} (h : WellPlaced chunks) {i : Nat} {placed : Placed}
    (hi : chunks[i]? = some placed) :
    (ofChunks chunks).slots[(slotIndex placed.x placed.z).toNat]? =
      some ⟨i + 2, placed.sectors⟩ := by
  induction chunks using List.reverseRecOn with
  | nil => cases hi
  | append_singleton chunks last ih =>
    have hmem := List.mem_of_getElem? hi
    obtain ⟨hx, hz⟩ := h.inside placed hmem
    have hlast : (chunks ++ [last])[chunks.length]? = some last := List.getElem?_concat_length
    rw [ofChunks_append, slots_add]
    by_cases hlt : i < chunks.length
    · have hi' : chunks[i]? = some placed := by rw [← hi, List.getElem?_append_left hlt]
      rw [if_neg, ih h.of_append hi']
      intro hslot
      obtain ⟨hx', hz'⟩ := h.inside last (by simp)
      obtain ⟨hxeq, hzeq⟩ := slotIndex_inj hx' hz' hx hz hslot
      have := h.eq_of_place hi hlast (Prod.ext hxeq.symm hzeq.symm)
      omega
    · obtain rfl : i = chunks.length := by
        have := (List.getElem?_eq_some_iff.1 hi).1
        rw [List.length_append, List.length_singleton] at this
        omega
      obtain rfl : last = placed := Option.some.inj (hlast.symm.trans hi)
      have hslot : (slotIndex last.x last.z).toNat < (ofChunks chunks).slots.length := by
        rw [length_slots_ofChunks]
        exact slotIndex_lt hx hz
      rw [if_pos rfl, List.getElem?_eq_getElem hslot, chunks_ofChunks, List.length_mapIdx]
      rfl

theorem slot_of_nonneg {region : Region} {index : Int} (h : 0 ≤ index) {slot : Slot}
    (hslot : region.slots[index.toNat]? = some slot) : region.slot index = .ok slot := by
  unfold Region.slot
  dsimp only
  rw [if_neg (by omega), if_neg (by omega), hslot]

theorem slotIndex_nonneg {x z : Int} (hx : 0 ≤ x) (hz : 0 ≤ z) : 0 ≤ slotIndex x z := by
  unfold slotIndex
  omega

/-- The entry of the place of a chunk. -/
theorem slot_ofChunks {chunks : List Placed} (h : WellPlaced chunks) {i : Nat} {placed : Placed}
    (hi : chunks[i]? = some placed) :
    (ofChunks chunks).slot (slotIndex placed.x placed.z) = .ok ⟨i + 2, placed.sectors⟩ := by
  obtain ⟨hx, hz⟩ := h.inside placed (List.mem_of_getElem? hi)
  exact slot_of_nonneg (slotIndex_nonneg hx.1 hz.1) (slots_ofChunks h hi)

theorem isEmpty_slot {i sectors : Nat} (h : sectors ≠ 0) : (⟨i + 2, sectors⟩ : Slot).isEmpty = false := by
  unfold Slot.isEmpty
  rw [beq_eq_false_iff_ne.2 h, beq_eq_false_iff_ne.2 (Nat.succ_ne_zero _)]
  rfl

/-- The entry of a place without a chunk. -/
theorem slot_ofChunks_empty {chunks : List Placed} (h : WellPlaced chunks) {x z : Int}
    (hx : 0 ≤ x ∧ x < 32) (hz : 0 ≤ z ∧ z < 32) (hne : ∀ placed ∈ chunks, placed.place ≠ (x, z)) :
    (ofChunks chunks).slot (slotIndex x z) = .ok ⟨0, 0⟩ := by
  refine slot_of_nonneg (slotIndex_nonneg hx.1 hz.1)
    (slots_ofChunks_of_forall_ne (slotIndex_lt hx hz) fun placed hmem hslot => ?_)
  obtain ⟨hx', hz'⟩ := h.inside placed hmem
  obtain ⟨hxeq, hzeq⟩ := slotIndex_inj hx' hz' hx hz hslot
  exact hne placed hmem (Prod.ext hxeq hzeq)

/-! ## Changed chunks -/

/-- A change of chunks that keeps their places and sectors keeps the header. -/
theorem slots_ofChunks_map {f : Placed → Placed} (hplace : ∀ placed, (f placed).place = placed.place)
    (hsectors : ∀ placed, (f placed).sectors = placed.sectors) (chunks : List Placed) :
    (ofChunks (chunks.map f)).slots = (ofChunks chunks).slots := by
  induction chunks using List.reverseRecOn with
  | nil => rfl
  | append_singleton chunks placed ih =>
    have hx : (f placed).x = placed.x := congrArg Prod.fst (hplace placed)
    have hz : (f placed).z = placed.z := congrArg Prod.snd (hplace placed)
    rw [List.map_append, List.map_singleton, ofChunks_append, ofChunks_append]
    unfold add
    dsimp only
    rw [ih, hx, hz, hsectors, chunks_ofChunks, chunks_ofChunks, List.length_mapIdx,
      List.length_mapIdx, List.length_map]

/-- The chunk at a place is put in place of the old one. -/
def putAt (place : Int × Int) (chunk : Chunk) (placed : Placed) : Placed :=
  if placed.place = place then { placed with chunk } else placed

theorem place_putAt (place : Int × Int) (chunk : Chunk) (placed : Placed) :
    (putAt place chunk placed).place = placed.place := by
  unfold putAt
  split <;> rfl

theorem sectors_putAt (place : Int × Int) (chunk : Chunk) (placed : Placed) :
    (putAt place chunk placed).sectors = placed.sectors := by
  unfold putAt
  split <;> rfl

theorem setChunk_ofChunks {chunks : List Placed} (h : WellPlaced chunks) {i : Nat} {placed : Placed}
    (hi : chunks[i]? = some placed) (chunk : Chunk) :
    (ofChunks chunks).setChunk (i + 2) chunk = ofChunks (chunks.map (putAt placed.place chunk)) := by
  have hslots := slots_ofChunks_map (place_putAt placed.place chunk)
    (sectors_putAt placed.place chunk) chunks
  have hchunks : ((ofChunks chunks).setChunk (i + 2) chunk).chunks =
      (ofChunks (chunks.map (putAt placed.place chunk))).chunks := by
    unfold setChunk
    rw [chunks_ofChunks, chunks_ofChunks]
    refine List.ext_getElem? fun j => ?_
    rw [List.getElem?_map, List.getElem?_mapIdx, List.getElem?_mapIdx, List.getElem?_map]
    cases hj : chunks[j]? with
    | none => rfl
    | some other =>
      simp only [Option.map_some]
      unfold putAt
      by_cases hij : i = j
      · subst hij
        obtain rfl : placed = other := Option.some.inj (hi.symm.trans hj)
        rw [if_pos rfl, if_pos rfl]
      · rw [if_neg (by omega), if_neg fun hplace => hij (h.eq_of_place hi hj hplace.symm)]
  unfold setChunk at hchunks ⊢
  dsimp only at hchunks
  rw [hchunks, ← hslots, spare_ofChunks, ← spare_ofChunks (chunks.map (putAt placed.place chunk))]

theorem map_putAt_self {chunks : List Placed} (h : WellPlaced chunks) {i : Nat} {placed : Placed}
    (hi : chunks[i]? = some placed) : chunks.map (putAt placed.place placed.chunk) = chunks := by
  refine (List.map_congr_left fun other hother => ?_).trans (List.map_id chunks)
  unfold putAt
  by_cases hplace : other.place = placed.place
  · obtain ⟨j, hj⟩ := List.mem_iff_getElem?.1 hother
    obtain rfl : j = i := h.eq_of_place hj hi hplace
    obtain rfl : other = placed := Option.some.inj (hj.symm.trans hi)
    rw [if_pos rfl, id]
  · rw [if_neg hplace, id]

end Region

theorem mem_places_iff {x z : Nat} : (x, z) ∈ places ↔ x < 32 ∧ z < 32 := by
  unfold places
  simp

theorem nodup_places : places.Nodup := by
  have hproduct : places = List.range 32 ×ˢ List.range 32 := rfl
  rw [hproduct]
  exact List.nodup_range.product List.nodup_range

end CommandUpgrade.World
