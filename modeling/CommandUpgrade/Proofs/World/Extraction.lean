import CommandUpgrade.Proofs.World.CommandBlocks
import CommandUpgrade.Proofs.World.Region

/-!
# Extraction from a region of chunks

The rows that the extraction gives are those of the command blocks at each place, place by place
(`blocksAt`), and no fault ends it.
-/

namespace CommandUpgrade.World

open Text

/-- A chunk in the packing in use whose data can be read. -/
def Chunk.IsReadable (chunk : Chunk) : Prop := ∃ root : Node, chunk = ⟨2, some root⟩ ∧ root.Readable

/-- The command blocks of a chunk. -/
def Chunk.blocks (chunk : Chunk) : List CommandBlock := (chunk.root?.map Node.blocks).getD []

/-- The command blocks at a place. -/
def blocksAt (chunks : List Placed) (place : Int × Int) : List CommandBlock :=
  ((chunks.find? fun placed => placed.place = place).map (·.chunk.blocks)).getD []

theorem blocksAt_of_getElem? {chunks : List Placed} (h : WellPlaced chunks) {i : Nat}
    {placed : Placed} (hi : chunks[i]? = some placed) :
    blocksAt chunks placed.place = placed.chunk.blocks := by
  unfold blocksAt
  cases hfind : chunks.find? (fun other => other.place = placed.place) with
  | none =>
    have := List.find?_eq_none.1 hfind placed (List.mem_of_getElem? hi)
    exact absurd (decide_eq_true rfl) this
  | some other =>
    have hplace : other.place = placed.place := by simpa using List.find?_some hfind
    obtain ⟨j, hj⟩ := List.mem_iff_getElem?.1 (List.mem_of_find?_eq_some hfind)
    obtain rfl : j = i := h.eq_of_place hj hi hplace
    obtain rfl : other = placed := Option.some.inj (hj.symm.trans hi)
    rfl

theorem blocksAt_of_forall_ne {chunks : List Placed} {place : Int × Int}
    (h : ∀ placed ∈ chunks, placed.place ≠ place) : blocksAt chunks place = [] := by
  unfold blocksAt
  rw [List.find?_eq_none.2 fun placed hmem => by simpa using h placed hmem]
  rfl

namespace Extraction

/-! ## Reading on -/

theorem append_eq {first : Extraction} (h : first.fault = none) (second : Extraction) :
    (first ++ second).rows = first.rows ++ second.rows ∧ (first ++ second).fault = second.fault := by
  have happend : first ++ second = append first second := rfl
  rw [happend]
  unfold append
  rw [h, Option.isSome_none, if_neg Bool.false_ne_true]
  exact ⟨rfl, rfl⟩

theorem foldr_append {α : Type} {part : α → Extraction} {places : List α}
    (h : ∀ place ∈ places, (part place).fault = none) :
    (places.foldr (fun place rest => part place ++ rest) {}).rows =
      places.flatMap (fun place => (part place).rows) ∧
    (places.foldr (fun place rest => part place ++ rest) {}).fault = none := by
  induction places with
  | nil => exact ⟨rfl, rfl⟩
  | cons place rest ih =>
    obtain ⟨hplace, hrest⟩ := List.forall_mem_cons.1 h
    obtain ⟨hrows, hfault⟩ :=
      append_eq hplace (rest.foldr (fun place rest => part place ++ rest) {})
    obtain ⟨ihrows, ihfault⟩ := ih hrest
    rw [List.foldr_cons, List.flatMap_cons, hrows, hfault, ihrows, ihfault]
    exact ⟨rfl, rfl⟩

/-! ## Chunks -/

theorem ofRoot_eq {root : Node} (h : root.Readable) (name : Text) (x z : Nat) :
    (ofRoot name x z root).rows = root.blocks.map (row name x z) ∧
      (ofRoot name x z root).fault = none := by
  unfold ofRoot
  rw [h.list_eq]
  dsimp only
  cases hblocks : root.blocks with
  | nil => exact ⟨rfl, rfl⟩
  | cons block rest => exact ⟨rfl, rfl⟩

theorem ofChunk_eq {chunk : Chunk} (h : chunk.IsReadable) (name : Text) (x z : Nat) :
    (ofChunk name x z chunk).rows = chunk.blocks.map (row name x z) ∧
      (ofChunk name x z chunk).fault = none := by
  obtain ⟨root, rfl, hroot⟩ := h
  exact ofRoot_eq hroot name x z

theorem ofPlace_eq {chunks : List Placed} (h : WellPlaced chunks)
    (hreadable : ∀ placed ∈ chunks, placed.chunk.IsReadable) (name : Text) {x z : Nat} (hx : x < 32)
    (hz : z < 32) :
    (ofPlace name (.ofChunks chunks) x z).rows =
        (blocksAt chunks (x, z)).map (row name x z) ∧
      (ofPlace name (.ofChunks chunks) x z).fault = none := by
  unfold ofPlace
  by_cases hplace : ∃ placed ∈ chunks, placed.place = (↑x, ↑z)
  · obtain ⟨placed, hmem, hplace⟩ := hplace
    obtain ⟨i, hi⟩ := List.mem_iff_getElem?.1 hmem
    obtain ⟨hxeq, hzeq⟩ : placed.x = x ∧ placed.z = z := Prod.ext_iff.1 hplace
    rw [← hplace, blocksAt_of_getElem? h hi, ← hxeq, ← hzeq, Region.slot_ofChunks h hi]
    dsimp only
    rw [Region.isEmpty_slot (h.sectors placed hmem), if_neg Bool.false_ne_true, Region.chunk_ofChunks hi]
    exact ofChunk_eq (hreadable placed hmem) name x z
  · have hne : ∀ placed ∈ chunks, placed.place ≠ (↑x, ↑z) := fun placed hmem heq =>
      hplace ⟨placed, hmem, heq⟩
    rw [blocksAt_of_forall_ne hne,
      Region.slot_ofChunks_empty h (by omega) (by omega) hne]
    exact ⟨rfl, rfl⟩

/-- The rows of a region: those of the command blocks at each place. -/
theorem ofRegion_eq {chunks : List Placed} (h : WellPlaced chunks)
    (hreadable : ∀ placed ∈ chunks, placed.chunk.IsReadable) (name : Text) :
    (ofRegion name (.ofChunks chunks)).rows =
        places.flatMap (fun (x, z) => (blocksAt chunks (x, z)).map (row name x z)) ∧
      (ofRegion name (.ofChunks chunks)).fault = none := by
  have hplaces : ∀ place ∈ places,
      (ofPlace name (.ofChunks chunks) place.1 place.2).rows =
        (blocksAt chunks (place.1, place.2)).map (row name place.1 place.2) ∧
      (ofPlace name (.ofChunks chunks) place.1 place.2).fault = none := by
    intro place hmem
    obtain ⟨hx, hz⟩ := mem_places_iff.1 hmem
    exact ofPlace_eq h hreadable name hx hz
  obtain ⟨hrows, hfault⟩ := foldr_append fun place hmem => (hplaces place hmem).2
  obtain ⟨hfirst, hlast⟩ := @append_eq { printed := ["\nProcessing region: " ++ name] } rfl
    (places.foldr (fun place rest => ofPlace name (.ofChunks chunks) place.1 place.2 ++ rest) {})
  refine ⟨hfirst.trans ?_, hlast.trans hfault⟩
  rw [List.nil_append, hrows]
  exact List.flatMap_congr fun place hmem => (hplaces place hmem).1

end Extraction

end CommandUpgrade.World
