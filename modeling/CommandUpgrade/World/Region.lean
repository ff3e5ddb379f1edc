import CommandUpgrade.World.Node

/-!
# Regions

A region file holds up to 32 by 32 chunks. Its header has an entry for each place, with the location
of the chunk there and the count of sectors it takes; an entry of zeros is an empty place. Behind the
entries of the places the header has as many entries again, which are zeros here.
-/

namespace CommandUpgrade.World

/-- An entry of the header. -/
structure Slot where
  location : Nat
  sectors : Nat
  deriving DecidableEq, Repr, Inhabited

/-- Whether an entry says that there is no chunk. -/
def Slot.isEmpty (slot : Slot) : Bool := slot.location == 0 || slot.sectors == 0

/-- A chunk as it lies in a region file. -/
structure Chunk where
  /-- How the data is packed: 2 is the packing in use. -/
  packing : Nat
  /-- The data, unless it cannot be read. -/
  root? : Option Node

/-- A region file. -/
structure Region where
  /-- The whole entries of the header. -/
  slots : List Slot
  /-- The bytes of an entry that breaks off. -/
  spare : Nat
  /-- The chunks by location. -/
  chunks : List (Nat × Chunk)

/-- A chunk and its entry, for a region that is made up from chunks. -/
structure Placed where
  x : Int
  z : Int
  sectors : Nat
  chunk : Chunk

/-- The number of the entry for a place. -/
def slotIndex (x z : Int) : Int := x + z * 32

namespace Region

/-! ## Making regions -/

/-- How many entries a whole header has. -/
def slotCount : Nat := 2048

/-- The region without chunks. -/
def empty : Region := ⟨List.replicate slotCount ⟨0, 0⟩, 0, []⟩

/-- Adds a chunk, at the first location behind the header and the chunks there are. -/
def add (region : Region) (placed : Placed) : Region :=
  let location := region.chunks.length + 2
  { region with
    slots := region.slots.set (slotIndex placed.x placed.z).toNat ⟨location, placed.sectors⟩
    chunks := region.chunks ++ [(location, placed.chunk)] }

/-- The region of a list of chunks. -/
def ofChunks (chunks : List Placed) : Region := chunks.foldl add empty

/-- The entries of a header, and the count of bytes behind the last whole one. -/
def readSlots : List Nat → List Slot × Nat
  | a :: b :: c :: sectors :: rest =>
    let (slots, spare) := readSlots rest
    (⟨a * 65536 + b * 256 + c, sectors⟩ :: slots, spare)
  | bytes => ([], bytes.length)

/-- The region of a file without a chunk that can be found. -/
def ofBytes (bytes : List Nat) : Region :=
  let (slots, spare) := readSlots (bytes.take (4 * slotCount))
  ⟨slots, spare, []⟩

/-! ## Finding chunks -/

/-- The entry of a number. A negative number counts from the end of the header. -/
def slot (region : Region) (index : Int) : Outcome Slot :=
  let i := if index < 0 then index + region.slots.length else index
  if i < 0 then .error .bytesMissing
  else
    match region.slots[i.toNat]? with
    | some slot => .ok slot
    | none =>
      if i.toNat = region.slots.length ∧ region.spare = 3 then .error (.pastEnd .bytes)
      else .error .bytesMissing

/-- The chunk at a location. -/
def chunk (region : Region) (location : Nat) : Outcome Chunk :=
  match region.chunks.lookup location with
  | some chunk => .ok chunk
  | none => .error .bytesMissing

/-- Puts a chunk at a location where one lies. -/
def setChunk (region : Region) (location : Nat) (chunk : Chunk) : Region :=
  { region with chunks := region.chunks.map fun (place, old) =>
      if place = location then (place, chunk) else (place, old) }

/-- The data of the chunk at a place, where there is such a chunk. -/
def root? (region : Region) (x z : Int) : Option Node :=
  match region.slot (slotIndex x z) with
  | .ok slot => (region.chunks.lookup slot.location).bind (·.root?)
  | .error _ => none

end Region

/-- The places of a region, by `x` and then by `z`. -/
def places : List (Nat × Nat) :=
  (List.range 32).flatMap fun x => (List.range 32).map fun z => (x, z)

end CommandUpgrade.World
