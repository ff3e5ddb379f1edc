import CommandUpgrade.Proofs.Json.RoundTrip
import CommandUpgrade.Proofs.Text.Split
import CommandUpgrade.Table.Name
import CommandUpgrade.Table.Standard

/-!
# The standard block states

The file of block states is read as what was written into it (`states_standard`), since its names are
distinct. All states are texts, so every name and data value have a block state (`exists_stateName`).
-/

namespace CommandUpgrade

open Text Table.Standard

/-! ## Names of states -/

theorem ofNat_injective {m n : Nat} (h : ofNat m = ofNat n) : m = n := by
  rw [← Number.digitsValue_ofNat m, h, Number.digitsValue_ofNat]

theorem stateKey_injective {number data number' data' : Nat}
    (h : ofNat number ++ ':' :: ofNat data = ofNat number' ++ ':' :: ofNat data') :
    number = number' ∧ data = data' := by
  have hcolon (n : Nat) : ':' ∉ ofNat n := fun hmem => absurd (isDigit_of_mem_ofNat hmem) (by decide)
  have hsplit := congrArg (splitFirst? ':') h
  rw [splitFirst?_append (hcolon number), splitFirst?_append (hcolon number')] at hsplit
  obtain ⟨hnumber, hdata⟩ := Prod.mk.inj (Option.some.inj hsplit)
  exact ⟨ofNat_injective hnumber, ofNat_injective hdata⟩

/-- The rows are in rising order. -/
theorem isChain_blockStates : (blockStates.map fun row => 16 * row.1 + row.2.1).IsChain (· < ·) := by
  decide +kernel

theorem nodup_stateEntries : stateEntries.names.Nodup := by
  have hrising := List.pairwise_map.1 isChain_blockStates.pairwise
  unfold stateEntries Entries.names
  rw [List.map_map]
  refine List.pairwise_map.2 (hrising.imp fun {row row'} hless heq => ?_)
  obtain ⟨hnumber, hdata⟩ : row.1 = row'.1 ∧ row.2.1 = row'.2.1 := stateKey_injective heq
  omega

/-! ## The table -/

theorem states_load {files : TableFiles} {s : Text} {found : Tag} (hfile : files.states = some s)
    (hread : Json.read? s = some (.compound [("blocks".toList, found)])) :
    (Tables.load files true).states = found := by
  unfold Tables.load Table.states
  dsimp only
  rw [hfile, Option.bind_some, hread]
  rfl

theorem states_standard : Tables.standard.states = .compound stateEntries := by
  have htexts : ∀ entry ∈ stateEntries, Json.Numberless entry.2 := by
    intro entry hentry
    obtain ⟨row, -, rfl⟩ := List.mem_map.1 hentry
    exact .text _
  have hfile : Json.Numberless (.compound [("blocks".toList, .compound stateEntries)]) :=
    .compound (List.nodup_singleton _) (List.forall_mem_singleton.2 (.compound nodup_stateEntries htexts))
  have hread : Json.read? stateFile = some (.compound [("blocks".toList, .compound stateEntries)]) :=
    Json.read?_toJson hfile
  exact states_load rfl hread

/-- Where all block states are texts, there is one for every name and data value. -/
theorem Tables.exists_stateName {tables : Tables} {entries : Entries}
    (hstates : tables.states = .compound entries) (htexts : ∀ entry ∈ entries, ∃ s, entry.2 = .text s)
    (name data : Text) : ∃ block, tables.stateName name data = .ok (.text block) := by
  have hstate (key : Text) : tables.state key = .ok ((Entries.get? key entries).getD .null) := by
    unfold Tables.state
    rw [hstates]
  have hfilled (key other : Text) : ∃ block, (do
      let state ← tables.state key
      pure (if state.isFilled then state else .text other)) = Except.ok (.text block) := by
    rw [hstate]
    cases hget : Entries.get? key entries with
    | none => exact ⟨other, rfl⟩
    | some tag =>
      obtain ⟨s, rfl⟩ : ∃ s, tag = .text s := htexts _ (Entries.mem_of_get? hget)
      by_cases hs : (Tag.text s).isFilled
      · exact ⟨s, congrArg Except.ok (if_pos hs)⟩
      · exact ⟨other, congrArg Except.ok (if_neg hs)⟩
  unfold Tables.stateName
  dsimp only
  split
  case h_1 => exact ⟨_, rfl⟩
  case h_2 value _ =>
    -- The name is looked for as it is, and else without its namespace.
    split
    case isTrue =>
      split
      case isTrue => split <;> exact ⟨_, rfl⟩
      case isFalse => exact hfilled _ _
    case isFalse => exact hfilled _ _

theorem exists_stateName_standard (name data : Text) :
    ∃ block, Tables.standard.stateName name data = .ok (.text block) := by
  refine Tables.exists_stateName states_standard (fun entry hentry => ?_) name data
  obtain ⟨row, -, rfl⟩ := List.mem_map.1 hentry
  exact ⟨_, rfl⟩

end CommandUpgrade
