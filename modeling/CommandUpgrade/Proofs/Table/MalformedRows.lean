import CommandUpgrade.Proofs.Table.Load

/-!
# Malformed rows of the block sheet

A row whose data value is no integer is passed over. A row that lacks a cell is not, unless its data
value is no integer: it ends the table, and so does a cell beyond the limit (`stops`). So the table has the
entries of the rows up to the first that stops (`blocks_load`), and the entries behind it are lost.
-/

namespace CommandUpgrade

open Text Sheet

/-! ## Tables with further entries -/

namespace Lookup

variable {κ : Type} [DecidableEq κ] {kept lost : List (κ × Text)}

theorem get?_append (key : κ) (a b : Lookup κ) : get? key (a ++ b) = (get? key a).or (get? key b) := by
  induction a with
  | nil => rfl
  | cons entry rest ih =>
    obtain ⟨k, v⟩ := entry
    rw [List.cons_append, get?_cons, get?_cons, ih]
    split_ifs <;> rfl

theorem get?_setAll_append (key : κ) : get? key (setAll (kept ++ lost)) =
    (get? key lost.reverse).or (get? key (setAll kept)) := by
  rw [get?_setAll, List.reverse_append, get?_append, ← get?_setAll key kept]

/-- Entries under keys that a table has leave its keys as they are. -/
theorem map_fst_setAll_append (h : ∀ key ∈ lost.map Prod.fst, key ∈ (setAll kept).map Prod.fst) :
    (setAll (kept ++ lost)).map Prod.fst = (setAll kept).map Prod.fst := by
  induction lost using List.reverseRecOn with
  | nil => rw [List.append_nil]
  | append_singleton lost entry ih =>
    rw [List.map_append, List.forall_mem_append] at h
    have hkey := h.2 entry.1 (List.mem_singleton_self _)
    rw [← List.append_assoc, setAll_concat, map_fst_set, ih h.1, if_pos hkey]

/-- Tables with the same keys in the same order are the same if they have the same values. -/
theorem eq_of_get? {a b : Lookup κ} (hnodup : (a.map Prod.fst).Nodup)
    (hkeys : a.map Prod.fst = b.map Prod.fst)
    (h : ∀ key ∈ a.map Prod.fst, get? key a = get? key b) : a = b := by
  induction a generalizing b with
  | nil => exact (List.map_eq_nil_iff.1 hkeys.symm).symm
  | cons entry rest ih =>
    obtain ⟨k, v⟩ := entry
    cases b with
    | nil => cases hkeys
    | cons entry' rest' =>
      obtain ⟨k', v'⟩ := entry'
      obtain ⟨rfl, htail⟩ : k = k' ∧ rest.map Prod.fst = rest'.map Prod.fst := List.cons.inj hkeys
      obtain ⟨hk, hrest⟩ := List.nodup_cons.1 hnodup
      have hv := h k List.mem_cons_self
      rw [get?_cons, get?_cons, if_pos rfl, if_pos rfl] at hv
      rw [Option.some.inj hv, ih hrest htail fun key hkey => ?_]
      have hne : key ≠ k := fun heq => hk (heq ▸ hkey)
      have hget := h key (List.mem_cons_of_mem _ hkey)
      rwa [get?_cons, get?_cons, if_neg hne, if_neg hne] at hget

/-- Further entries change nothing if and only if their keys have the values that come last already. -/
theorem setAll_eq_setAll_append_iff : setAll kept = setAll (kept ++ lost) ↔
    ∀ key ∈ lost.map Prod.fst, get? key (setAll kept) = get? key lost.reverse := by
  have hfound : ∀ key ∈ lost.map Prod.fst, ∃ value, get? key lost.reverse = some value := by
    intro key hkey
    refine Option.ne_none_iff_exists'.1 fun hnone => (get?_eq_none_iff key _).1 hnone ?_
    rwa [List.map_reverse, List.mem_reverse]
  constructor
  · intro heq key hkey
    obtain ⟨value, hvalue⟩ := hfound key hkey
    rw [heq, get?_setAll_append, hvalue]
    rfl
  · intro h
    refine eq_of_get? (nodup_setAll kept) (map_fst_setAll_append fun key hkey => ?_).symm fun key _ => ?_
    · obtain ⟨value, hvalue⟩ := hfound key hkey
      by_contra hnot
      rw [← get?_eq_none_iff, h key hkey, hvalue] at hnot
      cases hnot
    · rw [get?_setAll_append]
      by_cases hkey : key ∈ lost.map Prod.fst
      · obtain ⟨value, hvalue⟩ := hfound key hkey
        rw [h key hkey, hvalue]
        rfl
      · have hnone : get? key lost.reverse = none := by
          rw [get?_eq_none_iff, List.map_reverse, List.mem_reverse]
          exact hkey
        rw [hnone, Option.none_or]

end Lookup

namespace Table

/-! ## Rows -/

/-- The columns of the block sheet. -/
def blockHeader : List Text :=
  ["id".toList, "data".toList, "block".toList, "raw_block".toList, "conversion name".toList]

def isInteger (cell : Text) : Bool := (Number.readInt (trim cell)).isOk

/-- Whether a row has a cell in each column, and an integer for its data value. -/
def isWellFormed (row : List Text) : Bool :=
  blockHeader.length ≤ row.length && row[1]?.any isInteger

/-- Whether a row lacks a cell, and no data value that is not an integer comes before that. -/
def lacksCell (row : List Text) : Bool :=
  row.length < blockHeader.length && row[1]?.all isInteger

/-- Whether a row ends the table. A blank line is no row. -/
def stops (row : List Text) : Bool := !isShort row || !row.isEmpty && lacksCell row

/-- The entries of a row that is well formed. -/
def rowEntries : List Text → List ((Text × Int) × Text)
  | number :: data :: name :: rawName :: newName :: _ =>
    match Number.readInt (trim data) with
    | .ok n =>
      (BlockRow.keys ⟨trim number, n, trim name, trim rawName, trim newName⟩).map fun key =>
        ((key, n), trim newName)
    | .error _ => []
  | _ => []

/-! ## Reading a row -/

theorem passesOver_readInt {s : Text} {fault : Fault} (h : Number.readInt s = .error fault) :
    passesOver true fault = true := by
  unfold Number.readInt at h
  dsimp only at h
  split_ifs at h <;> cases h <;> rfl

theorem lookup_zip {names : List Text} (h : names.Nodup) {i : Nat} {name : Text}
    (hi : names[i]? = some name) (row : List Text) : (names.zip row).lookup name = row[i]? := by
  induction names generalizing row i with
  | nil => cases hi
  | cons n rest ih =>
    obtain ⟨hn, hrest⟩ := List.nodup_cons.1 h
    cases row with
    | nil => rfl
    | cons cell row =>
      rw [List.zip_cons_cons, List.lookup_cons]
      cases i with
      | zero =>
        obtain rfl : n = name := Option.some.inj hi
        rw [beq_self_eq_true]
        rfl
      | succ i =>
        have hne : name ≠ n := fun heq => hn (heq ▸ List.mem_of_getElem? hi)
        rw [beq_eq_false_iff_ne.2 hne]
        exact ih hrest hi row

theorem trimmed_ofRow {i : Nat} {column : String} (hi : blockHeader[i]? = some column.toList)
    (row : List Text) : trimmed (Record.ofRow blockHeader row) column =
      row[i]?.elim (.error (.noMember "NoneType" "strip")) fun cell => .ok (trim cell) := by
  have hnodup : blockHeader.Nodup := by decide +kernel
  unfold trimmed Record.cell Record.get
  rw [lookup_ofRow hnodup, if_pos (List.mem_of_getElem? hi), lookup_zip hnodup hi]
  cases row[i]? <;> rfl

/-- A row ends the table, or it is passed over, or its entries are stored. -/
theorem blockRow_cases {row : List Text} (hne : row ≠ []) :
    (lacksCell row = true ∧
      ∃ fault, blockRow (Record.ofRow blockHeader row) = .error fault ∧ passesOver true fault = false) ∨
    (lacksCell row = false ∧ rowEntries row = [] ∧
      ∃ fault, blockRow (Record.ofRow blockHeader row) = .error fault ∧ passesOver true fault = true) ∨
    (lacksCell row = false ∧ ∃ read, blockRow (Record.ofRow blockHeader row) = .ok read ∧
      rowEntries row = read.keys.map fun key => ((key, read.data), read.newName)) := by
  unfold blockRow
  rw [trimmed_ofRow (i := 0) rfl, trimmed_ofRow (i := 1) rfl, trimmed_ofRow (i := 4) rfl,
    trimmed_ofRow (i := 2) rfl, trimmed_ofRow (i := 3) rfl]
  obtain ⟨number, rest, rfl⟩ := List.exists_cons_of_ne_nil hne
  cases rest with
  | nil => exact Or.inl ⟨rfl, _, rfl, rfl⟩
  | cons data rest =>
    have hlacks : lacksCell (number :: data :: rest) = (decide (rest.length < 3) && isInteger data) := by
      have hlength : rest.length + 2 < 5 ↔ rest.length < 3 := by omega
      show (decide (rest.length + 2 < 5) && isInteger data) = _
      rw [decide_eq_decide.2 hlength]
    rw [hlacks]
    unfold isInteger
    cases hdata : Number.readInt (trim data) with
    | error fault =>
      refine Or.inr (Or.inl ⟨Bool.and_false _, ?_, fault, ?_, passesOver_readInt hdata⟩)
      · unfold rowEntries
        split
        · rename_i heq
          cases heq
          rw [hdata]
        · rfl
      · show (Number.readInt (trim data) >>= _) = _
        rw [hdata]
        rfl
    | ok n =>
      rw [show (Except.ok n : Outcome Int).isOk = true from rfl, Bool.and_true]
      rcases rest with _ | ⟨name, _ | ⟨rawName, _ | ⟨newName, more⟩⟩⟩
      case cons.cons.cons =>
        refine Or.inr (Or.inr ⟨by simp, ⟨trim number, n, trim name, trim rawName, trim newName⟩, ?_, ?_⟩)
        · show (Number.readInt (trim data) >>= _) = _
          rw [hdata]
          rfl
        · simp only [rowEntries, hdata]
      -- The new name is in the last column, so it is missing from every shorter row.
      all_goals
        refine Or.inl ⟨rfl, .noMember "NoneType" "strip", ?_, rfl⟩
        show (Number.readInt (trim data) >>= _) = _
        rw [hdata]
        rfl

/-! ## Loading -/

/-- Stores entries in a table. -/
def store (table : Lookup (Text × Int)) (entries : List ((Text × Int) × Text)) : Lookup (Text × Int) :=
  entries.foldl (fun table entry => Lookup.set entry.1 entry.2 table) table

theorem blocks_cons {row : List Text} (hne : row ≠ []) (table : Lookup (Text × Int)) (rest : List Record) :
    blocks true table (Record.ofRow blockHeader row :: rest) =
      if lacksCell row then table else blocks true (store table (rowEntries row)) rest := by
  rw [blocks]
  rcases blockRow_cases hne with ⟨hlacks, fault, hread, hfault⟩ | ⟨hlacks, hentries, fault, hread, hfault⟩ |
    ⟨hlacks, read, hread, hentries⟩
  · rw [hread, if_pos hlacks]
    exact if_neg (by simp [hfault])
  · rw [hread, hlacks, hentries]
    exact if_pos hfault
  · rw [hread, hlacks, hentries]
    unfold store
    rw [List.foldl_map]
    rfl

/-- The entries of the rows in front of the first one that stops. -/
def keptEntries (data : List (List Text)) : List ((Text × Int) × Text) :=
  (data.takeWhile (!stops ·)).flatMap rowEntries

/-- The rows up to the first that stops are stored, those of blank lines and bad data values being empty. -/
theorem blocks_limited (table : Lookup (Text × Int)) (data : List (List Text)) :
    blocks true table (((limited data).rows.filter (!·.isEmpty)).map (Record.ofRow blockHeader)) =
      store table (keptEntries data) := by
  unfold keptEntries
  induction data generalizing table with
  | nil => rfl
  | cons row rest ih =>
    cases hshort : isShort row with
    | false =>
      rw [limited_of_long hshort, List.takeWhile_cons_of_neg (by simp [stops, hshort])]
      rfl
    | true =>
      rw [limited_cons hshort]
      by_cases hne : row = []
      · subst hne
        rw [List.filter_cons_of_neg (by simp), ih, List.takeWhile_cons_of_pos rfl]
        rfl
      · rw [List.filter_cons_of_pos (by simpa using hne), List.map_cons, blocks_cons hne]
        cases hlacks : lacksCell row with
        | true =>
          rw [List.takeWhile_cons_of_neg (by simp [stops, hne, hlacks])]
          rfl
        | false =>
          rw [List.takeWhile_cons_of_pos (by simp [stops, hshort, hlacks]), List.flatMap_cons, ih]
          unfold store
          rw [List.foldl_append]
          rfl

/-- The block table that is loaded from a sheet. -/
def blocksOf (files : TableFiles) (s : Text) : Lookup (Text × Int) :=
  (Tables.load { files with blocks := some s } true).blocks

theorem blocks_load (files : TableFiles) {s : Text} {data : List (List Text)}
    (hs : withFeeds (decode s) = blockHeader :: data) :
    blocksOf files s = Lookup.setAll (keptEntries data) := by
  have hrecords : (records s).records =
      ((limited data).rows.filter (!·.isEmpty)).map (Record.ofRow blockHeader) := by
    unfold records
    rw [rows_eq, hs, limited_cons (by decide +kernel)]
  show blocks true [] (records s).records = _
  rw [hrecords, blocks_limited]
  rfl

/-! ## Sheets without their malformed rows -/

/-- The entries that well-formed rows from that one on would give. Of these a cell beyond the limit stops. -/
def lostEntries (data : List (List Text)) : List ((Text × Int) × Text) :=
  (((data.dropWhile (!stops ·)).filter isWellFormed).takeWhile (!stops ·)).flatMap rowEntries

theorem rowEntries_of_malformed {row : List Text} (h : isWellFormed row = false) : rowEntries row = [] := by
  unfold rowEntries
  split
  · rename_i number data name rawName newName more
    have hdata : isInteger data = false := by simpa [isWellFormed, blockHeader] using h
    unfold isInteger at hdata
    split
    · rename_i n hn
      rw [hn] at hdata
      cases hdata
    · rfl
  · rfl

theorem flatMap_filter_wellFormed (data : List (List Text)) :
    (data.filter isWellFormed).flatMap rowEntries = data.flatMap rowEntries := by
  induction data with
  | nil => rfl
  | cons row rest ih =>
    cases hrow : isWellFormed row with
    | true => rw [List.filter_cons_of_pos hrow, List.flatMap_cons, List.flatMap_cons, ih]
    | false =>
      rw [List.filter_cons_of_neg (by simp [hrow]), List.flatMap_cons, rowEntries_of_malformed hrow, ih]
      rfl

theorem keptEntries_filter (data : List (List Text)) :
    keptEntries (data.filter isWellFormed) = keptEntries data ++ lostEntries data := by
  have hkept : ∀ row ∈ (data.takeWhile (!stops ·)).filter isWellFormed, (!stops row) = true := by
    intro row hrow
    have hrow := (List.mem_filter.1 hrow).1
    exact List.mem_takeWhile_imp (p := (!stops ·)) hrow
  unfold keptEntries lostEntries
  rw [← flatMap_filter_wellFormed (data.takeWhile _), ← List.flatMap_append,
    ← List.takeWhile_append_of_pos hkept, ← List.filter_append, List.takeWhile_append_dropWhile]

/-- What a sheet loses by its malformed rows, compared with a sheet of the other rows: nothing if no row
stops, and else the entries behind the first row that does. The two tables are the same if and only if
these entries are there already. -/
theorem blocks_without_malformed (files : TableFiles) {s t : Text} {data : List (List Text)}
    (hs : withFeeds (decode s) = blockHeader :: data)
    (ht : withFeeds (decode t) = blockHeader :: data.filter isWellFormed) :
    blocksOf files s = Lookup.setAll (keptEntries data) ∧
    blocksOf files t = Lookup.setAll (keptEntries data ++ lostEntries data) ∧
    ((∀ row ∈ data, stops row = false) → blocksOf files s = blocksOf files t) ∧
    (blocksOf files s = blocksOf files t ↔ ∀ key ∈ (lostEntries data).map Prod.fst,
      Lookup.get? key (blocksOf files s) = Lookup.get? key (lostEntries data).reverse) := by
  have hkept : blocksOf files s = Lookup.setAll (keptEntries data) := blocks_load files hs
  have hall : blocksOf files t = Lookup.setAll (keptEntries data ++ lostEntries data) := by
    rw [← keptEntries_filter]
    exact blocks_load files ht
  rw [hkept, hall]
  refine ⟨rfl, rfl, fun hnone => ?_, Lookup.setAll_eq_setAll_append_iff⟩
  have hlost : lostEntries data = [] := by
    have hbehind : data.dropWhile (!stops ·) = [] :=
      List.dropWhile_eq_nil_iff.2 fun row hrow => by simp [hnone row hrow]
    unfold lostEntries
    rw [hbehind]
    rfl
  rw [hlost, List.append_nil]

/-- A short row with a bad data value is passed over, and one without a new name ends the table. -/
theorem blocks_without_malformed_short :
    blocksOf {}
        "id,data,block,raw_block,conversion name\n1,x\n3,0,dirt,dirt,mud\n1,0,a,b\n2,0,sand,sand,dust" =
      [(("3".toList, 0), "mud".toList), (("dirt".toList, 0), "mud".toList),
        (("minecraft:dirt".toList, 0), "mud".toList)] ∧
    blocksOf {}
        "id,data,block,raw_block,conversion name\n3,0,dirt,dirt,mud\n2,0,sand,sand,dust" =
      [(("3".toList, 0), "mud".toList), (("dirt".toList, 0), "mud".toList),
        (("minecraft:dirt".toList, 0), "mud".toList), (("2".toList, 0), "dust".toList),
        (("sand".toList, 0), "dust".toList), (("minecraft:sand".toList, 0), "dust".toList)] := by
  have hs : withFeeds (decode
        "id,data,block,raw_block,conversion name\n1,x\n3,0,dirt,dirt,mud\n1,0,a,b\n2,0,sand,sand,dust") =
      blockHeader :: [["1", "x"], ["3", "0", "dirt", "dirt", "mud"], ["1", "0", "a", "b"],
        ["2", "0", "sand", "sand", "dust"]].map (·.map String.toList) := by
    decide +kernel
  obtain ⟨hkept, hall, -⟩ := blocks_without_malformed {} hs
    (t := "id,data,block,raw_block,conversion name\n3,0,dirt,dirt,mud\n2,0,sand,sand,dust")
    (by decide +kernel)
  exact ⟨hkept.trans (by decide +kernel), hall.trans (by decide +kernel)⟩

end Table

end CommandUpgrade
