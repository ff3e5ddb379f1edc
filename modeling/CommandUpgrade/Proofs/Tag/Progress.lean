import CommandUpgrade.Proofs.Tag.Leaves

/-!
# Readers end and go forward

The readers of values, of compounds and of lists call each other on what is left of a text. Before a
value is read again a character has been passed, on malformed texts too: an opening bracket, or a name.
So calls nest at most twice as deep as there are characters left (`readsIn`), which is said with readers
that give up at a depth.

A reader stops at the end of the text, or one character behind it: behind a name without a value one
character is passed over, whether or not there is one (`readsWithin`).
-/

namespace CommandUpgrade.Tag

open Text

/-! ## Single readers -/

theorem span_le (p : Char → Bool) (s : Text) : span p s ≤ s.length :=
  (List.takeWhile_sublist p).length_le

theorem readQuoted_le (quote : Char) (s : Text) : (readQuoted quote s).2 ≤ s.length := by
  fun_induction readQuoted quote s with
  | case1 => exact Nat.le_refl 0
  | case2 => exact Nat.le_refl 1
  | case3 => exact Nat.le_refl 1
  | case4 c d r _ body n hread ih =>
    rw [hread] at ih
    simp only [List.length_cons]
    omega
  | case5 c d r => exact Nat.succ_le_succ (Nat.zero_le _)
  | case6 c d r _ _ body n hread ih =>
    rw [hread] at ih
    simp only [List.length_cons] at ih ⊢
    omega

theorem readText_cons (c : Char) (r : Text) :
    (readText (c :: r)).2 = (readQuoted c r).2 + 1 := rfl

theorem readText_le (s : Text) : (readText s).2 ≤ s.length := by
  cases s with
  | nil => exact Nat.le_refl 0
  | cons c r =>
    have := readQuoted_le c r
    rw [readText_cons, List.length_cons]
    omega

theorem readName_le {s name : Text} {n : Nat} (h : readName s = some (name, n)) : n ≤ s.length := by
  have hlength : (trimStart s).length ≤ s.length := (List.dropWhile_sublist isBlank).length_le
  unfold readName at h
  split at h
  · cases h
  · rename_i c r htrim
    rw [htrim] at hlength
    split at h
    · have hread := readText_le (c :: r)
      rw [Option.some.inj h] at hread
      exact hread.trans hlength
    · dsimp only at h
      split at h
      · cases h
      · cases h
        exact (List.takeWhile_sublist isNameChar).length_le.trans hlength

theorem numeral_le (pointSeen : Bool) (s : Text) : (numeral pointSeen s).length ≤ s.length := by
  fun_induction numeral pointSeen s <;> simp_all

theorem readNumber_bounds {s : Text} {tag : Tag} {n : Nat} (h : readNumber s = some (tag, n)) :
    0 < n ∧ n ≤ s.length := by
  unfold readNumber at h
  dsimp only at h
  generalize (if (s.head? == some '+' || s.head? == some '-') = true then 1 else 0) = sign at h
  have hle := numeral_le false (s.drop sign)
  rw [List.length_drop] at hle
  obtain ⟨-, h⟩ | ⟨hdigits, h⟩ := ite_eq_iff.1 h
  · cases h
  · obtain ⟨tag', -, heq⟩ := Option.map_eq_some_iff.1 h
    have hn := (Prod.mk.inj heq).2
    have hpos : 0 < (numeral false (s.drop sign)).length :=
      List.length_pos_iff.2 (by simpa using hdigits)
    omega

/-- A value without quotes takes a character at least, and none behind the text. -/
theorem readAtom_bounds (s : Text) :
    (readAtom s).2 ≤ s.length ∧ ((readAtom s).1 ≠ none → 0 < (readAtom s).2) := by
  have hword : ∀ w : Text, startsWith s w = true → w.length ≤ s.length :=
    fun w h => (List.isPrefixOf_iff_prefix.1 h).length_le
  unfold readAtom
  split
  · rename_i h
    exact ⟨hword _ h, fun _ => Nat.succ_pos 3⟩
  split
  · rename_i h
    exact ⟨hword _ h, fun _ => Nat.succ_pos 4⟩
  split
  · rename_i h
    exact ⟨(readNumber_bounds h).2, fun _ => (readNumber_bounds h).1⟩
  dsimp only
  split
  · exact ⟨Nat.zero_le _, fun h => absurd rfl h⟩
  · rename_i hne
    exact ⟨(List.takeWhile_sublist isWordChar).length_le,
      fun _ => List.length_pos_iff.2 (by simpa using hne)⟩

theorem ItemScan.run_le (scan : ItemScan) (s : Text) : (scan.run s).2 ≤ scan.passed + s.length := by
  fun_induction ItemScan.run scan s <;>
    simp_all [ItemScan.pass, ItemScan.next] <;> omega

theorem readItems_le (first : Option Char) (s : Text) : (readItems first s).2 ≤ s.length := by
  have h := (ItemScan.mk none first 0 1 0 false 0).run_le s
  rwa [Nat.zero_add] at h

/-! ## Where readers stop -/

/-- Readers of values and of entries stop at most one character behind the text, and a value takes a
character at least. -/
structure ReadsWithin (s : Text) : Prop where
  value_le : (readValue s).2 ≤ s.length + 1
  value_pos : (readValue s).1 ≠ none → 0 < (readValue s).2
  entries_le : ∀ acc, (readEntries acc s).2 ≤ s.length + 1

theorem readValue_within {s : Text} (ih : ∀ r : Text, r.length < s.length → ReadsWithin r) :
    (readValue s).2 ≤ s.length + 1 ∧ ((readValue s).1 ≠ none → 0 < (readValue s).2) := by
  have hspan := span_le isGap s
  rw [readValue]
  split
  · exact ⟨Nat.le_succ_of_le hspan, fun h => absurd rfl h⟩
  rename_i c r hdrop
  have hlength : s.length - span isGap s = r.length + 1 := by
    rw [← List.length_drop, hdrop, List.length_cons]
  dsimp only
  split
  · have hentries := (ih r (by omega)).entries_le []
    exact ⟨by omega, fun _ => by omega⟩
  split
  · have hitems : ((ItemScan.mk none (some '[') 0 1 0 false 0).run r).2 ≤ r.length :=
      readItems_le (some '[') r
    exact ⟨by omega, fun _ => by omega⟩
  split
  · have htext := readText_le (c :: r)
    rw [readText_cons, List.length_cons] at htext
    rw [readText_cons]
    exact ⟨by omega, fun _ => by omega⟩
  · obtain ⟨hle, hpos⟩ := readAtom_bounds (c :: r)
    rw [List.length_cons] at hle
    exact ⟨by omega, fun h => Nat.add_pos_right _ (hpos h)⟩

theorem readEntries_within {s : Text} (ih : ∀ r : Text, r.length < s.length → ReadsWithin r)
    (acc : Entries) : (readEntries acc s).2 ≤ s.length + 1 := by
  have hspan := span_le isGap s
  rw [readEntries]
  split
  · exact Nat.le_succ_of_le hspan
  rename_i c r hdrop
  have hlength : s.length - span isGap s = r.length + 1 := by
    rw [← List.length_drop, hdrop, List.length_cons]
  split
  · show span isGap s + 1 ≤ _
    omega
  split
  · exact Nat.le_succ_of_le hspan
  rename_i name n hname
  have hpos := readName_pos hname
  have hname_le := readName_le hname
  have hrest : ((c :: r).drop n).length = r.length + 1 - n := by
    rw [List.length_drop, List.length_cons]
  rw [List.length_cons] at hname_le
  dsimp only
  generalize (c :: r).drop n = rest at hrest ⊢
  have hcolon := span_le (fun c => isGap c || c == ':') rest
  generalize span (fun c => isGap c || c == ':') rest = colon at hcolon ⊢
  -- Behind the value, or the character passed over, nothing is left if that stood at the end.
  have hmore (acc : Entries) (moved : Nat) (hmoved : colon + moved ≤ rest.length + 1) :
      colon + moved + span (fun c => isGap c || c == ',') (rest.drop (colon + moved)) +
        (readEntries acc ((rest.drop (colon + moved)).drop
          (span (fun c => isGap c || c == ',') (rest.drop (colon + moved))))).2 ≤ rest.length + 1 := by
    by_cases hend : rest.length < colon + moved
    · rw [List.drop_eq_nil_of_le hend.le, List.drop_nil, readEntries_nil]
      exact hmoved
    · have hcomma := span_le (fun c => isGap c || c == ',') (rest.drop (colon + moved))
      generalize span (fun c => isGap c || c == ',') (rest.drop (colon + moved)) = comma at hcomma ⊢
      have hentries := (ih ((rest.drop (colon + moved)).drop comma)
        (by rw [List.length_drop, List.length_drop]; omega)).entries_le acc
      rw [List.length_drop, List.length_drop] at hentries
      rw [List.length_drop] at hcomma
      omega
  have hvalue := (ih (rest.drop colon) (by rw [List.length_drop]; omega)).value_le
  rw [List.length_drop] at hvalue
  cases htag : (readValue (rest.drop colon)).1 with
  | none =>
    have := hmore acc 1 (by omega)
    dsimp only
    omega
  | some tag =>
    have := hmore (Entries.set name tag acc) (readValue (rest.drop colon)).2 (by omega)
    dsimp only
    omega

theorem readsWithin (s : Text) : ReadsWithin s := by
  induction hlength : s.length using Nat.strong_induction_on generalizing s with
  | _ length ih =>
    subst hlength
    have hshorter (r : Text) (hr : r.length < s.length) : ReadsWithin r := ih r.length hr r rfl
    obtain ⟨hle, hpos⟩ := readValue_within hshorter
    exact ⟨hle, hpos, readEntries_within hshorter⟩

/-! ## How deep calls nest -/

mutual

/-- What `readValue` gives with calls nested at most so deep, if that is deep enough. -/
def readValueIn : Nat → Text → Option (Option Tag × Nat)
  | 0, _ => none
  | depth + 1, s =>
    let k := span isGap s
    match s.drop k with
    | [] => some (none, k)
    | c :: r =>
      if c = '{' then
        (readEntriesIn depth [] r).map fun read => (some (.compound read.1), k + 1 + read.2)
      else if c = '[' then
        (readItemsIn depth (some '[') r).map fun read => (some (.list read.1), k + 1 + read.2)
      else if isQuote c then some (some (.text (readText (c :: r)).1), k + (readText (c :: r)).2)
      else some ((readAtom (c :: r)).1, k + (readAtom (c :: r)).2)

/-- What `readItems` gives with calls nested at most so deep. -/
def readItemsIn : Nat → Option Char → Text → Option (List Tag × Nat)
  | 0, _, _ => none
  | depth + 1, first, s =>
    let scan := (ItemScan.mk none first 0 1 0 false 0).run s
    (scan.1.mapM fun i => readValueIn depth (s.drop i)).map fun read =>
      (read.filterMap (·.1), scan.2)

/-- What `readEntries` gives with calls nested at most so deep, each entry being a call. -/
def readEntriesIn : Nat → Entries → Text → Option (Entries × Nat)
  | 0, _, _ => none
  | depth + 1, entries, s =>
    let k := span isGap s
    match s.drop k with
    | [] => some (entries, k)
    | c :: r =>
      if c = '}' then some (entries, k + 1)
      else
        match readName (c :: r) with
        | none => some (entries, k)
        | some (name, n) =>
          let rest := (c :: r).drop n
          let colon := span (fun c => isGap c || c == ':') rest
          (readValueIn depth (rest.drop colon)).bind fun value =>
            let moved := if value.1.isSome then value.2 else 1
            let entries := value.1.elim entries fun tag => Entries.set name tag entries
            let rest := rest.drop (colon + moved)
            let comma := span (fun c => isGap c || c == ',') rest
            (readEntriesIn depth entries (rest.drop comma)).map fun more =>
              (more.1, k + n + colon + moved + comma + more.2)

end

/-- So deep a nesting is enough for what is left of the text. -/
structure ReadsIn (depth : Nat) : Prop where
  value : ∀ s : Text, 2 * s.length < depth → readValueIn depth s = some (readValue s)
  items : ∀ (first : Option Char) (s : Text), 2 * s.length + 1 < depth →
    readItemsIn depth first s = some (readItems first s)
  entries : ∀ (acc : Entries) (s : Text), 2 * s.length < depth →
    readEntriesIn depth acc s = some (readEntries acc s)

theorem readValueIn_succ {depth : Nat} (ih : ReadsIn depth) {s : Text}
    (h : 2 * s.length < depth + 1) : readValueIn (depth + 1) s = some (readValue s) := by
  rw [readValue]
  split
  · rename_i hdrop
    simp only [readValueIn, hdrop]
  rename_i c r hdrop
  have hlt := length_of_drop_eq_cons hdrop
  simp only [readValueIn, hdrop]
  split_ifs
  · rw [ih.entries [] r (by omega)]
    rfl
  · rw [ih.items (some '[') r (by omega)]
    rfl
  · rfl
  · rfl

theorem readItemsIn_succ {depth : Nat} (ih : ReadsIn depth) (first : Option Char) {s : Text}
    (h : 2 * s.length + 1 < depth + 1) : readItemsIn (depth + 1) first s = some (readItems first s) := by
  have hvalues : (fun i => readValueIn depth (s.drop i)) = fun i => pure (readValue (s.drop i)) := by
    funext i
    exact ih.value _ (by rw [List.length_drop]; omega)
  rw [readItemsIn, hvalues, List.mapM_pure]
  unfold readItems
  simp only [Option.pure_def, Option.map_some, List.filterMap_map, Function.comp_def]

theorem readEntriesIn_succ {depth : Nat} (ih : ReadsIn depth) (acc : Entries) {s : Text}
    (h : 2 * s.length < depth + 1) :
    readEntriesIn (depth + 1) acc s = some (readEntries acc s) := by
  -- The reader is split first: its cases carry the equations that open the bounded one.
  rw [readEntries]
  split
  · rename_i hdrop
    simp only [readEntriesIn, hdrop]
  rename_i c r hdrop
  have hlt := length_of_drop_eq_cons hdrop
  split
  · rename_i hclose
    simp only [readEntriesIn, hdrop, if_pos hclose]
  rename_i hclose
  split
  · rename_i hname
    simp only [readEntriesIn, hdrop, if_neg hclose, hname]
  rename_i name n hname
  have hpos := readName_pos hname
  have hrest : ((c :: r).drop n).length < s.length := by
    rw [List.length_drop, List.length_cons]
    omega
  simp only [readEntriesIn, hdrop, if_neg hclose, hname]
  generalize (c :: r).drop n = rest at hrest ⊢
  generalize span (fun c => isGap c || c == ':') rest = colon
  have hmore (acc : Entries) (k : Nat) := ih.entries acc (rest.drop k) (by rw [List.length_drop]; omega)
  rw [ih.value (rest.drop colon) (by rw [List.length_drop]; omega)]
  cases htag : (readValue (rest.drop colon)).1 with
  | none => simp [htag, hmore, List.drop_drop]
  | some tag => simp [htag, hmore, List.drop_drop]

theorem readsIn (depth : Nat) : ReadsIn depth := by
  induction depth with
  | zero => exact ⟨fun _ h => absurd h (Nat.not_lt_zero _), fun _ _ h => absurd h (Nat.not_lt_zero _),
      fun _ _ h => absurd h (Nat.not_lt_zero _)⟩
  | succ depth ih => exact ⟨fun _ h => readValueIn_succ ih h, fun first _ h => readItemsIn_succ ih first h,
      fun acc _ h => readEntriesIn_succ ih acc h⟩

/-! ## Positions -/

/-- The readers that call each other. -/
inductive Reader
  | value
  | compound
  | list

namespace Reader

/-- What a reader gives from a position of a text on, and the position where it stops. The character at
the position is taken for the opening one of a compound or a list, whatever it is. -/
def run (text : Text) (start : Nat) : Reader → Option Tag × Nat
  | value =>
    let read := readValue (text.drop start)
    (read.1, start + read.2)
  | compound =>
    let read := readEntries [] (text.drop (start + 1))
    (some (.compound read.1), start + 1 + read.2)
  | list =>
    let read := readItems text[start]? (text.drop (start + 1))
    (some (.list read.1), start + 1 + read.2)

/-- The same with calls nested at most so deep. -/
def runIn (depth : Nat) (text : Text) (start : Nat) : Reader → Option (Option Tag × Nat)
  | value => (readValueIn depth (text.drop start)).map fun read => (read.1, start + read.2)
  | compound =>
    (readEntriesIn depth [] (text.drop (start + 1))).map fun read =>
      (some (.compound read.1), start + 1 + read.2)
  | list =>
    (readItemsIn depth text[start]? (text.drop (start + 1))).map fun read =>
      (some (.list read.1), start + 1 + read.2)

/-- From every position of a text every reader ends, with calls nested at most twice as deep as there are
characters left, and two more. It stops at most one character behind the text, never in front of where it
started, and behind that if there is a value. -/
theorem run_progress (reader : Reader) (text : Text) (start : Nat) (h : start ≤ text.length) :
    (∀ depth, 2 * (text.length - start) + 2 ≤ depth →
      reader.runIn depth text start = some (reader.run text start)) ∧
    start ≤ (reader.run text start).2 ∧ (reader.run text start).2 ≤ text.length + 1 ∧
    ((reader.run text start).1 ≠ none → start < (reader.run text start).2) := by
  have hlength (k : Nat) : (text.drop k).length = text.length - k := List.length_drop
  cases reader with
  | value =>
    obtain ⟨hle, hpos, -⟩ := readsWithin (text.drop start)
    rw [hlength] at hle
    refine ⟨fun depth hdepth => ?_, Nat.le_add_right _ _, ?_, fun hne => ?_⟩
    · rw [runIn, (readsIn depth).value _ (by rw [hlength]; omega)]
      rfl
    · show start + _ ≤ _
      omega
    · exact Nat.lt_add_of_pos_right (hpos hne)
  | compound =>
    have hle := (readsWithin (text.drop (start + 1))).entries_le []
    rw [hlength] at hle
    refine ⟨fun depth hdepth => ?_, ?_⟩
    · rw [runIn, (readsIn depth).entries _ _ (by rw [hlength]; omega)]
      rfl
    · show start ≤ start + 1 + _ ∧ start + 1 + _ ≤ _ ∧ (_ → start < start + 1 + _)
      by_cases hend : start = text.length
      · rw [List.drop_eq_nil_of_le (by omega), readEntries_nil]
        exact ⟨by omega, by omega, fun _ => by omega⟩
      · exact ⟨by omega, by omega, fun _ => by omega⟩
  | list =>
    have hle := readItems_le text[start]? (text.drop (start + 1))
    rw [hlength] at hle
    refine ⟨fun depth hdepth => ?_, ?_⟩
    · rw [runIn, (readsIn depth).items _ _ (by rw [hlength]; omega)]
      rfl
    · show start ≤ start + 1 + _ ∧ start + 1 + _ ≤ _ ∧ (_ → start < start + 1 + _)
      exact ⟨by omega, by omega, fun _ => by omega⟩

/-- A compound that is not closed ends behind the text if its last name has no value. -/
theorem run_progress_open :
    compound.run "\x7ba".toList 0 = (some (.compound []), "\x7ba".toList.length + 1) ∧
    compound.runIn 6 "\x7ba".toList 0 = some (some (.compound []), "\x7ba".toList.length + 1) ∧
    0 < (compound.run "\x7ba".toList 0).2 := by
  have hname : readName ['a'] = some (['a'], 1) := by decide +kernel
  have hvalue : readValue [] = (none, 0) := by rw [readValue]; rfl
  have hentries : readEntries [] ['a'] = ([], 2) := by
    rw [readEntries_of_readName (by decide) (by decide) hname rfl rfl hvalue]
    simp [span, readEntries_nil]
  have hrun : compound.run "\x7ba".toList 0 = (some (.compound []), "\x7ba".toList.length + 1) := by
    show (some (Tag.compound (readEntries [] ['a']).1), 0 + 1 + (readEntries [] ['a']).2) = _
    rw [hentries]
    rfl
  obtain ⟨hdepth, -, -, hmoves⟩ := run_progress .compound "\x7ba".toList 0 (Nat.zero_le _)
  refine ⟨hrun, (hdepth 6 (by decide)).trans (congrArg some hrun), hmoves ?_⟩
  rw [hrun]
  exact Option.some_ne_none _

end Reader

end CommandUpgrade.Tag
