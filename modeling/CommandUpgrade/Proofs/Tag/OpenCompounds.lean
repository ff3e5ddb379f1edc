import CommandUpgrade.Proofs.Tag.Leaves

/-!
# Open compounds

The reader of a compound goes on, entry after entry, until a brace closes it. `entriesFrom` is that
reader from behind an entry on, with the text it leaves; `finishOpen` goes on reading when several
compounds are open, the innermost first. An entry, a closing brace and a name without a value are
each one step.
-/

namespace CommandUpgrade.Tag

open Text

/-- What may stand between entries. -/
def isSeparator (c : Char) : Bool := isGap c || c == ','

/-- The entries from behind an entry on, added to those before, and the text that is left. -/
def entriesFrom (acc : Entries) (s : Text) : Entries × Text :=
  let s := s.dropWhile isSeparator
  ((readEntries acc s).1, s.drop (readEntries acc s).2)

/-- The entries of the outermost compound when the open ones are read to their ends. Each open
compound is the entries it has and the name of the compound that is open in it. -/
def finishOpen (acc : Entries) : List (Entries × Text) → Text → Entries
  | [], s => (entriesFrom acc s).1
  | (outer, name) :: opens, s =>
    finishOpen (outer.set name (.compound (entriesFrom acc s).1)) opens (entriesFrom acc s).2

theorem finishOpen_congr {acc acc' : Entries} {s s' : Text}
    (h : entriesFrom acc s = entriesFrom acc' s') (opens : List (Entries × Text)) :
    finishOpen acc opens s = finishOpen acc' opens s' := by
  cases opens with
  | nil => rw [finishOpen, finishOpen, h]
  | cons outer opens => rw [finishOpen, finishOpen, h]

/-! ## Ends -/

theorem entriesFrom_cons {c : Char} (h : isSeparator c = false) (acc : Entries) (s : Text) :
    entriesFrom acc (c :: s) =
      ((readEntries acc (c :: s)).1, (c :: s).drop (readEntries acc (c :: s)).2) := by
  unfold entriesFrom
  rw [List.dropWhile_cons_of_neg (by rw [h]; exact Bool.false_ne_true)]

theorem entriesFrom_comma (acc : Entries) (s : Text) :
    entriesFrom acc (',' :: s) = entriesFrom acc s := by
  unfold entriesFrom
  rw [List.dropWhile_cons_of_pos (by decide)]

theorem entriesFrom_nil (acc : Entries) : entriesFrom acc [] = (acc, []) := by
  unfold entriesFrom
  rw [List.dropWhile_nil]
  dsimp only
  rw [readEntries_nil, List.drop_nil]

theorem entriesFrom_close (acc : Entries) (s : Text) : entriesFrom acc ('}' :: s) = (acc, s) := by
  rw [entriesFrom_cons (by decide), readEntries_close]
  rfl

/-- A bracket or an opening brace ends the entries and is left. -/
theorem entriesFrom_bracket {c : Char} (h : c = '[' ∨ c = ']' ∨ c = '{') (acc : Entries) (s : Text) :
    entriesFrom acc (c :: s) = (acc, c :: s) := by
  have hname : readName (c :: s) = none := by
    rcases h with rfl | rfl | rfl <;> exact readName_eq_none (by decide) (by decide) (by decide)
  rw [entriesFrom_cons, readEntries_of_readName_none _ _ hname]
  · rfl
  all_goals rcases h with rfl | rfl | rfl <;> decide

/-- When nothing more can be read, the open compounds stay as they are. -/
theorem finishOpen_of_stuck {s : Text} (h : ∀ acc, entriesFrom acc s = (acc, s)) (acc : Entries)
    (opens : List (Entries × Text)) :
    finishOpen acc opens s =
      opens.foldl (fun inner (outer, name) => outer.set name (.compound inner)) acc := by
  induction opens generalizing acc with
  | nil => rw [finishOpen, h]; rfl
  | cons outer opens ih => rw [finishOpen, h, List.foldl_cons]; exact ih _

/-! ## Entries -/

/-- A text that is read as a name, whatever follows the character behind it. -/
structure ReadsAsName (w name : Text) (behind : Char) : Prop where
  read : ∀ rest, readName (w ++ behind :: rest) = some (name, w.length)
  head : ∀ c ∈ w.head?, isNameChar c = true ∨ c = '"'
  filled : w ≠ []

theorem ReadsAsName.exists_cons {w name : Text} {behind : Char} (h : ReadsAsName w name behind) :
    ∃ c r, w = c :: r ∧ isGap c = false ∧ isSeparator c = false ∧ c ≠ '}' := by
  obtain ⟨c, r, rfl⟩ := List.exists_cons_of_ne_nil h.filled
  refine ⟨c, r, rfl, ?_⟩
  rcases h.head c rfl with hc | rfl
  · refine ⟨isGap_of_isNameChar hc, ?_, ne_of_isNameChar hc (by decide)⟩
    unfold isSeparator
    rw [isGap_of_isNameChar hc, beq_eq_false_iff_ne.2 (ne_of_isNameChar hc (by decide))]
    rfl
  · exact ⟨by decide, by decide, by decide⟩

/-- Behind a name the entries go on, with an entry if a value follows and else one character on. -/
theorem entriesFrom_name {w name rest : Text} {behind : Char} (hw : ReadsAsName w name behind)
    {colon m : Nat} (hspan : span (fun c => isGap c || c == ':') (behind :: rest) = colon)
    {tag : Option Tag} (hvalue : readValue ((behind :: rest).drop colon) = (tag, m)) (acc : Entries) :
    entriesFrom acc (w ++ behind :: rest) =
      let new := tag.elim (acc, 1) fun tag => (acc.set name tag, m)
      entriesFrom new.1 ((behind :: rest).drop (colon + new.2)) := by
  have hname := hw.read rest
  obtain ⟨d, q, rfl, hgap, hsep, hclose⟩ := hw.exists_cons
  rw [List.cons_append] at hname ⊢
  have hrest : (d :: (q ++ behind :: rest)).drop (d :: q).length = behind :: rest := by
    rw [← List.cons_append, List.drop_left]
  rw [entriesFrom_cons hsep, readEntries_of_readName hgap hclose hname hrest hspan hvalue acc]
  dsimp only
  generalize tag.elim (acc, 1) (fun tag => (acc.set name tag, m)) = new
  have hdrop : ∀ k, (d :: (q ++ behind :: rest)).drop ((d :: q).length + (colon + new.2 + k)) =
      ((behind :: rest).drop (colon + new.2)).drop k := by
    intro k
    rw [← List.drop_drop, hrest, List.drop_drop]
  have hsum : ∀ n comma more : Nat,
      n + colon + new.2 + comma + more = n + (colon + new.2 + (comma + more)) := by omega
  rw [show (fun c => isGap c || c == ',') = isSeparator from rfl, drop_span, hsum, hdrop]
  generalize (behind :: rest).drop (colon + new.2) = left
  unfold entriesFrom
  dsimp only
  rw [← List.drop_drop, drop_span]

/-- A name, a colon and a value make an entry. -/
theorem entriesFrom_entry {w name : Text} (hw : ReadsAsName w name ':') {c : Char} {r : Text}
    (hc : isGap c = false) (hcolon : c ≠ ':') {tag : Tag} {m : Nat}
    (hvalue : readValue (c :: r) = (some tag, m)) (acc : Entries) :
    entriesFrom acc (w ++ ':' :: c :: r) = entriesFrom (acc.set name tag) ((c :: r).drop m) := by
  have hspan : span (fun c => isGap c || c == ':') (':' :: c :: r) = 1 := by
    unfold span
    rw [List.takeWhile_cons_of_pos (by decide), List.takeWhile_cons_of_neg (by simp [hc, hcolon])]
    rfl
  rw [entriesFrom_name hw hspan hvalue]
  dsimp only [Option.elim]
  rw [Nat.add_comm 1 m, List.drop_succ_cons]

/-- A name without a value makes no entry, and the character behind it is passed over. -/
theorem entriesFrom_word {w name : Text} {behind : Char}
    (hbehind : behind = ',' ∨ behind = '}' ∨ behind = ']') (hw : ReadsAsName w name behind)
    (acc : Entries) (s : Text) : entriesFrom acc (w ++ behind :: s) = entriesFrom acc s := by
  have hspan : span (fun c => isGap c || c == ':') (behind :: s) = 0 :=
    span_cons_of_not (by rcases hbehind with rfl | rfl | rfl <;> decide) s
  rw [entriesFrom_name hw hspan (readValue_ending hbehind s)]
  rfl

/-! ## Steps -/

theorem finishOpen_comma (acc : Entries) (opens : List (Entries × Text)) (s : Text) :
    finishOpen acc opens (',' :: s) = finishOpen acc opens s :=
  finishOpen_congr (entriesFrom_comma acc s) opens

theorem finishOpen_word {w name : Text} {behind : Char}
    (hbehind : behind = ',' ∨ behind = '}' ∨ behind = ']') (hw : ReadsAsName w name behind)
    (acc : Entries) (opens : List (Entries × Text)) (s : Text) :
    finishOpen acc opens (w ++ behind :: s) = finishOpen acc opens s :=
  finishOpen_congr (entriesFrom_word hbehind hw acc s) opens

theorem finishOpen_entry {w name : Text} (hw : ReadsAsName w name ':') {c : Char} {r : Text}
    (hc : isGap c = false) (hcolon : c ≠ ':') {tag : Tag} {m : Nat}
    (hvalue : readValue (c :: r) = (some tag, m)) (acc : Entries) (opens : List (Entries × Text)) :
    finishOpen acc opens (w ++ ':' :: c :: r) =
      finishOpen (acc.set name tag) opens ((c :: r).drop m) :=
  finishOpen_congr (entriesFrom_entry hw hc hcolon hvalue acc) opens

/-- A compound in an entry is opened. -/
theorem finishOpen_enter {w name : Text} (hw : ReadsAsName w name ':') {r : Text}
    (hr : r.dropWhile isSeparator = r) (acc : Entries) (opens : List (Entries × Text)) :
    finishOpen acc opens (w ++ ':' :: '{' :: r) = finishOpen [] ((acc, name) :: opens) r := by
  have hinner : entriesFrom [] r = ((readEntries [] r).1, r.drop (readEntries [] r).2) := by
    unfold entriesFrom; rw [hr]
  rw [finishOpen_entry hw (by decide) (by decide) (readValue_compound r), finishOpen, hinner,
    Nat.add_comm 1, List.drop_succ_cons]

end CommandUpgrade.Tag
