import CommandUpgrade.Proofs.Digits
import CommandUpgrade.Tag.Reader
import CommandUpgrade.Tag.Writer

/-!
# Reading what is written: texts, names and numbers

Each reader of a single part, on a text that starts with what the writer makes of the part. The text
that follows is arbitrary after a closing quote; after a name or a number it must not go on with
characters that could belong to it.
-/

namespace CommandUpgrade.Tag

open Text Number

/-! ## Characters -/

/-- A character that neither quotes, nests nor separates. -/
def IsInert (c : Char) : Prop := isNameChar c = true ∨ c = ':'

theorem isNameChar_of_isBlank {c : Char} (h : isBlank c = true) : isNameChar c = false := by
  have hc := Char.ofNat_toNat c
  unfold isBlank CharTable.holds blankTable at h
  simp only [List.any_cons, List.any_nil, Bool.or_false, Bool.or_eq_true, Bool.and_eq_true,
    decide_eq_true_eq] at h
  rw [← hc]
  generalize c.toNat = n at h
  rcases h with h | h | h | h | h | h | h | h | h | h <;> obtain ⟨hlo, hhi⟩ := h <;>
    interval_cases n <;> decide +kernel

theorem isBlank_of_isNameChar {c : Char} (h : isNameChar c = true) : isBlank c = false := by
  by_contra hb
  rw [isNameChar_of_isBlank (Bool.eq_true_of_not_eq_false hb)] at h
  exact Bool.false_ne_true h

theorem isNameChar_of_isDigit {c : Char} (h : c.isDigit) : isNameChar c = true := by
  have hlt : c.toNat < 0x80 := by have := toNat_bounds_of_isDigit h; omega
  unfold isNameChar isAlphanumeric Char.isAlphanum
  rw [if_pos hlt, h]
  simp

theorem ne_of_isNameChar {c d : Char} (h : isNameChar c = true) (hd : isNameChar d = false) :
    c ≠ d := by
  rintro rfl
  rw [h] at hd
  exact absurd hd (by decide)

theorem IsInert.ne {c d : Char} (h : IsInert c) (hd : isNameChar d = false) (hcolon : d ≠ ':') :
    c ≠ d := by
  rcases h with h | rfl
  · exact ne_of_isNameChar h hd
  · exact hcolon.symm

theorem isQuote_of_isNameChar {c : Char} (h : isNameChar c = true) : isQuote c = false := by
  unfold isQuote
  rw [beq_eq_false_iff_ne.2 (ne_of_isNameChar h (by decide)),
    beq_eq_false_iff_ne.2 (ne_of_isNameChar h (by decide))]
  rfl

theorem isGap_of_isNameChar {c : Char} (h : isNameChar c = true) : isGap c = false := by
  unfold isGap
  rw [beq_eq_false_iff_ne.2 (ne_of_isNameChar h (by decide)),
    beq_eq_false_iff_ne.2 (ne_of_isNameChar h (by decide)),
    beq_eq_false_iff_ne.2 (ne_of_isNameChar h (by decide))]
  rfl

/-! ## Where a text stops -/

/-- Whether a text starts with a character that ends every value. -/
def Stops (s : Text) : Prop := ∀ c ∈ s.head?, c = ',' ∨ c = '}' ∨ c = ']'

theorem stops_nil : Stops [] := by
  intro c hc
  cases hc

theorem stops_cons {c : Char} (h : c = ',' ∨ c = '}' ∨ c = ']') (s : Text) : Stops (c :: s) := by
  intro d hd
  cases hd
  exact h

/-- A class without the ending characters has none in front of a text that stops. -/
theorem Stops.takeWhile_append {p : Char → Bool} {s rest : Text} (hrest : Stops rest)
    (hs : ∀ c ∈ s, p c = true) (hcomma : p ',' = false) (hbrace : p '}' = false)
    (hbracket : p ']' = false) : (s ++ rest).takeWhile p = s := by
  rw [List.takeWhile_append_of_pos hs]
  cases rest with
  | nil => rw [List.takeWhile_nil, List.append_nil]
  | cons c r =>
    have hc : p c = false := by rcases hrest c rfl with rfl | rfl | rfl <;> assumption
    rw [List.takeWhile_cons_of_neg (by rw [hc]; exact Bool.false_ne_true), List.append_nil]

/-! ## Quoted texts -/

/-- How a character is written inside quotes. -/
def escape (c : Char) : Text :=
  if c = '\\' then ['\\', '\\'] else if c = '"' then ['\\', '"'] else [c]

theorem quoted_eq (s : Text) : quoted s = '"' :: (s.flatMap escape ++ ['"']) := rfl

theorem escape_of_plain {c : Char} (hb : c ≠ '\\') (hq : c ≠ '"') : escape c = [c] := by
  unfold escape; rw [if_neg hb, if_neg hq]

theorem escape_of_mark {c : Char} (h : c = '\\' ∨ c = '"') : escape c = ['\\', c] := by
  rcases h with rfl | rfl <;> rfl

theorem readQuoted_quote (rest : Text) : readQuoted '"' ('"' :: rest) = ([], 1) := by
  cases rest with
  | nil => rfl
  | cons d r => unfold readQuoted; rw [if_neg (by simp), if_pos rfl]

theorem readQuoted_escaped {d : Char} (hd : d = '\\' ∨ d = '"') (s : Text) :
    readQuoted '"' ('\\' :: d :: s) =
      (d :: (readQuoted '"' s).1, (readQuoted '"' s).2 + 2) := by
  rw [readQuoted, if_pos ⟨rfl, hd⟩]

theorem readQuoted_plain {c : Char} (hb : c ≠ '\\') (hq : c ≠ '"') (s : Text) :
    readQuoted '"' (c :: s) = (c :: (readQuoted '"' s).1, (readQuoted '"' s).2 + 1) := by
  cases s with
  | nil => rw [readQuoted, readQuoted, if_neg hq]
  | cons d r => rw [readQuoted, if_neg (fun h => hb h.1), if_neg hq]

/-- One step of the reader passes what one character is written as. -/
theorem readQuoted_escape (c : Char) (s : Text) :
    readQuoted '"' (escape c ++ s) =
      (c :: (readQuoted '"' s).1, (escape c).length + (readQuoted '"' s).2) := by
  by_cases hmark : c = '\\' ∨ c = '"'
  · rw [escape_of_mark hmark, List.cons_append, List.singleton_append, readQuoted_escaped hmark,
      Nat.add_comm]
    rfl
  · obtain ⟨hslash, hquote⟩ := not_or.1 hmark
    rw [escape_of_plain hslash hquote, List.singleton_append, readQuoted_plain hslash hquote,
      Nat.add_comm]
    rfl

/-- A whole text is passed step by step: behind it the reader is where it would start on the rest alone. -/
theorem readQuoted_flatMap_escape (s rest : Text) :
    readQuoted '"' (s.flatMap escape ++ rest) =
      (s ++ (readQuoted '"' rest).1, (s.flatMap escape).length + (readQuoted '"' rest).2) := by
  induction s with
  | nil => rw [List.flatMap_nil, List.nil_append, List.nil_append, List.length_nil, Nat.zero_add]
  | cons c r ih =>
    rw [List.flatMap_cons, List.append_assoc, readQuoted_escape, ih, List.length_append, Nat.add_assoc,
      List.cons_append]

theorem length_quoted (s : Text) : (quoted s).length = (s.flatMap escape).length + 2 := by
  rw [quoted_eq, List.length_cons, List.length_append, List.length_singleton]

/-- Reading gives the text back, whatever follows the closing quote. -/
theorem readText_quoted (s rest : Text) :
    readText (quoted s ++ rest) = (s, (quoted s).length) := by
  rw [length_quoted, quoted_eq, List.cons_append, List.append_assoc, List.singleton_append, readText,
    readQuoted_flatMap_escape, readQuoted_quote, List.append_nil]

/-! ## Names -/

theorem readName_cons {c : Char} {r : Text} (h : isBlank c = false) :
    readName (c :: r) =
      if isQuote c then some (readText (c :: r))
      else if ((c :: r).takeWhile isNameChar).isEmpty then none
      else some ((c :: r).takeWhile isNameChar, ((c :: r).takeWhile isNameChar).length) := by
  unfold readName trimStart stripStart
  rw [List.dropWhile_cons_of_neg (by rw [h]; exact Bool.false_ne_true)]

/-- No name starts with a bracket, a brace or a comma. -/
theorem readName_eq_none {c : Char} {r : Text} (hblank : isBlank c = false)
    (hquote : isQuote c = false) (hname : isNameChar c = false) : readName (c :: r) = none := by
  rw [readName_cons hblank, if_neg (by rw [hquote]; exact Bool.false_ne_true),
    List.takeWhile_cons_of_neg (by rw [hname]; exact Bool.false_ne_true)]
  rfl

theorem readName_quoted (s rest : Text) :
    readName (quoted s ++ rest) = some (s, (quoted s).length) := by
  have h := readText_quoted s rest
  rw [quoted_eq, List.cons_append] at h ⊢
  rw [readName_cons (by decide), if_pos (by decide), h]

/-- A bare word is read as a name up to the first character that is none of a name. -/
theorem readName_bare {s rest : Text} (hs : ∀ c ∈ s, isNameChar c = true) (hne : s ≠ [])
    (hrest : ∀ c ∈ rest.head?, isNameChar c = false) :
    readName (s ++ rest) = some (s, s.length) := by
  obtain ⟨c, r, rfl⟩ := List.exists_cons_of_ne_nil hne
  have hc := hs c List.mem_cons_self
  have hword : (c :: r ++ rest).takeWhile isNameChar = c :: r := by
    rw [List.takeWhile_append_of_pos hs]
    cases rest with
    | nil => rw [List.takeWhile_nil, List.append_nil]
    | cons d rest =>
      rw [List.takeWhile_cons_of_neg (by rw [hrest d rfl]; exact Bool.false_ne_true),
        List.append_nil]
  rw [List.cons_append] at hword ⊢
  rw [readName_cons (isBlank_of_isNameChar hc),
    if_neg (by rw [isQuote_of_isNameChar hc]; exact Bool.false_ne_true), hword, if_neg (by simp)]

theorem isNameChar_of_isPlainName {name : Text} (h : isPlainName name = true) :
    (∀ c ∈ name, isNameChar c = true) ∧ name ≠ [] := by
  unfold isPlainName allAlphanumeric at h
  rw [Bool.and_eq_true, Bool.and_eq_true, Bool.not_eq_true'] at h
  obtain ⟨⟨hne, hall⟩, -⟩ := h
  refine ⟨fun c hc => ?_, by rintro rfl; exact absurd hne (by decide)⟩
  unfold isNameChar
  by_cases hmark : (c == '_' || c == '-' || c == '.') = true
  · grind
  · have hkept : c ∈ name.filter fun c => !(c == '_' || c == '-' || c == '.') :=
      List.mem_filter.2 ⟨hc, by simpa using hmark⟩
    rw [List.all_eq_true.1 hall c hkept]
    rfl

/-- A written name is read back, if a colon follows. -/
theorem readName_writeName (name rest : Text) :
    readName (writeName name ++ ':' :: rest) = some (name, (writeName name).length) := by
  unfold writeName
  by_cases h : isPlainName name = true
  · rw [if_pos h]
    obtain ⟨hall, hne⟩ := isNameChar_of_isPlainName h
    exact readName_bare hall hne (by intro c hc; cases hc; decide)
  · rw [if_neg h]
    exact readName_quoted name _

/-! ## Single values -/

theorem startsWith_cons_eq_false {c d : Char} (h : c ≠ d) (s start : Text) :
    startsWith (c :: s) (d :: start) = false := by
  unfold startsWith
  rw [List.isPrefixOf_cons_cons, beq_eq_false_iff_ne.2 h.symm, Bool.false_and]

/-- A numeral goes up to the first character that is neither a digit nor a point. -/
theorem numeral_digits {s rest : Text} (hs : ∀ c ∈ s, c.isDigit) (seen : Bool)
    (hrest : ∀ c ∈ rest.head?, Text.isDigit c = false ∧ c ≠ '.') :
    numeral seen (s ++ rest) = s := by
  induction s with
  | nil =>
    cases rest with
    | nil => rfl
    | cons c r =>
      obtain ⟨hdigit, hpoint⟩ := hrest c rfl
      rw [List.nil_append, numeral, if_neg (by rw [hdigit]; exact Bool.false_ne_true),
        if_neg (by simp [hpoint])]
  | cons c r ih =>
    rw [List.cons_append, numeral, if_pos (isDigit_of_isDigit (hs c List.mem_cons_self)),
      ih fun d hd => hs d (List.mem_cons_of_mem c hd)]

theorem numeralValue?_of_isDigit {s : Text} (hs : ∀ c ∈ s, c.isDigit) (hne : s ≠ []) :
    numeralValue? s = if s.length ≤ digitLimit then some (.int (digitsValue s)) else none := by
  have hpoint : s.contains '.' = false := by
    rw [List.contains_eq_mem, decide_eq_false_iff_not]
    intro h
    exact absurd (hs '.' h) (by decide)
  unfold numeralValue?
  rw [if_neg (by rw [hpoint]; exact Bool.false_ne_true), readInt_of_isDigit hs hne]
  by_cases h : s.length ≤ digitLimit
  · rw [if_pos h, if_neg (by omega)]
  · rw [if_neg h, if_pos (by omega)]

theorem isWordChar_of_isNameChar {c : Char} (h : isNameChar c = true) : isWordChar c = true := by
  unfold isWordChar; rw [h]; rfl

section Signed

variable {sign digits : Text} (hsign : sign = [] ∨ sign = ['-']) (hdigits : ∀ c ∈ digits, c.isDigit)
  (hne : digits ≠ [])

include hsign hdigits hne

/-- What digits behind a sign begin with. -/
theorem exists_signed_eq_cons :
    ∃ c r, sign ++ digits = c :: r ∧ isNameChar c = true ∧ c ≠ 't' ∧ c ≠ 'f' := by
  rcases hsign with rfl | rfl
  · obtain ⟨d, r, rfl⟩ := List.exists_cons_of_ne_nil hne
    have hd := hdigits d List.mem_cons_self
    refine ⟨d, r, rfl, isNameChar_of_isDigit hd, ?_, ?_⟩
    · rintro rfl
      exact absurd hd (by decide)
    · rintro rfl
      exact absurd hd (by decide)
  · exact ⟨'-', digits, rfl, by decide, by decide, by decide⟩

/-- A minus sign is passed over. -/
theorem readNumber_signed {rest : Text}
    (hrest : ∀ c ∈ rest.head?, Text.isDigit c = false ∧ c ≠ '.') :
    readNumber (sign ++ (digits ++ rest)) =
      if digits.length ≤ digitLimit then some (.int (digitsValue digits), (sign ++ digits).length)
      else none := by
  have hnumeral := numeral_digits hdigits false hrest
  have hlength : (if (sign ++ (digits ++ rest)).head? == some '+' ||
      (sign ++ (digits ++ rest)).head? == some '-' then 1 else 0) = sign.length := by
    rcases hsign with rfl | rfl
    · obtain ⟨d, r, rfl⟩ := List.exists_cons_of_ne_nil hne
      have hd := hdigits d List.mem_cons_self
      have hplus : d ≠ '+' := by rintro rfl; exact absurd hd (by decide)
      have hminus : d ≠ '-' := by rintro rfl; exact absurd hd (by decide)
      simp [hplus, hminus]
    · rfl
  unfold readNumber
  rw [hlength]
  dsimp only
  rw [List.drop_left, hnumeral, if_neg (by simp [hne]), numeralValue?_of_isDigit hdigits hne,
    List.length_append]
  split_ifs <;> rfl

/-- A number with letters behind it: the letters are left over, unless there are so many digits
that the whole is taken for a word. -/
theorem readAtom_signed {letters rest : Text}
    (hletters : ∀ c ∈ letters, isNameChar c = true ∧ Text.isDigit c = false ∧ c ≠ '.')
    (hrest : Stops rest) :
    readAtom (sign ++ (digits ++ (letters ++ rest))) =
      if digits.length ≤ digitLimit then (some (.int (digitsValue digits)), (sign ++ digits).length)
      else (some (.text (sign ++ (digits ++ letters))), (sign ++ (digits ++ letters)).length) := by
  obtain ⟨c, r, hstart, -, ht, hf⟩ := exists_signed_eq_cons hsign hdigits hne
  have htrue : startsWith (sign ++ (digits ++ (letters ++ rest))) "true".toList = false := by
    rw [← List.append_assoc, hstart]
    exact startsWith_cons_eq_false ht _ _
  have hfalse : startsWith (sign ++ (digits ++ (letters ++ rest))) "false".toList = false := by
    rw [← List.append_assoc, hstart]
    exact startsWith_cons_eq_false hf _ _
  have hafter : ∀ c ∈ (letters ++ rest).head?, Text.isDigit c = false ∧ c ≠ '.' := by
    intro c hc
    cases letters with
    | nil => rcases hrest c hc with rfl | rfl | rfl <;> decide
    | cons l ls =>
      obtain rfl : l = c := by simpa using hc
      exact (hletters l List.mem_cons_self).2
  have hword : (sign ++ (digits ++ (letters ++ rest))).takeWhile isWordChar =
      sign ++ (digits ++ letters) := by
    rw [← List.append_assoc digits, ← List.append_assoc]
    refine hrest.takeWhile_append (fun c hc => ?_) (by decide) (by decide) (by decide)
    rcases List.mem_append.1 hc with hc | hc
    · rcases hsign with rfl | rfl
      · cases hc
      · rw [List.mem_singleton.1 hc]
        decide
    · rcases List.mem_append.1 hc with hc | hc
      · exact isWordChar_of_isNameChar (isNameChar_of_isDigit (hdigits c hc))
      · exact isWordChar_of_isNameChar (hletters c hc).1
  unfold readAtom
  rw [if_neg (by rw [htrue]; exact Bool.false_ne_true),
    if_neg (by rw [hfalse]; exact Bool.false_ne_true),
    readNumber_signed hsign hdigits hne hafter, hword]
  by_cases h : digits.length ≤ digitLimit
  · rw [if_pos h, if_pos h]
  · rw [if_neg h, if_neg h]
    dsimp only
    rw [if_neg (by simp [hne])]

end Signed

theorem readAtom_ofNat (n : Nat) {letters rest : Text}
    (hletters : ∀ c ∈ letters, isNameChar c = true ∧ Text.isDigit c = false ∧ c ≠ '.')
    (hrest : Stops rest) :
    readAtom (ofNat n ++ (letters ++ rest)) =
      if n < 10 ^ digitLimit then (some (.int n), (ofNat n).length)
      else (some (.text (ofNat n ++ letters)), (ofNat n ++ letters).length) := by
  have hread := readAtom_signed (Or.inl rfl) (fun c => isDigit_of_mem_ofNat) (ofNat_ne_nil n)
    hletters hrest
  rw [digitsValue_ofNat] at hread
  simpa only [List.nil_append, length_ofNat_le_iff (show 0 < digitLimit by decide)] using hread

theorem readAtom_true (rest : Text) : readAtom ("true".toList ++ rest) = (some (.bool true), 4) := by
  unfold readAtom; rw [if_pos (by simp [startsWith])]

theorem readAtom_false (rest : Text) :
    readAtom ("false".toList ++ rest) = (some (.bool false), 5) := by
  unfold readAtom
  rw [if_neg (by simp [startsWith]), if_pos (by simp [startsWith])]

/-- What ends a value is no value. -/
theorem readAtom_ending {c : Char} (h : c = ',' ∨ c = '}' ∨ c = ']') (rest : Text) :
    readAtom (c :: rest) = (none, 0) := by
  rcases h with rfl | rfl | rfl <;>
    simp [readAtom, startsWith, readNumber, numeral, show Text.isDigit ',' = false from by decide,
      show Text.isDigit '}' = false from by decide, show Text.isDigit ']' = false from by decide,
      show isWordChar ',' = false from by decide, show isWordChar '}' = false from by decide,
      show isWordChar ']' = false from by decide]

/-! ## Values and entries -/

theorem span_cons_of_not {p : Char → Bool} {c : Char} (h : p c = false) (r : Text) :
    span p (c :: r) = 0 := by
  unfold span
  rw [List.takeWhile_cons_of_neg (by rw [h]; exact Bool.false_ne_true)]
  rfl

theorem drop_span (p : Char → Bool) (s : Text) : s.drop (span p s) = s.dropWhile p := by
  have h : s.takeWhile p ++ s.dropWhile p = s := List.takeWhile_append_dropWhile
  calc s.drop (span p s) = (s.takeWhile p ++ s.dropWhile p).drop (s.takeWhile p).length := by
        rw [h]; rfl
    _ = s.dropWhile p := List.drop_left

/-- What a value is, by its first character. -/
theorem readValue_cons {c : Char} (hgap : isGap c = false) (r : Text) :
    readValue (c :: r) =
      if c = '{' then (some (.compound (readEntries [] r).1), 1 + (readEntries [] r).2)
      else if c = '[' then
        (some (.list (((ItemScan.mk none (some '[') 0 1 0 false 0).run r).1.filterMap fun i =>
          (readValue (r.drop i)).1)), 1 + ((ItemScan.mk none (some '[') 0 1 0 false 0).run r).2)
      else if isQuote c then (some (.text (readText (c :: r)).1), (readText (c :: r)).2)
      else readAtom (c :: r) := by
  rw [readValue, span_cons_of_not hgap]
  simp only [Nat.zero_add]
  split
  · rename_i h; cases h
  · rename_i d q h
    obtain ⟨rfl, rfl⟩ := List.cons.inj h
    rfl

theorem readValue_atom {c : Char} (hgap : isGap c = false) (hbrace : c ≠ '{') (hbracket : c ≠ '[')
    (hquote : isQuote c = false) (r : Text) : readValue (c :: r) = readAtom (c :: r) := by
  rw [readValue_cons hgap, if_neg hbrace, if_neg hbracket, if_neg (by simp [hquote])]

theorem readValue_quoted (s rest : Text) :
    readValue (quoted s ++ rest) = (some (.text s), (quoted s).length) := by
  have h := readText_quoted s rest
  rw [quoted_eq, List.cons_append] at h ⊢
  rw [readValue_cons (by decide), if_neg (by decide), if_neg (by decide), if_pos (by decide), h]

theorem readValue_compound (r : Text) :
    readValue ('{' :: r) = (some (.compound (readEntries [] r).1), 1 + (readEntries [] r).2) := by
  rw [readValue_cons (by decide), if_pos rfl]

/-- What ends a value is no value. -/
theorem readValue_ending {c : Char} (h : c = ',' ∨ c = '}' ∨ c = ']') (rest : Text) :
    readValue (c :: rest) = (none, 0) := by
  rw [readValue_atom _ _ _ _, readAtom_ending h] <;> rcases h with rfl | rfl | rfl <;> decide

theorem readEntries_close (acc : Entries) (r : Text) : readEntries acc ('}' :: r) = (acc, 1) := by
  rw [readEntries, span_cons_of_not (by decide)]
  rfl

theorem readEntries_nil (acc : Entries) : readEntries acc [] = (acc, 0) := by
  rw [readEntries]
  rfl

/-- Entries end where no name starts. -/
theorem readEntries_of_readName_none {c : Char} (hgap : isGap c = false) (hclose : c ≠ '}')
    {r : Text} (hname : readName (c :: r) = none) (acc : Entries) :
    readEntries acc (c :: r) = (acc, 0) := by
  rw [readEntries, span_cons_of_not hgap]
  split
  · rename_i h; cases h
  · rename_i d q h
    obtain ⟨rfl, rfl⟩ := List.cons.inj h
    rw [if_neg hclose]
    split
    · rfl
    · rename_i hsome; rw [hname] at hsome; cases hsome

/-- Entries go on behind a name: an entry with the value that follows, or none and one character
passed over. -/
theorem readEntries_of_readName {c : Char} (hgap : isGap c = false) (hclose : c ≠ '}') {r name : Text}
    {n : Nat} (hname : readName (c :: r) = some (name, n)) {rest : Text} (hrest : (c :: r).drop n = rest)
    {colon m : Nat} (hcolon : span (fun c => isGap c || c == ':') rest = colon) {tag : Option Tag}
    (hvalue : readValue (rest.drop colon) = (tag, m)) (acc : Entries) :
    readEntries acc (c :: r) =
      let new := tag.elim (acc, 1) fun tag => (Entries.set name tag acc, m)
      let rest := rest.drop (colon + new.2)
      let comma := span (fun c => isGap c || c == ',') rest
      let more := readEntries new.1 (rest.drop comma)
      (more.1, n + colon + new.2 + comma + more.2) := by
  rw [readEntries, span_cons_of_not hgap]
  split
  · rename_i h; cases h
  · rename_i d q h
    obtain ⟨rfl, rfl⟩ := List.cons.inj h
    rw [if_neg hclose]
    split
    · rename_i hnone; rw [hname] at hnone; cases hnone
    · rename_i name' n' hsome
      rw [hname] at hsome
      obtain ⟨rfl, rfl⟩ : name = name' ∧ n = n' := by simpa using hsome
      dsimp only
      rw [hrest, hcolon, hvalue]
      cases tag with
      | none => simp only [Option.elim, Nat.zero_add]
      | some tag => simp only [Option.elim, Nat.zero_add]

end CommandUpgrade.Tag
