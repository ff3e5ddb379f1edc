import CommandUpgrade.Proofs.Tag.Pieces
import CommandUpgrade.Proofs.Text.Nesting
import CommandUpgrade.Proofs.Text.Split

/-!
# Lists of texts

A list of texts is written with a backslash before each backslash and quote, and the scan for its items
takes a quote behind a backslash for an escaped one. The two disagree on a text that ends in a backslash:
its closing quote does not count. Up to the first such text the items are read as they were written
(`readItems_cons`). From there on the scan takes commas of the texts for separators, and from behind a
comma it never reads all the texts that are left (`readItems_ne_of_behind`).
-/

namespace CommandUpgrade.Tag

open Text

/-! ## Items from any comma on -/

namespace ItemScan

/-- A scan in front of an item. -/
def atStart : ItemScan := ⟨none, some ',', 0, 1, 0, false, 0⟩

/-- Two scans that differ by the characters passed before. -/
structure Shifted (d : Nat) (scan other : ItemScan) : Prop where
  isOpen : scan.isOpen = other.isOpen
  before : scan.before = some '\\' ↔ other.before = some '\\'
  braces : scan.braces = other.braces
  brackets : scan.brackets = other.brackets
  start : scan.start = d + other.start
  solid : scan.solid = other.solid
  passed : scan.passed = d + other.passed

section Shifted

variable {d : Nat} {scan other : ItemScan} (h : Shifted d scan other)

include h

theorem Shifted.quoteCounts_eq (c : Char) :
    quoteCounts scan.before c = quoteCounts other.before c := by
  unfold quoteCounts
  by_cases hslash : scan.before = some '\\'
  · rw [hslash, h.before.1 hslash]
  · rw [bne_iff_ne.2 hslash, bne_iff_ne.2 (mt h.before.2 hslash)]

theorem Shifted.pass (c : Char) : Shifted d (scan.pass c) (other.pass c) where
  isOpen := h.isOpen
  before := Iff.rfl
  braces := h.braces
  brackets := h.brackets
  start := h.start
  solid := by show (scan.solid || _) = (other.solid || _); rw [h.solid]
  passed := by show scan.passed + 1 = d + (other.passed + 1); rw [h.passed, Nat.add_assoc]

theorem Shifted.next : Shifted d scan.next other.next where
  isOpen := h.isOpen
  before := Iff.rfl
  braces := h.braces
  brackets := h.brackets
  start := by show scan.passed + 1 = d + (other.passed + 1); rw [h.passed, Nat.add_assoc]
  solid := rfl
  passed := by show scan.passed + 1 = d + (other.passed + 1); rw [h.passed, Nat.add_assoc]

theorem Shifted.found : scan.found = other.found.map (d + ·) := by
  unfold ItemScan.found
  rw [h.solid, h.start]
  split_ifs <;> rfl

/-- With a character both pass on in the item, end the list, or start the next item. -/
theorem Shifted.run_cons_cases (c : Char) (r : Text) :
    (∃ p q : ItemScan, scan.run (c :: r) = p.run r ∧ other.run (c :: r) = q.run r ∧ Shifted d p q ∧
      p.start = scan.start ∧ p.passed = scan.passed + 1) ∨
    ((scan.run (c :: r)).1 = scan.found ∧ (other.run (c :: r)).1 = other.found) ∨
    (c = ',' ∧ scan.next.AtItem ∧ (scan.run (c :: r)).1 = scan.found ++ (scan.next.run r).1 ∧
      (other.run (c :: r)).1 = other.found ++ (other.next.run r).1) := by
  have hpass := h.pass c
  have hquotes := h.quoteCounts_eq c
  by_cases hquote : quoteCounts scan.before c = true
  · have hquote' : quoteCounts other.before c = true := by rw [← hquotes, hquote]
    have hopen : toggle scan.isOpen c = toggle other.isOpen c := by rw [h.isOpen]
    exact Or.inl ⟨_, _, run_of_quoteCounts hquote r, run_of_quoteCounts hquote' r,
      { hpass with isOpen := hopen }, rfl, rfl⟩
  rw [run, run, ← hquotes, ← h.isOpen, ← h.braces, ← h.brackets, if_neg hquote, if_neg hquote]
  by_cases hopen : scan.isOpen.isSome = true
  · rw [if_pos hopen, if_pos hopen]
    exact Or.inl ⟨_, _, rfl, rfl, hpass, rfl, rfl⟩
  rw [if_neg hopen, if_neg hopen]
  by_cases hbrace : (c == '{') = true
  · rw [if_pos hbrace, if_pos hbrace]
    exact Or.inl ⟨_, _, rfl, rfl, { hpass with braces := rfl }, rfl, rfl⟩
  rw [if_neg hbrace, if_neg hbrace]
  by_cases hclose : (c == '}') = true
  · rw [if_pos hclose, if_pos hclose]
    exact Or.inl ⟨_, _, rfl, rfl, { hpass with braces := rfl }, rfl, rfl⟩
  rw [if_neg hclose, if_neg hclose]
  by_cases hbracket : (c == '[') = true
  · rw [if_pos hbracket, if_pos hbracket]
    exact Or.inl ⟨_, _, rfl, rfl, { hpass with brackets := rfl }, rfl, rfl⟩
  rw [if_neg hbracket, if_neg hbracket]
  by_cases hend : (c == ']') = true
  · rw [if_pos hend, if_pos hend]
    by_cases hlast : scan.brackets ≤ 1
    · rw [if_pos hlast, if_pos hlast]
      exact Or.inr (Or.inl ⟨rfl, rfl⟩)
    · rw [if_neg hlast, if_neg hlast]
      exact Or.inl ⟨_, _, rfl, rfl, { hpass with brackets := rfl }, rfl, rfl⟩
  rw [if_neg hend, if_neg hend]
  by_cases hcomma : (c == ',' && scan.braces == 0 && scan.brackets == 1) = true
  · rw [if_pos hcomma, if_pos hcomma]
    simp only [Bool.and_eq_true, beq_iff_eq] at hcomma
    obtain ⟨⟨rfl, hbraces⟩, hbrackets⟩ := hcomma
    have hnone : scan.isOpen = none := by simpa using hopen
    have hnext : scan.next.AtItem :=
      ⟨⟨hnone, by simp [ItemScan.next], hbraces.ge, hbrackets.ge⟩, hbraces, hbrackets, rfl, rfl⟩
    exact Or.inr (Or.inr ⟨rfl, hnext, rfl, rfl⟩)
  · rw [if_neg hcomma, if_neg hcomma]
    exact Or.inl ⟨_, _, rfl, rfl, hpass, rfl, rfl⟩

theorem Shifted.run (s : Text) : (scan.run s).1 = (other.run s).1.map (d + ·) := by
  induction s generalizing scan other with
  | nil => rfl
  | cons c r ih =>
    rcases h.run_cons_cases c r with ⟨p, q, hp, hq, hpq, -, -⟩ | ⟨hend, hend'⟩ | ⟨-, -, hnext, hnext'⟩
    · rw [hp, hq]
      exact ih hpq
    · rw [hend, hend']
      exact h.found
    · rw [hnext, hnext', ih h.next, h.found, List.map_append]

end Shifted

theorem AtItem.shifted {scan : ItemScan} (h : scan.AtItem) : Shifted scan.passed scan atStart where
  isOpen := h.isOpen
  before := by simp [h.before, atStart]
  braces := h.braces_eq
  brackets := h.brackets_eq
  start := h.start
  solid := h.solid
  passed := rfl

theorem Shifted.refl (scan : ItemScan) : Shifted 0 scan scan :=
  ⟨rfl, Iff.rfl, rfl, rfl, (Nat.zero_add _).symm, rfl, (Nat.zero_add _).symm⟩

theorem found_cases (scan : ItemScan) : scan.found = [] ∨ scan.found = [scan.start] := by
  unfold found
  split
  · exact Or.inr rfl
  · exact Or.inl rfl

/-- A scan goes up to the end of the list, or up to the comma behind the item. -/
theorem run_cases (scan : ItemScan) (rest : Text) :
    ∃ own, (own = [] ∨ own = [scan.start]) ∧
      ((scan.run rest).1 = own ∨ ∃ w t next, rest = w ++ ',' :: t ∧ AtItem next ∧
        next.passed = scan.passed + w.length + 1 ∧ (scan.run rest).1 = own ++ (next.run t).1) := by
  induction rest generalizing scan with
  | nil => exact ⟨[], Or.inl rfl, Or.inl rfl⟩
  | cons c r ih =>
    rcases (Shifted.refl scan).run_cons_cases c r with
      ⟨passing, -, hrun, -, -, hstart, hpassed⟩ | ⟨hend, -⟩ | ⟨rfl, hnext, hrun, -⟩
    · obtain ⟨own, hown, hcases⟩ := ih passing
      rw [hstart] at hown
      rw [hrun]
      refine ⟨own, hown, hcases.imp_right ?_⟩
      rintro ⟨w, t, next, rfl, hnext, hlength, hnew⟩
      refine ⟨c :: w, t, next, rfl, hnext, ?_, hnew⟩
      rw [hlength, hpassed, List.length_cons]
      omega
    · exact ⟨scan.found, found_cases scan, Or.inl hend⟩
    · exact ⟨scan.found, found_cases scan, Or.inr ⟨[], r, scan.next, rfl, hnext, rfl, hrun⟩⟩

end ItemScan

/-- What a scan reads in front of an item, with the characters before it passed. -/
theorem readItems_of_atItem {scan : ItemScan} (h : scan.AtItem) {front : Text}
    (hfront : scan.passed = front.length) (s : Text) :
    ((scan.run s).1.filterMap fun i => (readValue ((front ++ s).drop i)).1) =
      (readItems (some ',') s).1 := by
  rw [h.shifted.run s, List.filterMap_map]
  have hdrop : ∀ i, (front ++ s).drop (scan.passed + i) = s.drop i := by
    intro i
    rw [hfront, List.drop_append, List.drop_of_length_le (by omega), List.nil_append,
      Nat.add_sub_cancel_left]
  simp only [Function.comp_def, hdrop]
  rfl

/-- The first item is read where the scan began, or behind the next comma, where the items go on. -/
theorem readItems_eq_cons (front : Text) {rest : Text} (scan : ItemScan)
    (hrun : ItemScan.atStart.run (front ++ rest) = scan.run rest) (hstart : scan.start = 0)
    (hpassed : scan.passed = front.length) {tag : Tag} {tags : List Tag}
    (h : (readItems (some ',') (front ++ rest)).1 = tag :: tags) :
    ((readValue (front ++ rest)).1 = some tag ∧ tags = []) ∨
      ∃ w t, rest = w ++ ',' :: t ∧ ((readItems (some ',') t).1 = tag :: tags ∨
        (readValue (front ++ rest)).1 = some tag ∧ (readItems (some ',') t).1 = tags) := by
  obtain ⟨starts, hstarts, hcases⟩ := scan.run_cases rest
  obtain ⟨value, hvalue⟩ : ∃ v, v = fun i => (readValue ((front ++ rest).drop i)).1 := ⟨_, rfl⟩
  have hfirst : ∀ more, starts.filterMap value ++ more = tag :: tags →
      more = tag :: tags ∨ (readValue (front ++ rest)).1 = some tag ∧ more = tags := by
    intro more hmore
    rcases hstarts with rfl | rfl
    · exact Or.inl hmore
    · rw [hstart, hvalue] at hmore
      cases hread : (readValue (front ++ rest)).1 with
      | none => exact Or.inl (by simpa [hread] using hmore)
      | some v => exact Or.inr (by simpa [hread] using hmore)
  have hitems : (scan.run rest).1.filterMap value = tag :: tags := by
    rw [← h, ← hrun, hvalue]
    rfl
  rcases hcases with hend | ⟨w, t, next, rfl, hnext, hlength, hmore⟩
  · left
    rw [hend] at hitems
    rcases hfirst [] (by rw [List.append_nil, hitems]) with hnil | ⟨hread, htags⟩
    · cases hnil
    · exact ⟨hread, htags.symm⟩
  · refine Or.inr ⟨w, t, rfl, ?_⟩
    have hbehind : (next.run t).1.filterMap value = (readItems (some ',') t).1 := by
      have hfront : next.passed = (front ++ (w ++ [','])).length := by
        rw [hlength, hpassed]
        simp only [List.length_append, List.length_singleton, Nat.add_assoc]
      rw [← readItems_of_atItem hnext hfront t, hvalue]
      simp only [List.append_assoc, List.singleton_append]
    rw [hmore, List.filterMap_append, hbehind] at hitems
    exact hfirst _ hitems

/-! ## What is written -/

/-- A list of texts from behind one of them. -/
def listTail : List Text → Text
  | [] => [']']
  | e :: es => ',' :: (quoted e ++ listTail es)

/-- A list of texts from behind its opening bracket. -/
def listText : List Text → Text
  | [] => [']']
  | e :: es => quoted e ++ listTail es

theorem listTail_eq {es : List Text} (h : es ≠ []) : listTail es = ',' :: listText es := by
  cases es with
  | nil => exact absurd rfl h
  | cons e es => rfl

theorem listText_cons (e : Text) (es : List Text) :
    listText (e :: es) = '"' :: (e.flatMap escape ++ '"' :: listTail es) := by
  rw [listText, quoted_eq, List.cons_append, List.append_assoc, List.singleton_append]

theorem write_texts (xs : List Text) : write (.list (xs.map .text)) = '[' :: listText xs := by
  have hitems : ∀ es : List Text, join [','] (writeItems none (es.map .text)) ++ [']'] = listText es := by
    intro es
    induction es with
    | nil => rfl
    | cons e es ih =>
      rw [List.map_cons, writeItems, writeIn, listText]
      cases es with
      | nil => rfl
      | cons e' es =>
        rw [listTail_eq (List.cons_ne_nil e' es), ← ih, List.map_cons, writeItems]
        simp [join]
  rw [write, writeIn, List.cons_append, hitems]

/-- A character that is not escaped stands in the text itself. -/
theorem exists_of_flatMap_escape {c : Char} (hb : c ≠ '\\') (hq : c ≠ '"') {s a b : Text}
    (h : s.flatMap escape = a ++ c :: b) :
    ∃ s₁ s₂, s = s₁ ++ c :: s₂ ∧ b = s₂.flatMap escape := by
  induction s generalizing a with
  | nil => simp at h
  | cons d r ih =>
    rw [List.flatMap_cons] at h
    rcases append_eq_append_cons h with ⟨b', hd, hb'⟩ | ⟨a', -, hr⟩
    · have hmem : c ∈ escape d := by rw [hd]; simp
      have hplain : escape d = [d] := by
        refine escape_of_plain ?_ ?_
        · rintro rfl
          exact hb (by simpa [escape] using hmem)
        · rintro rfl
          have hmark : c = '\\' ∨ c = '"' := by simpa [escape] using hmem
          exact hmark.elim hb hq
      obtain ⟨rfl, rfl, rfl⟩ : a = [] ∧ c = d ∧ b' = [] := by
        rw [hplain] at hd
        simpa using List.append_eq_singleton_iff.1 hd.symm
      exact ⟨[], r, rfl, hb'⟩
    · obtain ⟨s₁, s₂, rfl, hs₂⟩ := ih hr
      exact ⟨d :: s₁, s₂, rfl, hs₂⟩

/-- A comma of the written list stands in its first text or behind it. -/
theorem comma_cases {e : Text} {es : List Text} {a t : Text} (h : listText (e :: es) = a ++ ',' :: t) :
    (∃ s₁ s₂, e = s₁ ++ ',' :: s₂ ∧ t = s₂.flatMap escape ++ '"' :: listTail es) ∨
      es ≠ [] ∧ ∃ front, listText es = front ++ t := by
  rw [listText_cons, ← List.cons_append] at h
  rcases append_eq_append_cons h with ⟨b, hinside, ht⟩ | ⟨a', -, hbehind⟩
  · cases a with
    | nil => exact absurd (List.cons.inj hinside).1 (by decide)
    | cons c a =>
      obtain ⟨s₁, s₂, he, hb⟩ :=
        exists_of_flatMap_escape (by decide) (by decide) (List.cons.inj hinside).2
      exact Or.inl ⟨s₁, s₂, he, by rw [ht, hb]⟩
  · right
    cases a' with
    | nil => exact absurd (List.cons.inj hbehind).1 (by decide)
    | cons c a' =>
      have htail : listTail es = a' ++ ',' :: t := (List.cons.inj hbehind).2
      have hne : es ≠ [] := by
        rintro rfl
        have hmem : ',' ∈ listTail [] := by rw [htail]; simp
        exact absurd hmem (by decide)
      refine ⟨hne, ?_⟩
      rw [listTail_eq hne] at htail
      cases a' with
      | nil => exact ⟨[], (List.cons.inj htail).2⟩
      | cons d a' => exact ⟨a' ++ [','], by rw [(List.cons.inj htail).2]; simp⟩

/-! ## What is read behind a comma in a text -/

/-- Blanks in front of a value are passed over. -/
theorem readValue_of_dropWhile {s r : Text} {c : Char} (h : s.dropWhile isGap = c :: r) :
    (readValue s).1 = (readValue (c :: r)).1 := by
  have hgap : isGap c = false := by
    have hhead := List.head?_dropWhile_not isGap s
    rw [h] at hhead
    simpa using hhead
  rw [readValue_cons hgap, readValue]
  split
  · rename_i hnil
    rw [drop_span, h] at hnil
    cases hnil
  · rename_i d q hcons
    rw [drop_span, h] at hcons
    obtain ⟨rfl, rfl⟩ := List.cons.inj hcons
    split_ifs <;> rfl

theorem numeralValue?_ne_text (digits w : Text) : numeralValue? digits ≠ some (.text w) := by
  unfold numeralValue?
  split
  · simp
  · split <;> simp

/-- A text without quotes is a word. -/
theorem isWordChar_of_readAtom {s w : Text} (h : (readAtom s).1 = some (.text w)) :
    ∀ c ∈ w, isWordChar c = true := by
  unfold readAtom at h
  split at h
  · cases h
  split at h
  · cases h
  split at h
  · rename_i tag n hnumber
    obtain rfl : tag = .text w := Option.some.inj h
    obtain ⟨-, hmap⟩ := Option.ite_none_left_eq_some.1 hnumber
    obtain ⟨v, hv, hpair⟩ := Option.map_eq_some_iff.1 hmap
    rw [(Prod.mk.inj hpair).1] at hv
    exact absurd hv (numeralValue?_ne_text _ _)
  · dsimp only at h
    split at h
    · cases h
    · cases h
      exact fun c => List.mem_takeWhile_imp

/-- A text in which each backslash is followed by a backslash or a double quote. -/
inductive Paired : Text → Prop
  | nil : Paired []
  | plain {c : Char} {s : Text} (hc : c ≠ '\\') (h : Paired s) : Paired (c :: s)
  | escaped {d : Char} {s : Text} (hd : d = '\\' ∨ d = '"') (h : Paired s) : Paired ('\\' :: d :: s)

theorem paired_flatMap_escape (s : Text) {rest : Text} (h : Paired rest) :
    Paired (s.flatMap escape ++ rest) := by
  induction s with
  | nil => exact h
  | cons c r ih =>
    rw [List.flatMap_cons, List.append_assoc]
    unfold escape
    split_ifs with hb hq
    · exact .escaped (Or.inl rfl) ih
    · exact .escaped (Or.inr rfl) ih
    · exact .plain hb ih

theorem paired_listTail (es : List Text) : Paired (listTail es) := by
  induction es with
  | nil => exact .plain (by decide) .nil
  | cons e es ih =>
    rw [listTail, quoted_eq, List.cons_append, List.append_assoc, List.singleton_append]
    exact .plain (by decide) (.plain (by decide) (paired_flatMap_escape e (.plain (by decide) ih)))

/-- A text in single quotes holds none, if no single quote is escaped. -/
theorem notMem_readQuoted {s : Text} (h : Paired s) : '\'' ∉ (readQuoted '\'' s).1 := by
  have hplain : ∀ {c : Char} {s : Text}, c ≠ '\\' → '\'' ∉ (readQuoted '\'' s).1 →
      '\'' ∉ (readQuoted '\'' (c :: s)).1 := by
    intro c s hc hs
    cases s with
    | nil =>
      rw [readQuoted]
      split_ifs with hquote
      · simp
      · simpa using Ne.symm hquote
    | cons d r =>
      rw [readQuoted, if_neg fun hslash => hc hslash.1]
      split_ifs with hquote
      · simp
      · exact List.not_mem_cons_of_ne_of_not_mem (Ne.symm hquote) hs
  induction h with
  | nil => simp [readQuoted]
  | plain hc _ ih => exact hplain hc ih
  | escaped hd _ ih =>
    rcases hd with rfl | rfl
    · rw [readQuoted, if_pos ⟨rfl, Or.inl rfl⟩]
      exact List.not_mem_cons_of_ne_of_not_mem (by decide) ih
    · rw [readQuoted, if_neg (by decide), if_neg (by decide)]
      exact List.not_mem_cons_of_ne_of_not_mem (by decide) (hplain (by decide) ih)

/-- What the blanks of a text leave of it, and of what follows its closing quote. -/
theorem dropWhile_cases (s rest : Text) :
    (s.flatMap escape ++ '"' :: rest).dropWhile isGap = '"' :: rest ∨
    ∃ s₁ c s₂, s = s₁ ++ c :: s₂ ∧ isGap c = false ∧
      (s.flatMap escape ++ '"' :: rest).dropWhile isGap =
        escape c ++ (s₂.flatMap escape ++ '"' :: rest) := by
  induction s with
  | nil => exact Or.inl rfl
  | cons c r ih =>
    rw [List.flatMap_cons, List.append_assoc]
    by_cases hgap : isGap c = true
    · have hescape : escape c = [c] := by
        refine escape_of_plain ?_ ?_
        · rintro rfl
          exact absurd hgap (by decide)
        · rintro rfl
          exact absurd hgap (by decide)
      rw [hescape, List.singleton_append, List.dropWhile_cons_of_pos hgap]
      refine ih.imp_right ?_
      rintro ⟨s₁, d, s₂, rfl, hd, hdrop⟩
      exact ⟨c :: s₁, d, s₂, rfl, hd, hdrop⟩
    · refine Or.inr ⟨[], c, r, rfl, by simpa using hgap, ?_⟩
      unfold escape
      split_ifs
      · exact List.dropWhile_cons_of_neg (by decide)
      · exact List.dropWhile_cons_of_neg (by decide)
      · exact List.dropWhile_cons_of_neg hgap

/-- A text is read behind one of its commas only if it is that comma and a further text follows. -/
theorem eq_nil_of_readValue_behind {s₁ s₂ : Text} {es : List Text}
    (h : (readValue (s₂.flatMap escape ++ '"' :: listTail es)).1 = some (.text (s₁ ++ ',' :: s₂))) :
    s₁ = [] ∧ s₂ = [] ∧ es ≠ [] := by
  have hcomma : ∀ s : Text, (readAtom s).1 ≠ some (.text (s₁ ++ ',' :: s₂)) := by
    intro s hs
    exact absurd (isWordChar_of_readAtom hs ',' (by simp)) (by decide)
  rcases dropWhile_cases s₂ (listTail es) with hdrop | ⟨g, c, s₃, hs₂, hgap, hdrop⟩
  · rw [readValue_of_dropWhile hdrop, readValue_cons (by decide), if_neg (by decide),
      if_neg (by decide), if_pos (by decide)] at h
    have hread : (readQuoted '"' (listTail es)).1 = s₁ ++ ',' :: s₂ := by
      simpa [readText] using h
    cases es with
    | nil =>
      have hmem : ',' ∈ (readQuoted '"' (listTail [])).1 := by rw [hread]; simp
      exact absurd hmem (by decide)
    | cons e es =>
      rw [listTail_eq (List.cons_ne_nil e es), listText_cons,
        readQuoted_plain (by decide) (by decide), readQuoted_quote] at hread
      obtain ⟨hs₁, hs₂⟩ : s₁ = [] ∧ s₂ = [] := by
        simpa using List.append_eq_singleton_iff.1 hread.symm
      exact ⟨hs₁, hs₂, List.cons_ne_nil e es⟩
  · exfalso
    by_cases hmark : c = '\\' ∨ c = '"'
    · rw [escape_of_mark hmark, List.cons_append] at hdrop
      rw [readValue_of_dropWhile hdrop,
        readValue_atom (by decide) (by decide) (by decide) (by decide)] at h
      exact hcomma _ h
    · obtain ⟨hslash, hdouble⟩ := not_or.1 hmark
      rw [escape_of_plain hslash hdouble, List.singleton_append] at hdrop
      rw [readValue_of_dropWhile hdrop, readValue_cons hgap] at h
      split_ifs at h with hbrace hbracket hquote
      · cases h
      · cases h
      · obtain rfl : c = '\'' := by
          simpa [isQuote, hdouble] using hquote
        have hread : (readQuoted '\'' (s₃.flatMap escape ++ '"' :: listTail es)).1 = s₁ ++ ',' :: s₂ := by
          simpa [readText] using h
        have hpaired : Paired (s₃.flatMap escape ++ '"' :: listTail es) :=
          paired_flatMap_escape s₃ (.plain (by decide) (paired_listTail es))
        refine notMem_readQuoted hpaired ?_
        rw [hread, hs₂]
        simp
      · exact hcomma _ h

/-! ## Lists with a text that ends in a backslash -/

/-- A scan that leaves the first text does not read all of them, if it does not from any later comma. -/
theorem readItems_ne {e : Text} {es : List Text} (hes : es ≠ []) (front : Text) {rest : Text}
    (scan : ItemScan) (hrun : ItemScan.atStart.run (front ++ rest) = scan.run rest)
    (hstart : scan.start = 0) (hpassed : scan.passed = front.length)
    (hlater : ∀ w t, rest = w ++ ',' :: t → (readItems (some ',') t).1 ≠ (e :: es).map .text ∧
      (readItems (some ',') t).1 ≠ es.map .text) :
    (readItems (some ',') (front ++ rest)).1 ≠ (e :: es).map .text := by
  intro h
  rcases readItems_eq_cons front scan hrun hstart hpassed h with ⟨-, htags⟩ | ⟨w, t, hrest, hsame | ⟨-, hless⟩⟩
  · exact hes (List.map_eq_nil_iff.1 htags)
  · exact (hlater w t hrest).1 hsame
  · exact (hlater w t hrest).2 hless

/-- From behind a comma of the written list its items are not read. -/
theorem readItems_ne_of_behind {es : List Text} (hes : es ≠ []) {a t : Text}
    (h : listText es = a ++ ',' :: t) : (readItems (some ',') t).1 ≠ es.map .text := by
  induction hn : t.length using Nat.strong_induction_on generalizing es a t with
  | _ n ih =>
  obtain ⟨e, es, rfl⟩ := List.exists_cons_of_ne_nil hes
  -- All commas behind this one are covered, for the same texts and for all but the first.
  have hsame : ∀ w t', t = w ++ ',' :: t' → (readItems (some ',') t').1 ≠ (e :: es).map .text := by
    rintro w t' rfl
    refine ih t'.length ?_ (List.cons_ne_nil e es) (a := a ++ ',' :: w) (by rw [h]; simp) rfl
    rw [← hn, List.length_append, List.length_cons]
    omega
  have hless : es ≠ [] → ∀ w t', t = w ++ ',' :: t' → (∃ b, listText es = b ++ ',' :: t') →
      (readItems (some ',') t').1 ≠ es.map .text := by
    rintro hne w t' rfl ⟨b, hb⟩
    refine ih t'.length ?_ hne hb rfl
    rw [← hn, List.length_append, List.length_cons]
    omega
  rcases comma_cases h with ⟨s₁, s₂, rfl, rfl⟩ | ⟨hne, front, hfront⟩
  · by_cases hvalue : (readValue (s₂.flatMap escape ++ '"' :: listTail es)).1 =
        some (.text (s₁ ++ ',' :: s₂))
    · -- The closing quote opens a text, which is the comma up to the next text's opening quote.
      obtain ⟨rfl, rfl, hne⟩ := eq_nil_of_readValue_behind hvalue
      have ht : ['"', ','] ++ listText es = [].flatMap escape ++ '"' :: listTail es := by
        rw [listTail_eq hne]
        rfl
      rw [← ht] at hsame hless ⊢
      refine readItems_ne hne ['"', ',']
        (ItemScan.pass { ItemScan.atStart.pass '"' with isOpen := some '"' } ',')
        rfl rfl rfl fun w t' hw => ⟨?_, ?_⟩
      · exact hsame (['"', ','] ++ w) t' (by rw [hw, List.append_assoc])
      · exact hless hne (['"', ','] ++ w) t' (by rw [hw, List.append_assoc]) ⟨w, hw⟩
    · intro hitems
      rcases readItems_eq_cons [] ItemScan.atStart rfl rfl rfl hitems with
        ⟨hread, -⟩ | ⟨w, t', hw, hmore | ⟨hread, -⟩⟩
      · exact hvalue hread
      · exact hsame w t' hw hmore
      · exact hvalue hread
  · refine readItems_ne hne [] ItemScan.atStart rfl rfl rfl fun w t' hw => ⟨?_, ?_⟩
    · exact hsame w t' hw
    · exact hless hne w t' hw ⟨front ++ w, by rw [hfront, hw, List.append_assoc]⟩

/-- The closing quote behind a backslash does not count. -/
theorem exists_run_quoted {e : Text} (hlast : e.getLast? = some '\\') (rest : Text) :
    ∃ scan : ItemScan, ItemScan.atStart.run (quoted e ++ rest) = scan.run rest ∧
      scan.isOpen = some '"' ∧ scan.start = 0 ∧ scan.passed = (quoted e).length := by
  obtain ⟨opened, hopened⟩ : ∃ o, o = { ItemScan.atStart.pass '"' with isOpen := some '"' } := ⟨_, rfl⟩
  obtain ⟨inner, hinner⟩ : ∃ i, i = opened.across (e.flatMap escape) := ⟨_, rfl⟩
  have hopen : inner.isOpen = some '"' := by rw [hinner, hopened]; rfl
  have hbefore : inner.before = some '\\' := by
    obtain ⟨r, rfl⟩ := List.getLast?_eq_some_iff.1 hlast
    rw [hinner]
    simp [ItemScan.across, escape]
  refine ⟨inner.pass '"', ?_, hopen, by rw [hinner, hopened]; rfl, ?_⟩
  · have hstart : ItemScan.atStart.run ('"' :: (e.flatMap escape ++ '"' :: rest)) =
        opened.run (e.flatMap escape ++ '"' :: rest) := by rw [hopened]; rfl
    rw [quoted_eq, List.cons_append, List.append_assoc, List.singleton_append, hstart,
      ItemScan.run_flatMap_escape (by rw [hopened]), ← hinner,
      ItemScan.run_pass_of_isOpen hopen (Or.inl (by rw [hbefore]; rfl))]
  · rw [length_quoted, hinner, hopened]
    show 0 + 1 + (e.flatMap escape).length + 1 = _
    omega

theorem readItems_ne_of_backslash {e : Text} (hlast : e.getLast? = some '\\') (es : List Text) :
    (readItems (some ',') (listText (e :: es))).1 ≠ (e :: es).map .text := by
  obtain ⟨scan, hrun, hopen, hstart, hpassed⟩ := exists_run_quoted hlast (listTail es)
  cases es with
  | nil =>
    have hend : scan.run (listTail []) = (scan.pass ']').run [] :=
      ItemScan.run_pass_of_isOpen hopen (Or.inr (by decide)) []
    rw [hend] at hrun
    show (ItemScan.atStart.run (quoted e ++ listTail [])).1.filterMap _ ≠ _
    rw [hrun]
    exact (List.cons_ne_nil _ _).symm
  | cons e' es =>
    have hne := List.cons_ne_nil e' es
    rw [listTail_eq hne, ItemScan.run_pass_of_isOpen hopen (Or.inr (by decide))] at hrun
    have htext : listText (e :: e' :: es) = (quoted e ++ [',']) ++ listText (e' :: es) := by
      rw [listText, listTail_eq hne, List.append_assoc, List.singleton_append]
    rw [htext]
    refine readItems_ne hne _ (scan.pass ',') ?_ hstart ?_ fun w t hw => ⟨?_, ?_⟩
    · rw [List.append_assoc, List.singleton_append, hrun]
    · rw [List.length_append, ← hpassed]
      rfl
    · exact readItems_ne_of_behind (List.cons_ne_nil e _) (a := (quoted e ++ [',']) ++ w)
        (by rw [htext, hw]; simp)
    · exact readItems_ne_of_behind hne hw

/-! ## Lists without -/

theorem atItem_atStart : ItemScan.atStart.AtItem := ItemScan.atItem_mk (by decide)

theorem readItems_cons {e : Text} (hlast : e.getLast? ≠ some '\\') (es : List Text) :
    (readItems (some ',') (listText (e :: es))).1 = .text e :: (readItems (some ',') (listText es)).1 := by
  have hready : (ItemScan.atStart.across (quoted e)).Ready :=
    atItem_atStart.toReady.across (Piece.quoted hlast : Piece false (quoted e))
  have hfound : (ItemScan.atStart.across (quoted e)).found = [0] :=
    ItemScan.found_across atItem_atStart (by rw [ItemScan.IsSolid, quoted_eq]; rfl)
  have hvalue : ∀ starts : List Nat,
      ((0 :: starts).filterMap fun i => (readValue ((quoted e ++ listTail es).drop i)).1) =
        .text e :: starts.filterMap fun i => (readValue ((quoted e ++ listTail es).drop i)).1 := by
    intro starts
    exact List.filterMap_cons_some (by rw [List.drop_zero, readValue_quoted])
  show (ItemScan.atStart.run (quoted e ++ listTail es)).1.filterMap
    (fun i => (readValue ((quoted e ++ listTail es).drop i)).1) = _
  rw [ItemScan.run_quoted atItem_atStart.toReady hlast]
  cases es with
  | nil =>
    have hend : ((ItemScan.atStart.across (quoted e)).run (listTail [])).1 = [0] := by
      rw [listTail, ItemScan.run_closeBracket hready, hfound]
      rfl
    rw [hend, hvalue]
    rfl
  | cons e' es =>
    have hnext : (ItemScan.atStart.across (quoted e)).next.AtItem := atItem_atStart.next
    have hpassed : (ItemScan.atStart.across (quoted e)).next.passed = (quoted e ++ [',']).length := by
      rw [List.length_append]
      show 0 + (quoted e).length + 1 = _
      rw [Nat.zero_add]
      rfl
    have hitems := readItems_of_atItem hnext hpassed (listText (e' :: es))
    rw [List.append_assoc, List.singleton_append, ← listTail_eq (List.cons_ne_nil e' es)] at hitems
    have hrun : ((ItemScan.atStart.across (quoted e)).run (listTail (e' :: es))).1 =
        0 :: ((ItemScan.atStart.across (quoted e)).next.run (listText (e' :: es))).1 := by
      rw [listTail_eq (List.cons_ne_nil e' es), ItemScan.run_separator hready rfl rfl, hfound]
      rfl
    rw [hrun, hvalue, hitems]

/-- The items of a list of texts are read as written exactly if no text ends in a backslash. -/
theorem readItems_listText_iff (es : List Text) :
    (readItems (some ',') (listText es)).1 = es.map .text ↔ ∀ e ∈ es, e.getLast? ≠ some '\\' := by
  induction es with
  | nil => exact iff_of_true rfl (by simp)
  | cons e es ih =>
    rw [List.forall_mem_cons]
    by_cases hlast : e.getLast? = some '\\'
    · exact iff_of_false (readItems_ne_of_backslash hlast es) fun h => h.1 hlast
    · rw [readItems_cons hlast, List.map_cons, List.cons.injEq, ih]
      exact and_congr_left fun _ => iff_of_true rfl hlast

/-- A list of texts is read as its items are. -/
theorem read_write_texts (xs : List Text) :
    Tag.read (write (.list (xs.map .text))) = .list (readItems (some ',') (listText xs)).1 := by
  have hbracket : ∀ es : List Text, ∃ body, listTail es = body ++ [']'] := by
    intro es
    induction es with
    | nil => exact ⟨[], rfl⟩
    | cons e es ih =>
      obtain ⟨body, hbody⟩ := ih
      exact ⟨',' :: (quoted e ++ body), by rw [listTail, hbody]; simp⟩
  have htrim : trim ('[' :: listText xs) = '[' :: listText xs := by
    obtain ⟨body, hbody⟩ : ∃ body, listText xs = body ++ [']'] := by
      cases xs with
      | nil => exact ⟨[], rfl⟩
      | cons e es =>
        obtain ⟨body, hbody⟩ := hbracket es
        exact ⟨quoted e ++ body, by rw [listText, hbody, List.append_assoc]⟩
    rw [trim_cons_of_not_isBlank (by decide), hbody, trimEnd_append_cons (by decide)]
    rfl
  have hstart : (ItemScan.mk none (some '[') 0 1 0 false 0).AtItem := ItemScan.atItem_mk (by decide)
  have hitems := @readItems_of_atItem _ hstart [] rfl (listText xs)
  rw [write_texts, Tag.read, htrim]
  dsimp only
  rw [readValue_cons (by decide), if_neg (by decide), if_pos rfl]
  exact congrArg Tag.list hitems

/-- A list of texts is read as it was written exactly if no text ends in a backslash. -/
theorem read_write_texts_iff (xs : List Text) :
    Tag.read (write (.list (xs.map .text))) = .list (xs.map .text) ↔
      ∀ x ∈ xs, x.getLast? ≠ some '\\' := by
  rw [read_write_texts, Tag.list.injEq]
  exact readItems_listText_iff xs

end CommandUpgrade.Tag
