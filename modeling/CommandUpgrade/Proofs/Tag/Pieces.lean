import CommandUpgrade.Proofs.Tag.Leaves

/-!
# Items of a list

The scan for the items of a list knows quotes, braces and brackets only. A `Piece` is a text that it
passes as one: names and numbers, closed quotes, and closed braces and brackets around further
pieces. `run_join` says where the scan puts the items of a list that is written in pieces.
-/

namespace CommandUpgrade.Tag

open Text

/-- A text that the scan passes as a whole. Commas are part of it only if it stands `inside` further
braces or brackets. -/
inductive Piece : Bool → Text → Prop
  | nil {inside : Bool} : Piece inside []
  | inert {inside : Bool} {c : Char} (h : IsInert c) : Piece inside [c]
  | comma : Piece true [',']
  | quoted {inside : Bool} {s : Text} (h : s.getLast? ≠ some '\\') : Piece inside (quoted s)
  | append {inside : Bool} {a b : Text} (ha : Piece inside a) (hb : Piece inside b) :
    Piece inside (a ++ b)
  | braces {inside : Bool} {w : Text} (h : Piece true w) : Piece inside ('{' :: (w ++ ['}']))
  | brackets {inside : Bool} {w : Text} (h : Piece true w) : Piece inside ('[' :: (w ++ [']']))

theorem Piece.of_inert {inside : Bool} {w : Text} (h : ∀ c ∈ w, IsInert c) : Piece inside w := by
  induction w with
  | nil => exact Piece.nil
  | cons c r ih =>
    have hr := ih fun d hd => h d (List.mem_cons_of_mem c hd)
    exact (Piece.inert (h c List.mem_cons_self)).append hr

theorem Piece.of_isNameChar {inside : Bool} {w : Text} (h : ∀ c ∈ w, isNameChar c = true) :
    Piece inside w :=
  Piece.of_inert fun c hc => Or.inl (h c hc)

theorem Piece.join {ws : List Text} (h : ∀ w ∈ ws, Piece true w) : Piece true (join [','] ws) := by
  induction ws with
  | nil => exact Piece.nil
  | cons w ws ih =>
    have hw := h w List.mem_cons_self
    have hrest := ih fun v hv => h v (List.mem_cons_of_mem w hv)
    cases ws with
    | nil => exact hw
    | cons v vs => exact (hw.append Piece.comma).append hrest

namespace ItemScan

/-! ## Passing characters -/

/-- The scan behind a text that belongs to the item and leaves quotes, braces and brackets as they
were. -/
def across (scan : ItemScan) (w : Text) : ItemScan :=
  { scan with
    before := w.getLast?.or scan.before
    solid := scan.solid || w.any (!isBlank ·)
    passed := scan.passed + w.length }

theorem across_nil (scan : ItemScan) : scan.across [] = scan := by
  simp [across]

theorem across_singleton (scan : ItemScan) (c : Char) : scan.across [c] = scan.pass c := by
  simp [across, pass]

theorem across_append (scan : ItemScan) (a b : Text) : scan.across (a ++ b) = (scan.across a).across b := by
  simp [across, List.getLast?_append, Option.or_assoc, Bool.or_assoc, Nat.add_assoc]

theorem across_cons (scan : ItemScan) (c : Char) (w : Text) :
    scan.across (c :: w) = (scan.pass c).across w := by
  rw [← List.singleton_append, across_append, across_singleton]

/-! ### Inside quotes -/

theorem run_of_quoteCounts {scan : ItemScan} {c : Char} (h : quoteCounts scan.before c = true)
    (rest : Text) :
    scan.run (c :: rest) = run { scan.pass c with isOpen := toggle scan.isOpen c } rest := by
  rw [run, if_pos h]

theorem run_pass_of_isOpen {scan : ItemScan} {q c : Char} (hopen : scan.isOpen = some q)
    (hc : quoteCounts scan.before c = false ∨ c ≠ q) (rest : Text) :
    scan.run (c :: rest) = (scan.pass c).run rest := by
  by_cases hq : quoteCounts scan.before c = true
  · have hne : (c == q) = false := beq_eq_false_iff_ne.2 (hc.resolve_left (by simp [hq]))
    have hkept : toggle scan.isOpen c = scan.isOpen := by
      rw [hopen]; unfold toggle; simp only [hne, Bool.false_eq_true, if_false]
    rw [run_of_quoteCounts hq, hkept]
    rfl
  · rw [run, if_neg hq, if_pos (by rw [hopen]; rfl)]

/-- An open double quote is not closed by an escaped character. -/
theorem run_escape {scan : ItemScan} (hopen : scan.isOpen = some '"') (c : Char) (rest : Text) :
    scan.run (escape c ++ rest) = (scan.across (escape c)).run rest := by
  have hbehind : (scan.pass '\\').isOpen = some '"' := hopen
  by_cases hb : c = '\\'
  · subst hb
    rw [show escape '\\' = ['\\', '\\'] from rfl, across_cons, across_singleton, List.cons_append,
      run_pass_of_isOpen hopen (Or.inr (by decide)), List.singleton_append,
      run_pass_of_isOpen hbehind (Or.inr (by decide))]
  by_cases hq : c = '"'
  · subst hq
    rw [show escape '"' = ['\\', '"'] from rfl, across_cons, across_singleton, List.cons_append,
      run_pass_of_isOpen hopen (Or.inr (by decide)), List.singleton_append,
      run_pass_of_isOpen hbehind (Or.inl rfl)]
  · rw [escape_of_plain hb hq, across_singleton, List.singleton_append,
      run_pass_of_isOpen hopen (Or.inr hq)]

theorem run_flatMap_escape {scan : ItemScan} (hopen : scan.isOpen = some '"') (s rest : Text) :
    scan.run (s.flatMap escape ++ rest) = (scan.across (s.flatMap escape)).run rest := by
  induction s generalizing scan with
  | nil => rw [List.flatMap_nil, across_nil, List.nil_append]
  | cons c r ih =>
    rw [List.flatMap_cons, List.append_assoc, run_escape hopen, across_append]
    exact ih hopen

theorem getLast?_flatMap_escape {s : Text} (h : s.getLast? ≠ some '\\') :
    (s.flatMap escape).getLast? ≠ some '\\' := by
  cases s using List.reverseRecOn with
  | nil => simp
  | append_singleton r c =>
    have hc : c ≠ '\\' := by
      rintro rfl
      exact h (by simp)
    rw [List.flatMap_append, List.flatMap_singleton, List.getLast?_append]
    by_cases hq : c = '"'
    · subst hq; simp [escape]
    · rw [escape_of_plain hc hq]
      simpa using hc

/-! ### Pieces -/

/-- A scan between characters of an item: no quote is open, and no backslash stands in front. -/
structure Ready (scan : ItemScan) : Prop where
  isOpen : scan.isOpen = none
  before : scan.before ≠ some '\\'
  braces : 0 ≤ scan.braces
  brackets : 1 ≤ scan.brackets

/-- Whether a comma belongs to the item. -/
def Guarded (scan : ItemScan) : Prop := 0 < scan.braces ∨ 1 < scan.brackets

theorem quoteCounts_quote {before : Option Char} (h : before ≠ some '\\') :
    quoteCounts before '"' = true := by
  unfold quoteCounts
  rw [show isQuote '"' = true from rfl, Bool.true_and, bne_iff_ne]
  exact h

theorem run_quoted {scan : ItemScan} (h : scan.Ready) {s : Text} (hs : s.getLast? ≠ some '\\')
    (rest : Text) : scan.run (quoted s ++ rest) = (scan.across (quoted s)).run rest := by
  -- the scan behind the opening quote, and behind the characters of the text
  obtain ⟨opened, hopened⟩ : ∃ o, o = { scan.pass '"' with isOpen := some '"' } := ⟨_, rfl⟩
  obtain ⟨inner, hinner⟩ : ∃ i, i = opened.across (s.flatMap escape) := ⟨_, rfl⟩
  have hlast : inner.before ≠ some '\\' := by
    have hne := getLast?_flatMap_escape hs
    rw [hinner, hopened]
    show (s.flatMap escape).getLast?.or (some '"') ≠ some '\\'
    cases he : (s.flatMap escape).getLast? with
    | none => decide
    | some c => rw [he] at hne; exact hne
  have hend : { inner.pass '"' with isOpen := none } = scan.across (quoted s) := by
    rw [quoted_eq, across_cons, across_append, across_singleton, hinner, hopened, ← h.isOpen]
    rfl
  rw [← hend, quoted_eq, List.cons_append, List.append_assoc, List.singleton_append,
    run_of_quoteCounts (quoteCounts_quote h.before), h.isOpen,
    show toggle none '"' = some '"' from rfl, ← hopened, run_flatMap_escape (by rw [hopened]),
    ← hinner, run_of_quoteCounts (quoteCounts_quote hlast)]
  rw [show inner.isOpen = some '"' by rw [hinner, hopened]; rfl]
  rfl

theorem quoteCounts_of_isQuote {c : Char} (h : isQuote c = false) (before : Option Char) :
    quoteCounts before c = false := by
  unfold quoteCounts; rw [h, Bool.false_and]

theorem run_inert {scan : ItemScan} (h : scan.Ready) {c : Char} (hc : IsInert c) (rest : Text) :
    scan.run (c :: rest) = (scan.pass c).run rest := by
  have hquote : isQuote c = false := by
    rcases hc with hc | rfl
    · exact isQuote_of_isNameChar hc
    · rfl
  have hne : ∀ d : Char, isNameChar d = false → d ≠ ':' → (c == d) = false :=
    fun d hd hcolon => beq_eq_false_iff_ne.2 (hc.ne hd hcolon)
  rw [run, quoteCounts_of_isQuote hquote, h.isOpen, hne '{' (by decide) (by decide),
    hne '}' (by decide) (by decide), hne '[' (by decide) (by decide),
    hne ']' (by decide) (by decide), hne ',' (by decide) (by decide)]
  rfl

theorem run_comma {scan : ItemScan} (h : scan.Ready) (hg : scan.Guarded) (rest : Text) :
    scan.run (',' :: rest) = (scan.pass ',').run rest := by
  have hnot : (',' == ',' && scan.braces == 0 && scan.brackets == 1) = false := by
    rcases hg with hg | hg
    · have : (scan.braces == 0) = false := beq_eq_false_iff_ne.2 (by omega)
      rw [this]; simp
    · have : (scan.brackets == 1) = false := beq_eq_false_iff_ne.2 (by omega)
      rw [this]; simp
  rw [run, quoteCounts_of_isQuote (by decide), h.isOpen, hnot]
  rfl

theorem run_openBrace {scan : ItemScan} (h : scan.Ready) (rest : Text) :
    scan.run ('{' :: rest) = run { scan.pass '{' with braces := scan.braces + 1 } rest := by
  rw [run, quoteCounts_of_isQuote (by decide), h.isOpen]
  rfl

theorem run_closeBrace {scan : ItemScan} (h : scan.Ready) (rest : Text) :
    scan.run ('}' :: rest) = run { scan.pass '}' with braces := scan.braces - 1 } rest := by
  rw [run, quoteCounts_of_isQuote (by decide), h.isOpen]
  rfl

theorem run_openBracket {scan : ItemScan} (h : scan.Ready) (rest : Text) :
    scan.run ('[' :: rest) = run { scan.pass '[' with brackets := scan.brackets + 1 } rest := by
  rw [run, quoteCounts_of_isQuote (by decide), h.isOpen]
  rfl

theorem run_closeBracket {scan : ItemScan} (h : scan.Ready) (rest : Text) :
    scan.run (']' :: rest) =
      if scan.brackets ≤ 1 then (scan.found, scan.passed + 1)
      else run { scan.pass ']' with brackets := scan.brackets - 1 } rest := by
  rw [run, quoteCounts_of_isQuote (by decide), h.isOpen]
  rfl

theorem getLast?_piece {inside : Bool} {w : Text} (h : Piece inside w) :
    w.getLast? ≠ some '\\' := by
  induction h with
  | nil => simp
  | inert hc => simpa using hc.ne (by decide) (by decide)
  | comma => simp
  | quoted hs => rw [quoted_eq, ← List.cons_append, List.getLast?_append]; simp
  | @append _ a b ha hb iha ihb =>
    rw [List.getLast?_append]
    cases hlast : b.getLast? with
    | none => exact iha
    | some c => rw [hlast] at ihb; exact ihb
  | braces hw ih => rw [← List.cons_append, List.getLast?_append]; simp
  | brackets hw ih => rw [← List.cons_append, List.getLast?_append]; simp

theorem Ready.across {scan : ItemScan} (h : scan.Ready) {inside : Bool} {w : Text}
    (hw : Piece inside w) : (scan.across w).Ready := by
  refine ⟨h.isOpen, ?_, h.braces, h.brackets⟩
  have hlast := getLast?_piece hw
  show w.getLast?.or scan.before ≠ some '\\'
  cases he : w.getLast? with
  | none => exact h.before
  | some c => rw [he] at hlast; exact hlast

/-- The scan passes a piece as a whole. -/
theorem run_piece {inside : Bool} {w : Text} (hw : Piece inside w) :
    ∀ {scan : ItemScan}, scan.Ready → (inside = true → scan.Guarded) → ∀ rest : Text,
      scan.run (w ++ rest) = (scan.across w).run rest := by
  induction hw with
  | nil => intro scan _ _ rest; rw [across_nil, List.nil_append]
  | inert hc =>
    intro scan h _ rest
    rw [across_singleton, List.singleton_append, run_inert h hc]
  | comma =>
    intro scan h hg rest
    rw [across_singleton, List.singleton_append, run_comma h (hg rfl)]
  | quoted hs => intro scan h _ rest; exact run_quoted h hs rest
  | append ha hb iha ihb =>
    intro scan h hg rest
    rw [List.append_assoc, iha h hg, across_append, ihb (h.across ha) hg]
  | @braces _ w hw ih =>
    intro scan h _ rest
    have hbraces := h.braces
    have hin : ItemScan.Ready { scan.pass '{' with braces := scan.braces + 1 } :=
      ⟨h.isOpen, by simp [pass], by show 0 ≤ scan.braces + 1; omega, h.brackets⟩
    rw [List.cons_append, List.append_assoc, List.singleton_append, run_openBrace h,
      ih hin (fun _ => Or.inl (by show 0 < scan.braces + 1; omega)),
      run_closeBrace (hin.across hw), across_cons, across_append, across_singleton]
    congr 1
    simp [ItemScan.across, pass]
  | @brackets _ w hw ih =>
    intro scan h _ rest
    have hbrackets := h.brackets
    have hin : ItemScan.Ready { scan.pass '[' with brackets := scan.brackets + 1 } :=
      ⟨h.isOpen, by simp [pass], h.braces, by show 1 ≤ scan.brackets + 1; omega⟩
    rw [List.cons_append, List.append_assoc, List.singleton_append, run_openBracket h,
      ih hin (fun _ => Or.inr (by show 1 < scan.brackets + 1; omega)),
      run_closeBracket (hin.across hw), if_neg (by show ¬ scan.brackets + 1 ≤ 1; omega),
      across_cons, across_append, across_singleton]
    congr 1

/-! ## Items -/

/-- A scan in front of an item of the list itself. -/
structure AtItem (scan : ItemScan) : Prop extends scan.Ready where
  braces_eq : scan.braces = 0
  brackets_eq : scan.brackets = 1
  solid : scan.solid = false
  start : scan.start = scan.passed

theorem atItem_mk {before : Option Char} (h : before ≠ some '\\') :
    (ItemScan.mk none before 0 1 0 false 0).AtItem :=
  ⟨⟨rfl, h, le_refl _, le_refl _⟩, rfl, rfl, rfl, rfl⟩

/-- A text with more than white space. -/
def IsSolid (w : Text) : Prop := w.any (!isBlank ·) = true

/-- Where the items of a list start, the first one behind `n` characters. -/
def starts : Nat → List Text → List Nat
  | _, [] => []
  | n, w :: ws => n :: starts (n + w.length + 1) ws

theorem found_across {scan : ItemScan} (h : scan.AtItem) {w : Text} (hw : IsSolid w) :
    (scan.across w).found = [scan.passed] := by
  unfold found
  rw [if_pos (by show (scan.solid || w.any (!isBlank ·)) = true; rw [hw, Bool.or_true])]
  show [scan.start] = _
  rw [h.start]

theorem run_separator {scan : ItemScan} (h : scan.Ready) (hbraces : scan.braces = 0)
    (hbrackets : scan.brackets = 1) (rest : Text) :
    scan.run (',' :: rest) = (scan.found ++ (scan.next.run rest).1, (scan.next.run rest).2) := by
  rw [run, quoteCounts_of_isQuote (by decide), h.isOpen, hbraces, hbrackets]
  rfl

theorem AtItem.next {scan : ItemScan} (h : scan.AtItem) {w : Text} :
    (scan.across w).next.AtItem :=
  ⟨⟨h.isOpen, by simp [ItemScan.next], h.braces, h.brackets⟩, h.braces_eq, h.brackets_eq, rfl, rfl⟩

/-- The scan finds each item of a list that is written in pieces. -/
theorem run_join {ws : List Text} (hws : ∀ w ∈ ws, Piece false w ∧ IsSolid w) (rest : Text) :
    ∀ {scan : ItemScan}, scan.AtItem →
      scan.run (join [','] ws ++ ']' :: rest) =
        (starts scan.passed ws, scan.passed + (join [','] ws).length + 1) := by
  induction ws with
  | nil =>
    intro scan h
    rw [show join [','] [] = [] from rfl, List.nil_append, run_closeBracket h.toReady,
      if_pos (by rw [h.brackets_eq]), found, h.solid]
    rfl
  | cons w ws ih =>
    intro scan h
    obtain ⟨hw, hsolid⟩ := hws w List.mem_cons_self
    have hready := h.toReady.across hw
    cases ws with
    | nil =>
      rw [show join [','] [w] = w from rfl, run_piece hw h.toReady (by simp),
        run_closeBracket hready, if_pos (by show scan.brackets ≤ 1; rw [h.brackets_eq]),
        found_across h hsolid]
      rfl
    | cons v vs =>
      have hrest := ih (fun u hu => hws u (List.mem_cons_of_mem w hu)) (h.next (w := w))
      rw [show join [','] (w :: v :: vs) = w ++ [','] ++ join [','] (v :: vs) from rfl,
        List.append_assoc, List.append_assoc, run_piece hw h.toReady (by simp),
        List.singleton_append, run_separator hready h.braces_eq h.brackets_eq,
        found_across h hsolid, hrest]
      simp only [List.singleton_append, List.length_append, List.length_singleton, Prod.mk.injEq]
      refine ⟨rfl, ?_⟩
      show scan.passed + w.length + 1 + _ + 1 = _
      omega

end ItemScan

/-! ## What is read at the items -/

/-- The texts at which the items of a list are read: each with all that follows it. -/
def itemTexts (rest : Text) : List Text → List Text
  | [] => []
  | w :: ws => (join [','] (w :: ws) ++ ']' :: rest) :: itemTexts rest ws

theorem map_drop_starts (rest : Text) (ws : List Text) (front : Text) :
    (ItemScan.starts front.length ws).map (fun i => (front ++ (join [','] ws ++ ']' :: rest)).drop i) =
      itemTexts rest ws := by
  induction ws generalizing front with
  | nil => rfl
  | cons w ws ih =>
    rw [ItemScan.starts, List.map_cons, itemTexts, List.drop_left]
    congr 1
    cases ws with
    | nil => rfl
    | cons v vs =>
      have h := ih (front ++ (w ++ [',']))
      rw [← h]
      simp only [List.length_append, List.length_singleton, List.append_assoc,
        show join [','] (w :: v :: vs) = w ++ [','] ++ join [','] (v :: vs) from rfl, Nat.add_assoc]

/-- A list in brackets is read item by item, and the reader stands behind its closing bracket. -/
theorem readValue_list {ws : List Text}
    (hws : ∀ w ∈ ws, Piece false w ∧ ItemScan.IsSolid w) (rest : Text) :
    readValue ('[' :: (join [','] ws ++ ']' :: rest)) =
      (some (.list ((itemTexts rest ws).filterMap fun s => (readValue s).1)),
        (join [','] ws).length + 2) := by
  have hstart : (ItemScan.mk none (some '[') 0 1 0 false 0).AtItem := ItemScan.atItem_mk (by decide)
  have htexts := map_drop_starts rest ws []
  rw [readValue_cons (by decide), if_neg (by decide), if_pos rfl, ItemScan.run_join hws rest hstart,
    ← htexts, List.filterMap_map]
  simp only [List.nil_append, List.length_nil, Function.comp_def, Nat.zero_add, Prod.mk.injEq,
    true_and]
  omega

end CommandUpgrade.Tag
