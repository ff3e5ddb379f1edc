import CommandUpgrade.Proofs.Digits
import CommandUpgrade.Text.Pattern

/-!
# What patterns take

`Takes` is the language of a pattern, with the texts that it keeps. A match takes a text of that
language (`matchAt?_takes`), whatever way the search went.
-/

namespace CommandUpgrade.Pattern

open Text

/-- A pattern can take a text and keep these parts of it, as far as the text alone tells. -/
def Takes : Pattern → Text → List Text → Prop
  | lit s, taken, kept => taken = s ∧ kept = []
  | anyCase s, taken, kept => taken.map foldCase = s.map foldCase ∧ kept = []
  | one p, taken, kept => (∃ c, p c = true ∧ taken = [c]) ∧ kept = []
  | many least p, taken, kept =>
    (∀ c ∈ taken, p c = true) ∧ least ≤ taken.length ∧ kept = []
  | few p, taken, kept => (∀ c ∈ taken, p c = true) ∧ kept = []
  | opt q, taken, kept => q.Takes taken kept ∨ (taken = [] ∧ kept = [])
  | group q, taken, kept => ∃ inner, q.Takes taken inner ∧ kept = inner ++ [taken]
  | next _, taken, kept => taken = [] ∧ kept = []
  | wordEdge, taken, kept => taken = [] ∧ kept = []
  | seq q r, taken, kept => ∃ first second firstKept secondKept,
    q.Takes first firstKept ∧ r.Takes second secondKept ∧ taken = first ++ second ∧
      kept = firstKept ++ secondKept
  | alt q r, taken, kept => q.Takes taken kept ∨ r.Takes taken kept

theorem takes_append {q r : Pattern} {taken : Text} {kept : List Text} :
    (q ++ r).Takes taken kept ↔ ∃ first second firstKept secondKept,
      q.Takes first firstKept ∧ r.Takes second secondKept ∧ taken = first ++ second ∧
        kept = firstKept ++ secondKept := Iff.rfl

variable {α : Type}

theorem afterMany_eq_some {p : Char → Bool} {go : Option Char → Text → Option α} {least : Nat}
    {front : Option Char} {s : Text} {a : α} (h : afterMany p go least front s = some a) :
    ∃ taken rest last, (∀ c ∈ taken, p c = true) ∧ least ≤ taken.length ∧ s = taken ++ rest ∧
      go last rest = some a := by
  -- The run either ends here or takes one more character.
  have stop : ∀ {least : Nat} {front : Option Char} {s : Text},
      (if least = 0 then go front s else none) = some a →
      ∃ taken rest last, (∀ c ∈ taken, p c = true) ∧ least ≤ taken.length ∧ s = taken ++ rest ∧
        go last rest = some a := by
    intro least front s h
    split at h
    · rename_i hleast
      exact ⟨[], s, front, by simp, by simp [hleast], rfl, h⟩
    · cases h
  induction s generalizing least front with
  | nil => exact stop h
  | cons c r ih =>
    rw [afterMany] at h
    split at h
    · rename_i hc
      rcases (Option.orElse_eq_some _ _ _).1 h with hmore | ⟨-, hstop⟩
      · obtain ⟨taken, rest, last, htaken, hleast, rfl, hgo⟩ := ih hmore
        refine ⟨c :: taken, rest, last, List.forall_mem_cons.2 ⟨hc, htaken⟩, ?_, rfl, hgo⟩
        rw [List.length_cons]
        omega
      · exact stop hstop
    · exact stop h

section Stop

variable {p : Char → Bool} {go : Option Char → Text → Option α} {taken rest : Text} {stop : Char} {a : α}
  (htaken : ∀ c ∈ taken, p c = true) (hstop : p stop = false)

include htaken hstop

theorem afterMany_longest {least : Nat} (hleast : least ≤ taken.length)
    (h : ∀ last, go last (stop :: rest) = some a) (front : Option Char) :
    afterMany p go least front (taken ++ stop :: rest) = some a := by
  induction taken generalizing least front with
  | nil =>
    obtain rfl : least = 0 := Nat.le_zero.1 hleast
    rw [List.nil_append, afterMany, if_neg (by simp [hstop]), if_pos rfl, h]
  | cons c r ih =>
    obtain ⟨hc, hr⟩ := List.forall_mem_cons.1 htaken
    rw [List.length_cons] at hleast
    rw [List.cons_append, afterMany, if_pos hc, ih hr (show least - 1 ≤ r.length by omega)]
    rfl

/-- A run goes up to the first character that is not of the class, if that is a place to go on. -/
theorem afterMany_of_stop (h : ∀ last, go last (stop :: rest) = some a) (front : Option Char) :
    afterMany p go 0 front (taken ++ stop :: rest) = some a :=
  afterMany_longest htaken hstop (Nat.zero_le _) h front

/-- A run gives its last character back, if one can go on from there and not from behind it. -/
theorem afterMany_back {least : Nat} (hleast : least ≤ taken.length) {d : Char} (hd : p d = true)
    (hnone : ∀ last, go last (stop :: rest) = none)
    (h : ∀ last, go last (d :: stop :: rest) = some a) (front : Option Char) :
    afterMany p go least front (taken ++ d :: stop :: rest) = some a := by
  induction taken generalizing least front with
  | nil =>
    obtain rfl : least = 0 := Nat.le_zero.1 hleast
    rw [List.nil_append, afterMany, if_pos hd, Nat.zero_sub, afterMany, if_neg (by simp [hstop]),
      if_pos rfl, hnone, if_pos rfl, h]
    rfl
  | cons c r ih =>
    obtain ⟨hc, hr⟩ := List.forall_mem_cons.1 htaken
    rw [List.length_cons] at hleast
    rw [List.cons_append, afterMany, if_pos hc, ih hr (show least - 1 ≤ r.length by omega)]
    rfl

end Stop

theorem afterFew_eq_some {p : Char → Bool} {go : Option Char → Text → Option α}
    {front : Option Char} {s : Text} {a : α} (h : afterFew p go front s = some a) :
    ∃ taken rest last, (∀ c ∈ taken, p c = true) ∧ s = taken ++ rest ∧ go last rest = some a := by
  induction s generalizing front with
  | nil => exact ⟨[], [], front, by simp, rfl, h⟩
  | cons c r ih =>
    rw [afterFew] at h
    rcases (Option.orElse_eq_some _ _ _).1 h with hstop | ⟨-, hmore⟩
    · exact ⟨[], c :: r, front, by simp, rfl, hstop⟩
    · split at hmore
      · rename_i hc
        obtain ⟨taken, rest, last, htaken, rfl, hgo⟩ := ih hmore
        exact ⟨c :: taken, rest, last, List.forall_mem_cons.2 ⟨hc, htaken⟩, rfl, hgo⟩
      · cases hmore

/-- Where a search succeeds, the pattern took a text in front of what was left to go on with. -/
theorem run_takes {p : Pattern} {go : Cursor → Option α} {cursor : Cursor} {a : α}
    (h : p.run go cursor = some a) :
    ∃ taken kept rest last, p.Takes taken kept ∧ cursor.rest = taken ++ rest ∧
      go ⟨last, rest, kept.reverse ++ cursor.groups⟩ = some a := by
  induction p generalizing go cursor a with
  | lit s =>
    obtain ⟨front, text, groups⟩ := cursor
    rw [run] at h
    split at h
    · rename_i hstart
      obtain ⟨rest, rfl⟩ := List.isPrefixOf_iff_prefix.1 hstart
      rw [List.drop_left] at h
      exact ⟨s, [], rest, _, ⟨rfl, rfl⟩, rfl, h⟩
    · cases h
  | anyCase s =>
    obtain ⟨front, text, groups⟩ := cursor
    rw [run] at h
    split at h
    · rename_i hcase
      exact ⟨text.take s.length, [], text.drop s.length, _, ⟨hcase, rfl⟩,
        (List.take_append_drop _ _).symm, h⟩
    · cases h
  | one p =>
    obtain ⟨front, text, groups⟩ := cursor
    cases text with
    | nil => cases h
    | cons c r =>
      rw [run] at h
      split at h
      · rename_i hc
        exact ⟨[c], [], r, _, ⟨⟨c, hc, rfl⟩, rfl⟩, rfl, h⟩
      · cases h
  | many least p =>
    obtain ⟨front, text, groups⟩ := cursor
    obtain ⟨taken, rest, last, htaken, hleast, hrest, hgo⟩ := afterMany_eq_some h
    exact ⟨taken, [], rest, last, ⟨htaken, hleast, rfl⟩, hrest, hgo⟩
  | few p =>
    obtain ⟨front, text, groups⟩ := cursor
    obtain ⟨taken, rest, last, htaken, hrest, hgo⟩ := afterFew_eq_some h
    exact ⟨taken, [], rest, last, ⟨htaken, rfl⟩, hrest, hgo⟩
  | opt q ih =>
    rcases (Option.orElse_eq_some _ _ _).1 h with hsome | ⟨-, hnone⟩
    · obtain ⟨taken, kept, rest, last, htakes, hrest, hgo⟩ := ih hsome
      exact ⟨taken, kept, rest, last, Or.inl htakes, hrest, hgo⟩
    · exact ⟨[], [], cursor.rest, cursor.before, Or.inr ⟨rfl, rfl⟩, rfl, hnone⟩
  | group q ih =>
    obtain ⟨taken, kept, rest, last, htakes, hrest, hgo⟩ := ih h
    refine ⟨taken, kept ++ [taken], rest, last, ⟨kept, htakes, rfl⟩, hrest, ?_⟩
    dsimp only at hgo
    rw [hrest, List.length_append, Nat.add_sub_cancel, List.take_left] at hgo
    rw [List.reverse_append]
    exact hgo
  | next p =>
    rw [run] at h
    split at h
    · exact ⟨[], [], cursor.rest, cursor.before, ⟨rfl, rfl⟩, rfl, h⟩
    · cases h
  | wordEdge =>
    rw [run] at h
    split at h
    · exact ⟨[], [], cursor.rest, cursor.before, ⟨rfl, rfl⟩, rfl, h⟩
    · cases h
  | seq q r ihq ihr =>
    obtain ⟨first, firstKept, middle, front, hfirst, hmiddle, hgo⟩ := ihq h
    obtain ⟨second, secondKept, rest, last, hsecond, hrest, hdone⟩ := ihr hgo
    refine ⟨first ++ second, firstKept ++ secondKept, rest, last,
      ⟨first, second, firstKept, secondKept, hfirst, hsecond, rfl, rfl⟩, ?_, ?_⟩
    · rw [hmiddle, List.append_assoc]
      exact congrArg (first ++ ·) hrest
    · rw [List.reverse_append, List.append_assoc]
      exact hdone
  | alt q r ihq ihr =>
    rcases (Option.orElse_eq_some _ _ _).1 h with hfirst | ⟨-, hsecond⟩
    · obtain ⟨taken, kept, rest, last, htakes, hrest, hgo⟩ := ihq hfirst
      exact ⟨taken, kept, rest, last, Or.inl htakes, hrest, hgo⟩
    · obtain ⟨taken, kept, rest, last, htakes, hrest, hgo⟩ := ihr hsecond
      exact ⟨taken, kept, rest, last, Or.inr htakes, hrest, hgo⟩

/-! ## Running over a known text -/

section Run

variable {go : Cursor → Option α} {front : Option Char} {rest : Text} {groups : List Text}

theorem run_append (q r : Pattern) (go : Cursor → Option α) (cursor : Cursor) :
    (q ++ r).run go cursor = q.run (r.run go) cursor := rfl

theorem run_lit (s : Text) :
    (lit s).run go ⟨front, s ++ rest, groups⟩ = go ⟨s.getLast? <|> front, rest, groups⟩ := by
  rw [run, if_pos (List.isPrefixOf_iff_prefix.2 (List.prefix_append s rest)), List.drop_left]

theorem run_anyCase {s t : Text} (h : s.map foldCase = t.map foldCase) :
    (anyCase t).run go ⟨front, s ++ rest, groups⟩ = go ⟨t.getLast? <|> front, rest, groups⟩ := by
  have hlength : t.length = s.length := by simpa using (congrArg List.length h).symm
  rw [run, hlength, List.take_left, if_pos h, List.drop_left]

theorem run_blanks {c : Char} (h : isBlank c = false) :
    blanks.run go ⟨front, c :: rest, groups⟩ = go ⟨front, c :: rest, groups⟩ := by
  rw [blanks, run, afterMany, if_neg (by simp [h]), if_pos rfl]

end Run

/-- A match is a text of the pattern's language at the start of the text, with the texts kept. -/
theorem matchAt?_takes {p : Pattern} {front : Option Char} {s : Text} {m : Match}
    (h : p.matchAt? front s = some m) : p.Takes m.whole m.groups ∧ s = m.whole ++ m.rest := by
  obtain ⟨taken, kept, rest, last, htakes, hrest, hgo⟩ := run_takes h
  have htext : s = taken ++ rest := hrest
  obtain rfl := Option.some.inj hgo
  dsimp only
  rw [htext, List.length_append, Nat.add_sub_cancel, List.take_left, List.append_nil,
    List.reverse_reverse]
  exact ⟨htakes, rfl⟩

theorem group_one {m : Match} {first : Text} {rest : List Text} (h : m.groups = first :: rest) :
    m.group 1 = first := by
  unfold Match.group
  rw [h]
  rfl

/-! ## Replacing -/

/-- What is replaced is related to the text if the relation goes on over single characters and over
each match and what stands for it. -/
theorem replace_rel {p : Pattern} {new : Match → Text} {R : Text → Text → Prop}
    (hp : ∀ taken kept, p.Takes taken kept → taken ≠ []) (nil : R [] [])
    (char : ∀ c s t, R s t → R (c :: s) (c :: t))
    (found : ∀ m : Match, p.Takes m.whole m.groups → ∀ s t, R s t → R (m.whole ++ s) (new m ++ t))
    (s : Text) : R s (p.replace new s) := by
  have go : ∀ put : Piece → Text, (∀ c, put (.char c) = [c]) → (∀ m, put (.found m) = new m) →
      ∀ (s : Text) (skip : Nat) (front : Option Char),
        R (s.drop skip) ((pieces.go p skip front s).flatMap put) := by
    intro put hchar hfound s
    induction s with
    | nil =>
      intro skip front
      rw [List.drop_nil]
      exact nil
    | cons c r ih =>
      intro skip front
      cases skip with
      | succ skip => exact ih skip (some c)
      | zero =>
        rw [pieces.go, List.drop_zero]
        cases hmatch : p.matchAt? front (c :: r) with
        | none =>
          dsimp only
          rw [List.flatMap_cons, hchar]
          exact char c r _ (ih 0 (some c))
        | some m =>
          obtain ⟨htakes, htext⟩ := matchAt?_takes hmatch
          obtain ⟨d, w, hwhole⟩ := List.exists_cons_of_ne_nil (hp _ _ htakes)
          have hrest : r.drop (m.whole.length - 1) = m.rest := by
            rw [hwhole, List.cons_append] at htext
            rw [hwhole, (List.cons.inj htext).2, List.length_cons, Nat.add_sub_cancel, List.drop_left]
          have hmore := ih (m.whole.length - 1) (some c)
          rw [hrest] at hmore
          dsimp only
          rw [htext, List.flatMap_cons, hfound]
          exact found m htakes _ _ hmore
  exact go _ (fun _ => rfl) (fun _ => rfl) s 0 none

/-! ## One match -/

/-- No match begins in the first text when the second one follows it. -/
def NoMatch (p : Pattern) (a s : Text) : Prop :=
  ∀ front, ∀ i < a.length, p.matchAt? front ((a ++ s).drop i) = none

section One

variable {p : Pattern}

theorem NoMatch.tail {c : Char} {a s : Text} (h : p.NoMatch (c :: a) s) : p.NoMatch a s := by
  intro front i hi
  exact h front (i + 1) (by rw [List.length_cons]; omega)

theorem NoMatch.head {c : Char} {a s : Text} (h : p.NoMatch (c :: a) s) (front : Option Char) :
    p.matchAt? front (c :: (a ++ s)) = none :=
  h front 0 (Nat.succ_pos _)

section Absent

variable {c : Char} (hp : ∀ taken kept, p.Takes taken kept → c ∈ taken)

include hp

theorem matchAt?_of_notMem {s : Text} (h : c ∉ s) (front : Option Char) : p.matchAt? front s = none := by
  rw [Option.eq_none_iff_forall_ne_some]
  intro m hm
  obtain ⟨htakes, htext⟩ := matchAt?_takes hm
  rw [htext] at h
  exact h (List.mem_append_left _ (hp _ _ htakes))

theorem noMatch_of_notMem {a s : Text} (h : c ∉ a ++ s) : p.NoMatch a s :=
  fun front i _ => matchAt?_of_notMem hp (fun hc => h ((List.drop_suffix i _).subset hc)) front

theorem find?_of_notMem {s : Text} (h : c ∉ s) : p.find? s = none := by
  have go : ∀ front, find?.go p front s = none := by
    induction s with
    | nil => intro front; rw [find?.go, matchAt?_of_notMem hp h]; rfl
    | cons d r ih =>
      intro front
      rw [find?.go, matchAt?_of_notMem hp h, ih (List.not_mem_of_not_mem_cons h)]
      rfl
  exact go none

theorem replace_of_notMem {s : Text} (h : c ∉ s) (new : Match → Text) : p.replace new s = s := by
  refine replace_rel (R := fun s t => c ∉ s → t = s) (fun taken kept htakes => ?_) (fun _ => rfl)
    (fun d s t ih hs => ?_) (fun m htakes s t _ hs => ?_) s h
  · exact List.ne_nil_of_mem (hp _ _ htakes)
  · rw [ih (List.not_mem_of_not_mem_cons hs)]
  · exact absurd (List.mem_append_left _ (hp _ _ htakes)) hs

end Absent

theorem exists_pieces_go_of_noMatch {a s : Text} (h : p.NoMatch a s) (front : Option Char) :
    ∃ last, pieces.go p 0 front (a ++ s) = a.map .char ++ pieces.go p 0 last s := by
  induction a generalizing front with
  | nil => exact ⟨front, rfl⟩
  | cons c a ih =>
    obtain ⟨last, hlast⟩ := ih h.tail (some c)
    refine ⟨last, ?_⟩
    rw [List.cons_append, pieces.go, h.head front]
    exact congrArg (Piece.char c :: ·) hlast

theorem exists_pieces_go_skip (p : Pattern) (w s : Text) (front : Option Char) :
    ∃ last, pieces.go p w.length front (w ++ s) = pieces.go p 0 last s := by
  induction w generalizing front with
  | nil => exact ⟨front, rfl⟩
  | cons c w ih => exact ih (some c)

variable {a w b : Text} {m : Match} (ha : p.NoMatch a (w ++ b))
  (hm : ∀ front, p.matchAt? front (w ++ b) = some m)

include ha hm

theorem find?_one : p.find? (a ++ (w ++ b)) = some (a, m) := by
  have go : ∀ front, find?.go p front (a ++ (w ++ b)) = some (a, m) := by
    induction a with
    | nil =>
      intro front
      rw [List.nil_append]
      cases htext : w ++ b with
      | nil => rw [find?.go, ← htext, hm]; rfl
      | cons c r => rw [find?.go, ← htext, hm]
    | cons c a ih =>
      intro front
      rw [List.cons_append, find?.go, ha.head front, ih ha.tail]
      rfl
  exact go none

/-- With one match in a text, what stands around it stays. -/
theorem replace_one (hwhole : m.whole = w) (hne : w ≠ []) (hb : p.NoMatch b []) (new : Match → Text) :
    p.replace new (a ++ (w ++ b)) = a ++ (new m ++ b) := by
  obtain ⟨c, r, rfl⟩ := List.exists_cons_of_ne_nil hne
  have hpieces : p.pieces (a ++ (c :: r ++ b)) = a.map .char ++ .found m :: b.map .char := by
    obtain ⟨front, hfront⟩ := exists_pieces_go_of_noMatch ha none
    obtain ⟨last, hlast⟩ := exists_pieces_go_skip p r b (some c)
    obtain ⟨behind, hbehind⟩ := exists_pieces_go_of_noMatch hb last
    have hfound := hm front
    rw [List.cons_append] at hfound hfront ⊢
    rw [List.append_nil] at hbehind
    rw [pieces, hfront, pieces.go, hfound]
    dsimp only
    rw [hwhole, List.length_cons, Nat.add_sub_cancel, hlast, hbehind]
    exact congrArg (a.map Piece.char ++ .found m :: ·) (List.append_nil _)
  have hchars : ∀ (put : Piece → Text) (s : Text), (∀ c, put (.char c) = [c]) →
      (s.map Piece.char).flatMap put = s := by
    intro put s hput
    rw [List.flatMap_map]
    exact (List.flatMap_congr fun c _ => hput c).trans (List.flatMap_singleton' s)
  rw [replace, hpieces, List.flatMap_append, List.flatMap_cons, hchars _ a fun _ => rfl,
    hchars _ b fun _ => rfl]

end One

end CommandUpgrade.Pattern
