import CommandUpgrade.Command.Restyle
import CommandUpgrade.Proofs.Text.Pattern

/-!
# Restyled texts in quotes

Of a command without rules of its own the texts in quotes are restyled, those between the first and the
second quote, the third and the fourth one, and so on (`quotedTexts`). A text without a section sign
stays, and any other becomes JSON, which has more quotes. So a command comes out as it was if and only
if no quoted text has a section sign (`restyleQuoted_eq_self_iff`).
-/

namespace CommandUpgrade.Command

open Text Style

/-- The texts in quotes, by the text since an open quote. -/
def quotedFrom : Option Text → Text → List Text
  | _, [] => []
  | none, c :: r => quotedFrom (if c = '"' then some [] else none) r
  | some inside, c :: r =>
    if c = '"' then inside :: quotedFrom none r else quotedFrom (some (inside ++ [c])) r

/-- The texts between the first and the second quote, the third and the fourth one, and so on. -/
def quotedTexts (s : Text) : List Text := quotedFrom none s

/-- No quoted text has a section sign. -/
def Unstyled (s : Text) : Prop := ∀ part ∈ quotedTexts s, isStyled part = false

instance (s : Text) : Decidable (Unstyled s) :=
  inferInstanceAs (Decidable (∀ part ∈ quotedTexts s, isStyled part = false))

/-! ## Quote by quote -/

/-- What holds of texts with one quote at most, and of a pair of quotes in front of a text of which it
holds, holds of every text. -/
theorem quote_induction {motive : Text → Prop} (plain : ∀ a, '"' ∉ a → motive a)
    (lone : ∀ a q, '"' ∉ a → '"' ∉ q → motive (a ++ '"' :: q))
    (pair : ∀ a q r, '"' ∉ a → '"' ∉ q → motive r → motive (a ++ '"' :: (q ++ '"' :: r)))
    (s : Text) : motive s := by
  induction hn : s.length using Nat.strong_induction_on generalizing s with
  | h n ih =>
    subst hn
    by_cases hs : '"' ∈ s
    · obtain ⟨a, t, rfl, ha⟩ := List.eq_append_cons_of_mem hs
      by_cases ht : '"' ∈ t
      · obtain ⟨q, r, rfl, hq⟩ := List.eq_append_cons_of_mem ht
        refine pair a q r ha hq (ih r.length ?_ r rfl)
        simp only [List.length_append, List.length_cons]
        omega
      · exact lone a t ha ht
    · exact plain s hs

section Quotes

variable {a q : Text} (ha : '"' ∉ a) (hq : '"' ∉ q)

include ha in
theorem quotedFrom_none_append (r : Text) : quotedFrom none (a ++ r) = quotedFrom none r := by
  induction a with
  | nil => rfl
  | cons c a ih =>
    obtain ⟨hc, ha⟩ := not_or.1 (mt List.mem_cons.2 ha)
    rw [List.cons_append, quotedFrom, if_neg (Ne.symm hc), ih ha]

include hq in
theorem quotedFrom_some_append (inside r : Text) :
    quotedFrom (some inside) (q ++ r) = quotedFrom (some (inside ++ q)) r := by
  induction q generalizing inside with
  | nil => rw [List.nil_append, List.append_nil]
  | cons c q ih =>
    obtain ⟨hc, hq⟩ := not_or.1 (mt List.mem_cons.2 hq)
    rw [List.cons_append, quotedFrom, if_neg (Ne.symm hc), ih hq, List.append_assoc,
      List.singleton_append]

include ha in
theorem quotedTexts_plain : quotedTexts a = [] := by
  have := quotedFrom_none_append ha []
  rwa [List.append_nil] at this

include ha hq in
theorem quotedTexts_lone : quotedTexts (a ++ '"' :: q) = [] := by
  have := quotedFrom_some_append hq [] []
  rw [List.append_nil] at this
  rw [quotedTexts, quotedFrom_none_append ha, quotedFrom, if_pos rfl, this]
  rfl

include ha hq in
theorem quotedTexts_pair (r : Text) :
    quotedTexts (a ++ '"' :: (q ++ '"' :: r)) = q :: quotedTexts r := by
  rw [quotedTexts, quotedFrom_none_append ha, quotedFrom, if_pos rfl, quotedFrom_some_append hq,
    quotedFrom, if_pos rfl]
  rfl

end Quotes

/-- A quoted text is a part of the whole. -/
theorem isStyled_of_mem_quotedTexts {s part : Text} (h : part ∈ quotedTexts s)
    (hs : isStyled s = false) : isStyled part = false := by
  unfold isStyled at hs ⊢
  rw [List.contains_eq_mem, decide_eq_false_iff_not] at hs ⊢
  induction s using quote_induction with
  | plain a ha => rw [quotedTexts_plain ha] at h; cases h
  | lone a q ha hq => rw [quotedTexts_lone ha hq] at h; cases h
  | pair a q r ha hq ih =>
    rw [quotedTexts_pair ha hq] at h
    simp only [List.mem_append, List.mem_cons, not_or] at hs
    rcases List.mem_cons.1 h with rfl | h
    · exact hs.2.2.1
    · exact ih h hs.2.2.2.2

/-! ## Matches -/

/-- A text in quotes. -/
def quotedPattern : Pattern :=
  ("\"" : String) ++ .group (.many 0 (Pattern.no ['"'])) ++ ("\"" : String)

theorem takes_quotedPattern {taken : Text} {kept : List Text} (h : quotedPattern.Takes taken kept) :
    ∃ inside, taken = '"' :: (inside ++ ['"']) := by
  simp only [quotedPattern, Pattern.takes_append, Pattern.Takes] at h
  obtain ⟨_, _, _, _, ⟨_, inside, _, _, ⟨rfl, rfl⟩, -, rfl, rfl⟩, ⟨rfl, rfl⟩, rfl, rfl⟩ := h
  exact ⟨inside, by simp⟩

theorem matchAt?_of_ne {c : Char} (hc : c ≠ '"') (front : Option Char) (r : Text) :
    quotedPattern.matchAt? front (c :: r) = none := by
  rw [Option.eq_none_iff_forall_ne_some]
  intro m hm
  obtain ⟨htakes, htext⟩ := Pattern.matchAt?_takes hm
  obtain ⟨inside, hwhole⟩ := takes_quotedPattern htakes
  rw [hwhole, List.cons_append] at htext
  exact hc (List.cons.inj htext).1

theorem matchAt?_lone {q : Text} (hq : '"' ∉ q) (front : Option Char) :
    quotedPattern.matchAt? front ('"' :: q) = none := by
  rw [Option.eq_none_iff_forall_ne_some]
  intro m hm
  obtain ⟨htakes, htext⟩ := Pattern.matchAt?_takes hm
  obtain ⟨inside, hwhole⟩ := takes_quotedPattern htakes
  rw [hwhole, List.cons_append] at htext
  exact hq (by rw [(List.cons.inj htext).2]; simp)

theorem matchAt?_pair {q : Text} (hq : '"' ∉ q) (front : Option Char) (r : Text) :
    quotedPattern.matchAt? front ('"' :: (q ++ '"' :: r)) =
      some ⟨'"' :: (q ++ ['"']), [q], r⟩ := by
  have hclass : ∀ c ∈ q, Pattern.no ['"'] c = true := by
    intro c hc
    simpa [Pattern.no] using ne_of_mem_of_not_mem hc hq
  refine Pattern.afterMany_of_stop hclass (by decide) (fun last => ?_) (some '"')
  have hwhole : (('"' :: (q ++ '"' :: r)).length - r.length) = ('"' :: (q ++ ['"'])).length := by
    simp only [List.length_cons, List.length_append, List.length_nil]
    omega
  have hinside : (q ++ '"' :: r).length - ('"' :: r).length = q.length := by
    rw [List.length_append, Nat.add_sub_cancel]
  have htake : List.take ('"' :: (q ++ ['"'])).length ('"' :: (q ++ ['"'] ++ r)) =
      '"' :: (q ++ ['"']) := List.take_left
  show some (Match.mk (List.take (('"' :: (q ++ '"' :: r)).length - r.length) _)
    [List.take ((q ++ '"' :: r).length - ('"' :: r).length) (q ++ '"' :: r)] r) = _
  rw [hwhole, hinside, List.take_left, List.append_cons q '"' r, htake]

/-- What stands in front of a quote does not matter. -/
theorem pieces_go (skip : Nat) (front : Option Char) (s : Text) :
    Pattern.pieces.go quotedPattern skip front s = Pattern.pieces.go quotedPattern skip none s := by
  cases s with
  | nil => rfl
  | cons c r =>
    cases skip with
    | zero => rfl
    | succ skip => rfl

theorem pieces_skip (q r : Text) :
    Pattern.pieces.go quotedPattern q.length none (q ++ r) = quotedPattern.pieces r := by
  induction q with
  | nil => rfl
  | cons c q ih => rw [← ih, List.length_cons, List.cons_append, Pattern.pieces.go, pieces_go]

theorem pieces_plain_append {a : Text} (ha : '"' ∉ a) (r : Text) :
    quotedPattern.pieces (a ++ r) = a.map .char ++ quotedPattern.pieces r := by
  induction a with
  | nil => rfl
  | cons c a ih =>
    obtain ⟨hc, ha⟩ := not_or.1 (mt List.mem_cons.2 ha)
    rw [List.cons_append, Pattern.pieces, Pattern.pieces.go, matchAt?_of_ne (Ne.symm hc)]
    dsimp only
    rw [pieces_go, ← Pattern.pieces, ih ha]
    rfl

theorem pieces_pair {q : Text} (hq : '"' ∉ q) (r : Text) :
    quotedPattern.pieces ('"' :: (q ++ '"' :: r)) =
      .found ⟨'"' :: (q ++ ['"']), [q], r⟩ :: quotedPattern.pieces r := by
  rw [Pattern.pieces, Pattern.pieces.go, matchAt?_pair hq]
  dsimp only
  rw [pieces_go, List.append_cons q '"' r, List.length_cons, Nat.add_sub_cancel, pieces_skip]

theorem pieces_lone {q : Text} (hq : '"' ∉ q) :
    quotedPattern.pieces ('"' :: q) = .char '"' :: q.map .char := by
  have hplain := pieces_plain_append hq []
  rw [List.append_nil] at hplain
  rw [Pattern.pieces, Pattern.pieces.go, matchAt?_lone hq]
  dsimp only
  rw [pieces_go, ← Pattern.pieces, hplain]
  exact congrArg _ (List.append_nil _)

/-! ## Restyling -/

/-- What stands for a text in quotes. -/
def restyledPart (q : Text) : Outcome Text :=
  if isStyled q then (messageJson q).map fun json => '"' :: (json ++ ['"'])
  else .ok ('"' :: (q ++ ['"']))

/-- What stands for a piece of a command. -/
def restyledPiece : Pattern.Piece → Outcome Text
  | .char c => .ok [c]
  | .found m =>
    if isStyled (m.group 1) then
      (messageJson (m.group 1)).map fun json => '"' :: (json ++ ['"'])
    else .ok m.whole

/-- The texts that stand for pieces, joined. -/
def joined (pieces : List Pattern.Piece) : Outcome Text :=
  List.flatten <$> pieces.mapM restyledPiece

theorem joined_cons (p : Pattern.Piece) (ps : List Pattern.Piece) :
    joined (p :: ps) = (do return (← restyledPiece p) ++ (← joined ps)) := by
  unfold joined
  rw [List.mapM_cons]
  cases restyledPiece p with
  | error e => rfl
  | ok new =>
    cases ps.mapM restyledPiece with
    | error e => rfl
    | ok rest => rfl

theorem joined_chars (a : Text) (ps : List Pattern.Piece) :
    joined (a.map .char ++ ps) = (a ++ ·) <$> joined ps := by
  induction a with
  | nil => exact (id_map _).symm
  | cons c a ih =>
    rw [List.map_cons, List.cons_append, joined_cons, ih]
    cases joined ps with
    | error e => rfl
    | ok rest => rfl

theorem restyleQuoted_eq (s : Text) : restyleQuoted s = joined (quotedPattern.pieces s) := rfl

theorem restyleQuoted_plain {a : Text} (ha : '"' ∉ a) : restyleQuoted a = .ok a := by
  have hpieces := pieces_plain_append ha []
  rw [List.append_nil] at hpieces
  rw [restyleQuoted_eq, hpieces, joined_chars]
  exact congrArg Except.ok (List.append_nil a)

theorem restyleQuoted_lone {a q : Text} (ha : '"' ∉ a) (hq : '"' ∉ q) :
    restyleQuoted (a ++ '"' :: q) = .ok (a ++ '"' :: q) := by
  have hchars : Pattern.Piece.char '"' :: q.map .char = ('"' :: q).map .char ++ [] := by simp
  rw [restyleQuoted_eq, pieces_plain_append ha, pieces_lone hq, joined_chars, hchars, joined_chars]
  exact congrArg (fun q => Except.ok (a ++ '"' :: q)) (List.append_nil q)

theorem restyleQuoted_pair {a q : Text} (ha : '"' ∉ a) (hq : '"' ∉ q) (r : Text) :
    restyleQuoted (a ++ '"' :: (q ++ '"' :: r)) =
      (do return a ++ ((← restyledPart q) ++ (← restyleQuoted r))) := by
  rw [restyleQuoted_eq, restyleQuoted_eq, pieces_plain_append ha, pieces_pair hq, joined_chars,
    joined_cons]
  have hpart : restyledPiece (.found ⟨'"' :: (q ++ ['"']), [q], r⟩) = restyledPart q := rfl
  rw [hpart]
  cases restyledPart q with
  | error e => rfl
  | ok new =>
    cases joined (quotedPattern.pieces r) with
    | error e => rfl
    | ok rest => rfl

/-! ## Quotes in JSON -/

theorem quote_mem_compound {entries : Entries} (h : entries ≠ []) :
    '"' ∈ (Tag.compound entries).toJson := by
  obtain ⟨⟨name, tag⟩, rest, rfl⟩ := List.exists_cons_of_ne_nil h
  have hname : '"' ∈ Json.quoted name := List.mem_cons_self
  unfold Tag.toJson
  rw [Json.write, Json.writeEntries]
  cases Json.writeEntries .wide rest with
  | nil => simp [join, hname]
  | cons entry entries => simp [join, hname]

theorem settled_ne_nil (component : Entries) : settled component ≠ [] := by
  cases component with
  | nil => exact List.cons_ne_nil _ _
  | cons entry rest =>
    unfold settled
    split <;> simp

theorem ne_nil_of_mem_messageComponents {s : Text} {components : List Entries}
    (h : messageComponents s = .ok components) : ∀ component ∈ components, component ≠ [] := by
  unfold messageComponents at h
  cases hmarks : marks s with
  | error e =>
    rw [hmarks] at h
    cases h
  | ok steps =>
    rw [hmarks] at h
    cases h
    intro component hmem
    obtain ⟨raw, -, rfl⟩ := List.mem_map.1 hmem
    exact settled_ne_nil raw

theorem quote_mem_messageJson {s json : Text} (h : messageJson s = .ok json) : '"' ∈ json := by
  unfold messageJson messageTag at h
  split at h
  · cases h
    exact quote_mem_compound (List.cons_ne_nil _ _)
  · cases hcomponents : messageComponents s with
    | error e =>
      rw [hcomponents] at h
      cases h
    | ok components =>
      have hfilled := ne_nil_of_mem_messageComponents hcomponents
      rw [hcomponents] at h
      match components with
      | [] =>
        cases h
        exact quote_mem_compound (List.cons_ne_nil _ _)
      | [component] =>
        cases h
        exact quote_mem_compound (hfilled component List.mem_cons_self)
      | first :: second :: rest =>
        cases h
        have hfirst := quote_mem_compound (hfilled first List.mem_cons_self)
        exact List.mem_cons_of_mem _ (List.mem_append_left _
          (List.mem_append_left _ (List.mem_append_left _ hfirst)))

/-! ## Texts that stay -/

/-- Restyling adds quotes wherever it changes something. -/
theorem count_restyledPart {q new : Text} (h : restyledPart q = .ok new) :
    2 ≤ new.count '"' ∧ (new.count '"' = 2 → isStyled q = false) := by
  have hcount : ∀ inside : Text, ('"' :: (inside ++ ['"'])).count '"' = inside.count '"' + 2 := by
    intro inside
    simp
  unfold restyledPart at h
  split at h
  · cases hjson : messageJson q with
    | error e =>
      rw [hjson] at h
      cases h
    | ok json =>
      rw [hjson] at h
      cases h
      have := List.count_pos_iff.2 (quote_mem_messageJson hjson)
      rw [hcount]
      omega
  · rename_i hstyled
    cases h
    rw [hcount]
    exact ⟨Nat.le_add_left _ _, fun _ => Bool.eq_false_iff.2 hstyled⟩

theorem count_restyleQuoted {s t : Text} (h : restyleQuoted s = .ok t) :
    s.count '"' ≤ t.count '"' ∧ (t.count '"' ≤ s.count '"' → Unstyled s) := by
  induction s using quote_induction generalizing t with
  | plain a ha =>
    rw [restyleQuoted_plain ha] at h
    cases h
    exact ⟨le_rfl, fun _ => by unfold Unstyled; rw [quotedTexts_plain ha]; simp⟩
  | lone a q ha hq =>
    rw [restyleQuoted_lone ha hq] at h
    cases h
    exact ⟨le_rfl, fun _ => by unfold Unstyled; rw [quotedTexts_lone ha hq]; simp⟩
  | pair a q r ha hq ih =>
    rw [restyleQuoted_pair ha hq] at h
    cases hpart : restyledPart q with
    | error e =>
      rw [hpart] at h
      cases h
    | ok new =>
      cases hrest : restyleQuoted r with
      | error e =>
        rw [hpart, hrest] at h
        cases h
      | ok rest =>
        rw [hpart, hrest] at h
        cases h
        obtain ⟨hnew, hstyled⟩ := count_restyledPart hpart
        obtain ⟨hle, hunstyled⟩ := ih hrest
        have hcount : (a ++ '"' :: (q ++ '"' :: r)).count '"' =
            a.count '"' + (r.count '"' + 2) := by
          simp [List.count_eq_zero_of_not_mem hq]
        rw [hcount, List.count_append, List.count_append]
        refine ⟨by omega, fun hcounts => ?_⟩
        unfold Unstyled
        rw [quotedTexts_pair ha hq, List.forall_mem_cons]
        exact ⟨hstyled (by omega), hunstyled (by omega)⟩

theorem Unstyled.restyleQuoted_eq_self {s : Text} (h : Unstyled s) : restyleQuoted s = .ok s := by
  induction s using quote_induction with
  | plain a ha => exact restyleQuoted_plain ha
  | lone a q ha hq => exact restyleQuoted_lone ha hq
  | pair a q r ha hq ih =>
    unfold Unstyled at h
    rw [quotedTexts_pair ha hq, List.forall_mem_cons] at h
    have hpart : restyledPart q = .ok ('"' :: (q ++ ['"'])) := if_neg (by simp [h.1])
    rw [restyleQuoted_pair ha hq, hpart, ih h.2]
    exact congrArg (fun tail => Except.ok (a ++ '"' :: tail)) (List.append_cons q '"' r).symm

/-- A text comes out as it was exactly if none of its quoted texts has a section sign. -/
theorem restyleQuoted_eq_self_iff (s : Text) : restyleQuoted s = .ok s ↔ Unstyled s :=
  ⟨fun h => (count_restyleQuoted h).2 le_rfl, Unstyled.restyleQuoted_eq_self⟩

end CommandUpgrade.Command
