import CommandUpgrade.Proofs.Command.Execute

/-!
# Positions under execute

A coordinate is a place on an axis or a displacement from where the entity is (`Axis`). Writing a
coordinate in the usual form keeps it (`read?_upgrade`). The clause for the position is left out where all
three coordinates are zero, whether they are displacements or not, so the position is kept unless one
of three such zeros is a place (`execute_position`).
-/

namespace CommandUpgrade

open Text

/-! ## Integers -/

namespace Number

/-- The number of a literal without a sign. -/
def natural? (s : Text) : Option Nat :=
  if s ≠ [] ∧ s.all Char.isDigit then some (Nat.ofDigitChars 10 s 0) else none

/-- The integer of a literal. -/
def integer? : Text → Option Int
  | '-' :: s => (natural? s).map fun n : Nat => -(n : Int)
  | '+' :: s => (natural? s).map Int.ofNat
  | s => (natural? s).map Int.ofNat

theorem natural?_eq_some_iff {s : Text} {n : Nat} :
    natural? s = some n ↔ s ≠ [] ∧ (∀ c ∈ s, c.isDigit) ∧ digitsValue s = n := by
  unfold natural?
  constructor
  · intro h
    obtain ⟨⟨hne, hall⟩, h⟩ := Option.ite_none_right_eq_some.1 h
    have hdigits := List.all_eq_true.1 hall
    exact ⟨hne, hdigits, (digitsValue_of_isDigit hdigits).trans (Option.some.inj h)⟩
  · rintro ⟨hne, hdigits, rfl⟩
    rw [if_pos ⟨hne, List.all_eq_true.2 hdigits⟩, digitsValue_of_isDigit hdigits]

theorem natural?_ofNat (n : Nat) : natural? (ofNat n) = some n :=
  natural?_eq_some_iff.2 ⟨ofNat_ne_nil n, fun _ => isDigit_of_mem_ofNat, digitsValue_ofNat n⟩

/-- A literal is a sign, or none, and digits. -/
theorem exists_sign_of_integer? {s : Text} {n : Int} (h : integer? s = some n) :
    ∃ sign digits negative, ∃ k : Nat, s = sign ++ digits ∧ (∀ c ∈ sign, c ∈ ['-', '+']) ∧
      readSign s = (negative, digits) ∧ natural? digits = some k ∧ n = if negative then -(k : Int) else k := by
  unfold integer? at h
  split at h <;> obtain ⟨k, hk, rfl⟩ := Option.map_eq_some_iff.1 h
  case h_1 digits => exact ⟨['-'], digits, true, k, rfl, by simp, rfl, hk, rfl⟩
  case h_2 digits => exact ⟨['+'], digits, false, k, rfl, by simp, rfl, hk, rfl⟩
  case h_3 =>
    have hdigits := (natural?_eq_some_iff.1 hk).2.1
    exact ⟨[], s, false, k, rfl, List.forall_mem_nil _, readSign_of_isDigit hdigits, hk, rfl⟩

/-- The characters of a literal. -/
theorem mem_of_integer? {s : Text} {n : Int} (h : integer? s = some n) {c : Char} (hc : c ∈ s) :
    c ∈ ['-', '+'] ∨ c.isDigit := by
  obtain ⟨sign, digits, -, k, rfl, hsign, -, hk, -⟩ := exists_sign_of_integer? h
  exact (List.mem_append.1 hc).imp (hsign c) ((natural?_eq_some_iff.1 hk).2.1 c)

/-- A literal is read as its integer, if it has not too many digits. -/
theorem readInt_of_integer? {s : Text} {n : Int} (h : integer? s = some n) :
    readInt s = if digitLimit < (s.filter Char.isDigit).length then
        .error (.tooManyDigits (s.filter Char.isDigit).length)
      else .ok n := by
  obtain ⟨sign, digits, negative, k, rfl, hsign, hread, hk, rfl⟩ := exists_sign_of_integer? h
  obtain ⟨hne, hdigits, rfl⟩ := natural?_eq_some_iff.1 hk
  have hmarks : ∀ c ∈ ['-', '+'], isBlank c = false ∧ ¬c.isDigit :=
    List.forall_mem_cons.2 ⟨by decide, List.forall_mem_singleton.2 (by decide)⟩
  have hfilter : (sign ++ digits).filter Char.isDigit = digits := by
    rw [List.filter_append, List.filter_eq_nil_iff.2 fun c hc => (hmarks c (hsign c hc)).2,
      List.filter_eq_self.2 hdigits, List.nil_append]
  rw [hfilter]
  refine readInt_of_readSign (fun c hc => ?_) hread hdigits hne
  rcases List.mem_append.1 hc with hc | hc
  · exact (hmarks c (hsign c hc)).1
  · exact isBlank_of_isDigit (hdigits c hc)

theorem integer?_ofNat (n : Nat) : integer? (ofNat n) = some (n : Int) := by
  have hdigits : ∀ c ∈ ofNat n, c.isDigit := fun _ => isDigit_of_mem_ofNat
  unfold integer?
  split
  case h_1 heq => exact absurd (hdigits '-' (heq ▸ List.mem_cons_self)) (by decide)
  case h_2 heq => exact absurd (hdigits '+' (heq ▸ List.mem_cons_self)) (by decide)
  case h_3 => rw [natural?_ofNat]; rfl

theorem integer?_ofInt (n : Int) : integer? (ofInt n) = some n := by
  cases n with
  | ofNat n => exact integer?_ofNat n
  | negSucc n =>
    show (natural? (ofNat (n + 1))).map _ = _
    rw [natural?_ofNat]
    rfl

end Number

/-! ## Coordinates -/

/-- Where something is on an axis: at a place, or displaced from where the entity is. -/
inductive Axis
  | place (n : Int)
  | displaced (n : Int)
  deriving DecidableEq, Repr

namespace Axis

/-- The meaning of a coordinate. -/
def read? : Text → Option Axis
  | '~' :: offset => if offset = [] then some (displaced 0) else (Number.integer? offset).map displaced
  | s => (Number.integer? s).map place

/-- A zero of those that are taken for no displacement. -/
def IsZero (s : Text) : Prop :=
  s = "0".toList ∨
    read? s = some (displaced 0) ∧ (s.filter Char.isDigit).length ≤ Number.digitLimit

theorem read?_tilde {offset : Text} (h : offset ≠ []) :
    read? ('~' :: offset) = (Number.integer? offset).map displaced := if_neg h

/-- A coordinate that is a place stays. -/
theorem upgrade_place {s : Text} (h : s.head? ≠ some '~') : Coordinate.upgrade s = s := by
  unfold Coordinate.upgrade
  split
  · exact absurd rfl h
  · rfl

theorem upgrade_displaced {offset : Text} {n : Int} (h : Number.integer? offset = some n) :
    Coordinate.upgrade ('~' :: offset) =
      if offset = "0".toList then "~".toList
      else if Number.digitLimit < (offset.filter Char.isDigit).length then '~' :: offset
      else '~' :: ofInt n := by
  have hne : offset.isEmpty = false := by
    cases offset with
    | nil => cases h
    | cons c rest => rfl
  have hpoint : offset.contains '.' = false := by
    rw [List.contains_eq_mem, decide_eq_false_iff_not]
    exact fun hmem => absurd (Number.mem_of_integer? h hmem) (by decide)
  unfold Coordinate.upgrade
  simp only [hne, hpoint, Number.readInt_of_integer? h, Bool.false_or, decide_eq_true_eq,
    Bool.false_eq_true, if_false]
  refine if_congr Iff.rfl rfl ?_
  by_cases hmany : Number.digitLimit < (offset.filter Char.isDigit).length
  · rw [if_pos hmany, if_pos hmany]
  · rw [if_neg hmany, if_neg hmany]

/-- The two kinds of coordinates, by their text. -/
theorem cases_of_read? {s : Text} {axis : Axis} (h : read? s = some axis) :
    (∃ n, axis = place n ∧ Number.integer? s = some n ∧ s.head? ≠ some '~') ∨
    (s = "~".toList ∧ axis = displaced 0) ∨
    ∃ offset n, s = '~' :: offset ∧ axis = displaced n ∧ Number.integer? offset = some n := by
  cases s with
  | nil => cases h
  | cons c offset =>
    by_cases hc : c = '~'
    · subst hc
      by_cases hoffset : offset = []
      · subst hoffset
        cases h
        exact .inr (.inl ⟨rfl, rfl⟩)
      · rw [read?_tilde hoffset] at h
        obtain ⟨n, hn, rfl⟩ := Option.map_eq_some_iff.1 h
        exact .inr (.inr ⟨offset, n, rfl, rfl, hn⟩)
    · have hhead : (c :: offset).head? ≠ some '~' := fun hhead => hc (Option.some.inj hhead)
      unfold read? at h
      split at h
      · rename_i heq
        exact absurd (List.cons.inj heq).1 hc
      · obtain ⟨n, hn, rfl⟩ := Option.map_eq_some_iff.1 h
        exact .inl ⟨n, rfl, hn, hhead⟩

theorem read?_displaced {offset : Text} {n : Int} (h : Number.integer? offset = some n) :
    read? ('~' :: offset) = some (displaced n) := by
  rw [read?_tilde (by rintro rfl; cases h), h]
  rfl

theorem integer?_zero : Number.integer? "0".toList = some 0 := by decide +kernel

/-- A coordinate in the usual form has the same meaning. -/
theorem read?_upgrade {s : Text} {axis : Axis} (h : read? s = some axis) :
    read? (Coordinate.upgrade s) = some axis := by
  obtain ⟨n, -, -, hhead⟩ | ⟨rfl, rfl⟩ | ⟨offset, n, rfl, rfl, hn⟩ := cases_of_read? h
  · rwa [upgrade_place hhead]
  · rfl
  · rw [upgrade_displaced hn]
    split
    case isTrue hzero =>
      rw [hzero, integer?_zero] at hn
      rw [← Option.some.inj hn]
      rfl
    case isFalse =>
      split
      · exact h
      · exact read?_displaced (Number.integer?_ofInt n)

/-- The zeros that are taken for no displacement, in the usual form. -/
def zeros : List Text := ["~".toList, "~0".toList, "~0.0".toList, "0".toList, "0.0".toList]

theorem isZero_iff (s : Text) : Command.Execute.isZero s = true ↔ s ∈ zeros := by
  unfold Command.Execute.isZero zeros
  simp only [List.any_cons, List.any_nil, Bool.or_false, Bool.or_eq_true, decide_eq_true_eq, List.mem_cons,
    List.not_mem_nil, or_false, eq_comm (a := s)]

theorem read?_of_mem_zeros :
    ∀ s ∈ zeros, s = "0".toList ∨ read? s = some (displaced 0) ∨ read? s = none := by decide +kernel

theorem length_of_mem_zeros :
    ∀ s ∈ zeros, (s.filter Char.isDigit).length ≤ Number.digitLimit := by decide

/-- Which coordinates are taken for no displacement. -/
theorem isZero_upgrade_iff {s : Text} {axis : Axis} (h : read? s = some axis) :
    Command.Execute.isZero (Coordinate.upgrade s) = true ↔ IsZero s := by
  rw [isZero_iff]
  unfold IsZero
  have hzeros {t : Text} {axis : Axis} (ht : t ∈ zeros) (hread : read? t = some axis) :
      t = "0".toList ∨ axis = displaced 0 := by
    rcases read?_of_mem_zeros t ht with rfl | hzero | hnone
    · exact .inl rfl
    · exact .inr (Option.some.inj (hread.symm.trans hzero))
    · cases hread.symm.trans hnone
  have hnew := read?_upgrade h
  obtain ⟨n, rfl, hn, hhead⟩ | ⟨rfl, rfl⟩ | ⟨offset, n, rfl, rfl, hn⟩ := cases_of_read? h
  · rw [upgrade_place hhead]
    constructor
    · intro hmem
      exact .inl ((hzeros hmem h).resolve_right (by simp))
    · rintro (rfl | ⟨hzero, -⟩)
      · decide
      · cases hzero.symm.trans h
  · exact iff_of_true (by decide) (.inr (by decide +kernel))
  · have hne (t : Text) : '~' :: t ≠ "0".toList := fun heq => absurd (List.cons.inj heq).1 (by decide)
    have hfilter : ('~' :: offset).filter Char.isDigit = offset.filter Char.isDigit := rfl
    rw [or_iff_right (hne offset), hfilter, h, upgrade_displaced hn]
    split
    case isTrue hzero =>
      rw [hzero, integer?_zero] at hn
      rw [hzero, ← Option.some.inj hn]
      exact iff_of_true (by decide) (by decide)
    case isFalse =>
      by_cases hmany : Number.digitLimit < (offset.filter Char.isDigit).length
      · rw [if_pos hmany]
        refine iff_of_false (fun hmem => ?_) fun hzero => absurd hzero.2 (by omega)
        exact absurd (length_of_mem_zeros _ hmem) (by rw [hfilter]; omega)
      · rw [if_neg hmany, and_iff_left (by omega)]
        constructor
        · intro hmem
          have hread := read?_displaced (Number.integer?_ofInt n)
          rw [(hzeros hmem hread).resolve_left (hne _)]
        · intro hzero
          cases hzero
          decide

/-- Of these zeros, one is a place. -/
theorem IsZero.displaced_iff {s : Text} {axis : Axis} (h : IsZero s) (hs : read? s = some axis) :
    axis = displaced 0 ↔ s ≠ "0".toList := by
  have hplace : read? "0".toList = some (place 0) := by decide +kernel
  constructor
  · rintro rfl rfl
    cases hs.symm.trans hplace
  · intro hne
    exact Option.some.inj (hs.symm.trans (h.resolve_left hne).1)

end Axis

/-! ## Clauses -/

namespace Command

/-- The position that a clause denotes: without words it is where the entity is. -/
def position? : List Text → Option (List Axis)
  | [] => some [.displaced 0, .displaced 0, .displaced 0]
  | [word, x, y, z] => do
    guard (word = "positioned".toList)
    return [← Axis.read? x, ← Axis.read? y, ← Axis.read? z]
  | _ => none

/-- The clause for a position. -/
def clauseOf (place : List Text) : List Text :=
  if (Coordinate.upgradeAll place).all Execute.isZero then []
  else "positioned".toList :: Coordinate.upgradeAll place

theorem clauseOf_eq_nil_iff {place : List Text} (h : ∀ s ∈ place, ∃ axis, Axis.read? s = some axis) :
    clauseOf place = [] ↔ ∀ s ∈ place, Axis.IsZero s := by
  have hall : (Coordinate.upgradeAll place).all Execute.isZero = true ↔ ∀ s ∈ place, Axis.IsZero s := by
    unfold Coordinate.upgradeAll
    rw [List.all_eq_true, List.forall_mem_map]
    refine forall₂_congr fun s hs => ?_
    obtain ⟨axis, haxis⟩ := h s hs
    exact Axis.isZero_upgrade_iff haxis
  rw [← hall]
  unfold clauseOf
  split
  case isTrue hzero => exact iff_of_true rfl hzero
  case isFalse hzero => exact iff_of_false (List.cons_ne_nil _ _) hzero

theorem execute_eq_clauseOf (tables : Tables) (target x y z : Text) {rest : List Text}
    (hrest : rest.head? ≠ some "detect".toList) :
    execute tables (target :: x :: y :: z :: rest) = (do
      let target ← selector tables target
      runNested tables (words (["execute as".toList, target, "at @s".toList] ++ clauseOf [x, y, z]))
        (if rest = [] then none else some (words rest))) := by
  have hdetects : Execute.detects (target :: x :: y :: z :: rest) = false := by
    unfold Execute.detects
    rw [decide_eq_false_iff_not]
    exact fun h => hrest (by rw [List.head?_eq_getElem?]; exact h)
  have hnested : Execute.nested? (target :: x :: y :: z :: rest) =
      if rest = [] then none else some (words rest) := by
    unfold Execute.nested?
    rw [hdetects, if_neg Bool.false_ne_true]
    cases rest with
    | nil => rfl
    | cons word rest => rfl
  unfold execute Execute.front
  rw [hnested, hdetects, if_neg Bool.false_ne_true]
  dsimp only
  cases selector tables target with
  | error fault => rfl
  | ok target => rfl

section Positions

variable {x y z : Text} {a b c : Axis} (hx : Axis.read? x = some a) (hy : Axis.read? y = some b)
  (hz : Axis.read? z = some c)

include hx hy hz

theorem position?_positioned : position? ["positioned".toList, x, y, z] = some [a, b, c] := by
  unfold position?
  dsimp only
  rw [hx, hy, hz]
  rfl

/-- Of three zeros that are taken for no displacement, one is a place, or the entity is there. -/
theorem position?_nil_iff (h : ∀ s ∈ [x, y, z], Axis.IsZero s) :
    position? [] = some [a, b, c] ↔ "0".toList ∉ [x, y, z] := by
  have hx' := h x (by simp)
  have hy' := h y (by simp)
  have hz' := h z (by simp)
  have hsame : position? [] = some [a, b, c] ↔
      a = .displaced 0 ∧ b = .displaced 0 ∧ c = .displaced 0 := by
    show some [Axis.displaced 0, .displaced 0, .displaced 0] = _ ↔ _
    simp only [Option.some.injEq, List.cons.injEq, and_true, eq_comm]
  rw [hsame, hx'.displaced_iff hx, hy'.displaced_iff hy, hz'.displaced_iff hz]
  simp only [List.mem_cons, List.not_mem_nil, or_false, not_or, ne_eq, eq_comm]

/-- What `execute` makes of a position, and which positions it keeps: all but those of three zeros one of
which is a place. In place of these the command runs where the entity is. -/
theorem execute_position (tables : Tables) (target : Text) (rest : List Text)
    (hrest : rest.head? ≠ some "detect".toList) :
    ∃ clause : List Text,
      execute tables (target :: x :: y :: z :: rest) = (do
        let target ← selector tables target
        runNested tables (words (["execute as".toList, target, "at @s".toList] ++ clause))
          (if rest = [] then none else some (words rest))) ∧
      (clause = [] ↔ ∀ s ∈ [x, y, z], Axis.IsZero s) ∧
      (position? clause = some [a, b, c] ↔
        ¬((∀ s ∈ [x, y, z], Axis.IsZero s) ∧ "0".toList ∈ [x, y, z])) := by
  have hplace : ∀ s ∈ [x, y, z], ∃ axis, Axis.read? s = some axis :=
    List.forall_mem_cons.2 ⟨⟨a, hx⟩, List.forall_mem_cons.2 ⟨⟨b, hy⟩, List.forall_mem_singleton.2 ⟨c, hz⟩⟩⟩
  have hnil := clauseOf_eq_nil_iff hplace
  refine ⟨clauseOf [x, y, z], execute_eq_clauseOf tables target x y z hrest, hnil, ?_⟩
  by_cases hzero : ∀ s ∈ [x, y, z], Axis.IsZero s
  · rw [hnil.2 hzero, position?_nil_iff hx hy hz hzero, not_and]
    exact ⟨fun h _ => h, fun h => h hzero⟩
  · refine iff_of_true ?_ fun h => hzero h.1
    have hclause : clauseOf [x, y, z] = "positioned".toList :: Coordinate.upgradeAll [x, y, z] := by
      unfold clauseOf at hnil ⊢
      rw [if_neg fun hall => hzero (hnil.1 (if_pos hall))]
    rw [hclause]
    exact position?_positioned (Axis.read?_upgrade hx) (Axis.read?_upgrade hy) (Axis.read?_upgrade hz)

end Positions

/-- At the origin a command runs where the entity is, once converted. -/
theorem execute_position_origin :
    let tables : Tables := ⟨[], [], [], [], .null, []⟩
    let zero := "0".toList
    execute tables ["@p".toList, zero, zero, zero, "say".toList, "hi".toList] =
      .ok "execute as @p at @s run say hi" ∧
    position? [] ≠ some [.place 0, .place 0, .place 0] := by
  intro tables zero
  have hread : Axis.read? zero = some (.place 0) := by decide +kernel
  have hzero : ∀ s ∈ [zero, zero, zero], Axis.IsZero s :=
    fun s hs => .inl (List.eq_of_mem_replicate (n := 3) hs)
  have hselector : selector tables "@p".toList = .ok "@p" := by decide +kernel
  have hnested : convert tables (words ["say".toList, "hi".toList]) = .ok "say hi" := by
    rw [convert_eq]
    decide +kernel
  obtain ⟨clause, hexecute, hnil, hposition⟩ :=
    execute_position hread hread hread tables "@p".toList ["say".toList, "hi".toList] (by decide)
  obtain rfl := hnil.2 hzero
  refine ⟨?_, fun h => hposition.1 h ⟨hzero, List.mem_cons_self⟩⟩
  rw [hexecute, hselector]
  show (do return words [_, _, ← convert tables (words ["say".toList, "hi".toList])]) = _
  rw [hnested]
  rfl

end Command

end CommandUpgrade
