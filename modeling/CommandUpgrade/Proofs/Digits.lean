import Mathlib
import CommandUpgrade.Number.Integer

/-!
# Written numbers and joined texts

`Text.ofNat` writes a number in decimal digits. The digits are digits of every kind that the readers
know, and `Number.readInt` gives the number back as long as it reads so many digits.
-/

namespace CommandUpgrade

namespace Text

/-! ## Single digits -/

theorem toNat_bounds_of_isDigit {c : Char} (h : c.isDigit) : 48 ≤ c.toNat ∧ c.toNat ≤ 57 := by
  simp only [Char.isDigit, Bool.and_eq_true, decide_eq_true_eq] at h
  exact ⟨h.1, h.2⟩

theorem decimalValue?_of_isDigit {c : Char} (h : c.isDigit) :
    decimalValue? c = some (c.toNat - 48) := by
  obtain ⟨hlo, hhi⟩ := toNat_bounds_of_isDigit h
  unfold decimalValue?
  rw [show zeros = 48 :: zeros.tail from rfl, List.find?_cons_of_pos]
  · rfl
  · rw [Bool.and_eq_true, decide_eq_true_eq, decide_eq_true_eq]; omega

theorem isDecimal_of_isDigit {c : Char} (h : c.isDigit) : isDecimal c = true := by
  unfold isDecimal; rw [decimalValue?_of_isDigit h]; rfl

theorem isDigit_of_isDigit {c : Char} (h : c.isDigit) : Text.isDigit c = true := by
  unfold Text.isDigit; rw [isDecimal_of_isDigit h]; rfl

theorem isBlank_of_isDigit {c : Char} (h : c.isDigit) : isBlank c = false := by
  obtain ⟨hlo, hhi⟩ := toNat_bounds_of_isDigit h
  unfold isBlank CharTable.holds
  generalize c.toNat = n at hlo hhi
  interval_cases n <;> decide

/-! ## Stripping -/

theorem stripEnd_eq_self {p : Char → Bool} {s : Text} (h : ∀ c ∈ s, p c = false) :
    stripEnd p s = s := by
  induction s with
  | nil => rfl
  | cons c r ih =>
    have hr := ih fun d hd => h d (List.mem_cons_of_mem c hd)
    unfold stripEnd at hr ⊢
    rw [List.foldr_cons, hr, h c List.mem_cons_self, Bool.and_false, if_neg Bool.false_ne_true]

theorem stripEnd_append_singleton {p : Char → Bool} {c : Char} (h : p c = false) (s : Text) :
    stripEnd p (s ++ [c]) = s ++ [c] := by
  induction s with
  | nil => unfold stripEnd; simp [h]
  | cons d r ih =>
    unfold stripEnd at ih ⊢
    rw [List.cons_append, List.foldr_cons, ih, if_neg (by simp)]

theorem stripBoth_eq_self {p : Char → Bool} {s : Text} (h : ∀ c ∈ s, p c = false) :
    stripBoth p s = s := by
  have hstart : stripStart p s = s := by
    cases s with
    | nil => rfl
    | cons c r =>
      unfold stripStart
      rw [List.dropWhile_cons_of_neg (by rw [h c List.mem_cons_self]; exact Bool.false_ne_true)]
  unfold stripBoth
  rw [hstart, stripEnd_eq_self h]

/-! ## Digits of a number -/

theorem isDigit_of_mem_ofNat {c : Char} {n : Nat} (h : c ∈ ofNat n) : c.isDigit :=
  Nat.isDigit_of_mem_toDigits (by norm_num) (by norm_num) h

theorem ofNat_ne_nil (n : Nat) : ofNat n ≠ [] := Nat.toDigits_ne_nil

theorem length_ofNat_le_iff {n k : Nat} (hk : 0 < k) : (ofNat n).length ≤ k ↔ n < 10 ^ k :=
  Nat.length_toDigits_le_iff (by norm_num) hk

/-! ## Joined texts -/

theorem join_cons_cons (sep : Char) (first next : Text) (rest : List Text) :
    join [sep] (first :: next :: rest) = first ++ sep :: join [sep] (next :: rest) := by
  rw [join, List.append_assoc, List.singleton_append]
  exact List.cons_ne_nil _ _

end Text

namespace Number

open Text

theorem digitsValue_of_isDigit {s : Text} (h : ∀ c ∈ s, c.isDigit) :
    digitsValue s = Nat.ofDigitChars 10 s 0 := by
  unfold digitsValue
  rw [Nat.ofDigitChars_eq_foldl]
  refine List.foldl_ext _ _ 0 fun n c hc => ?_
  rw [decimalValue?_of_isDigit (h c hc)]
  rfl

theorem digitsValue_ofNat (n : Nat) : digitsValue (ofNat n) = n := by
  rw [digitsValue_of_isDigit fun c => isDigit_of_mem_ofNat]
  exact Nat.ofDigitChars_ten_toDigits

theorem underscoresFit_of_isDigit {s : Text} (h : ∀ c ∈ s, c.isDigit) (before : Option Char) :
    underscoresFit before s = true := by
  induction s generalizing before with
  | nil => rfl
  | cons c r ih =>
    have hc : c ≠ '_' := by
      rintro rfl
      exact absurd (h '_' List.mem_cons_self) (by decide)
    rw [underscoresFit.eq_3 before c r (fun e => hc e)]
    exact ih (fun d hd => h d (List.mem_cons_of_mem c hd)) (some c)

theorem readSign_of_isDigit {s : Text} (h : ∀ c ∈ s, c.isDigit) : readSign s = (false, s) := by
  unfold readSign
  split
  · exact absurd (h '-' List.mem_cons_self) (by decide)
  · exact absurd (h '+' List.mem_cons_self) (by decide)
  · rfl

/-- Digits behind a sign, or without one, are read as their value, if there are not too many. -/
theorem readInt_of_readSign {s digits : Text} {negative : Bool} (hblank : ∀ c ∈ s, isBlank c = false)
    (hsign : readSign s = (negative, digits)) (h : ∀ c ∈ digits, c.isDigit) (hne : digits ≠ []) :
    readInt s =
      if digitLimit < digits.length then .error (.tooManyDigits digits.length)
      else .ok (if negative then -(digitsValue digits : Int) else digitsValue digits) := by
  have hstrip : stripBoth isNumberBlank s = s := stripBoth_eq_self fun c hc => by
    unfold isNumberBlank; rw [hblank c hc, Bool.false_and]
  have hrun : digits.takeWhile (fun c => isDecimal c || c == '_') = digits :=
    List.takeWhile_eq_self_iff.2 fun c hc => by rw [isDecimal_of_isDigit (h c hc), Bool.true_or]
  have hdigits : digits.filter isDecimal = digits :=
    List.filter_eq_self.2 fun c hc => isDecimal_of_isDigit (h c hc)
  have hfilled : digits.isEmpty = false := List.isEmpty_eq_false_iff.2 hne
  unfold readInt
  rw [hstrip, hsign]
  dsimp only
  rw [hrun, hdigits, hfilled, underscoresFit_of_isDigit h, if_neg (by decide)]
  by_cases hmany : digitLimit < digits.length
  · rw [if_pos hmany, if_pos hmany]
  · rw [if_neg hmany, if_neg hmany, if_neg (lt_irrefl _)]

theorem readInt_of_isDigit {s : Text} (h : ∀ c ∈ s, c.isDigit) (hne : s ≠ []) :
    readInt s =
      if digitLimit < s.length then .error (.tooManyDigits s.length)
      else .ok (digitsValue s : Int) :=
  readInt_of_readSign (fun c hc => isBlank_of_isDigit (h c hc)) (readSign_of_isDigit h) h hne

theorem readInt_ofNat {n : Nat} (h : (ofNat n).length ≤ digitLimit) : readInt (ofNat n) = .ok n := by
  rw [readInt_of_isDigit (fun c => isDigit_of_mem_ofNat) (ofNat_ne_nil n), if_neg (by omega),
    digitsValue_ofNat]

end Number

end CommandUpgrade
