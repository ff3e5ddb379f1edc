import CommandUpgrade.Text.LowerCase
import CommandUpgrade.Text.Nesting

/-!
# Tokens of a command

A command is cut at the blanks outside quotes, braces and brackets. A token is trimmed, and one of
white space alone is no token.
-/

namespace CommandUpgrade.Command

open Text

/-- The tokens of a command. -/
def tokens (s : Text) : List Text := parts ' ' s

/-- A command: its name in lower case, and its arguments. -/
structure Call where
  name : Text
  args : List Text
  deriving DecidableEq, Repr

/-- The command that a text holds, a slash in front left out. -/
def Call.ofText (s : Text) : Call :=
  let s := trim s
  match tokens (if s.head? == some '/' then s.drop 1 else s) with
  | [] => ⟨[], []⟩
  | name :: args => ⟨lower name, args⟩

/-! ## Lengths -/

/-- The number of characters of texts, one more for each. -/
def weight (parts : List Text) : Nat := parts.foldr (fun s n => s.length + 1 + n) 0

@[simp] theorem weight_nil : weight [] = 0 := rfl

@[simp] theorem weight_cons (s : Text) (parts : List Text) :
    weight (s :: parts) = s.length + 1 + weight parts := by simp [weight]

theorem length_words (parts : List Text) : (words parts).length = weight parts - 1 := by
  induction parts with
  | nil => rfl
  | cons s parts ih =>
    cases parts with
    | nil => simp [words, join]
    | cons t parts => simp only [words, join, List.length_append] at ih ⊢; simp_all; omega

theorem weight_drop_le (n : Nat) (parts : List Text) : weight (parts.drop n) ≤ weight parts := by
  induction parts generalizing n with
  | nil => simp
  | cons s parts ih =>
    cases n with
    | zero => simp
    | succ n => have := ih n; simp; omega

theorem weight_extend (c : Char) {pieces : List Text} (h : pieces ≠ []) :
    weight (extend c pieces) = weight pieces + 1 := by
  cases pieces with
  | nil => contradiction
  | cons piece pieces => simp [extend]; omega

theorem pieces_ne_nil (sep : Char) (scan : Nesting) (s : Text) : scan.pieces sep s ≠ [] := by
  cases s with
  | nil => simp [Nesting.pieces]
  | cons c r =>
    simp only [Nesting.pieces]
    split
    · simp
    · cases (scan.step c).pieces sep r <;> simp [extend]

theorem weight_pieces (sep : Char) (scan : Nesting) (s : Text) :
    weight (scan.pieces sep s) = s.length + 1 := by
  induction s generalizing scan with
  | nil => simp [Nesting.pieces]
  | cons c r ih =>
    simp only [Nesting.pieces]
    split
    · simp [ih]; omega
    · rw [weight_extend c (pieces_ne_nil sep _ r), ih]; simp

theorem length_stripEnd_le (p : Char → Bool) (s : Text) : (stripEnd p s).length ≤ s.length := by
  induction s with
  | nil => simp [stripEnd]
  | cons c r ih =>
    simp only [stripEnd, List.foldr_cons] at ih ⊢
    split
    · simp
    · exact Nat.succ_le_succ ih

theorem length_trim_le (s : Text) : (trim s).length ≤ s.length := by
  have h := length_stripEnd_le isBlank (trimStart s)
  have h' : (trimStart s).length ≤ s.length := (List.dropWhile_sublist _).length_le
  exact Nat.le_trans h h'

theorem weight_solid_le (pieces : List Text) : weight (solid pieces) ≤ weight pieces := by
  induction pieces with
  | nil => simp [solid]
  | cons s pieces ih =>
    have := length_trim_le s
    simp only [solid, List.map_cons, List.filter_cons] at ih ⊢
    split
    · simp; omega
    · simp; omega

theorem weight_tokens_le (s : Text) : weight (tokens s) ≤ s.length + 1 := by
  have := weight_solid_le (Nesting.start.pieces ' ' s)
  rw [weight_pieces] at this
  exact this

/-- The arguments of a command are shorter than its text. -/
theorem weight_args_le (s : Text) : weight (Call.ofText s).args ≤ s.length := by
  have h := length_trim_le s
  simp only [Call.ofText]
  have h' := weight_tokens_le (if (trim s).head? == some '/' then (trim s).drop 1 else trim s)
  have h'' : (if (trim s).head? == some '/' then (trim s).drop 1 else trim s).length ≤ s.length := by
    split
    · rw [List.length_drop]; omega
    · exact h
  split
  · simp
  · rename_i name args eq
    rw [eq, weight_cons] at h'
    dsimp only
    omega

end CommandUpgrade.Command
