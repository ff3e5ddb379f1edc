import CommandUpgrade.Proofs.Tag.Entries
import CommandUpgrade.Proofs.Tag.Leaves
import CommandUpgrade.Tag.Number

/-!
# Tags that can be printed

An integer of more digits than are read is not printed either. No tag that is read holds one
(`isPrintable_read`): an integer in a text has at most so many digits, and a decimal stays in the range
of binary64 numbers, so that its integer part is short as well.
-/

namespace CommandUpgrade

open Text Number

/-! ## Numbers -/

/-- An integer of no more digits than are read. -/
def IsShort (n : Int) : Prop := n.natAbs < 10 ^ digitLimit

theorem isShort_of_lt {n : Int} (h : n.natAbs < 10) : IsShort n :=
  h.trans_le (Nat.le_self_pow (by decide) 10)

theorem decimalValue?_lt {c : Char} {v : Nat} (h : decimalValue? c = some v) : v < 10 := by
  obtain ⟨first, hfirst, rfl⟩ := Option.map_eq_some_iff.1 h
  have hrange := List.find?_some hfirst
  rw [Bool.and_eq_true, decide_eq_true_eq, decide_eq_true_eq] at hrange
  omega

theorem digitsValue_lt (digits : Text) : digitsValue digits < 10 ^ digits.length := by
  induction digits using List.reverseRecOn with
  | nil => decide
  | append_singleton digits c ih =>
    have hdigit : (decimalValue? c).getD 0 < 10 := by
      cases hvalue : decimalValue? c with
      | none => decide
      | some v => exact decimalValue?_lt hvalue
    have hvalue : digitsValue (digits ++ [c]) =
        10 * digitsValue digits + (decimalValue? c).getD 0 := by
      unfold digitsValue
      rw [List.foldl_append]
      rfl
    rw [hvalue, List.length_append, List.length_singleton, Nat.pow_succ]
    omega

theorem isShort_readInt {s : Text} {n : Int} (h : readInt s = .ok n) : IsShort n := by
  unfold readInt at h
  dsimp only at h
  split at h
  · cases h
  split at h
  · cases h
  rename_i hmany
  split at h
  · cases h
  cases h
  unfold IsShort
  refine lt_of_lt_of_le ?_ (Nat.pow_le_pow_right (by decide) (Nat.not_lt.1 hmany))
  split
  · rw [Int.natAbs_neg, Int.natAbs_natCast]
    exact digitsValue_lt _
  · rw [Int.natAbs_natCast]
    exact digitsValue_lt _

namespace Binary64

/-- A number whose integer part, if it has one, is short. -/
def HasShortPart (x : Binary64) : Prop := ∀ n, x.trunc = .ok n → IsShort n

theorem hasShortPart_nan : nan.HasShortPart := by
  intro n h
  cases h

theorem hasShortPart_infinite (negative : Bool) : (infinite negative).HasShortPart := by
  intro n h
  cases h

theorem hasShortPart_finite {negative : Bool} {units : Nat} (h : units / one < 10 ^ digitLimit) :
    (finite negative units).HasShortPart := by
  intro n hn
  cases hn
  unfold IsShort
  split
  · rwa [Int.natAbs_neg, Int.natAbs_natCast]
  · rwa [Int.natAbs_natCast]

theorem hasShortPart_zero (negative : Bool) : (finite negative 0).HasShortPart := by
  apply hasShortPart_finite
  rw [Nat.zero_div]
  exact Nat.pow_pos (by decide)

/-- The whole numbers within the range of the format are short. -/
theorem div_one_lt {units : Nat} (h : units < Nat.pow 2 2098) : units / one < 10 ^ digitLimit := by
  have hrange : Nat.pow 2 2098 ≤ one * 10 ^ digitLimit := by decide +kernel
  exact Nat.div_lt_of_lt_mul (h.trans_le hrange)

theorem hasShortPart_ofRatio (negative : Bool) (num den : Nat) :
    (ofRatio negative num den).HasShortPart := by
  have hdiv := @div_one_lt
  unfold ofRatio
  -- The bound is a name from here on, as its value is not to be computed.
  generalize Nat.pow 2 2098 = limit at hdiv ⊢
  dsimp only
  split
  · rename_i hlt
    exact hasShortPart_finite (hdiv hlt)
  · exact hasShortPart_infinite negative

theorem hasShortPart_ofInt (n : Int) : (ofInt n).HasShortPart := hasShortPart_ofRatio _ _ _

theorem hasShortPart_ofDecimal (negative : Bool) (digits : Nat) (exponent : Int) :
    (ofDecimal negative digits exponent).HasShortPart := by
  unfold ofDecimal
  split
  · exact hasShortPart_zero negative
  dsimp only
  split
  · exact hasShortPart_infinite negative
  split
  · exact hasShortPart_zero negative
  split <;> exact hasShortPart_ofRatio _ _ _

theorem hasShortPart_readUnsigned {negative : Bool} {s : Text} {x : Binary64}
    (h : readUnsigned negative s = some x) : x.HasShortPart := by
  unfold readUnsigned at h
  obtain ⟨-, h⟩ | ⟨-, h⟩ := ite_eq_iff.1 h
  · cases h
  · obtain ⟨exponent, -, rfl⟩ := Option.map_eq_some_iff.1 h
    exact hasShortPart_ofDecimal _ _ _

theorem hasShortPart_read? {s : Text} {x : Binary64} (h : read? s = some x) : x.HasShortPart := by
  unfold read? at h
  dsimp only at h
  split at h
  · cases h
    exact hasShortPart_infinite _
  split at h
  · cases h
    exact hasShortPart_nan
  split at h
  · exact hasShortPart_readUnsigned h
  · cases h

end Binary64

/-! ## Tags -/

/-- A tag without an integer that is too long to print, nor a decimal that has such an integer
part. -/
inductive Tag.IsPrintable : Tag → Prop
  | null : IsPrintable .null
  | bool (b : Bool) : IsPrintable (.bool b)
  | int {n : Int} (h : IsShort n) : IsPrintable (.int n)
  | float {x : Binary64} (h : x.HasShortPart) : IsPrintable (.float x)
  | text (s : Text) : IsPrintable (.text s)
  | list {items : List Tag} (h : ∀ tag ∈ items, tag.IsPrintable) : IsPrintable (.list items)
  | compound {entries : List (Text × Tag)} (h : ∀ entry ∈ entries, entry.2.IsPrintable) :
      IsPrintable (.compound entries)

/-- Entries all of whose tags can be printed. -/
def Entries.ArePrintable (entries : Entries) : Prop := ∀ entry ∈ entries, entry.2.IsPrintable

theorem Tag.IsPrintable.items {items : List Tag} (h : (Tag.list items).IsPrintable) :
    ∀ tag ∈ items, tag.IsPrintable := by
  cases h
  assumption

theorem Tag.IsPrintable.entries {entries : Entries} (h : (Tag.compound entries).IsPrintable) :
    entries.ArePrintable := by
  cases h
  assumption

/-- The integer that a tag stands for is short. -/
theorem Tag.IsPrintable.isShort_toInt {tag : Tag} (htag : tag.IsPrintable) {n : Int}
    (h : tag.toInt = .ok n) : IsShort n := by
  cases htag with
  | null => cases h
  | bool b =>
    cases h
    cases b <;> exact isShort_of_lt (by decide)
  | int hn =>
    cases h
    exact hn
  | float hx => exact hx n h
  | text s => exact isShort_readInt h
  | list hitems => cases h
  | compound hentries => cases h

theorem Tag.eq_of_bounded {x y : Binary64} (h : bounded x = .ok y) : y = x := by
  cases x with
  | nan => cases h
  | infinite negative => cases h
  | finite negative units =>
    cases h
    rfl

/-- The decimal that a tag stands for has a short integer part. -/
theorem Tag.IsPrintable.hasShortPart_toFloat {tag : Tag} (htag : tag.IsPrintable) {x : Binary64}
    (h : tag.toFloat = .ok x) : x.HasShortPart := by
  cases htag with
  | null => cases h
  | bool b =>
    rw [toFloat] at h
    rw [← Except.ok.inj h]
    exact Binary64.hasShortPart_ofInt _
  | @int n hn =>
    rw [toFloat] at h
    rw [eq_of_bounded h]
    exact Binary64.hasShortPart_ofInt n
  | float hx =>
    cases h
    exact hx
  | text s =>
    change Binary64.read s = .ok x at h
    unfold Binary64.read at h
    split at h
    · rename_i y hy
      cases h
      exact Binary64.hasShortPart_read? hy
    · cases h
  | list hitems => cases h
  | compound hentries => cases h

namespace Entries

theorem arePrintable_nil : ArePrintable [] := by
  intro entry h
  cases h

theorem ArePrintable.cons {name : Text} {tag : Tag} {entries : Entries} (htag : tag.IsPrintable)
    (h : entries.ArePrintable) : ArePrintable ((name, tag) :: entries) :=
  List.forall_mem_cons.2 ⟨htag, h⟩

theorem arePrintable_singleton {name : Text} {tag : Tag} (htag : tag.IsPrintable) :
    ArePrintable [(name, tag)] := arePrintable_nil.cons htag

theorem ArePrintable.append {entries more : Entries} (h : entries.ArePrintable)
    (hmore : more.ArePrintable) : (entries ++ more).ArePrintable :=
  List.forall_mem_append.2 ⟨h, hmore⟩

theorem ArePrintable.filter {entries : Entries} (h : entries.ArePrintable)
    (p : Text × Tag → Bool) : ArePrintable (entries.filter p) :=
  fun entry hentry => h entry (List.mem_of_mem_filter hentry)

theorem ArePrintable.erase {entries : Entries} (h : entries.ArePrintable) (name : Text) :
    (entries.erase name).ArePrintable := h.filter _

theorem ArePrintable.set {entries : Entries} (h : entries.ArePrintable) {tag : Tag}
    (htag : tag.IsPrintable) (name : Text) : (entries.set name tag).ArePrintable := by
  induction entries with
  | nil => exact arePrintable_singleton htag
  | cons entry rest ih =>
    obtain ⟨n, t⟩ := entry
    obtain ⟨hfirst, hrest⟩ := List.forall_mem_cons.1 h
    rw [Entries.set]
    split
    · exact ArePrintable.cons htag hrest
    · exact ArePrintable.cons hfirst (ih hrest)

theorem ArePrintable.merge {entries new : Entries} (h : entries.ArePrintable)
    (hnew : new.ArePrintable) : (entries.merge new).ArePrintable := by
  unfold Entries.merge
  induction new generalizing entries with
  | nil => exact h
  | cons entry rest ih =>
    obtain ⟨hfirst, hrest⟩ := List.forall_mem_cons.1 hnew
    exact ih (h.set hfirst entry.1) hrest

theorem ArePrintable.get? {entries : Entries} (h : entries.ArePrintable) {name : Text} {tag : Tag}
    (hget : Entries.get? name entries = some tag) : tag.IsPrintable := by
  induction entries with
  | nil => cases hget
  | cons entry rest ih =>
    obtain ⟨n, t⟩ := entry
    obtain ⟨hfirst, hrest⟩ := List.forall_mem_cons.1 h
    rw [get?_cons] at hget
    split at hget
    · cases hget
      exact hfirst
    · exact ih hrest hget

theorem ArePrintable.getD {entries : Entries} (h : entries.ArePrintable) (name : Text) {other : Tag}
    (hother : other.IsPrintable) : ((Entries.get? name entries).getD other).IsPrintable := by
  cases htag : Entries.get? name entries with
  | none => exact hother
  | some tag => exact h.get? htag

end Entries

/-! ## Reading -/

namespace Tag

theorem isPrintable_numeralValue? {digits : Text} {tag : Tag} (h : numeralValue? digits = some tag) :
    tag.IsPrintable := by
  unfold numeralValue? at h
  split at h
  · obtain ⟨x, hx, rfl⟩ := Option.map_eq_some_iff.1 h
    exact .float (Binary64.hasShortPart_read? hx)
  split at h
  · rename_i n hn
    cases h
    exact .int (isShort_readInt hn)
  · cases h

theorem isPrintable_readNumber {s : Text} {tag : Tag} {n : Nat} (h : readNumber s = some (tag, n)) :
    tag.IsPrintable := by
  unfold readNumber at h
  obtain ⟨-, h⟩ | ⟨-, h⟩ := ite_eq_iff.1 h
  · cases h
  · obtain ⟨tag', htag, heq⟩ := Option.map_eq_some_iff.1 h
    cases heq
    exact isPrintable_numeralValue? htag

theorem isPrintable_readAtom {s : Text} {tag : Tag} (h : (readAtom s).1 = some tag) :
    tag.IsPrintable := by
  unfold readAtom at h
  split at h
  · cases h
    exact .bool true
  split at h
  · cases h
    exact .bool false
  split at h
  · rename_i hnumber
    cases h
    exact isPrintable_readNumber hnumber
  dsimp only at h
  split at h
  · cases h
  · cases h
    exact .text _

/-- What one reading step needs: values and entries read from shorter texts can be printed. -/
def ReadsPrintable (s : Text) : Prop :=
  (∀ tag, (readValue s).1 = some tag → tag.IsPrintable) ∧
    ∀ entries : Entries, entries.ArePrintable → (readEntries entries s).1.ArePrintable

theorem isPrintable_readValue_step {s : Text} (ih : ∀ r : Text, r.length < s.length → ReadsPrintable r)
    {tag : Tag} (h : (readValue s).1 = some tag) : tag.IsPrintable := by
  rw [readValue] at h
  split at h
  · cases h
  rename_i c r hdrop
  have hlt := length_of_drop_eq_cons hdrop
  dsimp only at h
  split at h
  · cases h
    exact .compound ((ih r hlt).2 [] Entries.arePrintable_nil)
  split at h
  · cases h
    refine .list fun tag htag => ?_
    obtain ⟨i, -, hi⟩ := List.mem_filterMap.1 htag
    refine (ih (r.drop i) ?_).1 tag hi
    rw [List.length_drop]
    omega
  split at h
  · cases h
    exact .text _
  · exact isPrintable_readAtom h

theorem arePrintable_readEntries_step {s : Text}
    (ih : ∀ r : Text, r.length < s.length → ReadsPrintable r) {entries : Entries}
    (hentries : entries.ArePrintable) : (readEntries entries s).1.ArePrintable := by
  rw [readEntries]
  split
  · exact hentries
  rename_i c r hdrop
  have hlt := length_of_drop_eq_cons hdrop
  split
  · exact hentries
  split
  · exact hentries
  rename_i name n hname
  have hpos := readName_pos hname
  have hrest : ((c :: r).drop n).length < s.length := by
    rw [List.length_drop, List.length_cons]
    omega
  dsimp only
  generalize (c :: r).drop n = rest at hrest ⊢
  generalize span (fun c => isGap c || c == ':') rest = colon
  have hvalue := (ih (rest.drop colon) (by rw [List.length_drop]; omega)).1
  have hmore (k : Nat) := (ih (rest.drop k) (by rw [List.length_drop]; omega)).2
  cases htag : (readValue (rest.drop colon)).1 with
  | none =>
    dsimp only
    rw [List.drop_drop]
    exact hmore _ _ hentries
  | some tag =>
    dsimp only
    rw [List.drop_drop]
    exact hmore _ _ (hentries.set (hvalue tag htag) name)

theorem readsPrintable (s : Text) : ReadsPrintable s := by
  induction hlength : s.length using Nat.strong_induction_on generalizing s with
  | _ length ih =>
    subst hlength
    have hshorter (r : Text) (hr : r.length < s.length) : ReadsPrintable r := ih r.length hr r rfl
    exact ⟨fun tag h => isPrintable_readValue_step hshorter h,
      fun entries h => arePrintable_readEntries_step hshorter h⟩

/-- Every tag that is read can be printed. -/
theorem isPrintable_read (s : Text) : (read s).IsPrintable := by
  unfold read
  split
  · exact .compound Entries.arePrintable_nil
  · rename_i c r hs
    cases htag : (readValue (c :: r)).1 with
    | none => exact .compound Entries.arePrintable_nil
    | some tag => exact (readsPrintable (c :: r)).1 tag htag

end Tag

end CommandUpgrade
