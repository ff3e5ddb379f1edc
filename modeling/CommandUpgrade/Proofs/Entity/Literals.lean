import CommandUpgrade.Proofs.Entity.OldNames
import CommandUpgrade.Proofs.Tag.Typed

/-!
# Numbers in entity data

A `Literal` is an integer as it stands in data: a sign, digits, and the letter of a type. Converting
an entity keeps the value of the digits alone. The sign and the letter are lost, and a number of too
many digits becomes a text (`upgradeData_literals`). So a literal comes out as one of the same number
and type exactly if it is not negative, has no type and is not too long.
-/

namespace CommandUpgrade.Entity

open Text Number
open Tag (Kind Stops ReadsAsName)

/-- An integer as it stands in data. -/
structure Literal where
  negative : Bool
  digits : Text
  kind : Option Kind
  isDigit : ∀ c ∈ digits, c.isDigit
  filled : digits ≠ []

namespace Literal

/-- The sign in front of the digits. -/
def sign (l : Literal) : Text := if l.negative then ['-'] else []

def text (l : Literal) : Text := l.sign ++ (l.digits ++ Tag.Typed.letters l.kind)

/-- The number that a literal denotes. -/
def number (l : Literal) : Int :=
  if l.negative then -(digitsValue l.digits : Int) else digitsValue l.digits

/-- The tag that is read from a literal. -/
def tag (l : Literal) : Tag :=
  if l.digits.length ≤ digitLimit then .int (digitsValue l.digits) else .text l.text

/-- What becomes of a literal: its digits in the usual form, or the whole in quotes. -/
def kept (l : Literal) : Text :=
  if l.digits.length ≤ digitLimit then ofNat (digitsValue l.digits) else Tag.quoted l.text

/-- A text is a literal of the same number and type. -/
def Denotes (w : Text) (l : Literal) : Prop :=
  ∃ l' : Literal, l'.text = w ∧ l'.number = l.number ∧ l'.kind = l.kind

section Reading

variable (l : Literal)

theorem sign_cases : l.sign = [] ∨ l.sign = ['-'] := by
  unfold sign
  split
  · exact Or.inr rfl
  · exact Or.inl rfl

theorem of_mem_text {c : Char} (h : c ∈ l.text) :
    c = '-' ∨ c.isDigit = true ∨ ∃ kind : Kind, c = kind.letter := by
  unfold text at h
  rcases List.mem_append.1 h with h | h
  · rcases l.sign_cases with hsign | hsign
    · rw [hsign] at h
      cases h
    · rw [hsign] at h
      exact Or.inl (List.mem_singleton.1 h)
  · rcases List.mem_append.1 h with h | h
    · exact Or.inr (Or.inl (l.isDigit c h))
    · cases hkind : l.kind with
      | none =>
        rw [hkind] at h
        cases h
      | some kind =>
        rw [hkind] at h
        exact Or.inr (Or.inr ⟨kind, List.mem_singleton.1 h⟩)

theorem isNameChar_text {c : Char} (h : c ∈ l.text) : Tag.isNameChar c = true := by
  rcases l.of_mem_text h with rfl | hdigit | ⟨kind, rfl⟩
  · decide
  · exact Tag.isNameChar_of_isDigit hdigit
  · cases kind <;> decide

theorem exists_text_eq_cons : ∃ c r, l.text = c :: r ∧ Tag.isNameChar c = true := by
  obtain ⟨c, r, hstart, hc, -⟩ := Tag.exists_signed_eq_cons l.sign_cases l.isDigit l.filled
  refine ⟨c, r ++ Tag.Typed.letters l.kind, ?_, hc⟩
  unfold text
  rw [← List.append_assoc, hstart, List.cons_append]

/-- What the reader leaves of a literal. -/
def left : Text := if l.digits.length ≤ digitLimit then Tag.Typed.letters l.kind else []

theorem readValue_text {rest : Text} (h : Stops rest) :
    ∃ m, Tag.readValue (l.text ++ rest) = (some l.tag, m) ∧ (l.text ++ rest).drop m = l.left ++ rest := by
  obtain ⟨c, r, hstart, hc⟩ := l.exists_text_eq_cons
  have hletters : ∀ c ∈ Tag.Typed.letters l.kind,
      Tag.isNameChar c = true ∧ Text.isDigit c = false ∧ c ≠ '.' :=
    fun c => Tag.Typed.isNameChar_letters
  have hatom := Tag.readAtom_signed l.sign_cases l.isDigit l.filled hletters h
  have htext : l.text ++ rest = l.sign ++ (l.digits ++ (Tag.Typed.letters l.kind ++ rest)) := by
    unfold text
    simp
  have hvalue : Tag.readValue (l.text ++ rest) = Tag.readAtom (l.text ++ rest) := by
    rw [hstart, List.cons_append, Tag.Typed.readValue_word hc]
  rw [hvalue, htext, hatom]
  unfold tag left
  by_cases hshort : l.digits.length ≤ digitLimit
  · rw [if_pos hshort, if_pos hshort, if_pos hshort]
    refine ⟨_, rfl, ?_⟩
    rw [← List.append_assoc, List.drop_left]
  · rw [if_neg hshort, if_neg hshort, if_neg hshort]
    refine ⟨_, rfl, ?_⟩
    rw [← htext]
    exact List.drop_left

/-- A literal that is left over in part is read as a name. -/
theorem left_cases : l.left = [] ∨ ReadsAsName l.left l.left '}' := by
  unfold left
  split
  · by_cases hkind : Tag.Typed.letters l.kind = []
    · exact Or.inl hkind
    · refine Or.inr (Tag.readsAsName_bare (fun c hc => ?_) hkind (by decide))
      exact (Tag.Typed.isNameChar_letters hc).1
  · exact Or.inl rfl

/-- Items of a list are read one by one. -/
theorem filterMap_itemTexts (ls : List Literal) (rest : Text) :
    (Tag.itemTexts rest (ls.map text)).filterMap (fun s => (Tag.readValue s).1) = ls.map tag := by
  induction ls with
  | nil => rfl
  | cons l ls ih =>
    have hhead : (Tag.readValue (join [','] (l.text :: ls.map text) ++ ']' :: rest)).1 =
        some l.tag := by
      cases ls with
      | nil =>
        obtain ⟨m, hread, -⟩ := l.readValue_text (Tag.stops_cons (Or.inr (Or.inr rfl)) rest)
        exact congrArg Prod.fst hread
      | cons next ls =>
        rw [List.map_cons, join_cons_cons, List.append_assoc, List.cons_append]
        obtain ⟨m, hread, -⟩ := l.readValue_text (Tag.stops_cons (Or.inl rfl) _)
        exact congrArg Prod.fst hread
    rw [List.map_cons, List.map_cons, Tag.itemTexts, List.filterMap_cons, hhead]
    exact congrArg _ ih

theorem readValue_list (ls : List Literal) (rest : Text) :
    Tag.readValue ('[' :: (join [','] (ls.map text) ++ ']' :: rest)) =
      (some (.list (ls.map tag)), (join [','] (ls.map text)).length + 2) := by
  have hpieces : ∀ w ∈ ls.map text, Tag.Piece false w ∧ Tag.ItemScan.IsSolid w := by
    intro w hw
    obtain ⟨l, -, rfl⟩ := List.mem_map.1 hw
    refine ⟨Tag.Piece.of_isNameChar fun c => l.isNameChar_text, ?_⟩
    obtain ⟨c, r, hstart, hc⟩ := l.exists_text_eq_cons
    unfold Tag.ItemScan.IsSolid
    rw [hstart, List.any_cons, Tag.isBlank_of_isNameChar hc]
    rfl
  rw [Tag.readValue_list hpieces, filterMap_itemTexts]

end Reading

/-! ## Writing -/

theorem writeIn_tag (l : Literal) {name : Option Text} (h : name.any Tag.isFlagName = false)
    (parent : Option Text) : Tag.writeIn name parent l.tag = l.kept := by
  unfold tag kept
  split
  · rw [Tag.writeIn, Tag.writeNumber, h, Bool.and_false, if_neg Bool.false_ne_true]
    rfl
  · rw [Tag.writeIn]

theorem writeItems_map_tag (ls : List Literal) (parent : Option Text) :
    Tag.writeItems parent (ls.map tag) = ls.map kept := by
  induction ls with
  | nil => rfl
  | cons l ls ih => rw [List.map_cons, List.map_cons, Tag.writeItems, l.writeIn_tag rfl, ih]

end Literal

/-! ## One entry -/

theorem trim_braces (w : Text) : trim ('{' :: (w ++ ['}'])) = '{' :: (w ++ ['}']) := by
  unfold trim stripBoth stripStart
  rw [List.dropWhile_cons_of_neg (by decide), ← List.cons_append]
  exact stripEnd_append_singleton (by decide) ('{' :: w)

/-- An entry in braces, of whose value at most a word is left over. -/
theorem read_entry {name left r : Text} {c : Char} {tag : Tag} {m : Nat} (hname : IsSmall name)
    (hgap : Tag.isGap c = false) (hcolon : c ≠ ':')
    (hvalue : Tag.readValue (c :: (r ++ ['}'])) = (some tag, m))
    (hrest : (c :: (r ++ ['}'])).drop m = left ++ ['}'])
    (hleft : left = [] ∨ ReadsAsName left left '}') :
    Tag.read ('{' :: (name ++ ':' :: c :: r ++ ['}'])) = .compound [(name, tag)] := by
  have hreads : ReadsAsName name name ':' :=
    Tag.readsAsName_bare (fun c => hname.isNameChar) hname.filled (by decide)
  obtain ⟨d, q, hstart, -, hsep, -⟩ := hreads.exists_cons
  have hend : Tag.entriesFrom [(name, tag)] (left ++ ['}']) = ([(name, tag)], []) := by
    rcases hleft with rfl | hleft
    · exact Tag.entriesFrom_close _ []
    · rw [Tag.entriesFrom_word (by simp) hleft, Tag.entriesFrom_nil]
  have hentries : (Tag.readEntries [] (name ++ ':' :: c :: (r ++ ['}']))).1 = [(name, tag)] := by
    have hfrom := Tag.entriesFrom_cons hsep [] (q ++ ':' :: c :: (r ++ ['}']))
    rw [← List.cons_append, ← hstart, Tag.entriesFrom_entry hreads hgap hcolon hvalue, hrest] at hfrom
    exact (congrArg Prod.fst hfrom).symm.trans (congrArg Prod.fst hend)
  unfold Tag.read
  rw [trim_braces]
  dsimp only
  rw [List.append_assoc, List.cons_append, List.cons_append, Tag.readValue_compound, hentries]
  rfl

/-! ## Nothing to renew -/

/-- The characters of written numbers, and of what stands around them but for the opening brace. -/
def isTame (c : Char) : Bool := c.isLower || c.isDigit || ":-L\"[],\x7d".toList.contains c

/-- There are other characters in whatever is renewed on the text. -/
theorem not_infix_of_isTame {s part : Text} (h : ∀ c ∈ s, isTame c = true)
    (hpart : part ∈ oldNames ++ jsonStarts) : ¬ part <:+: '{' :: s := by
  have hparts : ∀ part ∈ oldNames ++ jsonStarts,
      part ≠ [] ∧ part.head? ≠ some '{' ∧ part.all isTame = false := by decide
  obtain ⟨hfilled, hhead, hwild⟩ := hparts part hpart
  rw [List.infix_cons_iff]
  rintro (⟨rest, hrest⟩ | hinside)
  · obtain ⟨c, r, rfl⟩ := List.exists_cons_of_ne_nil hfilled
    exact hhead (congrArg some (List.cons.inj hrest).1)
  · have htame : part.all isTame = true := List.all_eq_true.2 fun c hc => h c (hinside.subset hc)
    rw [htame] at hwild
    cases hwild

theorem isTame_of_isLower {c : Char} (h : c.isLower = true) : isTame c = true := by
  unfold isTame
  rw [h]
  rfl

theorem isTame_of_isDigit {c : Char} (h : c.isDigit = true) : isTame c = true := by
  unfold isTame
  rw [h, Bool.or_true]
  rfl

namespace Literal

theorem isTame_text (l : Literal) {c : Char} (h : c ∈ l.text) : isTame c = true := by
  rcases l.of_mem_text h with rfl | hdigit | ⟨kind, rfl⟩
  · decide
  · exact isTame_of_isDigit hdigit
  · cases kind <;> decide

theorem isTame_kept (l : Literal) {c : Char} (h : c ∈ l.kept) : isTame c = true := by
  unfold kept at h
  split at h
  · exact isTame_of_isDigit (isDigit_of_mem_ofNat h)
  · rw [Tag.quoted_eq, List.mem_cons, List.mem_append, List.mem_singleton, List.mem_flatMap] at h
    rcases h with rfl | ⟨d, hd, hc⟩ | rfl
    · decide
    · have hname := l.isNameChar_text hd
      rw [Tag.escape_of_plain (Tag.ne_of_isNameChar hname (by decide))
        (Tag.ne_of_isNameChar hname (by decide)), List.mem_singleton] at hc
      rw [hc]
      exact l.isTame_text hd
    · decide

theorem isTame_join {ws : List Text} (h : ∀ w ∈ ws, ∀ c ∈ w, isTame c = true) {c : Char}
    (hc : c ∈ join [','] ws) : isTame c = true := by
  induction ws with
  | nil => cases hc
  | cons w ws ih =>
    obtain ⟨hw, hws⟩ := List.forall_mem_cons.1 h
    cases ws with
    | nil => exact hw c hc
    | cons v vs =>
      rw [join_cons_cons, List.mem_append, List.mem_cons] at hc
      rcases hc with hc | rfl | hc
      · exact hw c hc
      · decide
      · exact ih hws hc

end Literal

/-- An entity of one entry, written with tame characters. -/
theorem upgradeData_entry (tables : Tables) (restyle : Bool) {data name w : Text} {tag : Tag}
    (hname : IsSmall name) (hread : Tag.read data = .compound [(name, tag)])
    (hwrite : Tag.writeIn (some name) none tag = w) (hw : ∀ c ∈ w, isTame c = true) :
    upgradeData tables restyle data = .ok ('{' :: (name ++ ':' :: w ++ ['}'])) := by
  have hwritten : (Tag.compound [(name, tag)]).write = '{' :: (name ++ ':' :: w ++ ['}']) := by
    rw [Tag.write_compound, hname.writeEntries_cons, hwrite]
    rfl
  have htame : ∀ c ∈ name ++ ':' :: w ++ ['}'], isTame c = true := by
    intro c hc
    simp only [List.mem_append, List.mem_cons, List.not_mem_nil, or_false] at hc
    rcases hc with (hc | rfl | hc) | rfl
    · exact isTame_of_isLower (hname.small c hc)
    · decide
    · exact hw c hc
    · decide
  rw [upgradeData_of_isSmall tables restyle hread (List.forall_mem_singleton.2 hname),
    finish_eq_write tables fun part hpart => ?_, hwritten]
  rw [hwritten]
  exact not_infix_of_isTame htame hpart

/-! ## The number and the type -/

namespace Literal

/-- A literal that is written in digits alone is not negative and has no type. -/
theorem of_isDigit_text {l : Literal} (h : ∀ c ∈ l.text, c.isDigit) :
    l.text = l.digits ∧ l.number = digitsValue l.digits ∧ l.kind = none := by
  unfold text at h ⊢
  have hsign : l.negative = false := by
    by_contra hnegative
    rw [Bool.not_eq_false] at hnegative
    have hminus : '-' ∈ l.sign := by
      unfold sign
      rw [if_pos hnegative]
      exact List.mem_singleton_self _
    exact absurd (h '-' (List.mem_append_left _ hminus)) (by decide)
  have hkind : l.kind = none := by
    cases hkind : l.kind with
    | none => rfl
    | some kind =>
      have hletter : kind.letter ∈ Tag.Typed.letters l.kind := by
        rw [hkind]
        exact List.mem_singleton_self _
      have hdigit := isDigit_of_isDigit
        (h kind.letter (List.mem_append_right _ (List.mem_append_right _ hletter)))
      rw [(Tag.Typed.isNameChar_letters hletter).2.1] at hdigit
      cases hdigit
  refine ⟨?_, ?_, hkind⟩
  · unfold sign
    rw [hsign, hkind]
    exact List.append_nil _
  · unfold number
    rw [hsign]
    rfl

/-- The number and the type are kept exactly if there are no sign and no letter to lose, but for the
sign of zero, and not too many digits. -/
theorem denotes_kept_iff (l : Literal) :
    Denotes l.kept l ↔ 0 ≤ l.number ∧ l.kind = none ∧ l.digits.length ≤ digitLimit := by
  constructor
  · rintro ⟨l', htext, hnumber, hkind⟩
    unfold kept at htext
    split at htext
    · rename_i hshort
      obtain ⟨-, hvalue, hnone⟩ := of_isDigit_text (l := l') fun c hc => by
        rw [htext] at hc
        exact isDigit_of_mem_ofNat hc
      refine ⟨?_, hkind ▸ hnone, hshort⟩
      rw [← hnumber, hvalue]
      exact Int.natCast_nonneg _
    · obtain ⟨c, r, hstart, hc⟩ := l'.exists_text_eq_cons
      rw [hstart, Tag.quoted_eq] at htext
      rw [(List.cons.inj htext).1] at hc
      exact absurd hc (by decide)
  · rintro ⟨hnumber, hkind, hshort⟩
    refine ⟨⟨false, ofNat (digitsValue l.digits), none, fun c => isDigit_of_mem_ofNat,
      ofNat_ne_nil _⟩, ?_, ?_, hkind.symm⟩
    · unfold kept
      rw [if_pos hshort]
      exact List.append_nil _
    · show ((digitsValue (ofNat (digitsValue l.digits)) : Nat) : Int) = l.number
      rw [digitsValue_ofNat]
      unfold number at hnumber ⊢
      split at hnumber
      · rename_i hnegative
        rw [if_pos hnegative]
        omega
      · rename_i hnegative
        rw [if_neg hnegative]

end Literal

/-- The number of an entry in small letters, and every number of a list, loses its sign and its type,
and one of too many digits becomes a text. -/
theorem upgradeData_literals (tables : Tables) (restyle : Bool) {name : Text} (hname : IsSmall name)
    (l : Literal) (ls : List Literal) :
    upgradeData tables restyle ('{' :: (name ++ ':' :: l.text ++ ['}'])) =
      .ok ('{' :: (name ++ ':' :: l.kept ++ ['}'])) ∧
    upgradeData tables restyle
        ('{' :: (name ++ ':' :: '[' :: (join [','] (ls.map Literal.text) ++ [']']) ++ ['}'])) =
      .ok ('{' :: (name ++ ':' :: '[' :: (join [','] (ls.map Literal.kept) ++ [']']) ++ ['}'])) ∧
    (Literal.Denotes l.kept l ↔ 0 ≤ l.number ∧ l.kind = none ∧ l.digits.length ≤ digitLimit) := by
  have hflag : (some name).any Tag.isFlagName = false := hname.isFlagName
  refine ⟨?_, ?_, l.denotes_kept_iff⟩
  · obtain ⟨m, hvalue, hrest⟩ := l.readValue_text (Tag.stops_cons (Or.inr (Or.inl rfl)) [])
    obtain ⟨c, r, hstart, hc⟩ := l.exists_text_eq_cons
    rw [hstart, List.cons_append] at hvalue hrest
    have hread := read_entry hname (Tag.isGap_of_isNameChar hc)
      (Tag.ne_of_isNameChar hc (by decide)) hvalue hrest l.left_cases
    rw [← hstart] at hread
    exact upgradeData_entry tables restyle hname hread (l.writeIn_tag hflag none)
      fun c => l.isTame_kept
  · have hvalue := Literal.readValue_list ls ['}']
    rw [List.append_cons] at hvalue
    have hrest : ('[' :: (join [','] (ls.map Literal.text) ++ [']'] ++ ['}'])).drop
        ((join [','] (ls.map Literal.text)).length + 2) = [] ++ ['}'] := by
      have hlength : ('[' :: (join [','] (ls.map Literal.text) ++ [']'])).length =
          (join [','] (ls.map Literal.text)).length + 2 := by simp
      rw [← hlength]
      exact List.drop_left
    have hread := read_entry hname (by decide) (by decide) hvalue hrest (Or.inl rfl)
    refine upgradeData_entry tables restyle hname hread ?_ fun c hc => ?_
    · rw [Tag.writeIn, Literal.writeItems_map_tag]
      rfl
    · rw [List.mem_cons, List.mem_append, List.mem_singleton] at hc
      rcases hc with rfl | hc | rfl
      · decide
      · refine Literal.isTame_join (fun w hw => ?_) hc
        obtain ⟨l, -, rfl⟩ := List.mem_map.1 hw
        exact fun c => l.isTame_kept
      · decide

/-- A number of one digit. -/
def Literal.ofDigit (negative : Bool) (c : Char) (kind : Option Kind) (h : c.isDigit := by decide) :
    Literal :=
  ⟨negative, [c], kind, List.forall_mem_singleton.2 h, List.cons_ne_nil c []⟩

/-- A minus sign is lost, alone and in a list, and so are the letters of types. -/
theorem upgradeData_literals_negative :
    let tables : Tables := ⟨[], [], [], [], .null, []⟩
    upgradeData tables true "\x7bx:-5\x7d" = .ok "\x7bx:5\x7d" ∧
    upgradeData tables true "\x7bx:[-1b,2s,3L]\x7d" = .ok "\x7bx:[1,2,3]\x7d" ∧
    ¬ Literal.Denotes ['5'] (.ofDigit true '5' none) := by
  intro tables
  obtain ⟨hnumber, hlist, hsame⟩ := upgradeData_literals tables true (show IsSmall ['x'] by decide)
    (.ofDigit true '5' none)
    [.ofDigit true '1' (some .byte), .ofDigit false '2' (some .short), .ofDigit false '3' (some .long)]
  refine ⟨hnumber, hlist, fun h => ?_⟩
  obtain ⟨hpositive, -⟩ := hsame.1 h
  exact absurd hpositive (by decide)

end CommandUpgrade.Entity
