import CommandUpgrade.Json.Reader
import CommandUpgrade.Json.Writer
import CommandUpgrade.Proofs.Tag.Entries

/-!
# Reading written JSON

A tag without numbers is read back from its JSON text. The escapes of a string are undone character by
character: what is not printable ASCII stands there as one code unit, or as two surrogates that the
reader joins. No character of a text is itself a surrogate, so nothing else is joined.
-/

namespace CommandUpgrade.Json

open Text

/-! ## Code units -/

theorem hexValue?_digitChar {d : Nat} (h : d < 16) : hexValue? (Nat.digitChar d) = some d := by
  interval_cases d <;> rfl

theorem unit?_toDigits (n : Nat) : unit? (Nat.toDigits 16 n) = some n := by
  induction n using Nat.strongRecOn with
  | ind n ih =>
    rw [Nat.toDigits_eq_if (by decide)]
    unfold unit? at ih ⊢
    split
    · rename_i hlt
      rw [List.foldlM_cons, hexValue?_digitChar hlt]
      simp
    · rename_i hle
      rw [List.foldlM_append, ih (n / 16) (by omega)]
      simp only [Option.bind_eq_bind, Option.bind_some, List.foldlM_cons, List.foldlM_nil,
        hexValue?_digitChar (Nat.mod_lt n (by decide : 16 > 0)), Option.map_some, Option.pure_def,
        Option.some_inj]
      omega

theorem unit?_hexDigits (width n : Nat) : unit? (hexDigits width n) = some n := by
  have hzeros : ∀ k, List.foldlM (fun n c => (hexValue? c).map (16 * n + ·)) 0
      (List.replicate k '0') = some 0 := by
    intro k
    induction k with
    | zero => rfl
    | succ k ih => rw [List.replicate_succ, List.foldlM_cons]; exact ih
  have hdigits := unit?_toDigits n
  unfold unit? at hdigits ⊢
  unfold hexDigits
  dsimp only
  rw [List.foldlM_append, hzeros]
  exact hdigits

theorem length_hexDigits {n : Nat} (h : n < 0x10000) : (hexDigits 4 n).length = 4 := by
  have hle : (Nat.toDigits 16 n).length ≤ 4 :=
    (Nat.length_toDigits_le_iff (by decide) (by decide)).2 h
  unfold hexDigits
  dsimp only
  rw [List.length_append, List.length_replicate]
  omega

theorem isSome_hexValue?_of_mem {c : Char} {n width : Nat} (h : c ∈ hexDigits width n) :
    (hexValue? c).isSome = true := by
  have hdigits : ∀ n, ∀ c ∈ Nat.toDigits 16 n, (hexValue? c).isSome = true := by
    intro n
    induction n using Nat.strongRecOn with
    | ind n ih =>
      intro c hc
      rw [Nat.toDigits_eq_if (by decide)] at hc
      split at hc
      · rename_i hlt
        rw [List.mem_singleton.1 hc, hexValue?_digitChar hlt]
        rfl
      · rename_i hle
        rcases List.mem_append.1 hc with hc | hc
        · exact ih (n / 16) (by omega) c hc
        · rw [List.mem_singleton.1 hc, hexValue?_digitChar (Nat.mod_lt n (by decide))]
          rfl
  unfold hexDigits at h
  rcases List.mem_append.1 h with hzero | hdigit
  · rw [List.eq_of_mem_replicate hzero]
    rfl
  · exact hdigits n c hdigit

/-! ## Strings -/

/-- A character that stands for itself in a string. -/
def IsBare (c : Char) : Prop := c ≠ '"' ∧ c ≠ '\\'

theorem isBare_of_mem_hexDigits {c : Char} {n width : Nat} (h : c ∈ hexDigits width n) : IsBare c := by
  have hsome := isSome_hexValue?_of_mem h
  constructor <;> rintro rfl <;> exact absurd hsome (by decide)

theorem cutString_bare {c : Char} (h : IsBare c) (r : Text) :
    cutString (c :: r) = (cutString r).map (Prod.map (c :: ·) id) := by
  rw [cutString]
  · rfl
  · exact h.1
  · exact fun _ _ hc => absurd hc h.2

theorem cutString_backslash (c : Char) (r : Text) :
    cutString ('\\' :: c :: r) = (cutString r).map (Prod.map (['\\', c] ++ ·) id) := rfl

theorem cutString_append {s : Text} (h : ∀ c ∈ s, IsBare c) (r : Text) :
    cutString (s ++ r) = (cutString r).map (Prod.map (s ++ ·) id) := by
  induction s with
  | nil => exact Option.map_id'.symm
  | cons c s ih =>
    obtain ⟨hc, hs⟩ := List.forall_mem_cons.1 h
    rw [List.cons_append, cutString_bare hc, ih hs, Option.map_map]
    rfl

theorem cutString_unit (n : Nat) (r : Text) :
    cutString (unit n ++ r) = (cutString r).map (Prod.map (unit n ++ ·) id) := by
  unfold unit
  rw [List.cons_append, List.cons_append, cutString_backslash,
    cutString_append (fun c => isBare_of_mem_hexDigits), Option.map_map]
  rfl

/-- How a character is written in a string: behind a backslash, as itself, or as code units. -/
inductive Escape (c : Char) : Text → Prop
  | letter (e : Char) (h : escaped? e = some c.toNat) (hsmall : c.toNat < 0x80) : Escape c ['\\', e]
  | bare (h : IsBare c) (hprint : 0x20 ≤ c.toNat ∧ c.toNat < 0x7f) : Escape c [c]
  | unit (h : c.toNat < 0x10000) : Escape c (unit c.toNat)
  | pair (h : 0x10000 ≤ c.toNat) :
      Escape c (Json.unit (0xd800 + (c.toNat - 0x10000) / 0x400) ++
        Json.unit (0xdc00 + (c.toNat - 0x10000) % 0x400))

theorem escape_spec (c : Char) : Escape c (escape c) := by
  unfold escape
  split
  · rename_i h
    rw [beq_iff_eq.1 h]
    exact .letter '"' rfl (by decide)
  rename_i hquote
  split
  · rename_i h
    rw [beq_iff_eq.1 h]
    exact .letter '\\' rfl (by decide)
  rename_i hbackslash
  split
  · rename_i h
    rw [beq_iff_eq.1 h]
    exact .letter 'n' rfl (by decide)
  split
  · rename_i h
    rw [beq_iff_eq.1 h]
    exact .letter 'r' rfl (by decide)
  split
  · rename_i h
    rw [beq_iff_eq.1 h]
    exact .letter 't' rfl (by decide)
  split
  · rename_i h
    have hc := beq_iff_eq.1 h
    exact .letter 'f' (congrArg some hc).symm (by omega)
  split
  · rename_i h
    have hc := beq_iff_eq.1 h
    exact .letter 'b' (congrArg some hc).symm (by omega)
  split
  · rename_i h
    rw [Bool.and_eq_true, decide_eq_true_eq, decide_eq_true_eq] at h
    exact .bare ⟨fun heq => hquote (beq_iff_eq.2 heq), fun heq => hbackslash (beq_iff_eq.2 heq)⟩ h
  split
  · rename_i h
    exact .unit h
  · rename_i h
    exact .pair (Nat.le_of_not_lt h)

theorem cutString_escape (c : Char) (r : Text) :
    cutString (escape c ++ r) = (cutString r).map (Prod.map (escape c ++ ·) id) := by
  have hspec := escape_spec c
  generalize escape c = s at hspec ⊢
  cases hspec with
  | letter e h hsmall => exact cutString_backslash e r
  | bare h hprint => exact cutString_bare h r
  | unit h => exact cutString_unit _ r
  | pair h =>
    rw [List.append_assoc, cutString_unit, cutString_unit, Option.map_map]
    simp only [List.append_assoc]
    rfl

theorem cutString_flatMap_escape (s rest : Text) :
    cutString (s.flatMap escape ++ '"' :: rest) = some (s.flatMap escape, rest) := by
  induction s with
  | nil => rfl
  | cons c s ih =>
    rw [List.flatMap_cons, List.append_assoc, cutString_escape, ih]
    rfl

/-- The code units of a character. -/
def unitsOf (c : Char) : List Nat :=
  if c.toNat < 0x10000 then [c.toNat]
  else [0xd800 + (c.toNat - 0x10000) / 0x400, 0xdc00 + (c.toNat - 0x10000) % 0x400]

theorem units_unit {n : Nat} (h : n < 0x10000) (r : Text) :
    units (unit n ++ r) = (units r).map (n :: ·) := by
  obtain ⟨a, b, c, d, hdigits⟩ : ∃ a b c d, hexDigits 4 n = [a, b, c, d] :=
    List.length_eq_four.1 (length_hexDigits h)
  have hunit := unit?_hexDigits 4 n
  unfold unit
  rw [hdigits] at hunit ⊢
  show units ('\\' :: 'u' :: a :: b :: c :: d :: r) = _
  rw [units, hunit]
  cases units r <;> rfl

theorem units_letter {e : Char} {n : Nat} (h : escaped? e = some n) (r : Text) :
    units ('\\' :: e :: r) = (units r).map (n :: ·) := by
  rw [units, h]
  · cases units r <;> rfl
  · rintro a b c d t rfl
    cases h

theorem units_bare {c : Char} (h : IsBare c) (hprint : 0x20 ≤ c.toNat) (r : Text) :
    units (c :: r) = (units r).map (c.toNat :: ·) := by
  rw [units]
  · rw [if_neg]
    rw [Bool.or_eq_true, beq_iff_eq, decide_eq_true_eq]
    rintro (heq | hlt)
    · exact h.2 heq
    · omega
  · exact fun _ _ _ _ _ hc => absurd hc h.2
  · exact fun _ _ hc => absurd hc h.2

theorem toNat_lt (c : Char) : c.toNat < 0x110000 := by
  have := c.valid
  unfold UInt32.isValidChar Nat.isValidChar at this
  have heq : c.toNat = c.val.toNat := rfl
  omega

theorem units_escape (c : Char) (r : Text) :
    units (escape c ++ r) = (units r).map (unitsOf c ++ ·) := by
  have hlt := toNat_lt c
  have hspec := escape_spec c
  unfold unitsOf
  generalize escape c = s at hspec ⊢
  cases hspec with
  | letter e h hsmall =>
    rw [if_pos (by omega)]
    exact units_letter h r
  | bare h hprint =>
    rw [if_pos (by omega)]
    exact units_bare h hprint.1 r
  | unit h =>
    rw [if_pos h]
    exact units_unit h r
  | pair h =>
    rw [if_neg (by omega), List.append_assoc, units_unit (by omega), units_unit (by omega),
      Option.map_map]
    rfl

theorem units_flatMap_escape (s : Text) : units (s.flatMap escape) = some (s.flatMap unitsOf) := by
  induction s with
  | nil => rfl
  | cons c s ih =>
    rw [List.flatMap_cons, units_escape, ih]
    rfl

/-- The units of a character are joined to it, whatever follows. -/
theorem joinUnits_unitsOf (c : Char) (rest : List Nat) :
    joinUnits (unitsOf c ++ rest) = c :: joinUnits rest := by
  have hlt := toNat_lt c
  have hvalid : c.toNat < 0xd800 ∨ 0xdfff < c.toNat := by
    have := c.valid
    unfold UInt32.isValidChar Nat.isValidChar at this
    have heq : c.toNat = c.val.toNat := rfl
    omega
  unfold unitsOf
  split
  · cases rest with
    | nil => exact congrArg (· :: []) (Char.ofNat_toNat c)
    | cons m r =>
      show joinUnits (c.toNat :: m :: r) = _
      rw [joinUnits, if_neg (by omega), Char.ofNat_toNat]
  · rename_i hlarge
    show joinUnits (_ :: _ :: rest) = _
    have hchar : 0x10000 + (0xd800 + (c.toNat - 0x10000) / 0x400 - 0xd800) * 0x400 +
        (0xdc00 + (c.toNat - 0x10000) % 0x400 - 0xdc00) = c.toNat := by omega
    rw [joinUnits, if_pos (by omega), hchar, Char.ofNat_toNat]

theorem joinUnits_flatMap (s : Text) : joinUnits (s.flatMap unitsOf) = s := by
  induction s with
  | nil => rfl
  | cons c s ih => rw [List.flatMap_cons, joinUnits_unitsOf, ih]

/-- A written string is read back, whatever follows it. -/
theorem readString_flatMap_escape (s rest : Text) :
    readString (s.flatMap escape ++ '"' :: rest) = some (s, rest) := by
  unfold readString
  rw [cutString_flatMap_escape]
  simp only [Option.bind_eq_bind, Option.bind_some, units_flatMap_escape, joinUnits_flatMap]
  rfl

/-! ## Values -/

/-- A tag without numbers, in which no compound has a name twice. -/
inductive Numberless : Tag → Prop
  | null : Numberless .null
  | bool (b : Bool) : Numberless (.bool b)
  | text (s : Text) : Numberless (.text s)
  | list {items : List Tag} (h : ∀ tag ∈ items, Numberless tag) : Numberless (.list items)
  | compound {entries : Entries} (hnames : entries.names.Nodup)
      (h : ∀ entry ∈ entries, Numberless entry.2) : Numberless (.compound entries)

theorem skip_cons {c : Char} (h : isSpace c = false) (r : Text) : skip (c :: r) = c :: r := by
  unfold skip
  rw [List.dropWhile_cons_of_neg (by rw [h]; exact Bool.false_ne_true)]

/-- A written tag starts with a character that is no white space and closes nothing. -/
theorem write_eq_cons {tag : Tag} (h : Numberless tag) (spacing : Spacing) :
    ∃ c r, write spacing tag = c :: r ∧ isSpace c = false ∧ c ≠ ']' := by
  cases h with
  | null => exact ⟨'n', _, rfl, rfl, by decide⟩
  | bool b =>
    cases b with
    | true => exact ⟨'t', _, rfl, rfl, by decide⟩
    | false => exact ⟨'f', _, rfl, rfl, by decide⟩
  | text s => exact ⟨'"', _, rfl, rfl, by decide⟩
  | list h => exact ⟨'[', _, rfl, rfl, by decide⟩
  | compound hnames h => exact ⟨'{', _, rfl, rfl, by decide⟩

theorem join_comma_cons (first next : Text) (rest : List Text) :
    join Spacing.wide.item (first :: next :: rest) =
      first ++ (',' :: ' ' :: join Spacing.wide.item (next :: rest)) := by
  rw [join]
  · rw [List.append_assoc]
    rfl
  · exact List.cons_ne_nil _ _

/-- The reader takes a tag from its written form, whatever follows, and needs no more fuel than
characters. -/
def Reads (tag : Tag) : Prop :=
  ∀ fuel rest, (write .wide tag).length ≤ fuel →
    readValue fuel (write .wide tag ++ rest) = some (tag, rest)

theorem reads_text (s : Text) : Reads (.text s) := by
  intro fuel rest hfuel
  have hwrite : write .wide (.text s) ++ rest = '"' :: (s.flatMap escape ++ '"' :: rest) := by
    rw [write]
    unfold quoted
    simp
  cases fuel with
  | zero => cases hfuel
  | succ fuel =>
    rw [hwrite, readValue, readString_flatMap_escape]
    rfl

theorem reads_bool (b : Bool) : Reads (.bool b) := by
  intro fuel rest hfuel
  cases fuel with
  | zero => cases b <;> cases hfuel
  | succ fuel => cases b <;> rfl

theorem reads_null : Reads .null := by
  intro fuel rest hfuel
  cases fuel with
  | zero => cases hfuel
  | succ fuel => rfl

/-- The blank behind a comma or a colon is passed over. -/
theorem skip_blank_write {tag : Tag} (h : Numberless tag) (rest : Text) :
    skip (' ' :: (write .wide tag ++ rest)) = write .wide tag ++ rest := by
  obtain ⟨c, r, hwrite, hc, -⟩ := write_eq_cons h .wide
  rw [hwrite]
  exact skip_cons hc (r ++ rest)

theorem join_writeItems_eq_cons {items : List Tag} (hne : items ≠ [])
    (h : ∀ tag ∈ items, Numberless tag) :
    ∃ c r, join Spacing.wide.item (writeItems .wide items) = c :: r ∧ isSpace c = false ∧ c ≠ ']' := by
  obtain ⟨tag, items, rfl⟩ := List.exists_cons_of_ne_nil hne
  obtain ⟨c, r, hwrite, hspace, hclose⟩ := write_eq_cons (h tag List.mem_cons_self) .wide
  rw [writeItems, hwrite]
  cases items with
  | nil => exact ⟨c, r, rfl, hspace, hclose⟩
  | cons next items =>
    rw [writeItems, join_comma_cons, List.cons_append]
    exact ⟨c, _, rfl, hspace, hclose⟩

theorem readItems_join {items : List Tag} (hne : items ≠ []) (h : ∀ tag ∈ items, Reads tag)
    (hfree : ∀ tag ∈ items, Numberless tag) {fuel : Nat}
    (hfuel : (join Spacing.wide.item (writeItems .wide items)).length + 1 ≤ fuel) (rest : Text) :
    readItems fuel (join Spacing.wide.item (writeItems .wide items) ++ ']' :: rest) =
      some (items, rest) := by
  induction items generalizing fuel with
  | nil => exact absurd rfl hne
  | cons tag items ih =>
    obtain ⟨htag, hitems⟩ := List.forall_mem_cons.1 h
    obtain ⟨-, hfreeItems⟩ := List.forall_mem_cons.1 hfree
    obtain ⟨fuel, rfl⟩ : ∃ n, fuel = n + 1 := ⟨fuel - 1, by omega⟩
    cases items with
    | nil =>
      rw [writeItems, writeItems, join] at hfuel ⊢
      rw [readItems, htag fuel _ (by omega)]
      rfl
    | cons next items =>
      have hrest := @ih (List.cons_ne_nil _ _) hitems hfreeItems fuel
      rw [writeItems, writeItems, join_comma_cons, ← writeItems] at hfuel ⊢
      rw [List.length_append, List.length_cons, List.length_cons] at hfuel
      obtain ⟨c, r, hjoin, hc, -⟩ := join_writeItems_eq_cons (List.cons_ne_nil next items) hfreeItems
      rw [hjoin] at hfuel hrest ⊢
      rw [List.append_assoc, readItems, htag fuel _ (by omega)]
      simp only [Option.bind_eq_bind, Option.bind_some, List.cons_append]
      rw [skip_cons rfl]
      change Option.bind (readItems fuel (skip (c :: _))) _ = _
      rw [skip_cons hc, ← List.cons_append, hrest (by omega)]
      rfl

theorem writeEntries_cons (name : Text) (tag : Tag) (entries : Entries) :
    writeEntries .wide ((name, tag) :: entries) =
      ('"' :: (name.flatMap escape ++ '"' :: ':' :: ' ' :: write .wide tag)) ::
        writeEntries .wide entries := by
  rw [writeEntries]
  unfold quoted
  simp [Spacing.wide]

theorem join_writeEntries_eq_cons {entries : Entries} (hne : entries ≠ []) :
    ∃ r, join Spacing.wide.item (writeEntries .wide entries) = '"' :: r := by
  obtain ⟨⟨name, tag⟩, entries, rfl⟩ := List.exists_cons_of_ne_nil hne
  rw [writeEntries_cons]
  cases writeEntries .wide entries with
  | nil => exact ⟨_, rfl⟩
  | cons next rest => exact ⟨_, by rw [join_comma_cons, List.cons_append]⟩

section Member

variable {fuel : Nat} (done : Entries) (name : Text) {tag : Tag} (h : Numberless tag)
  (hread : Reads tag) (hfuel : (write .wide tag).length ≤ fuel) (rest : Text)

include h hread hfuel

theorem readMembers_last :
    readMembers (fuel + 1) done ('"' :: (name.flatMap escape ++ '"' :: ':' :: ' ' ::
      (write .wide tag ++ '}' :: rest))) = some (done.set name tag, rest) := by
  rw [readMembers, readString_flatMap_escape]
  simp only [Option.bind_eq_bind, Option.bind_some]
  rw [skip_cons rfl]
  change Option.bind (readValue fuel (skip (' ' :: _))) _ = _
  rw [skip_blank_write h, hread fuel _ hfuel]
  rfl

theorem readMembers_next :
    readMembers (fuel + 1) done ('"' :: (name.flatMap escape ++ '"' :: ':' :: ' ' ::
      (write .wide tag ++ ',' :: ' ' :: '"' :: rest))) =
      readMembers fuel (done.set name tag) ('"' :: rest) := by
  rw [readMembers, readString_flatMap_escape]
  simp only [Option.bind_eq_bind, Option.bind_some]
  rw [skip_cons rfl]
  change Option.bind (readValue fuel (skip (' ' :: _))) _ = _
  rw [skip_blank_write h, hread fuel _ hfuel]
  rfl

end Member

theorem readMembers_join {entries : Entries} (hne : entries ≠ [])
    (h : ∀ entry ∈ entries, Numberless entry.2) (hread : ∀ entry ∈ entries, Reads entry.2)
    {done : Entries} (hnames : (done.names ++ entries.names).Nodup) {fuel : Nat}
    (hfuel : (join Spacing.wide.item (writeEntries .wide entries)).length + 1 ≤ fuel) (rest : Text) :
    readMembers fuel done (join Spacing.wide.item (writeEntries .wide entries) ++ '}' :: rest) =
      some (done ++ entries, rest) := by
  induction entries generalizing fuel done with
  | nil => exact absurd rfl hne
  | cons entry entries ih =>
    obtain ⟨name, tag⟩ := entry
    obtain ⟨htag, hentries⟩ := List.forall_mem_cons.1 h
    obtain ⟨hreadTag, hreadEntries⟩ := List.forall_mem_cons.1 hread
    obtain ⟨fuel, rfl⟩ : ∃ n, fuel = n + 1 := ⟨fuel - 1, by omega⟩
    -- The names are distinct, so a member never takes the place of another one.
    have hnew : name ∉ done.names := fun hmem =>
      (List.nodup_append.1 hnames).2.2 name hmem name List.mem_cons_self rfl
    have hset : done.set name tag = done ++ [(name, tag)] := Entries.set_of_notMem hnew tag
    rw [writeEntries_cons] at hfuel ⊢
    dsimp only at htag hreadTag
    cases entries with
    | nil =>
      rw [writeEntries, join] at hfuel ⊢
      simp only [List.length_cons, List.length_append] at hfuel
      have hroom : (write .wide tag).length ≤ fuel := by omega
      have hlast := readMembers_last done name htag hreadTag hroom rest
      rw [hset] at hlast
      simpa using hlast
    | cons next entries =>
      obtain ⟨other, otherTag⟩ := next
      have hrest := @ih (List.cons_ne_nil _ _) hentries hreadEntries (done ++ [(name, tag)])
        (by simpa [Entries.names] using hnames) fuel
      rw [writeEntries_cons] at hfuel hrest ⊢
      obtain ⟨tail, htail⟩ := join_writeEntries_eq_cons (List.cons_ne_nil (other, otherTag) entries)
      rw [writeEntries_cons] at htail
      rw [join_comma_cons, htail] at hfuel ⊢
      rw [htail] at hrest
      simp only [List.length_cons, List.length_append] at hfuel
      have hroom : (write .wide tag).length ≤ fuel := by omega
      have hnext := readMembers_next done name htag hreadTag hroom (tail ++ '}' :: rest)
      rw [List.cons_append] at hrest
      rw [hset, hrest (by rw [List.length_cons]; omega)] at hnext
      simpa using hnext

theorem reads_list {items : List Tag} (hfree : ∀ tag ∈ items, Numberless tag)
    (h : ∀ tag ∈ items, Reads tag) : Reads (.list items) := by
  intro fuel rest hfuel
  cases fuel with
  | zero => cases hfuel
  | succ fuel =>
    rw [write] at hfuel ⊢
    by_cases hne : items = []
    · subst hne
      rfl
    · simp only [List.length_cons, List.length_append, List.length_nil] at hfuel
      obtain ⟨c, r, hjoin, hspace, hclose⟩ := join_writeItems_eq_cons hne hfree
      have hitems := @readItems_join items hne h hfree fuel (by omega) rest
      rw [hjoin, List.cons_append] at hitems
      have htext : '[' :: c :: r ++ [']'] ++ rest = '[' :: c :: (r ++ ']' :: rest) := by simp
      rw [hjoin, htext, readValue, skip_cons hspace]
      split
      · rename_i heq
        exact absurd (List.cons.inj heq).1 hclose
      · rw [hitems]
        rfl

theorem reads_compound {entries : Entries} (hnames : entries.names.Nodup)
    (hfree : ∀ entry ∈ entries, Numberless entry.2) (h : ∀ entry ∈ entries, Reads entry.2) :
    Reads (.compound entries) := by
  intro fuel rest hfuel
  cases fuel with
  | zero => cases hfuel
  | succ fuel =>
    rw [write] at hfuel ⊢
    by_cases hne : entries = []
    · subst hne
      rfl
    · simp only [List.length_cons, List.length_append, List.length_nil] at hfuel
      obtain ⟨r, hjoin⟩ := join_writeEntries_eq_cons hne
      have hmembers := @readMembers_join entries hne hfree h [] hnames fuel (by omega) rest
      rw [hjoin, List.cons_append] at hmembers
      have htext : '{' :: '"' :: r ++ ['}'] ++ rest = '{' :: '"' :: (r ++ '}' :: rest) := by simp
      rw [hjoin, htext, readValue, skip_cons rfl]
      change Option.map _ (readMembers fuel [] ('"' :: (r ++ '}' :: rest))) = _
      rw [hmembers]
      rfl

theorem Numberless.reads {tag : Tag} (h : Numberless tag) : Reads tag := by
  induction h with
  | null => exact reads_null
  | bool b => exact reads_bool b
  | text s => exact reads_text s
  | list h ih => exact reads_list h ih
  | compound hnames h ih => exact reads_compound hnames h ih

/-- The JSON text of a tag without numbers is read as that tag. -/
theorem read?_toJson {tag : Tag} (h : Numberless tag) : read? tag.toJson = some tag := by
  have hread := h.reads ((write .wide tag).length + 1) [] (Nat.le_succ _)
  obtain ⟨c, r, hwrite, hspace, -⟩ := write_eq_cons h .wide
  rw [List.append_nil] at hread
  unfold read? Tag.toJson
  rw [hwrite, skip_cons hspace, ← hwrite, hread]
  rfl

end CommandUpgrade.Json
