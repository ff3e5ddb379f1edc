import CommandUpgrade.Proofs.Entity.Stages
import CommandUpgrade.Proofs.Tag.Confined
import CommandUpgrade.Proofs.Text.Split

/-!
# Texts in entity data

An entity whose fields are texts under names in small letters is read back as it was written, and no
rule is for its fields (`upgradeData_eq_finish_tag`). What is renewed on the written text knows nothing
of quotes. A name without quotes and backslashes occurs in the written text exactly if it occurs in one
of the texts (`infix_write_iff`), and the quotes of the written text are none that begin JSON
(`quotesFit_write`). So the texts are kept exactly if none of them holds an old name, block states apart
(`upgradeData_textFields`).
-/

namespace CommandUpgrade.Entity

open Text

/-- An entity of texts, under different names in small letters. -/
structure TextFields where
  fields : List (Text × Text)
  small : ∀ field ∈ fields, IsSmall field.1
  distinct : (fields.map (·.1)).Nodup

namespace TextFields

variable (d : TextFields)

def texts : List Text := d.fields.map (·.2)

def entries : Entries := d.fields.map fun field => (field.1, .text field.2)

def tag : Tag := .compound d.entries

/-! ## Written and read -/

/-- A field as it is written. -/
def writeField (field : Text × Text) : Text := field.1 ++ ':' :: Tag.quoted field.2

theorem write_tag : d.tag.write = '{' :: (join [','] (d.fields.map writeField) ++ ['}']) := by
  have hentries : ∀ fields : List (Text × Text), (∀ field ∈ fields, IsSmall field.1) →
      Tag.writeEntries none (fields.map fun field => (field.1, .text field.2)) =
        fields.map writeField := by
    intro fields hsmall
    induction fields with
    | nil => rfl
    | cons field rest ih =>
      obtain ⟨hfield, hrest⟩ := List.forall_mem_cons.1 hsmall
      rw [List.map_cons, List.map_cons, hfield.writeEntries_cons, ih hrest, Tag.writeIn]
      rfl
  rw [tag, Tag.write_compound, entries, hentries d.fields d.small]

/-- The tree of the entity. -/
def trees : List (Text × Tag.Typed) := d.fields.map fun field => (field.1, .text field.2)

theorem print_trees : (Tag.Typed.compound d.trees).print = d.tag.write := by
  have hentries : ∀ fields : List (Text × Text), (∀ field ∈ fields, IsSmall field.1) →
      Tag.Typed.printEntries (fields.map fun field => (field.1, .text field.2)) =
        fields.map writeField := by
    intro fields hsmall
    induction fields with
    | nil => rfl
    | cons field rest ih =>
      obtain ⟨hfield, hrest⟩ := List.forall_mem_cons.1 hsmall
      rw [List.map_cons, List.map_cons, Tag.Typed.printEntries, ih hrest, hfield.writeName,
        Tag.Typed.print]
      rfl
  rw [write_tag, Tag.Typed.print, trees, hentries d.fields d.small]

theorem read_write_tag : Tag.read d.tag.write = d.tag := by
  have hreads : (Tag.Typed.compound d.trees).Reads := by
    refine Tag.Typed.reads_compound fun entry hentry => ?_
    obtain ⟨field, -, rfl⟩ := List.mem_map.1 hentry
    exact Tag.Typed.reads_text field.2
  have hrestored : ∀ entry ∈ d.trees, entry.2.Restored := by
    intro entry hentry
    obtain ⟨field, -, rfl⟩ := List.mem_map.1 hentry
    exact ⟨fun _ => by rw [Tag.Typed.settle, Tag.Typed.erase], fun inner h => by cases h⟩
  have hconfined : Tag.Typed.confinedEntries d.trees = true := by
    unfold trees
    induction d.fields with
    | nil => rfl
    | cons field rest ih =>
      rw [List.map_cons, Tag.Typed.confinedEntries, ih, Tag.Typed.confined]
      all_goals simp
  have herase : Tag.Typed.eraseEntries d.trees = d.entries := by
    unfold trees entries
    induction d.fields with
    | nil => rfl
    | cons field rest ih =>
      rw [List.map_cons, List.map_cons, Tag.Typed.eraseEntries, ih, Tag.Typed.erase]
  have hdistinct : (Entries.names [] ++ d.trees.map (·.1)).Nodup := by
    have hnames : d.trees.map (·.1) = d.fields.map (·.1) := by simp [trees]
    rw [hnames]
    exact d.distinct
  rw [← print_trees, hreads.read_print, Tag.Typed.settle,
    Tag.Typed.finish_stream hrestored hconfined [] hdistinct, herase]
  split
  · rfl
  · rfl

/-- The texts are read back, and only what is renewed on the written text is left to do. -/
theorem upgradeData_eq_finish_tag (tables : Tables) (restyle : Bool) :
    upgradeData tables restyle d.tag.write = .ok (finish tables d.tag) := by
  refine upgradeData_of_isSmall tables restyle d.read_write_tag fun entry hentry => ?_
  obtain ⟨field, hfield, rfl⟩ := List.mem_map.1 hentry
  exact d.small field hfield

/-! ## Field by field -/

/-- The written text behind a field. -/
def behind : List (Text × Text) → Text
  | [] => ['}']
  | field :: rest => ',' :: (writeField field ++ behind rest)

theorem join_writeField (field : Text × Text) (rest : List (Text × Text)) :
    join [','] ((field :: rest).map writeField) ++ ['}'] = writeField field ++ behind rest := by
  induction rest generalizing field with
  | nil => rfl
  | cons next rest ih =>
    rw [List.map_cons, List.map_cons, join_cons_cons, List.append_assoc, List.cons_append,
      ← List.map_cons, ih, behind]

theorem write_cases :
    (d.fields = [] ∧ d.tag.write = ['{', '}']) ∨
    ∃ field rest, d.fields = field :: rest ∧
      d.tag.write = '{' :: (writeField field ++ behind rest) := by
  rw [write_tag]
  cases d.fields with
  | nil => exact Or.inl ⟨rfl, rfl⟩
  | cons field rest => exact Or.inr ⟨field, rest, rfl, by rw [join_writeField]⟩

/-! ## Names without quotes -/

/-- The characters that stand around the texts, quotes apart. -/
def isFrame (c : Char) : Bool := c.isLower || ":,\x7b\x7d".toList.contains c

/-- A text that can be found inside a quoted text only, and there as it is. -/
structure IsInner (part : Text) : Prop where
  quote : '"' ∉ part
  backslash : '\\' ∉ part
  frame : part.all isFrame = false

theorem isInner_oldNames : ∀ old ∈ oldNames, IsInner old := by
  have h : ∀ old ∈ oldNames, '"' ∉ old ∧ '\\' ∉ old ∧ old.all isFrame = false := by decide
  exact fun old hold => ⟨(h old hold).1, (h old hold).2.1, (h old hold).2.2⟩

namespace IsInner

variable {part : Text} (h : IsInner part)

include h

theorem absent {s : Text} (hs : ∀ c ∈ s, isFrame c = true) : ¬ part <:+: s := by
  intro hoccurs
  have hall : part.all isFrame = true := List.all_eq_true.2 fun c hc => hs c (hoccurs.subset hc)
  rw [h.frame] at hall
  cases hall

theorem infix_flatMap_escape (s : Text) : part <:+: s.flatMap Tag.escape ↔ part <:+: s := by
  induction hn : s.length using Nat.strong_induction_on generalizing s with
  | h n ih =>
    subst hn
    by_cases hplain : ∃ c ∈ s, c = '\\' ∨ c = '"'
    · -- A character that is escaped parts the text, and what is put in does not belong to the part.
      obtain ⟨c, hc, hmark⟩ := hplain
      obtain ⟨l, r, rfl⟩ := List.append_of_mem hc
      have hl := ih l.length (by simp only [List.length_append, List.length_cons]; omega) l rfl
      have hr := ih r.length (by simp only [List.length_append, List.length_cons]; omega) r rfl
      have hcpart : c ∉ part := by
        rcases hmark with rfl | rfl
        · exact h.backslash
        · exact h.quote
      rw [List.flatMap_append, List.flatMap_cons, Tag.escape_of_mark hmark, infix_append_cons_iff hcpart,
        ← hl, ← hr, List.cons_append, infix_append_cons_iff h.backslash]
      have hmid : part <:+: c :: r.flatMap Tag.escape ↔
          part <:+: [] ∨ part <:+: r.flatMap Tag.escape :=
        infix_append_cons_iff hcpart [] _
      rw [List.singleton_append, hmid]
      constructor
      · rintro (h1 | h1 | h1)
        · exact Or.inl h1
        · exact Or.inl (h1.trans List.nil_infix)
        · exact Or.inr h1
      · rintro (h1 | h1)
        · exact Or.inl h1
        · exact Or.inr (Or.inr h1)
    · push Not at hplain
      have hsame : s.flatMap Tag.escape = s.flatMap fun c => [c] :=
        List.flatMap_congr fun c hc => Tag.escape_of_plain (hplain c hc).1 (hplain c hc).2
      rw [hsame, List.flatMap_singleton']

theorem infix_field_iff {sep : Char} (hsep : isFrame sep = true) {field : Text × Text}
    (hname : IsSmall field.1) (rest : Text) :
    part <:+: sep :: (writeField field ++ rest) ↔ part <:+: field.2 ∨ part <:+: rest := by
  have htext : sep :: (writeField field ++ rest) =
      (sep :: (field.1 ++ [':'])) ++ '"' :: (field.2.flatMap Tag.escape ++ '"' :: rest) := by
    simp [writeField, Tag.quoted_eq]
  have hframe : ¬ part <:+: sep :: (field.1 ++ [':']) := by
    refine h.absent fun c hc => ?_
    simp only [List.mem_cons, List.mem_append, List.not_mem_nil, or_false] at hc
    rcases hc with rfl | hc | rfl
    · exact hsep
    · unfold isFrame
      rw [hname.small c hc]
      rfl
    · decide
  rw [htext, infix_append_cons_iff h.quote, infix_append_cons_iff h.quote, h.infix_flatMap_escape]
  exact or_iff_right hframe

theorem infix_behind_iff {fields : List (Text × Text)} (hsmall : ∀ field ∈ fields, IsSmall field.1) :
    part <:+: behind fields ↔ ∃ s ∈ fields.map (·.2), part <:+: s := by
  induction fields with
  | nil =>
    have hclosed : ¬ part <:+: behind [] := h.absent (List.forall_mem_singleton.2 rfl)
    simp [hclosed]
  | cons field rest ih =>
    obtain ⟨hfield, hrest⟩ := List.forall_mem_cons.1 hsmall
    rw [behind, h.infix_field_iff rfl hfield, ih hrest, List.map_cons, List.exists_mem_cons_iff]

end IsInner

/-- A text without quotes and backslashes is found where it is in one of the texts. -/
theorem infix_write_iff {part : Text} (h : IsInner part) :
    part <:+: d.tag.write ↔ ∃ s ∈ d.texts, part <:+: s := by
  unfold texts
  rcases d.write_cases with ⟨hfields, hwrite⟩ | ⟨field, rest, hfields, hwrite⟩
  · have hbraces : ¬ part <:+: ['{', '}'] :=
      h.absent (List.forall_mem_cons.2 ⟨rfl, List.forall_mem_singleton.2 rfl⟩)
    rw [hwrite, hfields]
    simp [hbraces]
  · have hsmall := d.small
    rw [hfields] at hsmall
    obtain ⟨hfield, hrest⟩ := List.forall_mem_cons.1 hsmall
    rw [hwrite, hfields, h.infix_field_iff rfl hfield, h.infix_behind_iff hrest, List.map_cons,
      List.exists_mem_cons_iff]

/-! ## Quotes -/

/-- What stands around a quote of a written text: it is escaped, it closes a text, or it opens one. -/
inductive QuoteFits : Text → Text → Prop
  | escaped (l r : Text) : QuoteFits (l ++ ['\\']) r
  | closing (l r : Text) {c : Char} (h : c = ',' ∨ c = '}') : QuoteFits l (c :: r)
  | opening (l r : Text) {sep : Char} {name : Text} (hsep : sep = ',' ∨ sep = '{')
    (hname : IsSmall name) : QuoteFits (l ++ sep :: (name ++ [':'])) r

/-- Every quote of a text fits. -/
def QuotesFit (s : Text) : Prop := ∀ l r, s = l ++ '"' :: r → QuoteFits l r

theorem QuoteFits.behind {l r : Text} (h : QuoteFits l r) (front : Text) :
    QuoteFits (front ++ l) r := by
  cases h with
  | escaped l r => rw [← List.append_assoc]; exact .escaped _ _
  | closing l r h => exact .closing _ _ h
  | opening l r hsep hname => rw [← List.append_assoc]; exact .opening _ _ hsep hname

/-- A quote that fits, with neither a backslash in front nor the end of a text behind, opens a text. -/
theorem QuoteFits.opens {l r : Text} (h : QuoteFits l r) (hl : l.getLast? ≠ some '\\')
    (hr : ∀ c ∈ r.head?, ¬(c = ',' ∨ c = '}')) :
    ∃ front sep name, (sep = ',' ∨ sep = '{') ∧ IsSmall name ∧ l = (front ++ sep :: name) ++ [':'] := by
  cases h with
  | escaped l r => exact absurd List.getLast?_concat hl
  | closing l r hc => exact absurd hc (hr _ rfl)
  | @opening l r sep name hsep hname => exact ⟨l, sep, name, hsep, hname, by simp⟩

/-- The quotes inside a quoted text are escaped. -/
theorem quoteFits_of_escape {s l r : Text} (h : s.flatMap Tag.escape = l ++ '"' :: r)
    (front rest : Text) : QuoteFits (front ++ l) rest := by
  have hescape : DisplayQuotes.escape s = l ++ '"' :: r := (DisplayQuotes.escape_eq s).trans h
  rcases List.eq_nil_or_concat l with rfl | ⟨l', c, rfl⟩
  · exact absurd (by rw [hescape]; rfl) (DisplayQuotes.head?_escape s)
  · by_cases hc : c = '\\'
    · subst hc
      rw [List.concat_eq_append, ← List.append_assoc]
      exact .escaped _ _
    · refine absurd ⟨l', r, ?_⟩ (DisplayQuotes.not_infix_escape hc s)
      rw [hescape]
      simp

/-- The quotes of a field fit if those behind it do. -/
theorem quotesFit_field {sep : Char} (hsep : sep = ',' ∨ sep = '{') {field : Text × Text}
    (hname : IsSmall field.1) {c : Char} (hc : c = ',' ∨ c = '}') {rest : Text}
    (hrest : QuotesFit (c :: rest)) : QuotesFit (sep :: (writeField field ++ c :: rest)) := by
  have htext : sep :: (writeField field ++ c :: rest) =
      (sep :: (field.1 ++ [':'])) ++ '"' :: (field.2.flatMap Tag.escape ++ '"' :: c :: rest) := by
    simp [writeField, Tag.quoted_eq]
  have hfront : '"' ∉ sep :: (field.1 ++ [':']) := by
    simp only [List.mem_cons, List.mem_append, List.not_mem_nil, or_false, not_or]
    refine ⟨by rcases hsep with rfl | rfl <;> decide, fun hmem => ?_, by decide⟩
    exact hname.ne_of_mem hmem (by decide) rfl
  intro l r h
  rw [htext] at h
  rcases append_eq_append_cons h with ⟨r', hin, -⟩ | ⟨l₁, rfl, hopen⟩
  · exact absurd (by rw [hin]; simp) hfront
  cases l₁ with
  | nil =>
    rw [List.append_nil]
    exact .opening [] r hsep hname
  | cons q l₁ =>
    rw [List.append_cons]
    rcases append_eq_append_cons (List.cons.inj hopen).2 with ⟨r', hin, -⟩ | ⟨l₂, rfl, hclose⟩
    · exact quoteFits_of_escape hin _ r
    cases l₂ with
    | nil =>
      obtain rfl := (List.cons.inj hclose).2
      exact .closing _ _ hc
    | cons q l₂ =>
      rw [List.append_cons _ q, ← List.append_assoc]
      exact (hrest l₂ r (List.cons.inj hclose).2).behind _

theorem exists_behind_eq_cons (fields : List (Text × Text)) :
    ∃ c r, behind fields = c :: r ∧ (c = ',' ∨ c = '}') := by
  cases fields with
  | nil => exact ⟨'}', [], rfl, Or.inr rfl⟩
  | cons field rest => exact ⟨',', _, rfl, Or.inl rfl⟩

theorem quotesFit_behind {fields : List (Text × Text)} (hsmall : ∀ field ∈ fields, IsSmall field.1) :
    QuotesFit (behind fields) := by
  induction fields with
  | nil =>
    intro l r h
    have hmem : '"' ∈ behind [] := by rw [h]; simp
    exact absurd hmem (by decide)
  | cons field rest ih =>
    obtain ⟨hfield, hrest⟩ := List.forall_mem_cons.1 hsmall
    obtain ⟨c, r, hbehind, hc⟩ := exists_behind_eq_cons rest
    have hfit := ih hrest
    rw [behind]
    rw [hbehind] at hfit ⊢
    exact quotesFit_field (Or.inl rfl) hfield hc hfit

theorem quotesFit_write : QuotesFit d.tag.write := by
  rcases d.write_cases with ⟨-, hwrite⟩ | ⟨field, rest, hfields, hwrite⟩
  · intro l r h
    have hmem : '"' ∈ ['{', '}'] := by rw [← hwrite, h]; simp
    exact absurd hmem (by decide)
  · have hsmall := d.small
    rw [hfields] at hsmall
    obtain ⟨hfield, hrest⟩ := List.forall_mem_cons.1 hsmall
    obtain ⟨c, r, hbehind, hc⟩ := exists_behind_eq_cons rest
    have hfit := quotesFit_behind hrest
    rw [hwrite]
    rw [hbehind] at hfit ⊢
    exact quotesFit_field (Or.inr rfl) hfield hc hfit

/-- A quote that fits is in front of a brace only if it opens a text, and then the name in front of it
has small letters only. -/
theorem not_infix_nameStart : ¬ DisplayQuotes.nameStart <:+: d.tag.write := by
  rintro ⟨x, y, h⟩
  have hwrite : x ++ "Name:\"\x7b".toList ++ y = d.tag.write := h
  have hfit := d.quotesFit_write (x ++ "Name:".toList) ('{' :: y) (by rw [← hwrite]; simp)
  obtain ⟨front, sep, name, hsep, hname, hl⟩ := hfit.opens (by simp) (by simp)
  have hnames : (x ++ "Name".toList) ++ [':'] = (front ++ sep :: name) ++ [':'] := by
    simpa using hl
  have hends := List.append_cancel_right hnames
  have hsuffix : sep :: name <:+ x ++ "Name".toList := ⟨front, hends.symm⟩
  rcases List.suffix_or_suffix_of_suffix (List.suffix_append x "Name".toList) hsuffix with hin | hin
  · have hmem : 'N' ∈ sep :: name := hin.subset (by decide)
    rcases List.mem_cons.1 hmem with rfl | hmem
    · rcases hsep with hsep | hsep <;> cases hsep
    · exact absurd (hname.small 'N' hmem) (by decide)
  · have hmem : sep ∈ "Name".toList := hin.subset List.mem_cons_self
    rcases hsep with rfl | rfl <;> exact absurd hmem (by decide)

/-- A quote that fits behind a brace closes a text. -/
theorem not_infix_quotedText : ¬ "\"\x7b\"text\"".toList <:+: d.tag.write := by
  rintro ⟨x, y, h⟩
  have hfit := d.quotesFit_write (x ++ "\"\x7b".toList) ('t' :: ("ext\"".toList ++ y))
    (by rw [← h]; simp)
  obtain ⟨front, sep, name, -, -, hl⟩ := hfit.opens (by simp) (by simp)
  have hends : (x ++ ['"']) ++ ['{'] = (front ++ sep :: name) ++ [':'] := by simpa using hl
  cases List.append_inj_right' hends rfl

/-! ## Kept texts -/

/-- No front of the written text has a block state open, unless a text begins one. -/
theorem inState_eq_false (h : ∀ s ∈ d.texts, ¬ "BlockState:\x7bName:".toList <:+: s) {front : Text}
    (hfront : front <+: d.tag.write) : FallingBlock.inState front = false := by
  have hinner : IsInner "BlockState:\x7bName:".toList := ⟨by decide, by decide, by decide⟩
  have habsent : ¬ "BlockState:\x7bName:".toList <:+: front := by
    intro hin
    obtain ⟨s, hs, hpart⟩ := (d.infix_write_iff hinner).1 (hin.trans hfront.isInfix)
    exact h s hs hpart
  have hlonger : ∀ (quote : Text) (i : Nat),
      has ("BlockState:\x7bName:".toList ++ quote) (front.drop i) = false := by
    intro quote i
    refine has_eq_false fun hin => habsent ?_
    exact ((List.prefix_append _ quote).isInfix.trans hin).trans (List.drop_suffix i front).isInfix
  unfold FallingBlock.inState
  cases findLast? "BlockState:".toList front with
  | none => rfl
  | some i =>
    show ((has ("BlockState:\x7bName:".toList ++ "\"".toList) (front.drop i) ||
      has ("BlockState:\x7bName:".toList ++ "'".toList) (front.drop i)) && _) = false
    rw [hlonger, hlonger]
    rfl

/-- The texts of an entity are kept if none of them holds an old name. If no text begins a block state,
they are kept only then. -/
theorem upgradeData_textFields (tables : Tables) (restyle : Bool) :
    upgradeData tables restyle d.tag.write = .ok (finish tables d.tag) ∧
    ((∀ s ∈ d.texts, ∀ old ∈ oldNames, ¬ old <:+: s) →
      upgradeData tables restyle d.tag.write = .ok d.tag.write) ∧
    ((∀ s ∈ d.texts, ¬ "BlockState:\x7bName:".toList <:+: s) →
      upgradeData tables restyle d.tag.write = .ok d.tag.write →
      ∀ s ∈ d.texts, ∀ old ∈ oldNames, ¬ old <:+: s) := by
  have hfinish := d.upgradeData_eq_finish_tag tables restyle
  refine ⟨hfinish, fun h => ?_, fun hstates h => ?_⟩
  · have hparts : ∀ part ∈ oldNames ++ jsonStarts, ¬ part <:+: d.tag.write := by
      rw [List.forall_mem_append]
      refine ⟨fun old hold => ?_, ?_⟩
      · rw [d.infix_write_iff (isInner_oldNames old hold)]
        rintro ⟨s, hs, hin⟩
        exact h s hs old hold hin
      · exact List.forall_mem_cons.2 ⟨d.not_infix_nameStart,
          List.forall_mem_singleton.2 d.not_infix_quotedText⟩
    rw [hfinish, finish_eq_write tables hparts]
  · rw [hfinish] at h
    have habsent := oldNames_absent tables d.not_infix_nameStart
      (fun front => d.inState_eq_false hstates) (Except.ok.inj h)
    intro s hs old hold hin
    exact habsent old hold ((d.infix_write_iff (isInner_oldNames old hold)).2 ⟨s, hs, hin⟩)

/-- One text under the name `x`. -/
def single (s : Text) : TextFields :=
  ⟨[(['x'], s)], List.forall_mem_singleton.2 (show IsSmall ['x'] by decide),
    List.nodup_singleton _⟩

/-- A text that is an old name is renewed, and quotes, braces and section signs are kept. -/
theorem upgradeData_textFields_fuse :
    let tables : Tables := ⟨[], [], [], [], .null, []⟩
    (single "Fuse:").tag.write = "\x7bx:\"Fuse:\"\x7d".toList ∧
    upgradeData tables true (single "Fuse:").tag.write = .ok "\x7bx:\"fuse:\"\x7d" ∧
    upgradeData tables true (single "Fuse:").tag.write ≠ .ok (single "Fuse:").tag.write ∧
    upgradeData tables true (single "Name:\"\x7b§c\\").tag.write =
      .ok (single "Name:\"\x7b§c\\").tag.write := by
  intro tables
  obtain ⟨hfinish, -, honly⟩ := (single "Fuse:").upgradeData_textFields tables true
  have hfuse : finish tables (single "Fuse:").tag = "\x7bx:\"fuse:\"\x7d".toList := by decide +kernel
  refine ⟨by decide, by rw [hfinish, hfuse], fun h => ?_, ?_⟩
  · have habsent := honly (List.forall_mem_singleton.2 (by decide)) h
    exact habsent "Fuse:".toList List.mem_cons_self "Fuse:".toList (by decide) (List.infix_refl _)
  · exact ((single "Name:\"\x7b§c\\").upgradeData_textFields tables true).2.1
      (List.forall_mem_singleton.2 (by decide))

end TextFields

end CommandUpgrade.Entity
