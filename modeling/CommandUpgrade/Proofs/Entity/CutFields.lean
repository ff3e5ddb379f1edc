import CommandUpgrade.Proofs.Entity.TextFields
import CommandUpgrade.Proofs.Text.Nesting
import CommandUpgrade.Proofs.Text.Split

/-!
# Texts cut at a comma

What is read of an entity of texts when it is cut at its first comma: the field in front of the comma, or
the beginning of its text if the comma stands in the text (`exists_cut`). Reading closes what is open
there, and so the cut entity is not written as the beginning of the whole one.
-/

namespace CommandUpgrade

open Text

/-! ## Open texts -/

namespace Tag

/-- A text without a closing quote is read to the end. -/
theorem readQuoted_open (s : Text) :
    readQuoted '"' (s.flatMap escape) = (s, (s.flatMap escape).length) := by
  have h := readQuoted_flatMap_escape s []
  rwa [List.append_nil, readQuoted, List.append_nil, Nat.add_zero] at h

theorem readValue_open (s : Text) :
    readValue ('"' :: s.flatMap escape) = (some (.text s), (s.flatMap escape).length + 1) := by
  rw [readValue_cons (by decide), if_neg (by decide), if_neg (by decide), if_pos (by decide), readText,
    readQuoted_open]

theorem trimEnd_flatMap_escape (s : Text) :
    trimEnd (s.flatMap escape) = (trimEnd s).flatMap escape := by
  unfold trimEnd
  induction s using List.reverseRecOn with
  | nil => rfl
  | append_singleton r c ih =>
    rw [List.flatMap_append, List.flatMap_singleton]
    by_cases hc : isBlank c = true
    · have hescape : escape c = [c] :=
        escape_of_plain (ne_of_isBlank hc (by decide)) (ne_of_isBlank hc (by decide))
      rw [hescape, stripEnd_eq_rdropWhile, stripEnd_eq_rdropWhile, List.rdropWhile_concat_pos _ _ _ hc,
        List.rdropWhile_concat_pos _ _ _ hc, ← stripEnd_eq_rdropWhile, ← stripEnd_eq_rdropWhile, ih]
    · rw [Bool.not_eq_true] at hc
      obtain ⟨front, hescape⟩ : ∃ front, escape c = front ++ [c] := by
        unfold escape
        split_ifs with hslash hquote
        · exact ⟨['\\'], by rw [hslash]; rfl⟩
        · exact ⟨['\\'], by rw [hquote]; rfl⟩
        · exact ⟨[], rfl⟩
      rw [stripEnd_append_singleton hc, List.flatMap_append, List.flatMap_singleton, hescape,
        ← List.append_assoc, stripEnd_append_singleton hc]

end Tag

namespace Entity

/-- An entry in front of which a brace is open and behind which nothing stands. -/
theorem read_open_entry {name r : Text} {c : Char} {tag : Tag} {m : Nat} (hname : IsSmall name)
    (hgap : Tag.isGap c = false) (hcolon : c ≠ ':') (hvalue : Tag.readValue (c :: r) = (some tag, m))
    (hrest : (c :: r).drop m = []) {data : Text} (hdata : trim data = '{' :: (name ++ ':' :: c :: r)) :
    Tag.read data = .compound [(name, tag)] := by
  have hreads : Tag.ReadsAsName name name ':' :=
    Tag.readsAsName_bare (fun c => hname.isNameChar) hname.filled (by decide)
  obtain ⟨d, q, hstart, -, hsep, -⟩ := hreads.exists_cons
  have hentries : (Tag.readEntries [] (name ++ ':' :: c :: r)).1 = [(name, tag)] := by
    have hfrom := Tag.entriesFrom_cons hsep [] (q ++ ':' :: c :: r)
    rw [← List.cons_append, ← hstart, Tag.entriesFrom_entry hreads hgap hcolon hvalue, hrest,
      Tag.entriesFrom_nil] at hfrom
    exact (congrArg Prod.fst hfrom).symm
  unfold Tag.read
  rw [hdata]
  dsimp only
  rw [Tag.readValue_compound, hentries]
  rfl

namespace TextFields

/-- An entity of one text. -/
def one (field : Text × Text) (hsmall : IsSmall field.1) : TextFields :=
  ⟨[field], List.forall_mem_singleton.2 hsmall, List.nodup_singleton _⟩

theorem write_one (field : Text × Text) (hsmall : IsSmall field.1) :
    (one field hsmall).tag.write = '{' :: (writeField field ++ ['}']) := write_tag _

/-- Texts without old names are finished as they are written. -/
theorem finish_tag (tables : Tables) (d : TextFields)
    (h : ∀ s ∈ d.texts, ∀ old ∈ oldNames, ¬ old <:+: s) : finish tables d.tag = d.tag.write := by
  refine finish_eq_write tables (List.forall_mem_append.2 ⟨fun old hold => ?_, ?_⟩)
  · rw [d.infix_write_iff (isInner_oldNames old hold)]
    rintro ⟨s, hs, hin⟩
    exact h s hs old hold hin
  · exact List.forall_mem_cons.2
      ⟨d.not_infix_nameStart, List.forall_mem_singleton.2 d.not_infix_quotedText⟩

/-- Data that is read as one text is written as one, closed. -/
theorem upgradeData_one (tables : Tables) (restyle : Bool) {data name s : Text} (hsmall : IsSmall name)
    (hread : Tag.read data = .compound [(name, .text s)]) (h : ∀ old ∈ oldNames, ¬ old <:+: s) :
    upgradeData tables restyle data = .ok ('{' :: (writeField (name, s) ++ ['}'])) := by
  rw [upgradeData_of_isSmall tables restyle hread (List.forall_mem_singleton.2 hsmall)]
  have hfinish := (one (name, s) hsmall).finish_tag tables (List.forall_mem_singleton.2 h)
  exact congrArg Except.ok (hfinish.trans (write_one (name, s) hsmall))

/-! ## The first comma -/

theorem cons_writeField (name s : Text) :
    '{' :: writeField (name, s) = '{' :: (name ++ ':' :: '"' :: s.flatMap Tag.escape) ++ ['"'] := by
  simp [writeField, Tag.quoted_eq]

theorem comma_notMem_writeField {name : Text} (hname : IsSmall name) {s : Text} (hs : ',' ∉ s) :
    ',' ∉ '{' :: writeField (name, s) := by
  have hescape : ',' ∉ s.flatMap Tag.escape := by
    rw [List.mem_flatMap]
    rintro ⟨c, hc, hmem⟩
    unfold Tag.escape at hmem
    split_ifs at hmem
    · simp at hmem
    · simp at hmem
    · rw [List.mem_singleton.1 hmem] at hs
      exact hs hc
  have hnameComma : ',' ∉ name := fun hmem => hname.ne_of_mem hmem (by decide) rfl
  rw [cons_writeField]
  simp [hescape, hnameComma]

/-- A comma in a text: the field is cut inside the text. -/
theorem cut_inside {name : Text} (hname : IsSmall name) {s : Text} (tail : Text) :
    let first := '{' :: (name ++ ':' :: '"' :: s.flatMap Tag.escape)
    Tag.read (trim first) = .compound [(name, .text (trimEnd s))] ∧
    ¬ '{' :: (writeField (name, trimEnd s) ++ ['}']) <+: first ++ ',' :: tail := by
  intro first
  have htrim : trim first = '{' :: (name ++ ':' :: '"' :: (trimEnd s).flatMap Tag.escape) := by
    have hend := trimEnd_append_cons (show isBlank '"' = false by decide) (name ++ [':'])
      (s.flatMap Tag.escape)
    rw [List.append_assoc, List.append_assoc, Tag.trimEnd_flatMap_escape] at hend
    exact (trim_cons_of_not_isBlank (by decide) _).trans (congrArg _ hend)
  refine ⟨read_open_entry hname (by decide) (by decide) (Tag.readValue_open _) (by simp)
    ((trim_trim first).trans htrim), ?_⟩
  -- Behind what is kept of the text there is white space or the comma, and not a quote.
  obtain ⟨a, b, hparts, ha, hb⟩ := exists_trim_append first
  have hnil : a = [] := by
    cases a with
    | nil => rfl
    | cons c r =>
      have hc := ha c List.mem_cons_self
      rw [List.cons_append] at hparts
      rw [← (List.cons.inj hparts).1] at hc
      exact absurd hc (by decide)
  rw [hnil, List.nil_append] at hparts
  have hwrite : '{' :: (writeField (name, trimEnd s) ++ ['}']) = trim first ++ ['"', '}'] := by
    rw [htrim, ← List.cons_append, cons_writeField, List.append_assoc]
    rfl
  rw [hwrite, hparts, List.append_assoc, ← hparts, List.prefix_append_right_inj]
  cases b with
  | nil => simp
  | cons c r =>
    have hc := ne_of_isBlank (hb c List.mem_cons_self) (show isBlank '"' = false by decide)
    exact fun h => hc (List.cons_prefix_cons.1 h).1.symm

/-- A comma behind a text: the field is whole, and the brace is open. -/
theorem cut_behind {name : Text} (hname : IsSmall name) (s tail : Text) :
    let first := '{' :: writeField (name, s)
    Tag.read (trim first) = .compound [(name, .text s)] ∧
    ¬ '{' :: (writeField (name, s) ++ ['}']) <+: first ++ ',' :: tail := by
  intro first
  have hfirst : first = '{' :: (name ++ ':' :: '"' :: (s.flatMap Tag.escape ++ ['"'])) :=
    (cons_writeField name s).trans (by simp)
  have htrim : trim first = first := by
    have hend := trimEnd_append_cons (show isBlank '"' = false by decide)
      (name ++ ':' :: '"' :: s.flatMap Tag.escape) []
    rw [show trimEnd [] = [] from rfl, List.append_assoc] at hend
    rw [hfirst, trim_cons_of_not_isBlank (by decide)]
    exact congrArg _ hend
  have hvalue := Tag.readValue_quoted s []
  rw [List.append_nil, Tag.quoted_eq] at hvalue
  refine ⟨read_open_entry hname (by decide) (by decide) hvalue (by simp)
    ((trim_trim first).trans (htrim.trans hfirst)), ?_⟩
  rw [← List.cons_append, List.prefix_append_right_inj]
  simp

/-- The entity up to its first comma is read as one field, of which the text may be cut too. It is not
written as the beginning of the whole entity. -/
theorem exists_cut (d : TextFields) (hcomma : ',' ∈ d.tag.write) (tail : Text) :
    ∃ first later field, split ',' d.tag.write = first :: later ∧ IsSmall field.1 ∧
      (∃ s ∈ d.texts, field.2 <+: s) ∧ Tag.read (trim first) = .compound [(field.1, .text field.2)] ∧
      ¬ '{' :: (writeField field ++ ['}']) <+: d.tag.write ++ tail := by
  rcases d.write_cases with ⟨-, hwrite⟩ | ⟨⟨name, text⟩, rest, hfields, hwrite⟩
  · rw [hwrite] at hcomma
    exact absurd hcomma (by decide)
  have hname : IsSmall name := d.small (name, text) (by rw [hfields]; exact List.mem_cons_self)
  have htext : text ∈ d.texts := by
    unfold texts
    rw [hfields]
    exact List.mem_cons_self
  by_cases hin : ',' ∈ text
  · obtain ⟨s, more, rfl, hs⟩ := List.eq_append_cons_of_mem hin
    have hcut : d.tag.write = '{' :: (name ++ ':' :: '"' :: s.flatMap Tag.escape) ++
        ',' :: (more.flatMap Tag.escape ++ '"' :: behind rest) := by
      have hescape : Tag.escape ',' = [','] := rfl
      rw [hwrite]
      simp [writeField, Tag.quoted_eq, hescape]
    obtain ⟨hread, hprefix⟩ := cut_inside hname (s := s)
      (more.flatMap Tag.escape ++ '"' :: behind rest ++ tail)
    have hfree := comma_notMem_writeField hname hs
    rw [cons_writeField, List.mem_append] at hfree
    have hsplit := split_append_of_notMem (not_or.1 hfree).1
      (more.flatMap Tag.escape ++ '"' :: behind rest)
    refine ⟨_, _, (name, trimEnd s), (congrArg _ hcut).trans hsplit, hname, ⟨_, htext, ?_⟩, hread, ?_⟩
    · have hkept : trimEnd s <+: s := by
        unfold trimEnd
        rw [stripEnd_eq_rdropWhile]
        exact List.rdropWhile_prefix _ _
      exact hkept.trans (List.prefix_append _ _)
    · rw [hcut, List.append_assoc, List.cons_append]
      exact hprefix
  · cases rest with
    | nil =>
      rw [hwrite, behind, ← List.cons_append, List.mem_append] at hcomma
      exact absurd hcomma (not_or.2 ⟨comma_notMem_writeField hname hin, by decide⟩)
    | cons next rest =>
      have hcut : d.tag.write =
          '{' :: writeField (name, text) ++ ',' :: (writeField next ++ behind rest) := by
        rw [hwrite, behind, List.cons_append]
      have hfree := comma_notMem_writeField hname hin
      obtain ⟨hread, hprefix⟩ := cut_behind hname text (writeField next ++ behind rest ++ tail)
      refine ⟨_, _, (name, text), (congrArg _ hcut).trans (split_append_of_notMem hfree _), hname,
        ⟨_, htext, List.prefix_rfl⟩, hread, ?_⟩
      rw [hcut, List.append_assoc, List.cons_append]
      exact hprefix

end TextFields

end Entity

end CommandUpgrade
