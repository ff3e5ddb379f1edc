import CommandUpgrade.Command.Script
import CommandUpgrade.Proofs.Table.States
import CommandUpgrade.Proofs.Text.Nesting

/-!
# Block scripts

A block script is a `Listing`: entries, each with a semicolon behind it, and a text at the end. The parts
between the semicolons are read one by one (`read_entry`), so nothing is merged, left out or moved, and the
new script has the entries in their order with their new blocks, and the text at the end
(`script_listing`).
-/

namespace CommandUpgrade

open Text

/-- Trimmed texts between separators are one trimmed text. -/
theorem Text.trim_join {sep : Char} (hsep : isBlank sep = false) {names : List Text}
    (h : ∀ name ∈ names, trim name = name) : trim (join [sep] names) = join [sep] names := by
  induction names with
  | nil => rfl
  | cons name rest ih =>
    obtain ⟨hname, hrest⟩ := List.forall_mem_cons.1 h
    cases rest with
    | nil => exact hname
    | cons next rest =>
      rw [join_cons_cons]
      exact trim_append_cons hsep hname (ih hrest)

namespace Command.Script

/-! ## Entries -/

/-- A field of an entry. -/
structure Field where
  text : Text
  trimmed : trim text = text
  noComma : ',' ∉ text
  noSemicolon : ';' ∉ text

/-- What stands behind the block of an entry. -/
inductive Timing
  | none
  | delayed (delay : Field)
  | full (data delay : Field)

namespace Timing

def fields : Timing → List Field
  | none => []
  | delayed delay => [delay]
  | full data delay => [data, delay]

/-- The data value of the block, zero if there is none. -/
def data : Timing → Text
  | none => "0"
  | delayed _ => "0"
  | full data _ => data.text

def delay? : Timing → Option Text
  | none => Option.none
  | delayed delay => some delay.text
  | full _ delay => some delay.text

end Timing

structure Entry where
  x : Field
  y : Field
  z : Field
  block : Field
  timing : Timing

namespace Entry

def fields (entry : Entry) : List Field :=
  [entry.x, entry.y, entry.z, entry.block] ++ entry.timing.fields

def text (entry : Entry) : Text := join [','] (entry.fields.map Field.text)

/-- The entry with its new block, which has its data value in its name. -/
def withBlock (entry : Entry) (block : Text) : Text :=
  join [','] ([entry.x.text, entry.y.text, entry.z.text, block] ++ entry.timing.delay?.toList)

variable (entry : Entry)

theorem trim_text : trim entry.text = entry.text :=
  trim_join (by decide) (List.forall_mem_map.2 fun field _ => field.trimmed)

theorem noSemicolon_text : ';' ∉ entry.text := by
  intro hmem
  rcases mem_join hmem with hsep | ⟨name, hname, hmem⟩
  · exact absurd hsep (by decide)
  · obtain ⟨field, -, rfl⟩ := List.mem_map.1 hname
    exact field.noSemicolon hmem

theorem text_ne_nil : entry.text ≠ [] := by
  have htext : entry.text = entry.x.text ++ ',' :: join [',']
      (([entry.y, entry.z, entry.block] ++ entry.timing.fields).map Field.text) :=
    join_cons_cons _ _ _ _
  rw [htext]
  simp

/-- The fields are found between the commas. -/
theorem split_text : (split ',' entry.text).map trim = entry.fields.map Field.text := by
  have hne : entry.fields.map Field.text ≠ [] := List.cons_ne_nil _ _
  unfold text
  rw [split_join hne (List.forall_mem_map.2 fun field _ => field.noComma), List.map_map]
  exact List.map_congr_left fun field _ => field.trimmed

end Entry

/-! ## Reading -/

/-- A block name without its namespace. -/
def plainName (block : Text) : Text := (after? "minecraft:" block).getD block

section Read

variable {tables : Tables}

theorem entry_of_stateName {entry : Entry} {block : Text}
    (h : tables.stateName (lower entry.block.text) entry.timing.data = .ok (.text block)) :
    Script.entry tables entry.x.text entry.y.text entry.z.text entry.block.text entry.timing.data
      entry.timing.delay? = .ok (entry.withBlock (plainName block)) := by
  unfold Script.entry
  rw [h]
  rfl

/-- An entry in front of other parts is renewed. -/
theorem read_entry {entry : Entry} {block : Text} {rest : List Text} (hrest : rest ≠ [])
    (h : tables.stateName (lower entry.block.text) entry.timing.data = .ok (.text block))
    (done : List Text) :
    read tables done (entry.text :: rest) = read tables (done ++ [entry.withBlock (plainName block)]) rest := by
  have hfilled : entry.text.isEmpty = false := List.isEmpty_eq_false_iff.2 entry.text_ne_nil
  have hmore : rest.isEmpty = false := List.isEmpty_eq_false_iff.2 hrest
  rw [read, entry.trim_text, hfilled, hmore, entry.split_text]
  simp only [Bool.false_and, Bool.false_eq_true, if_false]
  have hnew : (Script.entry tables entry.x.text entry.y.text entry.z.text entry.block.text entry.timing.data
      entry.timing.delay? >>= fun new => read tables (done ++ [new]) rest) =
        read tables (done ++ [entry.withBlock (plainName block)]) rest := by
    rw [entry_of_stateName h]
    rfl
  -- The number of fields says which of them is the delay.
  obtain ⟨x, y, z, block', timing⟩ := entry
  cases timing with
  | none => exact hnew
  | delayed delay => exact hnew
  | full data delay => exact hnew

/-- What the new block of an entry is. -/
def HasBlock (tables : Tables) (entry : Entry) (block : Text) : Prop :=
  tables.stateName (lower entry.block.text) entry.timing.data = .ok (.text block)

/-- The entries with their new blocks. -/
def renewed (entries : List Entry) (blocks : List Text) : List Text :=
  List.zipWith (fun entry block => entry.withBlock (plainName block)) entries blocks

/-- All entries are renewed, one after another. -/
theorem read_entries {entries : List Entry} {blocks : List Text}
    (h : List.Forall₂ (HasBlock tables) entries blocks) {rest : List Text} (hrest : rest ≠ [])
    (done : List Text) :
    read tables done (entries.map Entry.text ++ rest) = read tables (done ++ renewed entries blocks) rest := by
  induction h generalizing done with
  | nil => simp [renewed]
  | @cons entry block entries blocks hentry _ ih =>
    rw [List.map_cons, List.cons_append, read_entry (by simp [hrest]) hentry, ih, List.append_assoc]
    rfl

end Read

/-! ## Listings -/

/-- Entries, each with a semicolon behind it, and a text at the end, which may have a blank in front. -/
structure Listing where
  entries : List Entry
  filled : entries ≠ []
  spaced : Bool
  rest : Field

namespace Listing

variable (listing : Listing)

/-- What stands behind the last semicolon. -/
def ending : Text := if listing.spaced then ' ' :: listing.rest.text else listing.rest.text

def text : Text := listing.entries.flatMap (fun entry => entry.text ++ [';']) ++ listing.ending

theorem trim_ending : trim listing.ending = listing.rest.text := by
  unfold ending
  split
  · rw [trim_cons_of_isBlank (by decide), listing.rest.trimmed]
  · exact listing.rest.trimmed

theorem noSemicolon_ending : ';' ∉ listing.ending := by
  unfold ending
  split
  · exact List.not_mem_cons_of_ne_of_not_mem (by decide) listing.rest.noSemicolon
  · exact listing.rest.noSemicolon

theorem text_eq_join :
    listing.text = join [';'] (listing.entries.map Entry.text) ++ ';' :: listing.ending := by
  unfold text
  generalize listing.ending = ending
  have hfilled := listing.filled
  generalize listing.entries = entries at hfilled
  induction entries with
  | nil => exact absurd rfl hfilled
  | cons entry rest ih =>
    cases rest with
    | nil => simp [join]
    | cons next rest =>
      have hjoin := join_cons_cons ';' entry.text next.text (rest.map Entry.text)
      rw [List.flatMap_cons, List.append_assoc, ih (List.cons_ne_nil _ _)]
      simp only [List.map_cons, hjoin, List.append_assoc, List.cons_append, List.nil_append]

theorem split_text : split ';' listing.text = listing.entries.map Entry.text ++ [listing.ending] := by
  have hne : listing.entries.map Entry.text ≠ [] := by
    rw [ne_eq, List.map_eq_nil_iff]
    exact listing.filled
  rw [text_eq_join, ← join_concat _ hne]
  refine split_join (by simp) (List.forall_mem_append.2 ⟨?_, ?_⟩)
  · exact List.forall_mem_map.2 fun entry _ => entry.noSemicolon_text
  · exact List.forall_mem_singleton.2 listing.noSemicolon_ending

/-- The text at the end, if there is one, is found behind the entries. -/
theorem read_ending (tables : Tables) {done : List Text} (hdone : done ≠ []) :
    read tables done [listing.ending] = .ok (done, listing.rest.text) := by
  have hfilled : done.isEmpty = false := List.isEmpty_eq_false_iff.2 hdone
  have htext : looksLikeText listing.rest.text = true := by
    unfold looksLikeText
    rw [List.contains_eq_mem, decide_eq_false listing.rest.noComma]
    rfl
  rw [read, trim_ending, hfilled, htext]
  split
  case isTrue hnone =>
    rw [List.isEmpty_iff.1 hnone]
    rfl
  case isFalse => rfl

theorem head?_behind :
    ((findLast? [';'] listing.text).bind fun i => listing.text[i + 1]?) = listing.ending.head? := by
  rw [text_eq_join, findLast?_append listing.noSemicolon_ending, Option.bind_some,
    List.getElem?_append_right (Nat.le_add_right _ 1), Nat.add_sub_cancel_left, List.getElem?_cons_succ,
    List.head?_eq_getElem?]

/-- The blank is known from what stands behind the last semicolon. -/
theorem semicolon_rest (h : listing.rest.text ≠ []) :
    (if listing.ending.head? = some ' ' then [';', ' '] else [';']) ++ listing.rest.text =
      ';' :: listing.ending := by
  unfold ending
  cases listing.spaced with
  | true => rfl
  | false =>
    obtain ⟨c, r, hrest⟩ := List.exists_cons_of_ne_nil h
    have hblank : isBlank c = false := by
      refine isBlank_of_head?_trim (s := listing.rest.text) ?_
      rw [listing.rest.trimmed, hrest]
      rfl
    have hne : (listing.rest.text).head? ≠ some ' ' := by
      rw [hrest]
      rintro heq
      cases heq
      exact absurd hblank (by decide)
    show (if (listing.rest.text).head? = some ' ' then _ else _) ++ _ = _
    rw [if_neg hne]
    rfl

theorem script_text {tables : Tables} {blocks : List Text}
    (h : List.Forall₂ (HasBlock tables) listing.entries blocks) (name : Text) :
    script tables name [listing.text] =
      .ok (name ++ ' ' :: join [';'] (renewed listing.entries blocks) ++
        ';' :: if listing.rest.text = [] then [] else listing.ending) := by
  have hfilled : renewed listing.entries blocks ≠ [] := by
    have hlength := List.length_pos_iff.2 listing.filled
    unfold renewed
    rw [← List.length_pos_iff, List.length_zipWith, ← h.length_eq, Nat.min_self]
    exact hlength
  have hread : read tables [] (split ';' listing.text) =
      .ok (renewed listing.entries blocks, listing.rest.text) := by
    rw [listing.split_text, read_entries h (List.cons_ne_nil _ _), List.nil_append,
      listing.read_ending tables hfilled]
  have hwords : words [listing.text] = listing.text := rfl
  unfold script
  rw [hwords, if_neg (by simp)]
  dsimp only
  rw [hread]
  by_cases hrest : listing.rest.text = []
  · show (if List.isEmpty listing.rest.text = true then
      (pure (if (renewed listing.entries blocks).isEmpty = true then _ else _) : Outcome Text) else _) = _
    rw [if_pos (List.isEmpty_iff.2 hrest), if_neg (mt List.isEmpty_iff.1 hfilled), if_pos hrest]
    rfl
  · show (if List.isEmpty listing.rest.text = true then _ else (pure (name ++ _ ++
      (if ((findLast? [';'] listing.text).bind fun i => listing.text[i + 1]?) = some ' ' then _ else _) ++ _) :
      Outcome Text)) = _
    rw [if_neg (mt List.isEmpty_iff.1 hrest), head?_behind, if_neg hrest, List.append_assoc,
      semicolon_rest listing hrest]
    rfl

end Listing

/-- A block script becomes its name and its entries with their new blocks, in their order, and the text at
the end behind the last semicolon. The new block of an entry is the block state of its block in small
letters and its data value, without the namespace. -/
theorem script_listing (name : Text) (listing : Listing) :
    ∃ blocks, List.Forall₂ (fun entry block =>
        Tables.standard.stateName (lower entry.block.text) entry.timing.data = .ok (.text block))
      listing.entries blocks ∧
      script Tables.standard name [listing.text] =
        .ok (name ++ ' ' :: join [';'] (renewed listing.entries blocks) ++
          ';' :: if listing.rest.text = [] then [] else listing.ending) := by
  choose block hblock using fun entry : Entry =>
    exists_stateName_standard (lower entry.block.text) entry.timing.data
  have hblocks : List.Forall₂ (HasBlock Tables.standard) listing.entries (listing.entries.map block) :=
    List.forall₂_map_right_iff.2 (List.forall₂_same.2 fun entry _ => hblock entry)
  exact ⟨_, hblocks, listing.script_text hblocks name⟩

end Command.Script

end CommandUpgrade
