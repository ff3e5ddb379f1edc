import CommandUpgrade.Proofs.Entity.Printable
import CommandUpgrade.Proofs.Entity.Settling

/-!
# Entity data is converted by tags

Data that begins with a brace, or is white space alone, is read as a compound however it goes on, and
the conversion by tags gives a result for every compound: rules that end early leave a printable
entity behind, and the steps on the written text come to an end. The second way, on the text alone,
is for other data only (`upgradeData_eq_finish`).
-/

namespace CommandUpgrade

open Text

/-! ## The first character -/

namespace Text

variable {c : Char} {part s : Text}

/-- Replacing keeps the first character, if what is replaced begins with another one. -/
theorem head?_replace (hpart : part ≠ []) (hc : part.head? ≠ some c) (new : Text)
    (h : s.head? = some c) : (replace part new s).head? = some c := by
  refine replace_rel hpart (R := fun s t => s.head? = some c → t.head? = some c) id
    (fun _ _ _ _ => id) (fun s t _ hs => ?_) s h
  rw [List.head?_append_of_ne_nil part hpart] at hs
  exact absurd hs hc

/-- The text in front of a part keeps the first character, whatever follows, if the part begins with
another one. -/
theorem head?_append_of_append {front rest : Text} (hpart : part ≠ []) (hc : part.head? ≠ some c)
    (h : (front ++ (part ++ rest)).head? = some c) (new : Text) : (front ++ new).head? = some c := by
  cases front with
  | nil =>
    rw [List.nil_append, List.head?_append_of_ne_nil part hpart] at h
    exact absurd h hc
  | cons d front => exact h

end Text

theorem Effects.head?_upgrade {s : Text} (h : s.head? = some '{') :
    (Effects.upgrade s).head? = some '{' := by
  refine settle_induction (P := fun s => s.head? = some '{') (fun s t hstep hs => ?_) _ h
  obtain ⟨front, rest, rfl, rfl⟩ := upgradeFirst?_eq_some hstep
  exact head?_append_of_append (by decide) (by decide) hs _

theorem FallingBlock.head?_upgrade (tables : Tables) {s : Text} (h : s.head? = some '{') :
    (FallingBlock.upgrade tables s).head? = some '{' := by
  refine head?_replace (by decide) (by decide) _ ?_
  refine settle_induction (P := fun s => s.head? = some '{') (fun s t hstep hs => ?_) _ h
  obtain ⟨⟨front, rest⟩, hcut, rfl⟩ := Option.map_eq_some_iff.1 hstep
  rw [cut?_eq_some hcut, List.append_assoc] at hs
  have hfront := head?_append_of_append (by decide) (by decide) hs
  dsimp only
  split
  · rw [List.append_assoc]
    exact hfront _
  · simp only [List.append_assoc]
    exact hfront _

theorem DisplayQuotes.head?_escapeNames {s : Text} (h : s.head? = some '{') :
    (escapeNames s).head? = some '{' := by
  refine settle_induction (P := fun s => s.head? = some '{') (fun s t hstep hs => ?_) _ h
  obtain ⟨front, body, gap, behind, rfl, rfl⟩ := escapeName?_eq_some hstep
  exact head?_append_of_append (by decide) (by decide) hs _

theorem DisplayQuotes.head?_escapeLores {s : Text} (h : s.head? = some '{') :
    (escapeLores s).head? = some '{' := by
  refine settle_induction (P := fun s => s.head? = some '{') (fun s t hstep hs => ?_) _ h
  obtain ⟨front, lines, rest, rfl, rfl, -⟩ := escapeLore?_eq_some hstep
  exact head?_append_of_append (by decide) (by decide) hs _

namespace Entity

/-- The written form of a compound begins with a brace and keeps it. -/
theorem head?_finish (tables : Tables) (entries : Entries) :
    (finish tables (.compound entries)).head? = some '{' := by
  have hwritten : (Tag.compound entries).write.head? = some '{' := by
    simp [Tag.write, Tag.writeIn]
  have hrenamed : (renameFields (Tag.compound entries).write).head? = some '{' :=
    head?_replace (by decide) (by decide) _ (head?_replace (by decide) (by decide) _ hwritten)
  have hblocks := FallingBlock.head?_upgrade tables (Effects.head?_upgrade hrenamed)
  unfold finish DisplayQuotes.fix
  exact DisplayQuotes.head?_escapeLores (DisplayQuotes.head?_escapeNames hblocks)

/-- Data that begins with a brace, or has no character but white space, is read as a compound. -/
theorem exists_read_eq_compound {data : Text}
    (h : trim data = [] ∨ (trim data).head? = some '{') :
    ∃ entries, Tag.read data = .compound entries := by
  unfold Tag.read
  cases htrim : trim data with
  | nil => exact ⟨[], rfl⟩
  | cons c r =>
    rw [htrim] at h
    obtain rfl : c = '{' := by simpa using h
    refine ⟨(Tag.readEntries [] r).1, ?_⟩
    dsimp only
    rw [Tag.readValue_compound]
    rfl

/-- The steps that are repeated on a written tag come to an end: each is repeated until it finds
nothing any more. For blocks there is nothing to say, as they are renewed by a hundred steps at
most. -/
structure Settles (tables : Tables) (s : Text) : Prop where
  effects : Effects.upgradeFirst? (Effects.upgrade s) = none
  names : DisplayQuotes.escapeName?
    (DisplayQuotes.escapeNames (FallingBlock.upgrade tables (Effects.upgrade s))) = none
  lores : DisplayQuotes.escapeLore?
    (DisplayQuotes.fix (FallingBlock.upgrade tables (Effects.upgrade s))) = none

theorem settles (tables : Tables) (s : Text) : Settles tables s where
  effects := Effects.upgrade_settled s
  names := DisplayQuotes.escapeNames_settled _
  lores := DisplayQuotes.escapeLores_settled _

/-- Data that begins with a brace, or has no character but white space, is converted by tags, however
malformed it is: it is read as a compound, the rules give a compound again, whichever of them end
early, no number in either is too long to be written, the steps on the written text come to an end,
and the result begins with a brace. -/
theorem upgradeData_eq_finish (tables : Tables) (restyle : Bool) {data : Text}
    (h : trim data = [] ∨ (trim data).head? = some '{') :
    ∃ entries new, Tag.read data = .compound entries ∧ (Tag.compound entries).IsPrintable ∧
      Registry.standard.convert (.compound entries) = .ok (.compound new) ∧
      (Tag.compound new).IsPrintable ∧
      Settles tables (renameFields (Tag.compound new).write) ∧
      upgradeData tables restyle data = .ok (finish tables (.compound new)) ∧
      (finish tables (.compound new)).head? = some '{' := by
  obtain ⟨entries, hread⟩ := exists_read_eq_compound h
  have hentries : (Tag.compound entries).IsPrintable := hread ▸ Tag.isPrintable_read data
  have hnew := Registry.standard.arePrintable_run hentries.entries
  refine ⟨entries, Registry.standard.run entries, hread, hentries, rfl, .compound hnew, settles tables _,
    ?_, head?_finish tables _⟩
  unfold upgradeData
  rw [hread]
  rfl

/-- An entity with a count that is no number, a field without a value and no closing brace. -/
def malformedData : Text := " \x7bArmorItems:[\x7bid:a,Count:x\x7d],Fuse:5,y"

/-- The rule for worn items ends early, and what it did so far is in the result. -/
theorem upgradeData_malformedData :
    (∃ entries, finish ⟨[], [], [], [], .null, []⟩ (.compound entries) =
      "\x7bArmorItems:[\x7bid:\"a\",Count:\"x\"\x7d],fuse:5,equipment:\x7b\x7d\x7d".toList) ∧
    upgradeData ⟨[], [], [], [], .null, []⟩ true malformedData =
      .ok "\x7bArmorItems:[\x7bid:\"a\",Count:\"x\"\x7d],fuse:5,equipment:\x7b\x7d\x7d".toList := by
  have hbrace : (trim malformedData).head? = some '{' := by decide +kernel
  obtain ⟨entries, new, -, -, -, -, -, hresult, -⟩ :=
    upgradeData_eq_finish ⟨[], [], [], [], .null, []⟩ true (Or.inr hbrace)
  have htext : (upgradeData ⟨[], [], [], [], .null, []⟩ true malformedData).toOption = some
      "\x7bArmorItems:[\x7bid:\"a\",Count:\"x\"\x7d],fuse:5,equipment:\x7b\x7d\x7d".toList := by
    decide +kernel
  rw [hresult] at htext ⊢
  exact ⟨⟨new, Option.some.inj htext⟩, congrArg Except.ok (Option.some.inj htext)⟩

end Entity

end CommandUpgrade
