import CommandUpgrade.Entity.FallingBlock
import CommandUpgrade.Proofs.Table.Load
import CommandUpgrade.Proofs.Text.Absent
import CommandUpgrade.Proofs.Text.Split

/-!
# Falling blocks among passengers

A step renews the first block of the text. All blocks in front of it are renewed, and the last of them
closes its braces, so no block is passed over (`upgradeFirst?_riders`). The steps are counted: a run
renews the first hundred blocks, each in its place, and leaves the others as they were
(`upgrade_riders`).
-/

namespace CommandUpgrade

open Text

/-! ## New names of blocks -/

/-- A character that ends no text in double quotes and begins none of the names that are looked for. -/
def isCalm (c : Char) : Bool := !(c == '"' || c == '\\' || c.isUpper)

namespace Tables

/-- The new names of blocks are calm. -/
def CalmBlocks (tables : Tables) : Prop :=
  ∀ value ∈ tables.blocks.map Prod.snd, ∀ c ∈ value, isCalm c = true

theorem CalmBlocks.block? {tables : Tables} (h : tables.CalmBlocks) {name value : Text} {data : Int}
    (hvalue : tables.block? name data = some value) : ∀ c ∈ value, isCalm c = true :=
  h value (Lookup.mem_of_get? (Option.filter_eq_some_iff.1 hvalue).1)

theorem calm_blockNamespaced {name : Text} (h : ∀ c ∈ name, isCalm c = true) :
    ∀ c ∈ blockNamespaced name, isCalm c = true := by
  have hprefix : "minecraft:".toList.all isCalm = true := by decide
  unfold blockNamespaced namespaced
  split_ifs
  · exact h
  · exact List.forall_mem_append.2 ⟨List.all_eq_true.1 hprefix, h⟩

/-- The new name of a block with a calm name is calm. -/
theorem CalmBlocks.blockName {tables : Tables} (h : tables.CalmBlocks) {name : Text}
    (hname : ∀ c ∈ name, isCalm c = true) (data : Text) :
    ∀ c ∈ tables.blockName name data, isCalm c = true := by
  have hbare : ∀ c ∈ unquote name, isCalm c = true :=
    fun c hc => hname c (mem_of_mem_stripBoth (mem_of_mem_stripBoth hc))
  unfold Tables.blockName
  dsimp only
  split
  · exact calm_blockNamespaced hbare
  · refine calm_blockNamespaced ?_
    have hgetD {found : Option Text} (hfound : ∀ v, found = some v → ∀ c ∈ v, isCalm c = true) :
        ∀ c ∈ found.getD (unquote name), isCalm c = true := by
      cases found with
      | none => exact hbare
      | some v => exact hfound v rfl
    refine hgetD fun v hv => ?_
    rcases (Option.orElse_eq_some _ _ _).1 hv with hv | ⟨-, hv⟩
    · exact h.block? hv
    · split_ifs at hv
      exact h.block? hv

end Tables

/-! ### The standard sheet of blocks -/

theorem calm_of_ofList {s : String} {l : Text} (h : s = String.ofList l) (hl : l.all isCalm = true) :
    s.toList.all isCalm = true := by
  rw [h, String.toList_ofList]
  exact hl

set_option maxRecDepth 8192 in
theorem calm_blockSheetParts :
    ∀ part ∈ Table.Standard.blockSheetParts, part.toList.all isCalm = true := by
  unfold Table.Standard.blockSheetParts
  repeat refine List.forall_mem_cons.2 ⟨calm_of_ofList rfl (by decide +kernel), ?_⟩
  exact List.forall_mem_nil _

theorem Tables.calmBlocks_standard : Tables.standard.CalmBlocks := by
  intro value hvalue c hc
  by_contra hnot
  have hline : c ≠ '\n' := by
    rintro rfl
    exact hnot (by decide)
  have hsheet : c ∉ Table.Standard.blockSheet.toList := by
    intro hmem
    unfold Table.Standard.blockSheet at hmem
    rw [String.toList_join] at hmem
    obtain ⟨part, hpart, hcpart⟩ := List.mem_flatMap.1 hmem
    exact hnot (List.all_eq_true.1 (calm_blockSheetParts part hpart) c hcpart)
  exact @Table.notMem_newNames c TableFiles.standard _ rfl hline hsheet true value hvalue hc

namespace FallingBlock

/-! ## Old and new texts -/

/-- A character of a block name that is written as it is, such as a small letter or an underscore. -/
def isNamePart (c : Char) : Bool := isCalm c && !(c == '\'' || c == ':' || isBlank c)

/-- A block to fall, by its old name and data value. -/
structure Block where
  name : Text
  data : Text
  isName : name.all isNamePart = true
  isNumber : data.all isDecimal = true
  data_ne_nil : data ≠ []

namespace Block

variable (tables : Tables) (b : Block)

/-- The falling block in its old form. -/
def old : Text := "\x7bid:\"falling_block\",Block:\"" ++ b.name ++ "\",Data:" ++ b.data ++ "\x7d"

def newName : Text := tables.blockName b.name b.data

/-- The falling block in its new form. -/
def new : Text := "\x7bid:\"falling_block\",BlockState:\x7bName:\"" ++ b.newName tables ++ "\"\x7d\x7d"

theorem calm_name : ∀ c ∈ b.name, isCalm c = true := by
  intro c hc
  exact (Bool.and_eq_true_iff.1 (List.all_eq_true.1 b.isName c hc)).1

theorem notMem_name {c : Char} (h : isNamePart c = false) : c ∉ b.name :=
  notMem_of_forall (List.all_eq_true.1 b.isName) h

end Block

/-- An entity with passengers. -/
def riders (entities : List Text) : Text := "\x7bPassengers:[" ++ join [','] entities ++ "]\x7d"

/-! ### Cut at a block -/

/-- The beginning of a falling block. -/
def opening : Text := "\x7bid:\"falling_block\","

theorem Block.old_eq (b : Block) : b.old =
    opening ++ ("Block:".toList ++ ('"' :: (b.name ++ '"' :: (",Data:".toList ++ (b.data ++ ['}']))))) := by
  have hold : b.old = "\x7bid:\"falling_block\",Block:\"".toList ++ b.name ++ "\",Data:".toList ++ b.data ++
      "\x7d".toList := rfl
  have hstart : "\x7bid:\"falling_block\",Block:\"".toList = opening ++ ("Block:".toList ++ ['"']) := by
    decide
  have hdata : "\",Data:".toList = '"' :: ",Data:".toList := by decide
  have hend : "\x7d".toList = ['}'] := by decide
  rw [hold, hstart, hdata, hend]
  simp only [List.append_assoc, List.cons_append, List.nil_append]

theorem Block.new_eq (tables : Tables) (b : Block) : b.new tables =
    opening ++ ("BlockState:\x7bName:\"".toList ++ (b.newName tables ++ ['"', '}', '}'])) := by
  have hnew : b.new tables = "\x7bid:\"falling_block\",BlockState:\x7bName:\"".toList ++
      b.newName tables ++ "\"\x7d\x7d".toList := rfl
  have hstart : "\x7bid:\"falling_block\",BlockState:\x7bName:\"".toList =
      opening ++ "BlockState:\x7bName:\"".toList := by decide
  have hend : "\"\x7d\x7d".toList = ['"', '}', '}'] := by decide
  rw [hnew, hstart, hend, List.append_assoc, List.append_assoc]

/-- The beginning of an entity with passengers. -/
def boarding : Text := "\x7bPassengers:["

/-- What stands in front of a passenger. -/
def front (entities : List Text) : Text := boarding ++ entities.flatMap (· ++ [','])

/-- What stands behind a passenger. -/
def back (entities : List Text) : Text := entities.flatMap (',' :: ·) ++ [']', '}']

theorem join_append_cons (xs : List Text) (y : Text) (zs : List Text) :
    join [','] (xs ++ y :: zs) = xs.flatMap (· ++ [',']) ++ (y ++ zs.flatMap (',' :: ·)) := by
  have hbehind : ∀ (y : Text) (zs : List Text), join [','] (y :: zs) = y ++ zs.flatMap (',' :: ·) := by
    intro y zs
    induction zs generalizing y with
    | nil => exact (List.append_nil y).symm
    | cons z zs ih => rw [join_cons_cons, ih z, List.flatMap_cons, List.cons_append]
  induction xs with
  | nil => exact hbehind y zs
  | cons x xs ih =>
    obtain ⟨w, ws, hw⟩ := List.exists_cons_of_ne_nil (show xs ++ y :: zs ≠ [] by simp)
    rw [List.cons_append, hw, join_cons_cons, ← hw, ih, List.flatMap_cons]
    simp only [List.append_assoc, List.cons_append, List.nil_append]

theorem riders_append_cons (xs : List Text) (y : Text) (zs : List Text) :
    riders (xs ++ y :: zs) = front xs ++ (y ++ back zs) := by
  have hriders : riders (xs ++ y :: zs) =
      boarding ++ join [','] (xs ++ y :: zs) ++ "]\x7d".toList := rfl
  have hend : "]\x7d".toList = [']', '}'] := by decide
  rw [hriders, hend, join_append_cons, front, back]
  simp only [List.append_assoc]

/-! ## The name and the data value -/

theorem go_quotedLength {name : Text} (hquote : '"' ∉ name) (hslash : '\\' ∉ name) (rest : Text)
    {before : Option Char} (hbefore : before ≠ some '\\') :
    quotedLength.go '"' before (name ++ '"' :: rest) = name.length + 1 := by
  induction name generalizing before with
  | nil =>
    rw [List.nil_append, quotedLength.go, if_pos]
    · rfl
    · simpa using hbefore
  | cons c r ih =>
    obtain ⟨hc, hr⟩ := not_or.1 (mt List.mem_cons.2 hquote)
    obtain ⟨hc', hr'⟩ := not_or.1 (mt List.mem_cons.2 hslash)
    rw [List.cons_append, quotedLength.go, if_neg (by simp [Ne.symm hc]),
      ih hr hr' (by simpa using Ne.symm hc'), List.length_cons]

theorem nameLength_quoted (b : Block) (rest : Text) :
    nameLength ('"' :: (b.name ++ '"' :: rest)) = b.name.length + 2 := by
  rw [nameLength, if_pos (by decide), quotedLength,
    go_quotedLength (b.notMem_name (by decide)) (b.notMem_name (by decide)) rest (by simp)]

theorem cleanName_quoted (b : Block) : cleanName ('"' :: (b.name ++ ['"'])) = b.name := by
  have hdouble : stripBoth (· == '"') ('"' :: (b.name ++ ['"'])) = b.name := by
    have hne : ∀ c ∈ b.name, (c == '"') = false := fun c hc => by
      simpa using ne_of_mem_of_not_mem hc (b.notMem_name (by decide))
    unfold stripBoth stripStart
    rw [List.dropWhile_cons_of_pos (by decide)]
    cases hname : b.name with
    | nil => rfl
    | cons c r =>
      rw [hname] at hne
      have hc := hne c List.mem_cons_self
      rw [List.cons_append, List.dropWhile_cons_of_neg (by simp [hc]), ← List.cons_append,
        stripEnd_eq_rdropWhile, List.rdropWhile_concat_pos _ _ _ (by decide), ← stripEnd_eq_rdropWhile,
        stripEnd_eq_self hne]
  have hunquote : unquote ('"' :: (b.name ++ ['"'])) = b.name := by
    rw [unquote, hdouble]
    exact stripBoth_eq_self fun c hc => by
      simpa using ne_of_mem_of_not_mem hc (b.notMem_name (by decide))
  have htrim : trim b.name = b.name := by
    refine stripBoth_eq_self fun c hc => ?_
    have hpart := List.all_eq_true.1 b.isName c hc
    by_contra hblank
    simp [isNamePart, hblank] at hpart
  have hafter : after? "minecraft:" b.name = none := by
    refine if_neg fun hstart => b.notMem_name (c := ':') (by decide) ?_
    exact (List.isPrefixOf_iff_prefix.1 hstart).subset (by decide)
  unfold cleanName
  rw [hunquote, htrim]
  dsimp only
  rw [hafter]
  rfl

theorem run_dataField (b : Block) {rest : Text} {α : Type} {go : Pattern.Cursor → Option α} {a : α}
    (h : ∀ last, go ⟨last, '}' :: rest, [b.data]⟩ = some a) :
    dataField.run go ⟨none, ",Data:" ++ (b.data ++ '}' :: rest), []⟩ = some a := by
  have hdigits : ∀ c ∈ b.data, isDecimal c = true := List.all_eq_true.1 b.isNumber
  have hlength : 1 ≤ b.data.length := List.length_pos_iff.2 b.data_ne_nil
  obtain ⟨behind, hbehind⟩ : ∃ s, s = b.data ++ '}' :: rest := ⟨_, rfl⟩
  have hdata : "Data:".toList ++ behind = 'D' :: ("ata:".toList ++ behind) := rfl
  have hcomma : ",Data:".toList ++ behind = ',' :: ("Data:".toList ++ behind) := rfl
  have hcomma' : ',' :: ("Data:".toList ++ behind) = ",".toList ++ ("Data:".toList ++ behind) := rfl
  rw [← hbehind, dataField, Pattern.run_append, Pattern.run_append, Pattern.run_append,
    Pattern.run_append, hcomma, Pattern.run_blanks (by decide), hcomma', Pattern.run_lit, hdata,
    Pattern.run_blanks (by decide), ← hdata, Pattern.run_lit, hbehind]
  refine Pattern.afterMany_longest hdigits (by decide) hlength (fun last => ?_) _
  have hkept : (b.data ++ '}' :: rest).take ((b.data ++ '}' :: rest).length - ('}' :: rest).length) =
      b.data := by
    rw [List.length_append, Nat.add_sub_cancel, List.take_left]
  have hlast := h last
  rw [← hkept] at hlast
  exact hlast

theorem match?_dataField (b : Block) (rest : Text) :
    ∃ m, dataField.match? (",Data:" ++ (b.data ++ '}' :: rest)) = some m ∧ m.group 1 = b.data ∧
      m.rest = '}' :: rest :=
  ⟨_, run_dataField b fun _ => rfl, rfl, rfl⟩

/-! ## Braces -/

theorem go_openBraces {name : Text} (h : ∀ c ∈ name, isCalm c = true) {before : Option Char}
    (hbefore : before ≠ some '\\') (depth : Int) (rest : Text) :
    openBraces.go (some '"') before depth (name ++ '"' :: rest) =
      openBraces.go none (some '"') depth rest := by
  induction name generalizing before with
  | nil =>
    have hcounts : quoteCounts before '"' = true := by simpa [quoteCounts, isQuote] using hbefore
    rw [List.nil_append, openBraces.go, if_pos hcounts]
    rfl
  | cons c r ih =>
    obtain ⟨hc, hr⟩ := List.forall_mem_cons.1 h
    have hquote : (c == '"') = false := by
      have hne : '"' ∉ c :: r := notMem_of_forall h (by decide)
      simpa using (List.ne_of_not_mem_cons hne).symm
    have hslash : some c ≠ some '\\' := by
      have hne : '\\' ∉ c :: r := notMem_of_forall h (by decide)
      simpa using (List.ne_of_not_mem_cons hne).symm
    have hopen : toggle (some '"') c = some '"' := by
      unfold toggle
      simp only [hquote, Bool.false_eq_true, if_false]
    rw [List.cons_append, openBraces.go, hopen, if_pos (show (some '"').isSome = true from rfl), ite_self,
      ih hr hslash]

theorem openBraces_new {name : Text} (h : ∀ c ∈ name, isCalm c = true) :
    openBraces ("BlockState:\x7bName:\"" ++ (name ++ '"' :: '}' :: '}' :: ',' :: opening)) = -1 := by
  have hstart : ∀ rest : Text, openBraces ("BlockState:\x7bName:\"" ++ rest) =
      openBraces.go (some '"') (some '"') 1 rest := fun _ => rfl
  rw [hstart, go_openBraces h (by decide)]
  rfl

/-! ## One step -/

variable {tables : Tables}

theorem clear_new (h : tables.CalmBlocks) (b : Block) : Clear "Block:" (b.new tables) := by
  have hname : Clear "Block:" (b.newName tables) :=
    .of_notMem (notMem_of_forall (h.blockName b.calm_name b.data) (by decide))
  have hopening : Clear "Block:" opening := by decide
  have hstate : Clear "Block:" "BlockState:\x7bName:\"".toList := by decide
  have hend : Clear "Block:" ['"', '}', '}'] := by decide
  rw [b.new_eq]
  exact hopening.append (hstate.append (hname.append hend))

theorem clear_front (h : tables.CalmBlocks) (done : List Block) :
    Clear "Block:" (front (done.map (Block.new tables))) := by
  have hboarding : Clear "Block:" boarding := by decide
  have hcomma : Clear "Block:" [','] := by decide
  refine hboarding.append (.flatMap fun entity hentity => ?_)
  obtain ⟨b, -, rfl⟩ := List.mem_map.1 hentity
  exact (clear_new h b).append hcomma

/-- The block in front is closed. -/
theorem inState_front (h : tables.CalmBlocks) (done : List Block) :
    inState (front (done.map (Block.new tables)) ++ opening) = false := by
  rcases List.eq_nil_or_concat done with rfl | ⟨done, b, rfl⟩
  · show inState (boarding ++ [] ++ opening) = false
    decide
  · have hcalm := h.blockName b.calm_name b.data
    obtain ⟨before, hbefore⟩ : ∃ s, s = front (done.map (Block.new tables)) ++ opening := ⟨_, rfl⟩
    obtain ⟨behind, hbehind⟩ :
        ∃ s, s = b.newName tables ++ '"' :: '}' :: '}' :: ',' :: opening := ⟨_, rfl⟩
    have htext : front ((done.concat b).map (Block.new tables)) ++ opening =
        before ++ ("BlockState:\x7bName:\"".toList ++ behind) := by
      rw [hbefore, hbehind, List.concat_eq_append]
      simp [front, Block.new_eq]
    have hlast : findLast? "BlockState:" (before ++ ("BlockState:\x7bName:\"".toList ++ behind)) =
        some before.length := by
      have hfield : "BlockState:".toList = 'B' :: "lockState:".toList := by decide
      have hsplit : "BlockState:\x7bName:\"".toList =
          "BlockState:".toList ++ "\x7bName:\"".toList := by decide
      have hname : 'B' ∉ b.newName tables := notMem_of_forall hcalm (by decide)
      have hopening : 'B' ∉ '"' :: '}' :: '}' :: ',' :: opening := by decide
      have honce : 'B' ∉ "lockState:".toList ++ ("\x7bName:\"".toList ++ behind) := by
        rw [hbehind, List.mem_append, List.mem_append, List.mem_append, not_or, not_or, not_or]
        exact ⟨by decide, by decide, hname, hopening⟩
      rw [hsplit, List.append_assoc, hfield]
      exact findLast?_last honce before
    have hclosed : openBraces ("BlockState:\x7bName:\"".toList ++ behind) = -1 := by
      rw [hbehind]
      exact openBraces_new hcalm
    rw [htext, inState, hlast]
    dsimp only
    rw [List.drop_left, hclosed]
    exact Bool.and_false _

/-- The first block is renewed in its place. -/
theorem upgradeFirst?_riders (h : tables.CalmBlocks) (done : List Block) (b : Block) (rest : List Text) :
    upgradeFirst? tables (riders (done.map (Block.new tables) ++ b.old :: rest)) =
      some (riders (done.map (Block.new tables) ++ b.new tables :: rest)) := by
  have hclear := (clear_front h done).append (by decide : Clear "Block:" opening)
  have hstate := inState_front h done
  obtain ⟨m, hmatch, hdata, hrest⟩ := match?_dataField b (back rest)
  rw [riders_append_cons, riders_append_cons, b.old_eq, b.new_eq]
  obtain ⟨before, hbefore⟩ : ∃ s, s = front (done.map (Block.new tables)) ++ opening := ⟨_, rfl⟩
  rw [← hbefore] at hclear hstate
  obtain ⟨behind, hbehind⟩ : ∃ s, s = ",Data:".toList ++ (b.data ++ '}' :: back rest) := ⟨_, rfl⟩
  rw [← hbehind] at hmatch
  have hvalue : '"' :: (b.name ++ '"' :: behind) = '"' :: (b.name ++ ['"']) ++ behind := by simp
  have hlength : nameLength ('"' :: (b.name ++ '"' :: behind)) = ('"' :: (b.name ++ ['"'])).length := by
    rw [nameLength_quoted]
    simp
  have hold : front (done.map (Block.new tables)) ++
      (opening ++ ("Block:".toList ++ ('"' :: (b.name ++ '"' :: (",Data:".toList ++ (b.data ++ ['}'])))))
        ++ back rest) = before ++ ("Block:".toList ++ ('"' :: (b.name ++ '"' :: behind))) := by
    rw [hbefore, hbehind]
    simp only [List.append_assoc, List.cons_append, List.nil_append]
  rw [hold, upgradeFirst?, hclear.first.cut?_eq (by decide), Option.map_some]
  dsimp only
  rw [hstate, if_neg Bool.false_ne_true, hlength, hvalue, List.take_left, List.drop_left, cleanName_quoted,
    hmatch]
  dsimp only
  rw [hdata, hrest, hbefore]
  have hend : "\"\x7d".toList = ['"', '}'] := by decide
  rw [hend]
  simp only [List.append_assoc, List.cons_append, List.nil_append]
  rfl

/-- No block is left. -/
theorem upgradeFirst?_renewed (h : tables.CalmBlocks) (done : List Block) :
    upgradeFirst? tables (riders (done.map (Block.new tables))) = none := by
  have hclear : Clear "Block:" (riders (done.map (Block.new tables))) := by
    rcases List.eq_nil_or_concat done with rfl | ⟨done, b, rfl⟩
    · show Clear "Block:" (riders [])
      decide
    · have hback : Clear "Block:" (back []) := by decide
      rw [List.concat_eq_append, List.map_append, List.map_singleton, riders_append_cons]
      exact (clear_front h done).append ((clear_new h b).append hback)
  unfold upgradeFirst?
  rw [cut?_eq_none (hclear.not_infix (by decide))]
  rfl

/-! ## The run -/

theorem settle_riders (h : tables.CalmBlocks) (n : Nat) (done todo : List Block) :
    settle (upgradeFirst? tables) n (riders (done.map (Block.new tables) ++ todo.map Block.old)) =
      riders ((done ++ todo.take n).map (Block.new tables) ++ (todo.drop n).map Block.old) := by
  induction n generalizing done todo with
  | zero => rw [settle, List.take_zero, List.append_nil, List.drop_zero]
  | succ n ih =>
    cases todo with
    | nil =>
      rw [List.map_nil, List.append_nil, settle_eq_self (upgradeFirst?_renewed h done)]
      simp only [List.take_nil, List.drop_nil, List.append_nil, List.map_nil]
    | cons b todo =>
      have hdone : done.map (Block.new tables) ++ b.new tables :: todo.map Block.old =
          (done ++ [b]).map (Block.new tables) ++ todo.map Block.old := by simp
      rw [List.map_cons, settle, upgradeFirst?_riders h]
      dsimp only
      rw [hdone, ih, List.take_succ_cons, List.drop_succ_cons, List.append_assoc, List.singleton_append]

theorem notMem_riders {c : Char} (hc : c ∉ riders []) (hcomma : c ≠ ',') {entities : List Text}
    (h : ∀ entity ∈ entities, c ∉ entity) : c ∉ riders entities := by
  intro hmem
  rcases List.mem_append.1 hmem with hmem | hend
  · rcases List.mem_append.1 hmem with hstart | hjoin
    · exact hc (List.mem_append_left _ (List.mem_append_left _ hstart))
    · rcases mem_join hjoin with heq | ⟨entity, hentity, hin⟩
      · exact hcomma heq
      · exact h entity hentity hin
  · exact hc (List.mem_append_right _ hend)

/-- Nothing stands for a block that was passed over. -/
theorem not_infix_mark (h : tables.CalmBlocks) (done todo : List Block) :
    ¬ mark <:+: riders (done.map (Block.new tables) ++ todo.map Block.old) := by
  have hold : ∀ b : Block, 'K' ∉ b.old := by
    intro b
    have hdata : 'K' ∉ b.data := notMem_of_forall (List.all_eq_true.1 b.isNumber) (by decide)
    have hname : 'K' ∉ b.name := b.notMem_name (by decide)
    have hopening : 'K' ∉ opening := by decide
    have hfield : 'K' ∉ "Block:".toList := by decide
    have hnumber : 'K' ∉ ",Data:".toList := by decide
    rw [b.old_eq]
    simp only [List.mem_append, List.mem_cons, not_or, List.not_mem_nil, or_false]
    exact ⟨hopening, hfield, by decide, hname, by decide, hnumber, hdata, by decide⟩
  have hnew : ∀ b : Block, 'K' ∉ b.new tables := by
    intro b
    have hname : 'K' ∉ b.newName tables := notMem_of_forall (h.blockName b.calm_name b.data) (by decide)
    have hopening : 'K' ∉ opening := by decide
    have hstate : 'K' ∉ "BlockState:\x7bName:\"".toList := by decide
    rw [b.new_eq, List.mem_append, List.mem_append, List.mem_append, not_or, not_or, not_or]
    exact ⟨hopening, hstate, hname, by decide⟩
  intro hoccurs
  have hmark : 'K' ∈ mark := by decide
  refine notMem_riders (by decide) (by decide) (List.forall_mem_append.2 ⟨?_, ?_⟩)
    (hoccurs.subset hmark)
  · exact List.forall_mem_map.2 fun b _ => hnew b
  · exact List.forall_mem_map.2 fun b _ => hold b

/-- The first hundred blocks are renewed, each in its place, and the others are left. -/
theorem upgrade_riders (h : tables.CalmBlocks) (bs : List Block) :
    upgrade tables (riders (bs.map Block.old)) =
      riders ((bs.take 100).map (Block.new tables) ++ (bs.drop 100).map Block.old) := by
  have hrun := settle_riders h 100 [] bs
  rw [List.map_nil, List.nil_append, List.nil_append] at hrun
  rw [upgrade, hrun, replace_eq_self (not_infix_mark h _ _)]

theorem riders_eq_iff (h : tables.CalmBlocks) (done todo : List Block) :
    riders (done.map (Block.new tables) ++ todo.map Block.old) =
      riders ((done ++ todo).map (Block.new tables)) ↔ todo = [] := by
  constructor
  · intro heq
    cases todo with
    | nil => rfl
    | cons b todo =>
      have hstep := upgradeFirst?_riders h done b (todo.map Block.old)
      rw [← List.map_cons, heq, upgradeFirst?_renewed h] at hstep
      cases hstep
  · rintro rfl
    rw [List.map_nil, List.append_nil, List.append_nil]

theorem upgrade_riders_eq_iff (h : tables.CalmBlocks) (bs : List Block) :
    upgrade tables (riders (bs.map Block.old)) = riders (bs.map (Block.new tables)) ↔
      bs.length ≤ 100 := by
  have hall := riders_eq_iff h (bs.take 100) (bs.drop 100)
  rw [List.take_append_drop] at hall
  rw [upgrade_riders h, hall, List.drop_eq_nil_iff]

/-- Of the falling blocks that ride an entity, the first hundred get their new form in their place. The
others stay as they were, so all are renewed exactly if they are no more than a hundred. -/
theorem upgrade_hundred_blocks (bs : List Block) :
    upgrade .standard (riders (bs.map Block.old)) =
      riders ((bs.take 100).map (Block.new .standard) ++ (bs.drop 100).map Block.old) ∧
    (upgrade .standard (riders (bs.map Block.old)) = riders (bs.map (Block.new .standard)) ↔
      bs.length ≤ 100) :=
  ⟨upgrade_riders Tables.calmBlocks_standard bs, upgrade_riders_eq_iff Tables.calmBlocks_standard bs⟩

def stone : Block := ⟨"stone", "0", by decide, by decide, by decide⟩

/-- The last of a hundred and one blocks is left. -/
theorem upgrade_leaves_block :
    upgrade .standard (riders ((List.replicate 101 stone).map Block.old)) ≠
      riders ((List.replicate 101 stone).map (Block.new .standard)) := by
  intro h
  have hlength := (upgrade_riders_eq_iff Tables.calmBlocks_standard _).1 h
  rw [List.length_replicate] at hlength
  exact absurd hlength (by decide)

end FallingBlock

end CommandUpgrade
