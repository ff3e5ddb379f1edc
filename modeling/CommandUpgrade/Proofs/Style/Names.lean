import CommandUpgrade.Proofs.Style.Formatting

/-!
# Names and messages

Names and messages are cut into components at the same places. The formatting of a message lasts
until a colour or a reset ends it; the formatting of a name ends with the text that it stands in
front of.

`blocks` gives the pieces of a text, each with the codes right in front of it, and `blockRuns` their
formatting under either rule. So the two kinds of components agree exactly where every block says
again what was in force (`name_agrees_with_message_iff`).
-/

namespace CommandUpgrade.Style

open Entries

/-! ## Blocks -/

/-- Puts a text behind codes in front of blocks. The text goes on with a block that has no codes. -/
def attach (codes : List Char) (s : Text) : List (List Char × Text) → List (List Char × Text)
  | ([], t) :: rest => (codes, s ++ t) :: rest
  | rest => (codes, s) :: rest

/-- The pieces of a text that stands behind codes, each with the codes right in front of it. -/
def blocksFrom (codes : List Char) : Text → List (List Char × Text)
  | [] => []
  | [c] => [(codes, [c])]
  | c :: d :: r =>
    if c = sign then blocksFrom (codes ++ [d]) r else attach codes [c] (blocksFrom [] (d :: r))

/-- The pieces of a text between its codes, each with the codes right in front of it. -/
def blocks (s : Text) : List (List Char × Text) := blocksFrom [] s

/-- The runs of blocks behind a formatting. If the formatting is used once, each block begins
without any. -/
def blockRuns (once : Bool) (format : Format) : List (List Char × Text) → List (Text × Format)
  | [] => []
  | block :: rest =>
    let format := block.1.foldl (Format.after true) format
    (block.2, format) :: blockRuns once (if once then {} else format) rest

theorem attach_attach (codes : List Char) (s t : Text) (rest : List (List Char × Text)) :
    attach codes s (attach [] t rest) = attach codes (s ++ t) rest := by
  cases rest with
  | nil => simp [attach]
  | cons block rest =>
    obtain ⟨_ | _, u⟩ := block <;> simp [attach]

theorem blocksFrom_char (codes : List Char) {c : Char} (h : c ≠ sign) (r : Text) :
    blocksFrom codes (c :: r) = attach codes [c] (blocksFrom [] r) := by
  cases r with
  | nil => rfl
  | cons d r => rw [blocksFrom, if_neg h]

theorem blocksFrom_code (codes : List Char) (c : Char) (r : Text) :
    blocksFrom codes (sign :: c :: r) = blocksFrom (codes ++ [c]) r := by
  rw [blocksFrom, if_pos rfl]

theorem attach_attach_of_ne_nil (codes : List Char) (front : Text) {others : List Char}
    (h : others ≠ []) (t : Text) (rest : List (List Char × Text)) :
    attach codes front (attach others t rest) = (codes, front) :: attach others t rest := by
  obtain ⟨other, more, rfl⟩ := List.exists_cons_of_ne_nil h
  cases rest with
  | nil => rfl
  | cons block rest =>
    obtain ⟨_ | _, u⟩ := block <;> rfl

/-- Behind a code no text goes on. -/
theorem attach_blocksFrom (codes : List Char) (front : Text) {others : List Char}
    (h : others ≠ []) (s : Text) :
    attach codes front (blocksFrom others s) = (codes, front) :: blocksFrom others s := by
  fun_induction blocksFrom others s with
  | case1 => rfl
  | case2 others c => exact attach_attach_of_ne_nil codes front h [c] []
  | case3 others d r ih => exact ih (by simp)
  | case4 others c d r _ _ => exact attach_attach_of_ne_nil codes front h [c] _

variable {m : Machine}

/-- The runs of a machine are those of the blocks, from the codes in front of a text and from the
middle of a piece. -/
theorem runs_eq_blockRuns (hstyles : m.styles = true) {s : Text} (h : IsCoded s) :
    (∀ codes format, m.runs (codes.foldl (Format.after true) format) [] (codedMarks s) =
      blockRuns m.once format (blocksFrom codes s)) ∧
    ∀ codes format pending, pending ≠ [] →
      m.runs (codes.foldl (Format.after true) format) pending (codedMarks s) =
        blockRuns m.once format (attach codes pending (blocksFrom [] s)) := by
  refine IsCoded.induct ?nil ?char ?code h
  case nil =>
    refine ⟨fun codes format => rfl, fun codes format pending hpending => ?_⟩
    show runOf pending _ = _
    rw [runOf, if_neg hpending]
    rfl
  case char =>
    intro c r hc ih
    constructor
    · intro codes format
      rw [runs_codedMarks_char hc, blocksFrom_char codes hc]
      exact ih.2 codes format _ (by simp)
    · intro codes format pending _
      rw [runs_codedMarks_char hc, blocksFrom_char [] hc, attach_attach]
      exact ih.2 codes format _ (by simp)
  case code =>
    intro c r hc ih
    constructor
    · intro codes format
      rw [runs_codedMarks_code hc, m.behind_nil, hstyles, blocksFrom_code, ← ih.1,
        List.foldl_append]
      rfl
    · intro codes format pending hpending
      have hbehind : m.behind pending (codes.foldl (Format.after true) format) =
          if m.once = true then {} else codes.foldl (Format.after true) format := by
        simp [Machine.behind, hpending]
      rw [runs_codedMarks_code hc, runOf, if_neg hpending, hstyles, blocksFrom_code,
        attach_blocksFrom codes pending (by simp), hbehind]
      exact congrArg _ (ih.1 [c] _)

theorem runs_eq_blocks (hstyles : m.styles = true) {s : Text} (h : IsCoded s) :
    m.runs {} [] (codedMarks s) = blockRuns m.once {} (blocks s) :=
  (runs_eq_blockRuns hstyles h).1 [] {}

/-! ## Components whose fields are put in order -/

theorem Carries.perm {component other : Entries} {s : Text} {format : Format}
    (h : Carries component s format) (hperm : component.Perm other) : Carries other s format := by
  have hget := get?_of_perm hperm h.distinct
  refine ⟨(hperm.map Prod.fst).nodup_iff.1 h.distinct, ?_, fun name hname => ?_⟩
  · rw [hget, h.text]
  · rw [hget, h.fields name hname]

/-- Taking out some names in their own order moves entries only. -/
theorem perm_take_names {component : Entries} (h : component.names.Nodup) {first : List Text}
    (hfirst : first.Nodup) :
    (first.filterMap (fun name => (get? name component).map (name, ·)) ++
      component.filter fun entry => !first.contains entry.1).Perm component := by
  have htaken : (first.filterMap fun name => (get? name component).map (name, ·)).Perm
      (component.filter fun entry => first.contains entry.1) := by
    refine (List.perm_ext_iff_of_nodup (hfirst.filterMap ?_) ((List.Nodup.of_map _ h).filter _)).2 ?_
    · intro name other entry hname hother
      obtain ⟨_, -, rfl⟩ := Option.map_eq_some_iff.1 hname
      obtain ⟨_, -, heq⟩ := Option.map_eq_some_iff.1 hother
      exact (congrArg Prod.fst heq).symm
    · rintro ⟨name, tag⟩
      simp only [List.mem_filterMap, List.mem_filter, List.contains_iff_mem,
        Option.map_eq_some_iff, Prod.mk.injEq]
      constructor
      · rintro ⟨name, hname, tag, hget, rfl, rfl⟩
        exact ⟨mem_of_get? hget, hname⟩
      · rintro ⟨hmem, hname⟩
        exact ⟨name, hname, tag, get?_of_mem h hmem, rfl, rfl⟩
  exact (htaken.append_right _).trans (List.filter_append_perm _ _)

theorem Carries.reordered {component : Entries} {s : Text} {format : Format}
    (h : Carries component s format) : Carries (reordered component) s format :=
  h.perm (perm_take_names h.distinct (by decide)).symm

/-! ## Names -/

theorem nameMachine_plain : nameMachine.Plain := ⟨.inl rfl, .inl rfl⟩

/-- The tag of a name gives out the runs of its codes. -/
theorem givesOut_nameTag {s : Text} (h : IsCoded s) :
    ∃ tag, nameTag s = .ok tag ∧ Json.Numberless tag ∧
      GivesOut (componentsOf tag) (nameMachine.runs {} [] (codedMarks s)) := by
  unfold nameTag
  by_cases hsign : sign ∈ s
  · have hstyled : isStyled s = true := List.contains_iff_mem.2 hsign
    obtain ⟨last, htracks⟩ := tracks_run nameMachine_plain (codedMarks s)
    obtain ⟨empties, hempty, hclosing⟩ := htracks.closing
    have hcomponents : nameComponents s = .ok ((nameMachine.closing
        (nameMachine.run (codedMarks s))).map fun component => reordered (settled component)) := by
      unfold nameComponents
      rw [marks_eq h]
      rfl
    have hcarries : List.Forall₂ (fun component run => Carries component run.1 run.2)
        ((nameMachine.closing (nameMachine.run (codedMarks s))).map fun component =>
          reordered (settled component))
        (nameMachine.runs {} [] (codedMarks s) ++ empties) :=
      List.forall₂_map_left_iff.2 (hclosing.imp fun _ _ hcarries => hcarries.reordered)
    rw [hstyled, hcomponents]
    refine ⟨_, rfl, .list fun tag hmem => ?_, ?_⟩
    · obtain ⟨component, hcomponent, rfl⟩ := List.mem_map.1 hmem
      exact numberless_of_carries hcarries component hcomponent
    · rw [componentsOf_list]
      exact givesOut_of_carries empties hempty hcarries
  · have hplain : isStyled s = false := by simpa [isStyled] using hsign
    rw [hplain]
    exact ⟨_, rfl, (carries_plainComponent s).numberless, givesOut_plainComponent hsign⟩

/-! ## Components that show text -/

/-- The components that are not empty. -/
def solid (components : List Entries) : List Entries :=
  components.filter fun component => textOf component ≠ []

theorem runs_nonempty (hm : m.Plain) (steps : List Mark) :
    ∀ run ∈ m.runs {} [] steps, run.1 ≠ [] := by
  obtain ⟨last, htracks⟩ := tracks_run hm steps
  exact htracks.nonempty

/-- The components that are not empty carry the runs. -/
theorem GivesOut.solid {components : List Entries} {runs : List (Text × Format)}
    (h : GivesOut components runs) (hruns : ∀ run ∈ runs, run.1 ≠ []) :
    List.Forall₂ (fun component run => Carries component run.1 run.2) (solid components) runs := by
  obtain ⟨empties, hempty, hshows⟩ := h
  have hfilter : (runs ++ empties).filter (fun run => run.1 ≠ []) = runs := by
    rw [List.filter_append, List.filter_eq_self.2 (by simpa using hruns),
      List.filter_eq_nil_iff.2 (by simpa using hempty), List.append_nil]
  have hsolid := List.rel_filter (p := fun component => textOf component ≠ [])
    (q := fun run : Text × Format => run.1 ≠ []) (by
      rintro component run ⟨htext, -⟩
      simp [htext]) hshows
  rw [hfilter] at hsolid
  have hnonempty : ∀ component ∈ Style.solid components, textOf component ≠ [] := by
    simp [Style.solid]
  refine ((List.forall₂_and_left _ _).2 ⟨hnonempty, hsolid⟩).imp ?_
  rintro component run ⟨hne, htext, hcarries⟩
  exact hcarries (htext ▸ hne)

/-! ## Agreement -/

/-- A formatting is known by its fields. -/
theorem Format.eq_of_value? {format other : Format}
    (h : ∀ name : Text, name ≠ "text" → format.value? name = other.value? name) :
    format = other := by
  have hflag : ∀ {a b : Bool}, flag a = flag b → a = b := by
    intro a b
    cases a <;> cases b <;> simp [flag]
  have hcolor : format.color.map Tag.text = other.color.map Tag.text :=
    h "color" (by decide +kernel)
  have hbold : flag format.bold = flag other.bold := h "bold" (by decide +kernel)
  have hstrike : flag format.strikethrough = flag other.strikethrough :=
    h "strikethrough" (by decide +kernel)
  have hunder : flag format.underline = flag other.underline := h "underline" (by decide +kernel)
  have hitalic : some (Tag.bool format.italic) = some (Tag.bool other.italic) :=
    h "italic" (by decide +kernel)
  have hinj : Function.Injective Tag.text := fun _ _ => Tag.text.inj
  obtain ⟨color, bold, strike, under, italic⟩ := format
  obtain ⟨color', bold', strike', under', italic'⟩ := other
  obtain rfl : color = color' := Option.map_injective hinj hcolor
  obtain rfl := hflag hbold
  obtain rfl := hflag hstrike
  obtain rfl := hflag hunder
  obtain rfl := Tag.bool.inj (Option.some.inj hitalic)
  rfl

theorem Carries.perm_iff {component other : Entries} {s t : Text} {format format' : Format}
    (h : Carries component s format) (h' : Carries other t format') :
    component.Perm other ↔ (s, format) = (t, format') := by
  constructor
  · intro hperm
    have hmoved := h.perm hperm
    have htext : s = t := Tag.text.inj (Option.some.inj (hmoved.text.symm.trans h'.text))
    have hformat : format = format' := Format.eq_of_value? fun name hname => by
      rw [← hmoved.fields name hname, h'.fields name hname]
    rw [htext, hformat]
  · intro heq
    obtain ⟨rfl, rfl⟩ := Prod.mk.inj heq
    refine perm_of_get? h.distinct h'.distinct fun name => ?_
    by_cases hname : name = "text"
    · rw [hname, h.text, h'.text]
    · rw [h.fields name hname, h'.fields name hname]

/-- Components agree, whatever the order of their fields, exactly if their runs are the same. -/
theorem forall₂_perm_iff {components others : List Entries} {runs runs' : List (Text × Format)}
    (h : List.Forall₂ (fun component run => Carries component run.1 run.2) components runs)
    (h' : List.Forall₂ (fun component run => Carries component run.1 run.2) others runs') :
    List.Forall₂ List.Perm components others ↔ runs = runs' := by
  induction h generalizing others runs' with
  | nil =>
    rw [List.forall₂_nil_left_iff]
    cases h' <;> simp
  | cons hrun _ ih =>
    cases h' with
    | nil => simp
    | cons hrun' hrest' =>
      rw [List.forall₂_cons, ih hrest', hrun.perm_iff hrun', List.cons.injEq]

/-- A code that ends all formatting in front of it. -/
def endsFormat (code : Char) : Bool := (color? code).isSome || code == 'r'

/-- Behind these codes a formatting makes no difference: one of them ends it, or else it has no
colour and only styles that they set again. -/
def Renewed (format : Format) (codes : List Char) : Prop :=
  (∃ code ∈ codes, endsFormat code = true) ∨
    format.color = none ∧ (format.bold = true → 'l' ∈ codes) ∧
      (format.strikethrough = true → 'm' ∈ codes) ∧ (format.underline = true → 'n' ∈ codes) ∧
      (format.italic = true → 'o' ∈ codes)

theorem Format.after_of_ends {code : Char} (h : endsFormat code = true) (format other : Format) :
    format.after true code = other.after true code := by
  unfold Format.after
  cases hcolor : color? code with
  | some color => rfl
  | none =>
    rw [endsFormat, hcolor] at h
    obtain rfl : code = 'r' := by simpa using h
    rfl

theorem Format.after_of_not_ends {code : Char} (h : endsFormat code = false) (format : Format) :
    format.after true code =
      ⟨format.color, format.bold || decide ('l' = code),
        format.strikethrough || decide ('m' = code), format.underline || decide ('n' = code),
        format.italic || decide ('o' = code)⟩ := by
  rw [endsFormat, Bool.or_eq_false_iff, Option.isSome_eq_false_iff, Option.isNone_iff_eq_none] at h
  unfold Format.after
  rw [h.1]
  dsimp only
  split
  case h_6 _ ho hl hm hn => simp [Ne.symm ho, Ne.symm hl, Ne.symm hm, Ne.symm hn]
  all_goals simp_all

theorem Format.foldl_after_of_not_ends {codes : List Char}
    (h : ∀ code ∈ codes, endsFormat code = false) (format : Format) :
    codes.foldl (Format.after true) format =
      ⟨format.color, format.bold || decide ('l' ∈ codes),
        format.strikethrough || decide ('m' ∈ codes), format.underline || decide ('n' ∈ codes),
        format.italic || decide ('o' ∈ codes)⟩ := by
  induction codes generalizing format with
  | nil => simp
  | cons code rest ih =>
    obtain ⟨hcode, hrest⟩ := List.forall_mem_cons.1 h
    rw [List.foldl_cons, ih hrest, Format.after_of_not_ends hcode]
    simp [Bool.or_assoc]

/-- Codes give the same behind a formatting and behind none exactly if they renew it. -/
theorem Format.foldl_after_eq_iff (format : Format) (codes : List Char) :
    codes.foldl (Format.after true) format = codes.foldl (Format.after true) {} ↔
      Renewed format codes := by
  by_cases hends : ∃ code ∈ codes, endsFormat code = true
  · refine iff_of_true ?_ (.inl hends)
    obtain ⟨code, hmem, hcode⟩ := hends
    obtain ⟨front, rest, rfl⟩ := List.append_of_mem hmem
    rw [List.foldl_append, List.foldl_append, List.foldl_cons, List.foldl_cons,
      Format.after_of_ends hcode]
  · have hnot : ∀ code ∈ codes, endsFormat code = false := by simpa using hends
    rw [Format.foldl_after_of_not_ends hnot, Format.foldl_after_of_not_ends hnot]
    simp [Renewed, hends]

theorem blockRuns_eq_iff (format : Format) (blocks : List (List Char × Text)) :
    blockRuns false format blocks = blockRuns true {} blocks ↔
      ∀ front codes s back, blocks = front ++ (codes, s) :: back →
        Renewed ((front.flatMap Prod.fst).foldl (Format.after true) format) codes := by
  induction blocks generalizing format with
  | nil => simp [blockRuns]
  | cons block rest ih =>
    simp only [blockRuns, List.cons.injEq, Prod.mk.injEq, true_and, if_true, if_false,
      Bool.false_eq_true, Format.foldl_after_eq_iff, ih]
    constructor
    · rintro ⟨hfirst, hrest⟩ front codes s back heq
      rcases List.cons_eq_append_iff.1 heq with ⟨rfl, hblock⟩ | ⟨front, rfl, hback⟩
      · rw [(List.cons.inj hblock).1.symm] at hfirst
        exact hfirst
      · rw [List.flatMap_cons, List.foldl_append]
        exact hrest front codes s back hback
    · intro h
      refine ⟨h [] block.1 block.2 rest rfl, fun front codes s back heq => ?_⟩
      have hfront := h (block :: front) codes s back (by rw [heq, List.cons_append])
      rwa [List.flatMap_cons, List.foldl_append] at hfront

/-- Where every section sign makes a code, a message and a name have a component for each piece of
text. In a message it has the formatting of all codes so far, in a name that of the codes since the
piece before. So they agree, whatever the order of the fields and but for empty components, exactly
if no formatting is in force behind a piece that the codes behind it do not end or set again. -/
theorem name_agrees_with_message_iff {s : Text} (h : IsCoded s) :
    ∃ message told name named,
      messageJson s = .ok message ∧ Json.read? message = some told ∧
      nameJson s = .ok name ∧ Json.read? name = some named ∧
      List.Forall₂ (fun component run => Carries component run.1 run.2)
        (solid (componentsOf told)) (blockRuns false {} (blocks s)) ∧
      List.Forall₂ (fun component run => Carries component run.1 run.2)
        (solid (componentsOf named)) (blockRuns true {} (blocks s)) ∧
      (List.Forall₂ List.Perm (solid (componentsOf told)) (solid (componentsOf named)) ↔
        ∀ front codes t back, blocks s = front ++ (codes, t) :: back →
          Renewed ((front.flatMap Prod.fst).foldl (Format.after true) {}) codes) := by
  obtain ⟨told, htold, htoldFree, htoldRuns⟩ := givesOut_messageTag h
  obtain ⟨named, hnamed, hnamedFree, hnamedRuns⟩ := givesOut_nameTag h
  have hmessage := htoldRuns.solid (runs_nonempty messageMachine_plain _)
  have hname := hnamedRuns.solid (runs_nonempty nameMachine_plain _)
  rw [runs_eq_blocks rfl h] at hmessage hname
  refine ⟨told.toJson, told, named.toJson, named, ?_, Json.read?_toJson htoldFree, ?_,
    Json.read?_toJson hnamedFree, hmessage, hname, ?_⟩
  · rw [messageJson, htold]
    rfl
  · rw [nameJson, hnamed]
    rfl
  · rw [forall₂_perm_iff hmessage hname]
    exact blockRuns_eq_iff {} (blocks s)

/-- The colour of the first piece is in force behind it in a message, and not in a name. -/
theorem name_agrees_with_message_iff_bold :
    IsCoded "§aHi§lBye" ∧
    blocks "§aHi§lBye" = [(['a'], "Hi".toList), (['l'], "Bye".toList)] ∧
    ¬ Renewed (['a'].foldl (Format.after true) {}) ['l'] ∧
    ∃ message told name named,
      messageJson "§aHi§lBye" = .ok message ∧ Json.read? message = some told ∧
      nameJson "§aHi§lBye" = .ok name ∧ Json.read? name = some named ∧
      List.Forall₂ (fun component run => Carries component run.1 run.2)
        (solid (componentsOf told)) (blockRuns false {} (blocks "§aHi§lBye")) ∧
      List.Forall₂ (fun component run => Carries component run.1 run.2)
        (solid (componentsOf named)) (blockRuns true {} (blocks "§aHi§lBye")) ∧
      (List.Forall₂ List.Perm (solid (componentsOf told)) (solid (componentsOf named)) ↔
        ∀ front codes t back, blocks "§aHi§lBye" = front ++ (codes, t) :: back →
          Renewed ((front.flatMap Prod.fst).foldl (Format.after true) {}) codes) := by
  have h : IsCoded "§aHi§lBye" := by decide +kernel
  refine ⟨h, by decide +kernel, ?_, name_agrees_with_message_iff h⟩
  rw [← Format.foldl_after_eq_iff]
  decide +kernel

end CommandUpgrade.Style
