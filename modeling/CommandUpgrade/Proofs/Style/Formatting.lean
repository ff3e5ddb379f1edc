import CommandUpgrade.Proofs.Json.RoundTrip
import CommandUpgrade.Proofs.Outcome
import CommandUpgrade.Proofs.Tag.Entries
import CommandUpgrade.Style.Component

/-!
# Components follow the formatting codes

`visible` walks a text once and gives each character that is no part of a code the formatting in
force there. The components of messages and of lines are runs of these characters: strung together
their texts are the text without its codes, and a component that is not empty has the formatting
of its characters and no other field (`components_follow_codes`).

A `Machine` collects a run until the next code. `Tracks` relates what it holds to the runs so far;
one step keeps it (`Tracks.words`, `Tracks.code`), so a whole text does (`Tracks.run`).
-/

namespace CommandUpgrade.Style

open Entries

/-! ## The formatting of a text -/

/-- The formatting in force at a character. -/
structure Format where
  color : Option Text := none
  bold : Bool := false
  strikethrough : Bool := false
  underline : Bool := false
  italic : Bool := false
  deriving DecidableEq

namespace Format

/-- The formatting after a code. A colour ends every style and a reset also the colour; bold,
strikethrough and underline count only where `styles` are kept. -/
def after (styles : Bool) (format : Format) (code : Char) : Format :=
  match color? code with
  | some color => { color := some color }
  | none =>
    match code with
    | 'r' => {}
    | 'o' => { format with italic := true }
    | 'l' => { format with bold := styles || format.bold }
    | 'm' => { format with strikethrough := styles || format.strikethrough }
    | 'n' => { format with underline := styles || format.underline }
    | _ => format

/-- The field of a style: there is none where the style is off. -/
def flag (on : Bool) : Option Tag := if on then some (.bool true) else none

/-- The fields of a formatting. Only `italic` is there in any case. -/
def value? (format : Format) (name : Text) : Option Tag :=
  if name = "color" then format.color.map .text
  else if name = "bold" then flag format.bold
  else if name = "strikethrough" then flag format.strikethrough
  else if name = "underline" then flag format.underline
  else if name = "italic" then some (.bool format.italic)
  else none

end Format

/-- The characters of a text behind a formatting that are no part of a code, each with the
formatting in force. -/
def visibleFrom (styles : Bool) (format : Format) : Text → List (Char × Format)
  | [] => []
  | [c] => [(c, format)]
  | c :: d :: r =>
    if c = sign then visibleFrom styles (format.after styles d) r
    else (c, format) :: visibleFrom styles format (d :: r)

/-- The characters of a text that are no part of a code, each with the formatting in force. -/
def visible (styles : Bool) (s : Text) : List (Char × Format) := visibleFrom styles {} s

/-- Every section sign is followed by a code. -/
def IsCoded (s : Text) : Prop :=
  ∀ front rest, s = front ++ sign :: rest → ∃ code r, rest = code :: r ∧ isCode code = true

theorem isCoded_iff (s : Text) :
    IsCoded s ↔ ∀ tail ∈ s.tails, tail.head? = some sign → tail.tail.head?.any isCode = true := by
  constructor
  · intro h tail hmem hhead
    obtain ⟨front, rfl⟩ := (List.mem_tails _ _).1 hmem
    obtain ⟨rest, rfl⟩ : ∃ rest, tail = sign :: rest := List.head?_eq_some_iff.1 hhead
    obtain ⟨code, r, rfl, hcode⟩ := h front rest rfl
    exact hcode
  · rintro h front rest rfl
    have hany := h (sign :: rest) ((List.mem_tails _ _).2 ⟨front, rfl⟩) rfl
    cases rest with
    | nil => cases hany
    | cons code r => exact ⟨code, r, rfl, hany⟩

instance (s : Text) : Decidable (IsCoded s) := decidable_of_iff _ (isCoded_iff s).symm

/-! ## What a component says -/

/-- The text of a component. -/
def textOf (component : Entries) : Text :=
  match get? "text" component with
  | some (.text s) => s
  | _ => []

/-- The component has this text, the fields of this formatting and no other, and no field twice. -/
structure Carries (component : Entries) (s : Text) (format : Format) : Prop where
  distinct : component.names.Nodup
  text : get? "text" component = some (.text s)
  fields : ∀ name : Text, name ≠ "text" → get? name component = format.value? name

/-- The components are runs of the visible characters of a text, each in one formatting. An empty
component says nothing of its formatting. -/
def AreRuns (styles : Bool) (components : List Entries) (s : Text) : Prop :=
  ∃ runs : List (Text × Format),
    List.Forall₂ (fun component run =>
      textOf component = run.1 ∧ (run.1 ≠ [] → Carries component run.1 run.2)) components runs ∧
    runs.flatMap (fun run => run.1.map (·, run.2)) = visible styles s

theorem Carries.textOf {component : Entries} {s : Text} {format : Format}
    (h : Carries component s format) : textOf component = s := by
  unfold Style.textOf
  rw [h.text]

/-! ## Codes and fields -/

/-- The machine's fields say this formatting. An upright text may have no `italic`. -/
structure Renders (entries : Entries) (format : Format) : Prop where
  distinct : entries.names.Nodup
  fields : ∀ name : Text, name ≠ "italic" → get? name entries = format.value? name
  italic : get? "italic" entries = some (.bool format.italic) ∨
    get? "italic" entries = none ∧ format.italic = false

theorem Renders.noText {entries : Entries} {format : Format} (h : Renders entries format) :
    get? "text" entries = none := h.fields "text" (by decide +kernel)

/-- Setting a style is right where the formatting differs in that style only. -/
theorem Renders.set {entries : Entries} {format next : Format} {style : Text}
    (h : Renders entries format) (hstyle : next.value? style = some (.bool true))
    (hother : ∀ name, name ≠ style → next.value? name = format.value? name) :
    Renders (entries.set style (.bool true)) next := by
  refine ⟨nodup_names_set h.distinct _ _, fun name hname => ?_, ?_⟩
  · by_cases heq : name = style
    · rw [heq, get?_set_self, hstyle]
    · rw [get?_set_of_ne heq, hother name heq, h.fields name hname]
  · have hitalic : next.value? "italic" = some (.bool next.italic) := rfl
    by_cases heq : ("italic" : Text) = style
    · rw [heq, hstyle] at hitalic
      rw [← hitalic, heq, get?_set_self]
      exact .inl rfl
    · rw [hother _ heq] at hitalic
      have hsame : format.italic = next.italic := Tag.bool.inj (Option.some.inj hitalic)
      rw [← hsame, get?_set_of_ne heq]
      exact h.italic

/-- A machine whose formatting is empty or upright in front of a text and behind a reset. -/
structure Machine.Plain (m : Machine) : Prop where
  start : m.start = [] ∨ m.start = [upright]
  base : m.base = [] ∨ m.base = [upright]

theorem renders_base {entries : Entries} (h : entries = [] ∨ entries = [upright]) :
    Renders entries {} := by
  have hnone : ∀ name : Text, name ≠ "italic" → Format.value? {} name = none := by
    intro name hname
    unfold Format.value?
    rw [if_neg (c := name = "italic") hname]
    simp only [Format.flag, Bool.false_eq_true, if_false, Option.map_none, ite_self]
  rcases h with rfl | rfl
  · exact ⟨List.nodup_nil, fun name hname => (hnone name hname).symm, .inr ⟨rfl, rfl⟩⟩
  · refine ⟨List.nodup_singleton _, fun name hname => ?_, .inl rfl⟩
    rw [hnone name hname]
    exact get?_eq_none fun hmem => hname (List.mem_singleton.1 hmem)

theorem renders_color {entries : Entries} (h : entries = [] ∨ entries = [upright]) (color : Text) :
    Renders (field "color" (.text color) :: entries) { color := some color } := by
  have hbase := renders_base h
  refine ⟨List.nodup_cons.2 ⟨?_, hbase.distinct⟩, fun name hname => ?_, hbase.italic⟩
  · exact notMem_names (hbase.fields "color" (by decide +kernel))
  · rw [field, get?_cons]
    split
    case isTrue heq => rw [heq]; rfl
    case isFalse hcolor =>
      rw [hbase.fields name hname]
      unfold Format.value?
      rw [if_neg hcolor, if_neg hcolor]

variable {m : Machine}

/-- What a code does to the fields of a machine is what it does to the formatting. -/
theorem Renders.apply (hm : m.Plain) {entries : Entries} {format : Format}
    (h : Renders entries format) (code : Char) :
    Renders (m.apply entries code) (format.after m.styles code) := by
  unfold Machine.apply Format.after
  cases color? code with
  | some color => exact renders_color hm.base color
  | none =>
    dsimp only
    by_cases hr : code = 'r'
    · subst hr
      exact renders_base hm.base
    by_cases ho : code = 'o'
    · subst ho
      exact h.set rfl fun name hname => by simp only [Format.value?, if_neg hname]
    -- The other styles count in messages only.
    rw [if_neg (by simpa using hr), beq_eq_false_iff_ne.2 ho, Bool.false_or]
    by_cases hl : code = 'l'
    · subst hl
      cases m.styles with
      | true => exact h.set rfl fun name hname => by simp only [Format.value?, if_neg hname]
      | false => exact h
    by_cases hstrike : code = 'm'
    · subst hstrike
      cases m.styles with
      | true => exact h.set rfl fun name hname => by simp only [Format.value?, if_neg hname]
      | false => exact h
    by_cases hn : code = 'n'
    · subst hn
      cases m.styles with
      | true => exact h.set rfl fun name hname => by simp only [Format.value?, if_neg hname]
      | false => exact h
    have hnone : style? code = none := by
      unfold style?
      split
      case h_1 => exact absurd rfl hl
      case h_2 => exact absurd rfl hstrike
      case h_3 => exact absurd rfl hn
      case h_4 => exact absurd rfl ho
      case h_5 => rfl
    rw [hnone]
    dsimp only
    split
    case h_1 => exact absurd rfl hr
    case h_2 => exact absurd rfl ho
    case h_3 => exact absurd rfl hl
    case h_4 => exact absurd rfl hstrike
    case h_5 => exact absurd rfl hn
    case h_6 => exact h

/-! ## From fields to components -/

theorem Renders.component {entries : Entries} {format : Format} (h : Renders entries format)
    (s : Text) :
    (m.component entries s).names.Nodup ∧ ∀ name : Text, get? name (m.component entries s) =
      if name = "text" then some (.text s) else get? name entries := by
  have htext : ("text" : Text) ∉ entries.names := notMem_names h.noText
  unfold Machine.component
  split
  case isTrue =>
    exact ⟨List.nodup_cons.2 ⟨htext, h.distinct⟩, fun name => get?_cons name _ _ _⟩
  case isFalse =>
    constructor
    · rw [names, List.map_append]
      exact h.distinct.append (List.nodup_singleton _)
        (List.disjoint_singleton.2 htext)
    · intro name
      rw [words, field, get?_append_singleton]
      by_cases heq : name = "text"
      · rw [if_pos heq, if_pos heq, heq, h.noText, Option.none_or]
      · rw [if_neg heq, if_neg heq, Option.or_none]

/-- With its `italic` written out, a component says its text and its formatting. -/
theorem Renders.carries {entries : Entries} {format : Format} (h : Renders entries format)
    (s : Text) : Carries (settled (m.component entries s)) s format := by
  obtain ⟨hdistinct, hget⟩ := h.component (m := m) s
  have hne : ("italic" : Text) ≠ "text" := by decide +kernel
  unfold settled Entries.has
  rw [hget "italic", if_neg hne]
  rcases h.italic with hitalic | ⟨hitalic, hupright⟩
  · rw [hitalic, Option.isSome_some, if_pos rfl]
    refine ⟨hdistinct, by rw [hget, if_pos rfl], fun name hname => ?_⟩
    rw [hget, if_neg hname]
    by_cases heq : name = "italic"
    · rw [heq, hitalic]
      rfl
    · exact h.fields name heq
  · rw [hitalic, Option.isSome_none, if_neg Bool.false_ne_true]
    have hnone : get? "italic" (m.component entries s) = none := by
      rw [hget, if_neg hne, hitalic]
    refine ⟨?_, ?_, fun name hname => ?_⟩
    · rw [names, List.map_append]
      exact hdistinct.append (List.nodup_singleton _)
        (List.disjoint_singleton.2 (notMem_names hnone))
    · rw [upright, field, get?_append_singleton, hget, if_pos rfl, Option.some_or]
    · rw [upright, field, get?_append_singleton, hget, if_neg hname]
      by_cases heq : name = "italic"
      · rw [heq, hitalic, Option.none_or, if_pos rfl, ← hupright]
        rfl
      · rw [if_neg heq, Option.or_none, h.fields name heq]

/-! ## Runs of a machine -/

/-- The components that a machine has given out are these runs, none of them empty, and its fields
are those of this formatting. -/
structure Tracks (state : Machine.State) (runs : List (Text × Format)) (format : Format) : Prop where
  done : List.Forall₂ (fun component run => Carries (settled component) run.1 run.2) state.done runs
  nonempty : ∀ run ∈ runs, run.1 ≠ []
  format : Renders state.format format

/-- The run of a text in a formatting, none for an empty text. -/
def runOf (s : Text) (format : Format) : List (Text × Format) :=
  if s = [] then [] else [(s, format)]

/-- The formatting behind a text. Where it is used once it ends there. -/
def Machine.behind (m : Machine) (s : Text) (format : Format) : Format :=
  if s ≠ [] ∧ m.once = true then {} else format

theorem Machine.behind_nil (m : Machine) (format : Format) : m.behind [] format = format := by
  simp [Machine.behind]

theorem Machine.behind_of_lasts (hlasts : m.once = false) (s : Text) (format : Format) :
    m.behind s format = format := by
  simp [Machine.behind, hlasts]

/-- The runs of the steps of a text, from a machine in this formatting with this text pending. -/
def Machine.runs (m : Machine) (format : Format) (pending : Text) :
    List Mark → List (Text × Format)
  | [] => runOf pending format
  | .code code :: rest =>
    runOf pending format ++ m.runs ((m.behind pending format).after m.styles code) [] rest
  | .words s :: rest => m.runs format (pending ++ s) rest

theorem Tracks.flush (m : Machine) {state : Machine.State} {runs : List (Text × Format)}
    {format : Format} (h : Tracks state runs format) :
    Tracks (m.flush state) (runs ++ runOf state.pending format)
      (m.behind state.pending format) := by
  unfold Machine.flush runOf
  by_cases hpending : state.pending = []
  · rw [hpending, List.isEmpty_nil, if_pos rfl, if_pos rfl, List.append_nil, m.behind_nil]
    exact h
  · rw [if_neg (by simpa using hpending), if_neg hpending]
    refine ⟨?_, ?_, ?_⟩
    · exact List.rel_append h.done (.cons (h.format.carries _) .nil)
    · intro run hrun
      rcases List.mem_append.1 hrun with hrun | hrun
      · exact h.nonempty run hrun
      · rw [List.mem_singleton.1 hrun]
        exact hpending
    · by_cases honce : m.once = true
      · rw [if_pos honce, Machine.behind, if_pos ⟨hpending, honce⟩]
        exact renders_base (.inl rfl)
      · rw [if_neg honce, m.behind_of_lasts (by simpa using honce)]
        exact h.format

theorem Machine.flush_pending (m : Machine) (state : Machine.State) :
    (m.flush state).pending = [] := by
  unfold Machine.flush
  split
  case isTrue h => exact List.isEmpty_iff.1 h
  case isFalse => rfl

/-- A code gives out the text in front of it and changes the formatting. -/
theorem Tracks.code (hm : m.Plain) {state : Machine.State} {runs : List (Text × Format)}
    {format : Format} (h : Tracks state runs format) (code : Char) :
    Tracks (m.step state (.code code)) (runs ++ runOf state.pending format)
      ((m.behind state.pending format).after m.styles code) :=
  ⟨(h.flush m).done, (h.flush m).nonempty, (h.flush m).format.apply hm code⟩

theorem Tracks.words {state : Machine.State} {runs : List (Text × Format)}
    {format : Format} (h : Tracks state runs format) (s : Text) :
    Tracks (m.step state (.words s)) runs format := ⟨h.done, h.nonempty, h.format⟩

/-- All steps, from a machine in the middle of a run. -/
theorem Tracks.run (hm : m.Plain) {state : Machine.State} {runs : List (Text × Format)}
    {format : Format} (h : Tracks state runs format) (steps : List Mark) :
    ∃ last, Tracks (m.flush (steps.foldl m.step state))
      (runs ++ m.runs format state.pending steps) last := by
  induction steps generalizing state runs format with
  | nil => exact ⟨_, h.flush m⟩
  | cons mark rest ih =>
    cases mark with
    | code code =>
      obtain ⟨last, hlast⟩ := ih (h.code hm code)
      have hpending : (m.step state (.code code)).pending = [] := m.flush_pending state
      rw [hpending, List.append_assoc] at hlast
      exact ⟨last, hlast⟩
    | words s => exact ih (h.words s)

/-- The steps of a text make a machine give out their runs. -/
theorem tracks_run (hm : m.Plain) (steps : List Mark) :
    ∃ last, Tracks (m.flush (m.run steps)) (m.runs {} [] steps) last := by
  have hstart : Tracks ⟨[], [], m.start⟩ [] {} :=
    ⟨.nil, fun _ hmem => absurd hmem List.not_mem_nil, renders_base hm.start⟩
  exact hstart.run hm steps

/-! ## Texts in which every section sign makes a code -/

theorem IsCoded.tail {c : Char} {r : Text} (h : IsCoded (c :: r)) : IsCoded r :=
  fun front rest heq => h (c :: front) rest (by rw [heq, List.cons_append])

/-- Such a text is empty, or begins with another character or with a code. -/
@[elab_as_elim]
theorem IsCoded.induct {motive : Text → Prop} (nil : motive [])
    (char : ∀ c r, c ≠ sign → motive r → motive (c :: r))
    (code : ∀ c r, isCode c = true → motive r → motive (sign :: c :: r))
    {s : Text} (h : IsCoded s) : motive s := by
  -- A code takes two characters, so the induction is on the length.
  generalize hn : s.length = n
  induction n using Nat.strong_induction_on generalizing s with
  | _ n ih =>
    subst hn
    cases s with
    | nil => exact nil
    | cons c r =>
      by_cases hc : c = sign
      · subst hc
        obtain ⟨d, r, rfl, hd⟩ := h [] r rfl
        exact code d r hd (ih r.length (by grind) h.tail.tail rfl)
      · exact char c r hc (ih r.length (by grind) h.tail rfl)

theorem divide_char {c : Char} (h : c ≠ sign) (r : Text) :
    divide (c :: r) = (c :: (divide r).1, (divide r).2) := by
  cases r with
  | nil => rfl
  | cons d r => rw [divide, if_neg fun hcode => h hcode.1]

theorem divide_code {c : Char} (h : isCode c = true) (r : Text) :
    divide (sign :: c :: r) = ([], (c, (divide r).1) :: (divide r).2) := by
  rw [divide, if_pos ⟨rfl, h⟩]

theorem visibleFrom_char (styles : Bool) (format : Format) {c : Char} (h : c ≠ sign) (r : Text) :
    visibleFrom styles format (c :: r) = (c, format) :: visibleFrom styles format r := by
  cases r with
  | nil => rfl
  | cons d r => rw [visibleFrom, if_neg h]

theorem visibleFrom_code (styles : Bool) (format : Format) (c : Char) (r : Text) :
    visibleFrom styles format (sign :: c :: r) =
      visibleFrom styles (format.after styles c) r := by
  rw [visibleFrom, if_pos rfl]

/-- No piece between codes has a section sign. -/
theorem IsCoded.pieces {s : Text} (h : IsCoded s) :
    sign ∉ (divide s).1 ∧ ∀ piece ∈ (divide s).2, sign ∉ piece.2 := by
  refine IsCoded.induct ?nil ?char ?code h
  case nil => exact ⟨List.not_mem_nil, fun _ hmem => absurd hmem List.not_mem_nil⟩
  case char =>
    intro c r hc ih
    rw [divide_char hc]
    refine ⟨fun hmem => ?_, ih.2⟩
    rcases List.mem_cons.1 hmem with heq | hmem
    · exact hc heq.symm
    · exact ih.1 hmem
  case code =>
    intro c r hc ih
    rw [divide_code hc]
    refine ⟨List.not_mem_nil, fun piece hmem => ?_⟩
    rcases List.mem_cons.1 hmem with rfl | hmem
    · exact ih.1
    · exact ih.2 piece hmem

/-- The steps of a piece that has no section sign. -/
def stepsOf (piece : Text) : List Mark := if piece = [] then [] else [.words piece]

theorem marksOfPiece_eq {piece : Text} (h : sign ∉ piece) :
    marksOfPiece piece = .ok (stepsOf piece) := by
  cases piece with
  | nil => rfl
  | cons c r =>
    have hc : c ≠ sign := fun heq => h (heq ▸ List.mem_cons_self)
    exact (if_neg hc).trans rfl

/-- The steps of a text in which every section sign makes a code. -/
def codedMarks (s : Text) : List Mark :=
  stepsOf (divide s).1 ++ (divide s).2.flatMap fun piece => .code piece.1 :: stepsOf piece.2

theorem marks_of_pieces {s : Text} {g : Text → List Mark}
    (hfirst : marksOfPiece (divide s).1 = .ok (g (divide s).1))
    (hrest : ∀ piece ∈ (divide s).2, marksOfPiece piece.2 = .ok (g piece.2)) :
    marks s =
      .ok (g (divide s).1 ++ (divide s).2.flatMap fun piece => .code piece.1 :: g piece.2) := by
  unfold marks
  dsimp only
  rw [hfirst, Outcome.mapM_eq_ok (g := fun piece => .code piece.1 :: g piece.2)]
  · rw [List.flatMap]
    rfl
  · intro piece hmem
    rw [hrest piece hmem]
    rfl

theorem marks_eq {s : Text} (h : IsCoded s) : marks s = .ok (codedMarks s) :=
  marks_of_pieces (marksOfPiece_eq h.pieces.1) fun piece hmem =>
    marksOfPiece_eq (h.pieces.2 piece hmem)

/-- The words of a piece join the pending text. -/
theorem runs_stepsOf (format : Format) (pending piece : Text) (rest : List Mark) :
    m.runs format pending (stepsOf piece ++ rest) = m.runs format (pending ++ piece) rest := by
  unfold stepsOf
  split
  case isTrue h => rw [h, List.append_nil, List.nil_append]
  case isFalse => rfl

theorem runs_codedMarks_char {c : Char} (h : c ≠ sign) (r : Text) (format : Format)
    (pending : Text) :
    m.runs format pending (codedMarks (c :: r)) = m.runs format (pending ++ [c]) (codedMarks r) := by
  unfold codedMarks
  rw [divide_char h, runs_stepsOf, runs_stepsOf, List.append_assoc, List.singleton_append]

theorem runs_codedMarks_code {c : Char} (h : isCode c = true) (r : Text) (format : Format)
    (pending : Text) :
    m.runs format pending (codedMarks (sign :: c :: r)) =
      runOf pending format ++
        m.runs ((m.behind pending format).after m.styles c) [] (codedMarks r) := by
  unfold codedMarks
  rw [divide_code h]
  rfl

theorem flatMap_runOf (s : Text) (format : Format) :
    (runOf s format).flatMap (fun run => run.1.map (·, run.2)) = s.map (·, format) := by
  unfold runOf
  split
  case isTrue h => rw [h]; rfl
  case isFalse => exact List.flatMap_singleton _ _

/-- Where the formatting lasts, the runs are those of the visible characters. -/
theorem flatMap_runs (hlasts : m.once = false) {s : Text} (h : IsCoded s) :
    ∀ format pending, (m.runs format pending (codedMarks s)).flatMap
      (fun run => run.1.map (·, run.2)) =
        pending.map (·, format) ++ visibleFrom m.styles format s := by
  refine IsCoded.induct ?nil ?char ?code h
  case nil =>
    intro format pending
    exact (flatMap_runOf pending format).trans (List.append_nil _).symm
  case char =>
    intro c r hc ih format pending
    rw [runs_codedMarks_char hc, ih, visibleFrom_char m.styles format hc, List.map_append,
      List.append_assoc]
    rfl
  case code =>
    intro c r hc ih format pending
    rw [runs_codedMarks_code hc, List.flatMap_append, flatMap_runOf, ih, visibleFrom_code,
      m.behind_of_lasts hlasts]
    rfl

/-! ## Lists of components -/

/-- The components are these runs, and empty ones behind them. -/
def GivesOut (components : List Entries) (runs : List (Text × Format)) : Prop :=
  ∃ empties : List (Text × Format), (∀ run ∈ empties, run.1 = []) ∧
    List.Forall₂ (fun component run =>
      textOf component = run.1 ∧ (run.1 ≠ [] → Carries component run.1 run.2))
      components (runs ++ empties)

/-- Components that have all their fields, the empty ones too. -/
theorem givesOut_of_carries {components : List Entries} {runs : List (Text × Format)}
    (empties : List (Text × Format)) (hempty : ∀ run ∈ empties, run.1 = [])
    (h : List.Forall₂ (fun component run => Carries component run.1 run.2) components
      (runs ++ empties)) : GivesOut components runs :=
  ⟨empties, hempty, h.imp fun _ _ hcarries => ⟨hcarries.textOf, fun _ => hcarries⟩⟩

/-- An empty component alone gives out nothing. -/
theorem givesOut_empty {component : Entries} (h : textOf component = []) :
    GivesOut [component] [] :=
  ⟨[([], {})], by simp, .cons ⟨h, fun hne => absurd rfl hne⟩ .nil⟩

theorem GivesOut.areRuns {styles : Bool} {components : List Entries} {runs : List (Text × Format)}
    {s : Text} (h : GivesOut components runs)
    (hruns : runs.flatMap (fun run => run.1.map (·, run.2)) = visible styles s) :
    AreRuns styles components s := by
  obtain ⟨empties, hempty, hshows⟩ := h
  refine ⟨runs ++ empties, hshows, ?_⟩
  have hnone : empties.flatMap (fun run => run.1.map (·, run.2)) = [] := by
    refine List.flatMap_eq_nil_iff.2 fun run hrun => ?_
    rw [hempty run hrun]
    rfl
  rw [List.flatMap_append, hruns, hnone, List.append_nil]

theorem flatMap_textOf {components : List Entries} {runs : List (Text × Format)}
    (h : List.Forall₂ (fun component run =>
      textOf component = run.1 ∧ (run.1 ≠ [] → Carries component run.1 run.2)) components runs) :
    components.flatMap textOf = runs.flatMap Prod.fst := by
  induction h with
  | nil => rfl
  | cons hrun _ ih => rw [List.flatMap_cons, List.flatMap_cons, ih, hrun.1]

/-- Strung together, the texts are those of the runs. -/
theorem GivesOut.text {components : List Entries} {runs : List (Text × Format)}
    (h : GivesOut components runs) : components.flatMap textOf = runs.flatMap Prod.fst := by
  obtain ⟨empties, hempty, hshows⟩ := h
  rw [flatMap_textOf hshows, List.flatMap_append, List.flatMap_eq_nil_iff.2 hempty,
    List.append_nil]

/-- Strung together, the texts are the visible characters. -/
theorem AreRuns.text {styles : Bool} {components : List Entries} {s : Text}
    (h : AreRuns styles components s) :
    components.flatMap textOf = (visible styles s).map Prod.fst := by
  obtain ⟨runs, hcarries, hruns⟩ := h
  rw [flatMap_textOf hcarries, ← hruns, List.map_flatMap]
  simp [Function.comp_def]

/-- The components of a tag: a compound is one. -/
def componentsOf : Tag → List Entries
  | .compound component => [component]
  | .list items => items.flatMap componentsOfItem
  | _ => []
where
  componentsOfItem : Tag → List Entries
    | .compound component => [component]
    | _ => []

theorem componentsOf_list (components : List Entries) :
    componentsOf (.list (components.map .compound)) = components := by
  rw [componentsOf, List.flatMap_map]
  exact List.flatMap_pure_eq_map _ _ |>.trans (List.map_id _)

theorem value?_numberless {format : Format} {name : Text} {tag : Tag}
    (h : format.value? name = some tag) : Json.Numberless tag := by
  unfold Format.value? Format.flag at h
  split_ifs at h
  · obtain ⟨color, -, rfl⟩ := Option.map_eq_some_iff.1 h
    exact .text color
  all_goals
    obtain rfl := Option.some.inj h
    exact .bool _

theorem Carries.numberless {component : Entries} {s : Text} {format : Format}
    (h : Carries component s format) : Json.Numberless (.compound component) := by
  refine .compound h.distinct fun entry hmem => ?_
  have hget := get?_of_mem h.distinct hmem
  by_cases heq : entry.1 = "text"
  · rw [heq, h.text] at hget
    rw [← Option.some.inj hget]
    exact .text s
  · rw [h.fields _ heq] at hget
    exact value?_numberless hget

theorem numberless_of_carries {components : List Entries} {runs : List (Text × Format)}
    (h : List.Forall₂ (fun component run => Carries component run.1 run.2) components runs) :
    ∀ component ∈ components, Json.Numberless (.compound component) := by
  induction h with
  | nil => exact fun _ hmem => absurd hmem List.not_mem_nil
  | cons hcarries _ ih => exact List.forall_mem_cons.2 ⟨hcarries.numberless, ih⟩

/-! ## Messages and lines -/

theorem messageMachine_plain : messageMachine.Plain := ⟨.inl rfl, .inl rfl⟩

theorem lineMachine_plain : lineMachine.Plain := ⟨.inl rfl, .inr rfl⟩

theorem carries_plainComponent (s : Text) : Carries (plainComponent s) s {} :=
  (renders_base (.inl rfl)).carries (m := messageMachine) s

theorem divide_of_notMem {s : Text} (h : sign ∉ s) : divide s = (s, []) := by
  induction s with
  | nil => rfl
  | cons c r ih =>
    rw [divide_char (List.ne_of_not_mem_cons h).symm, ih (List.not_mem_of_not_mem_cons h)]

/-- A text without codes is one run, whatever the machine. -/
theorem givesOut_plainComponent {s : Text} (h : sign ∉ s) :
    GivesOut [plainComponent s] (m.runs {} [] (codedMarks s)) := by
  have hruns : m.runs {} [] (codedMarks s) = runOf s {} := by
    unfold codedMarks
    rw [divide_of_notMem h, runs_stepsOf]
    rfl
  rw [hruns]
  by_cases hs : s = []
  · rw [runOf, if_pos hs]
    exact givesOut_empty ((carries_plainComponent s).textOf.trans hs)
  · rw [runOf, if_neg hs]
    exact givesOut_of_carries [] (by simp) (.cons (carries_plainComponent s) .nil)

/-- The tag of a message gives out the runs of its codes. -/
theorem givesOut_messageTag {s : Text} (h : IsCoded s) :
    ∃ tag, messageTag s = .ok tag ∧ Json.Numberless tag ∧
      GivesOut (componentsOf tag) (messageMachine.runs {} [] (codedMarks s)) := by
  unfold messageTag
  by_cases hsign : sign ∈ s
  · have hstyled : isStyled s = true := List.contains_iff_mem.2 hsign
    obtain ⟨last, htracks⟩ := tracks_run messageMachine_plain (codedMarks s)
    have hcomponents : messageComponents s =
        .ok ((messageMachine.flush (messageMachine.run (codedMarks s))).done.map settled) := by
      unfold messageComponents
      rw [marks_eq h]
      rfl
    have hcarries : List.Forall₂ (fun component run => Carries component run.1 run.2)
        ((messageMachine.flush (messageMachine.run (codedMarks s))).done.map settled)
        (messageMachine.runs {} [] (codedMarks s)) := List.forall₂_map_left_iff.2 htracks.done
    rw [hstyled, hcomponents]
    generalize (messageMachine.flush (messageMachine.run (codedMarks s))).done.map settled =
      components at hcarries ⊢
    have hnumberless := numberless_of_carries hcarries
    have hgives : GivesOut components (messageMachine.runs {} [] (codedMarks s)) :=
      givesOut_of_carries [] (by simp) (by rwa [List.append_nil])
    cases components with
    | nil =>
      refine ⟨_, rfl, .compound (List.nodup_singleton _) fun entry hmem => ?_, ?_⟩
      · rw [List.mem_singleton.1 hmem]
        exact .text []
      · rw [List.forall₂_nil_left_iff.1 hcarries]
        exact givesOut_empty rfl
    | cons first rest =>
      cases rest with
      | nil => exact ⟨_, rfl, hnumberless first List.mem_cons_self, hgives⟩
      | cons second rest =>
        refine ⟨_, rfl, .list fun tag hmem => ?_, ?_⟩
        · obtain ⟨component, hcomponent, rfl⟩ := List.mem_map.1 hmem
          exact hnumberless component hcomponent
        · rw [componentsOf_list]
          exact hgives
  · have hplain : isStyled s = false := by simpa [isStyled] using hsign
    rw [hplain]
    exact ⟨_, rfl, (carries_plainComponent s).numberless, givesOut_plainComponent hsign⟩

/-- What a machine has given out at the end of a text. Formatting at the end is kept with an empty
text. -/
def Machine.closing (m : Machine) (state : Machine.State) : List Entries :=
  if state.pending.isEmpty then
    if state.done.isEmpty || state.format.isEmpty then state.done
    else state.done ++ [state.format ++ [Style.words []]]
  else (m.flush state).done

/-- At its end a machine has given out its runs, and at most an empty component behind them. -/
theorem Tracks.closing {state : Machine.State} {runs : List (Text × Format)} {format : Format}
    (h : Tracks (m.flush state) runs format) :
    ∃ empties : List (Text × Format), (∀ run ∈ empties, run.1 = []) ∧
      List.Forall₂ (fun component run => Carries (settled component) run.1 run.2)
        (m.closing state) (runs ++ empties) := by
  unfold Machine.closing
  by_cases hpending : state.pending.isEmpty = true
  · have hflush : m.flush state = state := by
      unfold Machine.flush
      rw [if_pos hpending]
    rw [hflush] at h
    rw [if_pos hpending]
    split
    case isTrue => exact ⟨[], by simp, by rw [List.append_nil]; exact h.done⟩
    case isFalse =>
      have hlast := h.format.carries (m := lineMachine) []
      exact ⟨[([], format)], by simp, List.rel_append h.done (.cons hlast .nil)⟩
  · rw [if_neg hpending]
    exact ⟨[], by simp, by rw [List.append_nil]; exact h.done⟩

/-- The components of a line give out the runs of its steps. -/
theorem givesOut_lineComponents {s : Text} {steps : List Mark} (h : marks s = .ok steps) :
    ∃ components, lineComponents s = .ok components ∧
      GivesOut components (lineMachine.runs {} [] steps) := by
  obtain ⟨last, htracks⟩ := tracks_run lineMachine_plain steps
  obtain ⟨empties, hempty, hcarries⟩ := htracks.closing
  have hline : lineComponents s =
      if (lineMachine.closing (lineMachine.run steps)).isEmpty then .ok [plainComponent []]
      else .ok ((lineMachine.closing (lineMachine.run steps)).map settled) := by
    unfold lineComponents
    rw [h]
    rfl
  rw [hline]
  split
  case isTrue hnone =>
    rw [List.isEmpty_iff.1 hnone, List.forall₂_nil_left_iff, List.append_eq_nil_iff] at hcarries
    rw [hcarries.1]
    exact ⟨_, rfl, givesOut_empty rfl⟩
  case isFalse =>
    exact ⟨_, rfl, givesOut_of_carries empties hempty (List.forall₂_map_left_iff.2 hcarries)⟩

/-- The tag of a message holds the runs of its visible characters. -/
theorem exists_messageTag {s : Text} (h : IsCoded s) :
    ∃ tag, messageTag s = .ok tag ∧ Json.Numberless tag ∧ AreRuns true (componentsOf tag) s := by
  obtain ⟨tag, hmessage, hnumberless, hgives⟩ := givesOut_messageTag h
  exact ⟨tag, hmessage, hnumberless, hgives.areRuns (flatMap_runs rfl h {} [])⟩

/-- The components of a line are the runs of its visible characters. -/
theorem exists_lineComponents {s : Text} (h : IsCoded s) :
    ∃ components, lineComponents s = .ok components ∧ AreRuns false components s := by
  obtain ⟨components, hline, hgives⟩ := givesOut_lineComponents (marks_eq h)
  exact ⟨components, hline, hgives.areRuns (flatMap_runs rfl h {} [])⟩

/-- Where every section sign makes a code, the components of a message and those of a line follow
the codes: their texts are the text without the codes, and a component that is not empty has
exactly the fields of the formatting of its characters. -/
theorem components_follow_codes {s : Text} (h : IsCoded s) :
    (∃ json tag, messageJson s = .ok json ∧ Json.read? json = some tag ∧
      (componentsOf tag).flatMap textOf = (visible true s).map Prod.fst ∧
      AreRuns true (componentsOf tag) s) ∧
    ∃ components, lineComponents s = .ok components ∧
      components.flatMap textOf = (visible false s).map Prod.fst ∧ AreRuns false components s := by
  constructor
  · obtain ⟨tag, hmessage, hnumberless, hruns⟩ := exists_messageTag h
    refine ⟨tag.toJson, tag, ?_, Json.read?_toJson hnumberless, hruns.text, hruns⟩
    unfold messageJson
    rw [hmessage]
    rfl
  · obtain ⟨components, hline, hruns⟩ := exists_lineComponents h
    exact ⟨components, hline, hruns.text, hruns⟩

theorem components_follow_codes_warning :
    IsCoded "§c§lHi§r!" ∧
    visible true "§c§lHi§r!" = [('H', { color := some "red", bold := true }),
      ('i', { color := some "red", bold := true }), ('!', {})] ∧
    (∃ json tag, messageJson "§c§lHi§r!" = .ok json ∧ Json.read? json = some tag ∧
      (componentsOf tag).flatMap textOf = (visible true "§c§lHi§r!").map Prod.fst ∧
      AreRuns true (componentsOf tag) "§c§lHi§r!") ∧
    ∃ components, lineComponents "§c§lHi§r!" = .ok components ∧
      components.flatMap textOf = (visible false "§c§lHi§r!").map Prod.fst ∧
      AreRuns false components "§c§lHi§r!" :=
  have h : IsCoded "§c§lHi§r!" := by decide +kernel
  ⟨h, by decide +kernel, components_follow_codes h⟩

end CommandUpgrade.Style
