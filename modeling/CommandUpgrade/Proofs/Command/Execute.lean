import CommandUpgrade.Command.Convert
import CommandUpgrade.Proofs.Command.QuotedTexts
import CommandUpgrade.Proofs.Command.Tokens

/-!
# Commands under execute

A `Layer` is what `execute` puts around a command. The command under it is converted as it is on its
own, and then the quoted texts of the whole are restyled (`convert_text`), so a text that a command
keeps as it is alone may change under `execute`. With any number of layers, the outcome is the
converted command with the new form of the layers around it if and only if no layer comes to stand
around a quoted section sign (`convert_nest`).
-/

namespace CommandUpgrade.Command

open Text

/-! ## Calls -/

theorem convert_eq (tables : Tables) (s : Text) :
    convert tables s =
      (if (Call.ofText s).name = "execute".toList then execute tables (Call.ofText s).args
        else convertPlain tables (Call.ofText s)) >>= restyle := by
  rw [convert]
  dsimp only
  split
  · unfold execute runNested
    cases Execute.front tables (Call.ofText s).args with
    | error e => rfl
    | ok front =>
      simp only [bind, Except.bind]
      split
      · rename_i hnested
        rw [hnested]
      · rename_i nested hnested
        rw [hnested]
        dsimp only
        cases convert tables nested with
        | error e => rfl
        | ok inner => rfl
  · rfl

theorem convert_congr (tables : Tables) {s t : Text} (h : tokens s = tokens t) :
    convert tables s = convert tables t := by
  rw [convert_eq, convert_eq, Call.ofText_congr h]

/-- Without a slash in front, the first token is the name and the others are the arguments. -/
theorem ofText_of_tokens {c : Char} {s name : Text} {args : List Text} (hblank : isBlank c = false)
    (hslash : c ≠ '/') (h : tokens (c :: s) = name :: args) :
    Call.ofText (c :: s) = ⟨lower name, args⟩ := by
  have hbody : Call.body (c :: s) = trim (c :: s) := by
    unfold Call.body
    rw [trim_cons_of_not_isBlank hblank]
    simp [hslash]
  unfold Call.body at hbody
  unfold Call.ofText
  dsimp only at hbody ⊢
  rw [hbody, tokens_trim, h]

/-- The text of a command that `execute` assembled is restyled in its quotes. -/
theorem restyle_execute (s : Text) : restyle ("execute " ++ s) = restyleQuoted ("execute " ++ s) := by
  have hfirst : splitFirst? ' ' ("execute " ++ s : Text) = some ("execute".toList, s) := rfl
  unfold restyle
  split
  · rename_i hstyled
    refine (Unstyled.restyleQuoted_eq_self fun part hpart => ?_).symm
    exact isStyled_of_mem_quotedTexts hpart (by simpa using hstyled)
  · rw [hfirst]
    rfl

/-! ## Layers -/

/-- What stands in front of a command under `execute`: a selector and three coordinates. -/
structure Layer where
  target : Text
  x : Text
  y : Text
  z : Text
  isToken_target : IsToken target
  isToken_x : IsToken x
  isToken_y : IsToken y
  isToken_z : IsToken z

namespace Layer

/-- The command under `execute`. -/
def text (layer : Layer) (s : Text) : Text :=
  words ["execute".toList, layer.target, layer.x, layer.y, layer.z, s]

/-- The new form of the coordinates, with nothing for no displacement. -/
def clause (layer : Layer) : Text :=
  let place := Coordinate.upgradeAll [layer.x, layer.y, layer.z]
  if place.all Execute.isZero then [] else " positioned " ++ words place

/-- The new form of a layer. -/
def front (tables : Tables) (layer : Layer) : Outcome Text := do
  return "execute as " ++ (← selector tables layer.target) ++ " at @s" ++ layer.clause ++ " run "

/-- The new form of a layer in front of what a command became. -/
def around (tables : Tables) (layer : Layer) (inner : Outcome Text) : Outcome Text := do
  return (← layer.front tables) ++ (← inner)

theorem tokens_text (layer : Layer) (s : Text) :
    tokens (layer.text s) =
      "execute".toList :: layer.target :: layer.x :: layer.y :: layer.z :: tokens s := by
  have hexecute : IsToken "execute".toList := by decide
  unfold text words
  rw [join_cons_cons, hexecute.tokens_append, join_cons_cons, layer.isToken_target.tokens_append,
    join_cons_cons, layer.isToken_x.tokens_append, join_cons_cons, layer.isToken_y.tokens_append,
    join_cons_cons, layer.isToken_z.tokens_append]
  rfl

theorem ofText_text (layer : Layer) (s : Text) :
    Call.ofText (layer.text s) =
      ⟨"execute".toList, layer.target :: layer.x :: layer.y :: layer.z :: tokens s⟩ :=
  ofText_of_tokens (by decide) (by decide) (tokens_text layer s)

end Layer

/-- A text that can stand under `execute`: it has a token, and the first one is not `detect`. -/
structure Nestable (s : Text) : Prop where
  filled : tokens s ≠ []
  plain : (tokens s).head? ≠ some "detect".toList

namespace Layer

theorem nestable_text (layer : Layer) (s : Text) : Nestable (layer.text s) := by
  constructor
  · rw [tokens_text]
    exact List.cons_ne_nil _ _
  · rw [tokens_text, List.head?_cons]
    decide

section Arguments

variable (layer : Layer) {s : Text} (hs : Nestable s)

include hs

theorem detects_args :
    Execute.detects (layer.target :: layer.x :: layer.y :: layer.z :: tokens s) = false := by
  unfold Execute.detects
  rw [decide_eq_false_iff_not]
  intro h
  exact hs.plain (by rw [List.head?_eq_getElem?]; exact h)

theorem nested?_args :
    Execute.nested? (layer.target :: layer.x :: layer.y :: layer.z :: tokens s) =
      some (words (tokens s)) := by
  have hlength : 5 ≤ (layer.target :: layer.x :: layer.y :: layer.z :: tokens s).length := by
    have := List.length_pos_iff.2 hs.filled
    simp only [List.length_cons]
    omega
  unfold Execute.nested?
  rw [detects_args layer hs, if_neg Bool.false_ne_true, if_pos hlength]
  rfl

theorem front_args (tables : Tables) :
    Execute.front tables (layer.target :: layer.x :: layer.y :: layer.z :: tokens s) = (do
      return "execute as " ++ (← selector tables layer.target) ++ " at @s" ++ layer.clause) := by
  have hwords : ∀ target : Text,
      words (["execute as".toList, target, "at @s".toList] ++
        if (Coordinate.upgradeAll [layer.x, layer.y, layer.z]).all Execute.isZero then []
        else "positioned".toList :: Coordinate.upgradeAll [layer.x, layer.y, layer.z]) =
      "execute as " ++ target ++ " at @s" ++ layer.clause := by
    intro target
    unfold clause
    dsimp only
    split
    · simp [words, join]
    · simp [words, join, Coordinate.upgradeAll]
  unfold Execute.front
  rw [detects_args layer hs, if_neg Bool.false_ne_true]
  dsimp only
  simp only [hwords]

theorem execute_args (tables : Tables) :
    execute tables (layer.target :: layer.x :: layer.y :: layer.z :: tokens s) =
      layer.around tables (convert tables s) := by
  have hinner : convert tables (words (tokens s)) = convert tables s :=
    convert_congr tables (tokens_words (isLine_tokens s))
  unfold execute runNested around front
  rw [nested?_args layer hs, front_args layer hs]
  dsimp only
  rw [hinner]
  cases selector tables layer.target with
  | error e => rfl
  | ok target =>
    cases convert tables s with
    | error e => rfl
    | ok inner =>
      refine congrArg Except.ok ?_
      simp [words, join]

/-- Under `execute` a command is converted as it is alone, and the whole is restyled in its quotes. -/
theorem convert_text (tables : Tables) :
    convert tables (layer.text s) = layer.around tables (convert tables s) >>= restyleQuoted := by
  have hname : (Call.ofText (layer.text s)).name = "execute".toList := by rw [ofText_text]
  rw [convert_eq, if_pos hname, ofText_text, execute_args layer hs]
  unfold around front
  cases selector tables layer.target with
  | error e => rfl
  | ok target =>
    cases convert tables s with
    | error e => rfl
    | ok inner => exact restyle_execute _

end Arguments

/-! ## Nests -/

/-- A command under layers, the outermost first. -/
def nest (layers : List Layer) (s : Text) : Text := layers.foldr text s

/-- The new forms of layers in front of what a command became. -/
def wrap (tables : Tables) (layers : List Layer) (inner : Outcome Text) : Outcome Text :=
  layers.foldr (around tables) inner

/-- The same, the whole being restyled in its quotes after each layer. -/
def restyledWrap (tables : Tables) (layers : List Layer) (inner : Outcome Text) : Outcome Text :=
  layers.foldr (fun layer inner => layer.around tables inner >>= restyleQuoted) inner

/-- No layer comes to stand around a section sign in quotes. -/
def Quiet (tables : Tables) (inner : Outcome Text) : List Layer → Prop
  | [] => True
  | layer :: rest =>
    Quiet tables inner rest ∧
      ∀ new, wrap tables (layer :: rest) inner = .ok new → Unstyled new

section Wraps

variable {tables : Tables} {layers : List Layer} {inner : Outcome Text}

theorem around_eq_ok {layer : Layer} {new : Text} (h : layer.around tables inner = .ok new) :
    ∃ front text, layer.front tables = .ok front ∧ inner = .ok text ∧ new = front ++ text := by
  unfold around at h
  cases hfront : layer.front tables with
  | error e =>
    rw [hfront] at h
    cases h
  | ok front =>
    cases inner with
    | error e =>
      rw [hfront] at h
      cases h
    | ok text =>
      rw [hfront] at h
      cases h
      exact ⟨front, text, rfl, rfl, rfl⟩

theorem around_eq_error {layer : Layer} {e : Fault} (h : layer.around tables inner = .error e) :
    layer.front tables = .error e ∨ ∃ front, layer.front tables = .ok front ∧ inner = .error e := by
  unfold around at h
  cases hfront : layer.front tables with
  | error e' =>
    rw [hfront] at h
    cases h
    exact Or.inl rfl
  | ok front =>
    cases inner with
    | error e' =>
      rw [hfront] at h
      cases h
      exact Or.inr ⟨front, rfl, rfl⟩
    | ok text =>
      rw [hfront] at h
      cases h

theorem restyledWrap_cons {layer : Layer} {front : Text} (hfront : layer.front tables = .ok front) :
    restyledWrap tables (layer :: layers) inner = (do
      restyleQuoted (front ++ (← restyledWrap tables layers inner))) := by
  show layer.around tables (restyledWrap tables layers inner) >>= restyleQuoted = _
  unfold around
  rw [hfront]
  cases restyledWrap tables layers inner with
  | error e => rfl
  | ok inside => rfl

/-- All selectors are converted before anything is restyled. -/
theorem restyledWrap_eq_error {e : Fault} (h : wrap tables layers inner = .error e) :
    restyledWrap tables layers inner = .error e := by
  induction layers with
  | nil => exact h
  | cons layer rest ih =>
    rcases around_eq_error h with hfront | ⟨front, hfront, hrest⟩
    · show layer.around tables _ >>= restyleQuoted = _
      unfold around
      rw [hfront]
      rfl
    · rw [restyledWrap_cons hfront, ih hrest]
      rfl

/-- Restyling adds quotes, and no later layer takes them away. -/
theorem count_restyledWrap {new restyled : Text} (hnew : wrap tables layers inner = .ok new)
    (h : restyledWrap tables layers inner = .ok restyled) :
    new.count '"' ≤ restyled.count '"' ∧
      (restyled.count '"' ≤ new.count '"' → restyled = new ∧ Quiet tables inner layers) := by
  induction layers generalizing new restyled with
  | nil =>
    obtain rfl : new = restyled := Except.ok.inj (hnew.symm.trans h)
    exact ⟨le_rfl, fun _ => ⟨rfl, trivial⟩⟩
  | cons layer rest ih =>
    obtain ⟨front, text, hfront, hrest, rfl⟩ := around_eq_ok hnew
    rw [restyledWrap_cons hfront] at h
    cases hinside : restyledWrap tables rest inner with
    | error e =>
      rw [hinside] at h
      cases h
    | ok inside =>
      rw [hinside] at h
      have hwhole : restyleQuoted (front ++ inside) = .ok restyled := h
      obtain ⟨hle, hsame⟩ := ih hrest hinside
      obtain ⟨hmore, hunstyled⟩ := count_restyleQuoted hwhole
      rw [List.count_append] at hmore hunstyled
      rw [List.count_append]
      refine ⟨by omega, fun hcount => ?_⟩
      obtain ⟨rfl, hquiet⟩ := hsame (by omega)
      have hstays := hunstyled (by omega)
      rw [hstays.restyleQuoted_eq_self] at hwhole
      refine ⟨(Except.ok.inj hwhole).symm, hquiet, fun new' hnew' => ?_⟩
      obtain rfl := Except.ok.inj (hnew.symm.trans hnew')
      exact hstays

theorem Quiet.restyledWrap_eq {new : Text} (hquiet : Quiet tables inner layers)
    (hnew : wrap tables layers inner = .ok new) : restyledWrap tables layers inner = .ok new := by
  induction layers generalizing new with
  | nil => exact hnew
  | cons layer rest ih =>
    obtain ⟨front, text, hfront, hrest, rfl⟩ := around_eq_ok hnew
    rw [restyledWrap_cons hfront, ih hquiet.1 hrest]
    exact (hquiet.2 _ hnew).restyleQuoted_eq_self

end Wraps

/-- A command under any number of layers is converted as it is alone, and the layers are put in front
of it one by one, the quoted texts of the whole being restyled each time. This adds nothing to the
new forms of the layers if and only if no layer comes to stand around a section sign in quotes. -/
theorem convert_nest (tables : Tables) (layers : List Layer) {s : Text} (hs : Nestable s) :
    convert tables (nest layers s) = restyledWrap tables layers (convert tables s) ∧
    (convert tables (nest layers s) = wrap tables layers (convert tables s) ↔
      ∀ new, wrap tables layers (convert tables s) = .ok new →
        Quiet tables (convert tables s) layers) := by
  have hrun : convert tables (nest layers s) = restyledWrap tables layers (convert tables s) := by
    induction layers with
    | nil => rfl
    | cons layer rest ih =>
      have hrest : Nestable (nest rest s) := by
        cases rest with
        | nil => exact hs
        | cons next others => exact nestable_text next _
      show convert tables (layer.text (nest rest s)) = layer.around tables _ >>= restyleQuoted
      rw [convert_text layer hrest, ih]
      rfl
  refine ⟨hrun, ?_⟩
  rw [hrun]
  constructor
  · intro hsame new hnew
    rw [hnew] at hsame
    exact ((count_restyledWrap hnew hsame).2 le_rfl).2
  · intro hquiet
    cases hwrap : wrap tables layers (convert tables s) with
    | error e => exact restyledWrap_eq_error hwrap
    | ok new => exact (hquiet new hwrap).restyledWrap_eq hwrap

/-- All players, without displacement. -/
def allPlayers : Layer :=
  ⟨"@a".toList, "~".toList, "~".toList, "~".toList, by decide, by decide, by decide, by decide⟩

/-- The data of a summoned entity keeps its section signs, but not under `execute`. -/
theorem convert_nest_summon :
    let tables : Tables := ⟨[], [], [], [], .null, []⟩
    let summon : Text := "summon Zombie ~ ~ ~ \x7bx:\"§cHi\"\x7d"
    nest [allPlayers] summon = "execute @a ~ ~ ~ summon Zombie ~ ~ ~ \x7bx:\"§cHi\"\x7d".toList ∧
    wrap tables [allPlayers] (convert tables summon) =
      .ok "execute as @a at @s run summon minecraft:Zombie ~ ~ ~ \x7bx:\"§cHi\"\x7d" ∧
    convert tables (nest [allPlayers] summon) = .ok ("execute as @a at @s run summon " ++
      "minecraft:Zombie ~ ~ ~ \x7bx:\"\x7b\"text\": \"Hi\", \"color\": \"red\", \"italic\": false\x7d\"\x7d") ∧
    convert tables (nest [allPlayers] summon) ≠ wrap tables [allPlayers] (convert tables summon) := by
  intro tables summon
  have hsummon : convert tables summon =
      .ok "summon minecraft:Zombie ~ ~ ~ \x7bx:\"§cHi\"\x7d" := by
    rw [convert_eq]
    decide +kernel
  have hnestable : Nestable summon := by
    constructor
    · decide +kernel
    · decide +kernel
  have hwrap : wrap tables [allPlayers] (convert tables summon) =
      .ok "execute as @a at @s run summon minecraft:Zombie ~ ~ ~ \x7bx:\"§cHi\"\x7d" := by
    rw [hsummon]
    decide +kernel
  obtain ⟨hrun, hsame⟩ := convert_nest tables [allPlayers] hnestable
  refine ⟨by decide +kernel, hwrap, ?_, fun h => ?_⟩
  · rw [hrun, hsummon]
    decide +kernel
  · have hunstyled := (hsame.1 h _ hwrap).2 _ hwrap
    revert hunstyled
    decide +kernel

end Layer

end CommandUpgrade.Command
