import CommandUpgrade.Command.Block
import CommandUpgrade.Command.Entity
import CommandUpgrade.Proofs.Outcome
import CommandUpgrade.Proofs.Text.Split

/-!
# Arguments that are kept and dropped

Moves, clones and scores renew their first arguments one by one: some as selectors, some as coordinates, and
some stay. How many they renew depends on how many there are (`tpLayout`, `cloneLayout`, `playersLayout`),
and the arguments behind those are dropped. So a command has one word for each argument only where the
layout is as long as the arguments (`Treats`, `arguments_dropped`). A block that is set in a mode loses
its data in the same way.
-/

namespace CommandUpgrade.Command

open Text

/-! ## Layouts -/

/-- How an argument is renewed. -/
inductive Treatment
  | selector
  | coordinate
  | verbatim

namespace Treatment

variable (tables : Tables)

/-- The new form of an argument. -/
def renew : Treatment → Text → Outcome Text
  | selector, s => Command.selector tables s
  | coordinate, s => .ok (Coordinate.upgrade s)
  | verbatim, s => .ok s

/-- The new form of an argument in one of the three ways. -/
def Renewed (old new : Text) : Prop :=
  Command.selector tables old = .ok new ∨ new = Coordinate.upgrade old ∨ new = old

theorem renewed_of_renew {treatment : Treatment} {old new : Text}
    (h : treatment.renew tables old = .ok new) : Renewed tables old new := by
  cases treatment with
  | selector => exact .inl h
  | coordinate => exact .inr (.inl (Except.ok.inj h).symm)
  | verbatim => exact .inr (.inr (Except.ok.inj h).symm)

/-- The new forms of the first arguments, as many as the layout has treatments. -/
def treat (layout : List Treatment) (args : List Text) : Outcome (List Text) :=
  (layout.zip args).mapM fun pair => pair.1.renew tables pair.2

theorem treat_cons (treatment : Treatment) (layout : List Treatment) (arg : Text) (args : List Text) :
    treat tables (treatment :: layout) (arg :: args) = (do
      let new ← treatment.renew tables arg
      let rest ← treat tables layout args
      return new :: rest) := by
  unfold treat
  rw [List.zip_cons_cons, List.mapM_cons]

theorem treat_nil (args : List Text) : treat tables [] args = .ok [] := rfl

theorem treat_selector (layout : List Treatment) (arg : Text) (args : List Text) :
    treat tables (selector :: layout) (arg :: args) = (do
      let new ← Command.selector tables arg
      let rest ← treat tables layout args
      return new :: rest) := treat_cons tables selector layout arg args

theorem treat_verbatim (layout : List Treatment) (arg : Text) (args : List Text) :
    treat tables (verbatim :: layout) (arg :: args) = (arg :: ·) <$> treat tables layout args := by
  rw [treat_cons]
  cases treat tables layout args <;> rfl

theorem treat_coordinates (coordinates : List Text) (layout : List Treatment) (args : List Text) :
    treat tables (List.replicate coordinates.length coordinate ++ layout) (coordinates ++ args) =
      (Coordinate.upgradeAll coordinates ++ ·) <$> treat tables layout args := by
  induction coordinates with
  | nil => exact (id_map _).symm
  | cons arg rest ih =>
    rw [List.length_cons, List.replicate_succ, List.cons_append, List.cons_append, treat_cons, ih]
    cases treat tables layout args <;> rfl

/-- Arguments behind the layout do not matter. -/
theorem treat_take (layout : List Treatment) (args : List Text) :
    treat tables layout (args.take layout.length) = treat tables layout args := by
  unfold treat
  congr 1
  induction layout generalizing args with
  | nil => rfl
  | cons treatment layout ih =>
    cases args with
    | nil => rfl
    | cons arg args => exact congrArg ((treatment, arg) :: ·) (ih args)

theorem forall₂_of_treat {layout : List Treatment} {args outs : List Text}
    (h : treat tables layout args = .ok outs) (hlength : layout.length ≤ args.length) :
    List.Forall₂ (Renewed tables) (args.take layout.length) outs := by
  have hpairs := (Outcome.mapM_eq_ok_iff.1 h).imp fun _ _ => renewed_of_renew tables
  have hargs : (layout.zip args).map Prod.snd = args.take layout.length := by
    rw [List.zip_eq_zip_take_min, Nat.min_eq_left hlength, List.take_length]
    exact List.map_snd_zip (List.length_take_le _ _)
  rw [← hargs]
  exact List.forall₂_map_left_iff.2 hpairs

/-- Only a selector may have no new form. -/
theorem exists_of_treat_error {layout : List Treatment} {args : List Text} {fault : Fault}
    (h : treat tables layout args = .error fault) :
    ∃ arg ∈ args, Command.selector tables arg = .error fault := by
  obtain ⟨⟨treatment, arg⟩, hpair, hfault⟩ := Outcome.exists_of_mapM_eq_error h
  cases treatment with
  | selector => exact ⟨arg, (List.of_mem_zip hpair).2, hfault⟩
  | coordinate | verbatim => cases hfault

end Treatment

/-! ## Commands with one word for each argument -/

section Renewing

variable (tables : Tables)

/-- A command is a name and one word for each argument, in order, the new form of that argument. -/
def Keeps (name : String) (args : List Text) (command : Text) : Prop :=
  ∃ outs, List.Forall₂ (Treatment.Renewed tables) args outs ∧ command = line name outs

/-- Words without blanks cannot be read as more words. -/
theorem length_le_of_line_eq {name : String} {outs words : List Text} (hne : outs ≠ [])
    (hblank : ∀ out ∈ outs, ' ' ∉ out) (h : line name outs = line name words) :
    words.length ≤ outs.length := by
  cases words with
  | nil => exact Nat.zero_le _
  | cons word rest =>
    obtain ⟨out, others, rfl⟩ := List.exists_cons_of_ne_nil hne
    have hjoin : join [' '] (out :: others) = join [' '] (word :: rest) := by
      unfold line Text.words at h
      rw [join_cons_cons, join_cons_cons] at h
      exact (List.cons.inj (List.append_cancel_left h)).2
    have hsplit := congrArg (split ' ') hjoin
    rw [split_join hne hblank, split_join_eq_flatMap (List.cons_ne_nil _ _)] at hsplit
    rw [hsplit, List.length_flatMap]
    calc (word :: rest).length = ((word :: rest).map fun _ => 1).sum := by simp [Nat.add_comm]
      _ ≤ ((word :: rest).map fun word => (split ' ' word).length).sum :=
        List.sum_le_sum fun word _ => List.length_pos_iff.2 (split_ne_nil ' ' word)

/-- A command renews its first `count` arguments and drops the others: what they are does not matter.
It has one word for each argument if there are no others, and if its words have no blanks, only then. -/
structure RenewsFirst (run : List Text → Outcome Text) (name : String) (count : Nat)
    (args : List Text) : Prop where
  le : count ≤ args.length
  outcome : (∃ outs, List.Forall₂ (Treatment.Renewed tables) (args.take count) outs ∧
      run args = .ok (line name outs)) ∨
    ∃ fault, run args = .error fault ∧ ∃ arg ∈ args.take count, selector tables arg = .error fault
  dropped : ∀ others : List Text, others.length = args.length →
    others.take count = args.take count → run others = run args
  kept : count = args.length → ∀ command, run args = .ok command → Keeps tables name args command
  kept_only : ∀ outs : List Text, run args = .ok (line name outs) → outs.length = count →
    (∀ out ∈ outs, ' ' ∉ out) → Keeps tables name args (line name outs) → count = args.length

variable {tables}

theorem renewsFirst_of_layout {run : List Text → Outcome Text} {name : String}
    {layout : List Treatment} {args : List Text} (hne : layout ≠ []) (hle : layout.length ≤ args.length)
    (hrun : ∀ others : List Text, others.length = args.length →
      others.take layout.length = args.take layout.length →
        run others = line name <$> Treatment.treat tables layout others) :
    RenewsFirst tables run name layout.length args := by
  have hargs := hrun args rfl rfl
  refine ⟨hle, ?_, fun others hlength htake => ?_, fun hall command hcommand => ?_,
    fun outs hcommand hcount hblank hkeeps => ?_⟩
  · rw [hargs]
    cases htreat : Treatment.treat tables layout args with
    | ok outs => exact .inl ⟨outs, Treatment.forall₂_of_treat tables htreat hle, rfl⟩
    | error fault =>
      rw [← Treatment.treat_take] at htreat
      exact .inr ⟨fault, rfl, Treatment.exists_of_treat_error tables htreat⟩
  · rw [hrun others hlength htake, hargs, ← Treatment.treat_take tables layout others, htake,
      Treatment.treat_take]
  · rw [hargs] at hcommand
    cases htreat : Treatment.treat tables layout args with
    | error fault =>
      rw [htreat] at hcommand
      cases hcommand
    | ok outs =>
      rw [htreat] at hcommand
      have hrenewed := Treatment.forall₂_of_treat tables htreat hle
      rw [hall, List.take_length] at hrenewed
      exact ⟨outs, hrenewed, (Except.ok.inj hcommand).symm⟩
  · obtain ⟨words, hwords, hline⟩ := hkeeps
    have houts : outs ≠ [] := by
      rw [← List.length_pos_iff, hcount]
      exact List.length_pos_iff.2 hne
    have hmore := length_le_of_line_eq houts hblank hline
    rw [← hwords.length_eq, hcount] at hmore
    exact Nat.le_antisymm hle hmore

end Renewing

/-! ## Moves -/

section Layouts

variable (tables : Tables)

/-- A move is to an entity, or to three coordinates with two angles. -/
def tpLayout (count : Nat) : List Treatment :=
  if count < 2 then [.selector]
  else if count < 4 then [.selector, .selector]
  else if count < 6 then [.selector, .coordinate, .coordinate, .coordinate]
  else [.selector, .coordinate, .coordinate, .coordinate, .verbatim, .verbatim]

theorem length_tpLayout_le {count : Nat} (h : count ≠ 0) : (tpLayout count).length ≤ count := by
  unfold tpLayout
  split_ifs <;> simp only [List.length_cons, List.length_nil] <;> omega

theorem length_tpLayout_eq_iff (count : Nat) :
    (tpLayout count).length = count ↔ count = 1 ∨ count = 2 ∨ count = 4 ∨ count = 6 := by
  unfold tpLayout
  split_ifs <;> simp only [List.length_cons, List.length_nil] <;> omega

theorem tp_eq {args : List Text} (h : args ≠ []) :
    tp tables args = line "tp" <$> Treatment.treat tables (tpLayout args.length) args := by
  rcases args with _ | ⟨target, _ | ⟨goal, _ | ⟨third, _ | ⟨fourth, rest⟩⟩⟩⟩
  · exact absurd rfl h
  · have htp : tp tables [target] = selector tables target >>= fun new => pure (line "tp" [new]) := rfl
    have hlayout : tpLayout [target].length = [.selector] := rfl
    rw [htp, hlayout, Treatment.treat_selector, Treatment.treat_nil]
    cases selector tables target <;> rfl
  · have htp : tp tables [target, goal] = selector tables target >>= fun new =>
        selector tables goal >>= fun other => pure (line "tp" [new, other]) := rfl
    have hlayout : tpLayout [target, goal].length = [.selector, .selector] := rfl
    rw [htp, hlayout, Treatment.treat_selector, Treatment.treat_selector, Treatment.treat_nil]
    cases selector tables target <;> cases selector tables goal <;> rfl
  · have htp : tp tables [target, goal, third] = selector tables target >>= fun new =>
        selector tables goal >>= fun other => pure (line "tp" [new, other]) := rfl
    have hlayout : tpLayout [target, goal, third].length = [.selector, .selector] := rfl
    rw [htp, hlayout, Treatment.treat_selector, Treatment.treat_selector, Treatment.treat_nil]
    cases selector tables target <;> cases selector tables goal <;> rfl
  · have htp : tp tables (target :: goal :: third :: fourth :: rest) = selector tables target >>= fun new =>
        pure (line "tp" ([new] ++ Coordinate.upgradeAll [goal, third, fourth] ++
          if 2 ≤ rest.length then rest.take 2 else [])) := rfl
    have hlayout : tpLayout (target :: goal :: third :: fourth :: rest).length =
        .selector :: (List.replicate [goal, third, fourth].length .coordinate ++
          if 2 ≤ rest.length then [.verbatim, .verbatim] else []) := by
      unfold tpLayout
      simp only [List.length_cons, List.length_nil]
      split_ifs <;> first | rfl | omega
    have hangles : Treatment.treat tables (if 2 ≤ rest.length then [.verbatim, .verbatim] else []) rest =
        .ok (if 2 ≤ rest.length then rest.take 2 else []) := by
      split_ifs with hlength
      · obtain ⟨yaw, pitch, more, rfl⟩ : ∃ yaw pitch more, rest = yaw :: pitch :: more := by
          rcases rest with _ | ⟨yaw, _ | ⟨pitch, more⟩⟩
          · simp at hlength
          · simp at hlength
          · exact ⟨yaw, pitch, more, rfl⟩
        rfl
      · rfl
    have hcoordinates := Treatment.treat_coordinates tables [goal, third, fourth]
      (if 2 ≤ rest.length then [.verbatim, .verbatim] else []) rest
    rw [hangles] at hcoordinates
    have hrest : [goal, third, fourth] ++ rest = goal :: third :: fourth :: rest := rfl
    rw [hrest] at hcoordinates
    rw [htp, hlayout, Treatment.treat_selector, hcoordinates]
    cases selector tables target <;> rfl

theorem renewsFirst_tp {args : List Text} (h : args ≠ []) :
    RenewsFirst tables (tp tables) "tp" (tpLayout args.length).length args := by
  have hlength : args.length ≠ 0 := fun hnil => h (List.length_eq_zero_iff.1 hnil)
  refine renewsFirst_of_layout ?_ (length_tpLayout_le hlength) fun others hothers _ => ?_
  · unfold tpLayout
    split_ifs <;> exact List.cons_ne_nil _ _
  · rw [← hothers] at hlength ⊢
    exact tp_eq tables fun hnil => hlength (List.length_eq_zero_iff.2 hnil)

/-! ## Clones -/

/-- Nine coordinates and a mode. -/
def cloneLayout (count : Nat) : List Treatment :=
  List.replicate 9 .coordinate ++ if 10 ≤ count then [.verbatim] else []

theorem length_cloneLayout (count : Nat) : (cloneLayout count).length = if 10 ≤ count then 10 else 9 := by
  unfold cloneLayout
  split_ifs <;> rfl

theorem clone_eq {args : List Text} (h : 9 ≤ args.length) :
    clone args = line "clone" <$> Treatment.treat tables (cloneLayout args.length) args := by
  have hclone : clone args =
      .ok (line "clone" (Coordinate.upgradeAll (args.take 9) ++ (args.drop 9).take 1)) := by
    unfold clone
    rw [if_neg (by omega), if_neg (by omega)]
    rfl
  have hmode : Treatment.treat tables (if 10 ≤ args.length then [.verbatim] else []) (args.drop 9) =
      .ok ((args.drop 9).take 1) := by
    cases hrest : args.drop 9 with
    | nil =>
      rw [if_neg (by have := congrArg List.length hrest; simp at this; omega)]
      rfl
    | cons mode more =>
      rw [if_pos (by have := congrArg List.length hrest; simp at this; omega)]
      rfl
  have hcoordinates := Treatment.treat_coordinates tables (args.take 9)
    (if 10 ≤ args.length then [.verbatim] else []) (args.drop 9)
  rw [List.take_append_drop, List.length_take_of_le h, hmode] at hcoordinates
  unfold cloneLayout
  rw [hclone, hcoordinates]
  rfl

theorem length_cloneLayout_eq_iff {count : Nat} (h : 9 ≤ count) :
    (cloneLayout count).length = count ↔ count ≤ 10 := by
  rw [length_cloneLayout]
  split_ifs <;> omega

theorem renewsFirst_clone {args : List Text} (h : 9 ≤ args.length) :
    RenewsFirst tables clone "clone" (cloneLayout args.length).length args := by
  refine renewsFirst_of_layout (List.cons_ne_nil _ _) ?_ fun others hothers _ => ?_
  · rw [length_cloneLayout]
    split_ifs <;> omega
  · rw [← hothers] at h ⊢
    exact clone_eq tables h

/-! ## Scores -/

/-- An action, who it is for and the objective; a value only for some actions. -/
def playersLayout (action : Text) (count : Nat) : List Treatment :=
  [.verbatim, .selector, .verbatim] ++
    if (action = "add" ∨ action = "remove" ∨ action = "set") ∧ 4 ≤ count then [.verbatim] else []

theorem length_playersLayout (action : Text) (count : Nat) : (playersLayout action count).length =
    if (action = "add" ∨ action = "remove" ∨ action = "set") ∧ 4 ≤ count then 4 else 3 := by
  unfold playersLayout
  split_ifs <;> rfl

theorem length_playersLayout_eq_iff (action : Text) (more : Nat) :
    (playersLayout action (more + 3)).length = more + 3 ↔
      more = 0 ∨ more = 1 ∧ (action = "add" ∨ action = "remove" ∨ action = "set") := by
  rw [length_playersLayout]
  split_ifs with hvalue
  · have hmore := hvalue.2
    simp only [hvalue.1, and_true]
    omega
  · constructor
    · intro hlength
      exact .inl (by omega)
    · rintro (hnone | ⟨hone, haction⟩)
      · omega
      · exact absurd ⟨haction, by omega⟩ hvalue

theorem scoreboardPlayers_eq {action : Text} (htag : action ≠ "tag") (htest : action ≠ "test")
    (target objective : Text) (rest : List Text) :
    scoreboardPlayers tables (action :: target :: objective :: rest) =
      line "scoreboard players" <$> Treatment.treat tables (playersLayout action (rest.length + 3))
        (action :: target :: objective :: rest) := by
  have hplayers : scoreboardPlayers tables (action :: target :: objective :: rest) =
      selector tables target >>= fun new =>
        pure (line "scoreboard players" ([action, new, objective] ++
          if action = "add" ∨ action = "remove" ∨ action = "set" then rest.take 1 else [])) := by
    unfold scoreboardPlayers
    refine bind_congr fun new => ?_
    rw [if_neg htag, if_neg htest]
    split_ifs <;> rfl
  have hvalue : Treatment.treat tables (if (action = "add" ∨ action = "remove" ∨ action = "set") ∧
      4 ≤ rest.length + 3 then [.verbatim] else []) rest =
        .ok (if action = "add" ∨ action = "remove" ∨ action = "set" then rest.take 1 else []) := by
    cases rest with
    | nil =>
      rw [if_neg fun hfour => absurd hfour.2 (by decide), List.take_nil, ite_self, Treatment.treat_nil]
    | cons value more =>
      simp only [List.length_cons, show 4 ≤ more.length + 1 + 3 by omega, and_true]
      split_ifs <;> rfl
  unfold playersLayout
  rw [hplayers, List.cons_append, List.cons_append, List.cons_append, List.nil_append,
    Treatment.treat_verbatim, Treatment.treat_selector, Treatment.treat_verbatim, hvalue]
  cases selector tables target <;> rfl

theorem renewsFirst_players {action : Text} (htag : action ≠ "tag") (htest : action ≠ "test")
    (target objective : Text) (rest : List Text) :
    RenewsFirst tables (scoreboardPlayers tables) "scoreboard players"
      (playersLayout action (rest.length + 3)).length (action :: target :: objective :: rest) := by
  refine renewsFirst_of_layout (List.cons_ne_nil _ _) ?_ fun others hothers htake => ?_
  · rw [length_playersLayout, List.length_cons, List.length_cons, List.length_cons]
    split_ifs <;> omega
  · -- The action is among the arguments that are kept.
    rcases others with _ | ⟨first, _ | ⟨second, _ | ⟨third, others⟩⟩⟩
    · cases hothers
    · simp at hothers
    · simp at hothers
    · have hfirst : first = action := by
        have hhead := congrArg List.head? htake
        rw [length_playersLayout] at hhead
        split_ifs at hhead <;> exact Option.some.inj hhead
      have hsame : others.length = rest.length := by simpa using hothers
      rw [hfirst, ← hsame]
      exact scoreboardPlayers_eq tables htag htest second third others

/-! ## Blocks that are set -/

/-- A way in which a block is set. -/
def IsSetMode (mode : Text) : Prop := mode = "replace" ∨ mode = "destroy" ∨ mode = "keep"

theorem setblock_front (x y z block data sixth : Text) (more : List Text) :
    setblock tables (x :: y :: z :: block :: data :: sixth :: more) =
      let front := line "setblock" (Coordinate.upgradeAll [x, y, z] ++ [tables.blockName block data])
      if sixth = "replace" ∨ sixth = "destroy" ∨ sixth = "keep" then .ok (front ++ ' ' :: sixth)
      else .ok (front ++ sixth) := rfl

/-- With a mode, the command ends in it, whatever stands behind the mode. -/
theorem setblock_mode (x y z block data : Text) {mode : Text} (h : IsSetMode mode) (more : List Text) :
    setblock tables (x :: y :: z :: block :: data :: mode :: more) = .ok (line "setblock"
      (Coordinate.upgradeAll [x, y, z] ++ [tables.blockName block data] ++ [mode])) := by
  unfold IsSetMode at h
  rw [setblock_front]
  dsimp only
  rw [if_pos h]
  have hword := join_concat ' ' (List.cons_ne_nil "setblock".toList
    (Coordinate.upgradeAll [x, y, z] ++ [tables.blockName block data])) mode
  exact congrArg Except.ok hword.symm

/-- Data in the place of the mode is kept at the end. -/
theorem setblock_data (x y z block data : Text) {nbt : Text} (h : ¬ IsSetMode nbt) (more : List Text) :
    ∃ command, setblock tables (x :: y :: z :: block :: data :: nbt :: more) = .ok command ∧
      nbt <:+ command := by
  unfold IsSetMode at h
  rw [setblock_front]
  dsimp only
  rw [if_neg h]
  exact ⟨_, rfl, List.suffix_append _ _⟩

end Layouts

/-! ## What is dropped -/

/-- Moves, clones and scores renew their first arguments and drop the others. All arguments of a move are
kept if there are one, two, four or six, those of a clone if there are nine or ten, and those of a score if
there are three, or four and the action takes a value; with other counts some are dropped. A block that is
set in a mode loses the data behind the mode: the command is the same without it. The same data is kept in
the place of the mode. -/
theorem arguments_dropped (tables : Tables) :
    (∀ args : List Text, args ≠ [] →
      RenewsFirst tables (tp tables) "tp" (tpLayout args.length).length args ∧
      ((tpLayout args.length).length = args.length ↔
        args.length = 1 ∨ args.length = 2 ∨ args.length = 4 ∨ args.length = 6)) ∧
    (∀ args : List Text, 9 ≤ args.length →
      RenewsFirst tables clone "clone" (cloneLayout args.length).length args ∧
      ((cloneLayout args.length).length = args.length ↔ args.length ≤ 10)) ∧
    (∀ (action target objective : Text) (rest : List Text), action ≠ "tag" → action ≠ "test" →
      RenewsFirst tables (scoreboardPlayers tables) "scoreboard players"
        (playersLayout action (rest.length + 3)).length (action :: target :: objective :: rest) ∧
      ((playersLayout action (rest.length + 3)).length = rest.length + 3 ↔ rest.length = 0 ∨
        rest.length = 1 ∧ (action = "add" ∨ action = "remove" ∨ action = "set"))) ∧
    ∀ (x y z block data mode nbt : Text) (more : List Text), IsSetMode mode → nbt.head? = some '{' →
      (∃ command, setblock tables (x :: y :: z :: block :: data :: mode :: nbt :: more) = .ok command ∧
        (∀ others, setblock tables (x :: y :: z :: block :: data :: mode :: others) = .ok command) ∧
        ('{' ∉ command → ¬ nbt <:+: command)) ∧
      ∃ command, setblock tables (x :: y :: z :: block :: data :: nbt :: more) = .ok command ∧
        nbt <:+ command := by
  refine ⟨fun args hargs => ⟨renewsFirst_tp tables hargs, length_tpLayout_eq_iff _⟩,
    fun args hargs => ⟨renewsFirst_clone tables hargs, length_cloneLayout_eq_iff hargs⟩,
    fun action target objective rest htag htest =>
      ⟨renewsFirst_players tables htag htest target objective rest, length_playersLayout_eq_iff _ _⟩,
    fun x y z block data mode nbt more hmode hnbt => ⟨?_, ?_⟩⟩
  · refine ⟨_, setblock_mode tables x y z block data hmode (nbt :: more),
      setblock_mode tables x y z block data hmode, fun hbrace hinfix => hbrace ?_⟩
    exact hinfix.subset (List.mem_of_head? hnbt)
  · refine setblock_data tables x y z block data ?_ more
    rintro (rfl | rfl | rfl) <;> cases hnbt

/-- A move by coordinates alone, a clone of one kind of block, an operation on two scores and a chest. -/
theorem arguments_dropped_tails :
    let tables : Tables := ⟨[], [], [], [], .null, []⟩
    let place : List Text := ["1".toList, "2".toList, "3".toList]
    let filtered : List Text := ["filtered".toList, "force".toList, "stone".toList]
    let sum : List Text :=
      ["operation".toList, "@a".toList, "x".toList, "+=".toList, "@p".toList, "y".toList]
    tp tables place = .ok "tp 1 2" ∧ ¬ Keeps tables "tp" place "tp 1 2" ∧
    clone (place ++ place ++ place ++ filtered) = .ok "clone 1 2 3 1 2 3 1 2 3 filtered" ∧
    ¬ Keeps tables "clone" (place ++ place ++ place ++ filtered) "clone 1 2 3 1 2 3 1 2 3 filtered" ∧
    scoreboardPlayers tables sum = .ok "scoreboard players operation @a x" ∧
    ¬ Keeps tables "scoreboard players" sum "scoreboard players operation @a x" ∧
    setblock tables (place ++ ["chest".toList, "0".toList, "replace".toList, "\x7bLock:1\x7d".toList]) =
      .ok "setblock 1 2 3 minecraft:chest replace" ∧
    ¬ "\x7bLock:1\x7d".toList <:+: "setblock 1 2 3 minecraft:chest replace".toList := by
  intro tables place filtered sum
  have htp : tp tables place = .ok (line "tp" ["1".toList, "2".toList]) := rfl
  have hclone : clone (place ++ place ++ place ++ filtered) =
      .ok (line "clone" (place ++ place ++ place ++ ["filtered".toList])) := rfl
  have hsum : scoreboardPlayers tables sum =
      .ok (line "scoreboard players" ["operation".toList, "@a".toList, "x".toList]) := rfl
  have hset : setblock tables
      (place ++ ["chest".toList, "0".toList, "replace".toList, "\x7bLock:1\x7d".toList]) =
        .ok "setblock 1 2 3 minecraft:chest replace" := by decide +kernel
  obtain ⟨hmoves, hclones, hscores, hblocks⟩ := arguments_dropped tables
  refine ⟨htp, fun hkeeps => ?_, hclone, fun hkeeps => ?_, hsum, fun hkeeps => ?_, hset, ?_⟩
  · have hfirst := (hmoves place (by decide)).1
    cases hfirst.kept_only _ htp rfl (by decide) hkeeps
  · have hfirst := (hclones (place ++ place ++ place ++ filtered) (by decide)).1
    cases hfirst.kept_only _ hclone rfl (by decide) hkeeps
  · have hfirst := (hscores "operation" "@a" "x" ["+=".toList, "@p".toList, "y".toList]
      (by decide) (by decide)).1
    cases hfirst.kept_only _ hsum rfl (by decide) hkeeps
  · obtain ⟨⟨command, hcommand, -, hbrace⟩, -⟩ :=
      hblocks "1" "2" "3" "chest" "0" "replace" "\x7bLock:1\x7d" [] (.inl rfl) rfl
    obtain rfl := Except.ok.inj (hset.symm.trans hcommand)
    exact hbrace (by decide +kernel)

end CommandUpgrade.Command
