import CommandUpgrade.Proofs.Outcome
import CommandUpgrade.Proofs.Table.Lookup
import CommandUpgrade.Proofs.Text.Split
import CommandUpgrade.Selector

/-!
# What each argument of a selector gives

An old argument gives one `Part` of the new arguments, or a fault, and does so whatever stands around
it (`addArgument_eq`). The parts are put together without a fault: `collect` keeps the written texts in
their order, the last value of each end of a range, and the last value of each objective.
-/

namespace CommandUpgrade

open Text

namespace Selector

/-! ## Parts -/

/-- The ranges that are joined at the end. -/
inductive Slot where
  | distance
  | xRotation
  | yRotation
deriving DecidableEq

inductive Side where
  | low
  | high
deriving DecidableEq

/-- What an old argument gives: texts that are written at once, a score, or an end of a range. -/
inductive Part where
  | texts (new : List Text)
  | score (objective value : Text)
  | bound (slot : Slot) (side : Side) (value : Text)
deriving Inhabited

namespace Part

def written : Part → List Text
  | texts new => new
  | score _ _ => []
  | bound _ _ _ => []

def score? : Part → Option (Text × Text)
  | texts _ => none
  | score objective value => some (objective, value)
  | bound _ _ _ => none

/-- The value for an end of a range. -/
def bound? (slot : Slot) (side : Side) : Part → Option Text
  | texts _ => none
  | score _ _ => none
  | bound slot' side' value => if slot' = slot ∧ side' = side then some value else none

end Part

/-- The text of an argument. -/
def parameter (param : Text × Text) : Text := param.1 ++ '=' :: param.2

/-- A full distance is written, and an open one is an end of the range. -/
def distancePart (value : Text) : Part :=
  if startsWith value ".." then .bound .distance .high (value.drop 2)
  else if endsWith value ".." then .bound .distance .low (dropLast 2 value)
  else .texts [parameter ("distance", value)]

/-- The part that an old argument gives. -/
def partOf (tables : Tables) (data : Text → Outcome Text) (letter name value : Text) :
    Outcome Part := do
  if name = ['x'] ∨ name = ['y'] ∨ name = ['z'] then
    return .texts [parameter (name, ← blockCentre value)]
  if name = "type" then return .texts [parameter (name, tables.entityName value)]
  if name = "r" then return .bound .distance .high value
  if name = "rm" then return .bound .distance .low value
  if name = "distance" then return distancePart value
  if name = "c" then
    let limit := (← Number.readInt value).natAbs
    let order : String :=
      if letter = ['r'] then "random" else if startsWith value "-" then "furthest" else "nearest"
    return .texts ["limit=" ++ ofNat limit, "sort=" ++ order.toList]
  if name = "m" then return .texts [parameter ("gamemode", (gameMode? (lower value)).getD value)]
  if name = "nbt" then return .texts [parameter (name, ← data value)]
  if let some objective := after? "score_" name then return .score objective value
  if name = "rx" then return .bound .xRotation .high value
  if name = "rxm" then return .bound .xRotation .low value
  if name = "ry" then return .bound .yRotation .high value
  if name = "rym" then return .bound .yRotation .low value
  return .texts [parameter (name, value)]

def Range.put (range : Range) : Side → Text → Range
  | .low, value => { range with low := some value }
  | .high, value => { range with high := some value }

/-- Takes a part in. -/
def Arguments.take (args : Arguments) : Part → Arguments
  | .texts new => args.add new
  | .score objective value => { args with scores := Lookup.set objective value args.scores }
  | .bound .distance side value => { args with distance := args.distance.put side value }
  | .bound .xRotation side value => { args with xRotation := args.xRotation.put side value }
  | .bound .yRotation side value => { args with yRotation := args.yRotation.put side value }

variable (tables : Tables) (data : Text → Outcome Text) (letter : Text)

theorem addDistance_eq (args : Arguments) (value : Text) :
    addDistance args value = args.take (distancePart value) := by
  unfold addDistance distancePart
  split_ifs <;> rfl

theorem addArgument_eq (args : Arguments) (name value : Text) :
    addArgument tables data letter args name value
      = args.take <$> partOf tables data letter name value := by
  unfold addArgument partOf
  -- The two go through the same names, and only the branches differ.
  refine Outcome.ite_eq_map ?place (Outcome.ite_eq_map rfl (Outcome.ite_eq_map rfl
    (Outcome.ite_eq_map rfl (Outcome.ite_eq_map ?distance (Outcome.ite_eq_map ?count
    (Outcome.ite_eq_map rfl (Outcome.ite_eq_map ?data ?rest)))))))
  case place => cases blockCentre value <;> rfl
  case distance => exact congrArg Except.ok (addDistance_eq args value)
  case count => cases Number.readInt value <;> rfl
  case data => cases data value <;> rfl
  case rest =>
    cases after? "score_" name with
    | some objective => rfl
    | none =>
      exact Outcome.ite_eq_map rfl (Outcome.ite_eq_map rfl (Outcome.ite_eq_map rfl
        (Outcome.ite_eq_map rfl rfl)))

/-! ## The kinds of parts -/

/-- The names that give an end of a range. -/
def boundNames : Slot → Side → List Text
  | .distance, .low => ["rm", "distance"]
  | .distance, .high => ["r", "distance"]
  | .xRotation, .low => ["rxm"]
  | .xRotation, .high => ["rx"]
  | .yRotation, .low => ["rym"]
  | .yRotation, .high => ["ry"]

/-- A part of each kind comes from the names of that kind. -/
inductive Gives (name value : Text) : Part → Prop
  | texts (new : List Text) : after? "score_" name = none → Gives name value (.texts new)
  | score {objective : Text} : after? "score_" name = some objective →
      Gives name value (.score objective value)
  | bound {slot : Slot} {side : Side} (limit : Text) : after? "score_" name = none →
      name ∈ boundNames slot side → Gives name value (.bound slot side limit)

section Gives

variable {tables : Tables} {data : Text → Outcome Text} {letter name value : Text} {part : Part}

theorem gives_of_ite {c : Prop} [Decidable c] {x y : Outcome Part}
    (hpos : c → x = .ok part → Gives name value part)
    (hneg : ¬ c → y = .ok part → Gives name value part)
    (h : (if c then x else y) = .ok part) : Gives name value part := by
  split_ifs at h with hc
  · exact hpos hc h
  · exact hneg hc h

theorem gives_of_pure {new : Part} (hnew : Gives name value new)
    (h : (pure new : Outcome Part) = .ok part) : Gives name value part := by
  cases h
  exact hnew

theorem gives_of_bind {α : Type} {x : Outcome α} {next : α → Outcome Part}
    (hnext : ∀ a, next a = .ok part → Gives name value part)
    (h : (x >>= next) = .ok part) : Gives name value part := by
  obtain ⟨a, -, ha⟩ := Outcome.bind_eq_ok h
  exact hnext a ha

theorem gives_distancePart (value : Text) : Gives "distance" value (distancePart value) := by
  unfold distancePart
  split_ifs
  · exact .bound _ (by decide) (by decide)
  · exact .bound _ (by decide) (by decide)
  · exact .texts _ (by decide)

theorem gives_of_partOf :
    partOf tables data letter name value = .ok part → Gives name value part := by
  unfold partOf
  refine gives_of_ite ?place fun _ => gives_of_ite ?type fun _ => gives_of_ite ?most fun _ =>
    gives_of_ite ?least fun _ => gives_of_ite ?distance fun _ => gives_of_ite ?count fun _ =>
    gives_of_ite ?mode fun _ => gives_of_ite ?data fun _ => ?rest
  case place =>
    rintro (rfl | rfl | rfl) <;> exact gives_of_bind fun _ => gives_of_pure (.texts _ rfl)
  case type =>
    rintro rfl
    exact gives_of_pure (.texts _ (by decide))
  case most =>
    rintro rfl
    exact gives_of_pure (.bound _ (by decide) (by decide))
  case least =>
    rintro rfl
    exact gives_of_pure (.bound _ (by decide) (by decide))
  case distance =>
    rintro rfl
    exact gives_of_pure (gives_distancePart value)
  case count =>
    rintro rfl
    exact gives_of_bind fun _ => gives_of_pure (.texts _ (by decide))
  case mode =>
    rintro rfl
    exact gives_of_pure (.texts _ (by decide))
  case data =>
    rintro rfl
    exact gives_of_bind fun _ => gives_of_pure (.texts _ (by decide))
  case rest =>
    cases hscore : after? "score_" name with
    | some objective => exact gives_of_pure (.score hscore)
    | none =>
      refine gives_of_ite ?_ fun _ => gives_of_ite ?_ fun _ => gives_of_ite ?_ fun _ =>
        gives_of_ite ?_ fun _ => gives_of_pure (.texts _ hscore)
      all_goals
        rintro rfl
        exact gives_of_pure (.bound _ hscore (by decide))

/-- The score that an argument gives. -/
def scoreOf? (param : Text × Text) : Option (Text × Text) :=
  (after? "score_" param.1).map fun objective => (objective, param.2)

theorem Gives.score?_eq (h : Gives name value part) : part.score? = scoreOf? (name, value) := by
  unfold scoreOf?
  cases h with
  | texts new hname => rw [hname]; rfl
  | score hname => rw [hname]; rfl
  | bound limit hname _ => rw [hname]; rfl

theorem Gives.mem_boundNames (h : Gives name value part) {slot : Slot} {side : Side}
    (hbound : (part.bound? slot side).isSome) : name ∈ boundNames slot side := by
  cases h with
  | texts new _ => cases hbound
  | score _ => cases hbound
  | @bound slot' side' limit _ hname =>
    rw [Part.bound?] at hbound
    split_ifs at hbound with hsame
    · rw [← hsame.1, ← hsame.2]
      exact hname
    · cases hbound

end Gives

/-! ## Parts put together -/

/-- The parts that old arguments give. -/
def partsOf (params : List (Text × Text)) : Outcome (List Part) :=
  params.mapM fun param => partOf tables data letter param.1 param.2

def collect (parts : List Part) : Arguments := parts.foldl Arguments.take {}

theorem foldlM_addArgument (args : Arguments) (params : List (Text × Text)) :
    params.foldlM (fun args param => addArgument tables data letter args param.1 param.2) args
      = (fun parts => parts.foldl Arguments.take args) <$> partsOf tables data letter params := by
  unfold partsOf
  induction params generalizing args with
  | nil => rfl
  | cons param rest ih =>
    rw [List.foldlM_cons, List.mapM_cons, addArgument_eq]
    cases partOf tables data letter param.1 param.2 with
    | error fault => rfl
    | ok part =>
      refine (ih (args.take part)).trans ?_
      cases rest.mapM fun param => partOf tables data letter param.1 param.2 <;> rfl

def Range.side (range : Range) : Side → Option Text
  | .low => range.low
  | .high => range.high

def Arguments.range (args : Arguments) : Slot → Range
  | .distance => args.distance
  | .xRotation => args.xRotation
  | .yRotation => args.yRotation

section Take

variable (args : Arguments) (part : Part)

theorem written_take : (args.take part).written = args.written ++ part.written := by
  cases part with
  | texts new => rfl
  | score objective value => exact (List.append_nil _).symm
  | bound slot side value => cases slot <;> exact (List.append_nil _).symm

theorem scores_take : (args.take part).scores
    = part.score?.elim args.scores fun score => Lookup.set score.1 score.2 args.scores := by
  cases part with
  | texts new => rfl
  | score objective value => rfl
  | bound slot side value => cases slot <;> rfl

theorem side_range_take (slot : Slot) (side : Side) : ((args.take part).range slot).side side
    = (part.bound? slot side).or ((args.range slot).side side) := by
  cases part with
  | texts new => cases slot <;> rfl
  | score objective value => cases slot <;> rfl
  | bound slot' side' value => cases slot <;> cases slot' <;> cases side <;> cases side' <;> rfl

end Take

section Collect

variable (parts : List Part)

theorem collect_concat (part : Part) : collect (parts ++ [part]) = (collect parts).take part :=
  List.foldl_concat ..

/-- The texts stay in their order. -/
theorem written_collect : (collect parts).written = parts.flatMap Part.written := by
  induction parts using List.reverseRecOn with
  | nil => rfl
  | append_singleton parts part ih =>
    rw [collect_concat, written_take, ih, List.flatMap_append, List.flatMap_singleton]

theorem scores_collect : (collect parts).scores = Lookup.setAll (parts.filterMap Part.score?) := by
  induction parts using List.reverseRecOn with
  | nil => rfl
  | append_singleton parts part ih =>
    rw [collect_concat, scores_take, ih, List.filterMap_append]
    cases hpart : part.score? with
    | none => simp [hpart]
    | some score => simp [hpart, Lookup.setAll_concat]

/-- The last value for an end of a range counts. -/
theorem side_range_collect (slot : Slot) (side : Side) : ((collect parts).range slot).side side
    = (parts.filterMap (Part.bound? slot side)).getLast? := by
  induction parts using List.reverseRecOn with
  | nil => cases slot <;> cases side <;> rfl
  | append_singleton parts part ih =>
    rw [collect_concat, side_range_take, ih, List.filterMap_append, List.getLast?_append]
    cases hpart : part.bound? slot side <;> simp [hpart]

end Collect

end Selector

end CommandUpgrade
