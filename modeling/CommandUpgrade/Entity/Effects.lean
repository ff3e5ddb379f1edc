import CommandUpgrade.Text.Pattern
import CommandUpgrade.Text.Quote
import CommandUpgrade.Text.Settle

/-!
# Effects

`ActiveEffects` became `active_effects`. Its entries have their fields in small letters, the effect
by name, and a zero or one of `amplifier` and `show_particles` as a byte.
-/

namespace CommandUpgrade.Effects

open Text

/-- The effects by number, from one on. -/
def names : List String := [
  "speed", "slowness", "haste", "mining_fatigue", "strength", "instant_health", "instant_damage",
  "jump_boost", "nausea", "regeneration", "resistance", "fire_resistance", "water_breathing",
  "invisibility", "blindness", "night_vision", "hunger", "weakness", "poison", "wither",
  "health_boost", "absorption", "saturation", "glowing", "levitation", "luck", "unluck",
  "slow_falling", "conduit_power", "dolphins_grace", "bad_omen", "hero_of_the_village"]

/-- The name of an effect by the digits of its number. -/
def name? (digits : Text) : Option Text :=
  (names.zipIdx 1).findSome? fun (name, i) => if ofNat i = digits then some name.toList else none

/-- The number of an effect, with or without the mark of a byte. -/
def number : Pattern := ("Id:" : String) ++ .group .digits ++ .opt ("b" : String)

/-- A field that is a zero or one without a kind. -/
def bareFlag (field : String) : Pattern :=
  Pattern.wordEdge ++ (.lit field.toList) ++ .group (.one (Pattern.of ['0', '1'])) ++
    .notBefore Pattern.kinds

/-- A compound without inner ones that has the number of an effect. -/
def entry : Pattern :=
  let rest : Pattern := .many 0 (Pattern.no ['{', '}'])
  ("\x7b" : String) ++ .group (rest ++ ("Id:" : String) ++ .digits ++ .opt ("b" : String) ++ rest) ++
    ("\x7d" : String)

/-- Adds the mark of a byte to a zero or one of a field. -/
def markFlag (field : String) (s : Text) : Text :=
  (bareFlag field).replace (fun m => field.toList ++ m.group 1 ++ ['b']) s

/-- The fields of an effect in their new form. -/
def upgradeFields (fields : Text) : Text :=
  let fields := number.replace (fun m =>
    "id:\"minecraft:" ++ (name? (m.group 1)).getD "speed" ++ "\"") fields
  let fields := replace "Amplifier:" "amplifier:" fields
  let fields := replace "Duration:" "duration:" fields
  let fields := replace "ShowParticles:" "show_particles:" fields
  markFlag "show_particles:" (markFlag "amplifier:" fields)

/-- Every effect of a text in its new form. -/
def upgradeEntries (s : Text) : Text :=
  entry.replace (fun m => '{' :: upgradeFields (m.group 1) ++ ['}']) s

/-- Renames the field and renews every effect of the text. -/
def upgradeAll (s : Text) : Text :=
  if has "ActiveEffects:" s then upgradeEntries (replace "ActiveEffects:" "active_effects:" s)
  else s

/-- The text behind the field's name, its list renewed if it is one. -/
def upgradeList (s : Text) : Text :=
  match s with
  | '[' :: _ =>
    match closing? '[' ']' none s with
    | some stop => '[' :: upgradeEntries (slice 1 stop s) ++ s.drop stop
    | none => s
  | _ => s

/-- Renews the first list of effects. -/
def upgradeFirst? (s : Text) : Option Text :=
  (cut? "ActiveEffects:" s).map fun (front, rest) => front ++ "active_effects:" ++ upgradeList rest

/-- Renews all lists of effects, also nested ones. Each step takes one name away. -/
def upgrade (s : Text) : Text := settle upgradeFirst? (positions "ActiveEffects:" s).length s

end CommandUpgrade.Effects
