import CommandUpgrade.Command.Argument

/-!
# Particles

Coloured dust and block particles have forms of their own; other particles are renamed. Speeds are
taken without their sign.
-/

namespace CommandUpgrade.Command

open Text

namespace Particle

/-- A speed without its sign; what is no number stays. -/
def speed (s : Text) : Text :=
  match Binary64.read? s with
  | some x => x.abs.toText
  | none => s

/-- A speed without its sign, a whole one as an integer; what is no finite number stays. -/
def wholeSpeed (s : Text) : Text :=
  match Binary64.read? s with
  | some x =>
    match x.abs.trunc with
    | .ok n => if x.abs.eqInt n then ofInt n else x.abs.toText
    | .error _ => s
  | none => s

/-- The form of a particle, if what it is asked for with fits it. -/
abbrev Form := Outcome (Option Text)

/-- A form that does not fit where a number or a position is missing. -/
def fitting (outcome : Outcome Text) : Form :=
  match outcome with
  | .ok s => .ok (some s)
  | .error fault => if fault.isValue || fault.isIndex then .ok none else .error fault

/-- Coloured dust. A count of zero makes the spread a colour; the colour is red otherwise. -/
def dust (tables : Tables) (args : List Text) : Form :=
  match args with
  | x :: y :: z :: dx :: dy :: dz :: rest =>
    let count := rest.getD 1 ['0']
    let isColor := count = ['0']
    let color := if isColor then [dx, dy, dz] else [['1'], ['0'], ['0']]
    let spread := if isColor then [['0'], ['0'], ['0']] else [dx, dy, dz]
    let mode := (rest[2]?).filter fun s => !s.isEmpty && !startsWith s "@"
    fitting do
      let target ← ((rest[3]?).filter (startsWith · "@")).mapM (selector tables)
      return line "particle minecraft:dust" (color ++ [['1'], x, y, z] ++ spread ++
        [wholeSpeed (rest.getD 0 ['0']), count] ++ mode.toList ++ target.toList)
  | _ => .ok none

/-- Particles of a block, whose packed number is the last argument. -/
def block (tables : Tables) (args : List Text) : Form :=
  match args with
  | x :: y :: z :: dx :: dy :: dz :: pace :: rest =>
    fitting do
      let packed ← Number.readInt ((pace :: rest).getLastD [])
      let (number, data) := Tables.unpack packed
      let name := tables.blockName (ofInt number) (ofInt data)
      let name := (after? "minecraft:" name).getD name
      let extras ← ((rest.drop 1).dropLast).mapM (selectorOrWord tables)
      return line "particle" (["block\x7bblock_state:\"" ++ name ++ "\"\x7d", x, y, z, dx, dy, dz,
        speed pace] ++ rest.take 1 ++ extras)
  | _ => .ok none

/-- A particle with its new name; a selector at the end takes its new form. -/
def plain (tables : Tables) (name : Text) (args : List Text) : Outcome Text := do
  let args := if 7 ≤ args.length then args.modify 6 speed else args
  let last ← (args.getLast?).mapM (selectorOrWord tables)
  return line "particle" ([tables.particleName name] ++ args.dropLast ++ last.toList)

end Particle

/-- A particle in its new form. -/
def particle (tables : Tables) (args : List Text) : Outcome Text := do
  match args with
  | [] => return "particle"
  | name :: rest =>
    let form ←
      if name = "reddust" then Particle.dust tables rest
      else if name = "blockcrack" ∨ name = "blockdust" then Particle.block tables rest
      else pure none
    match form with
    | some s => return s
    | none => Particle.plain tables name rest

end CommandUpgrade.Command
