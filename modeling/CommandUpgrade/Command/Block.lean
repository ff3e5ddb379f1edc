import CommandUpgrade.Command.Argument

/-!
# Commands on blocks

Setting, filling, cloning and testing blocks. A block and its data value became one name.
-/

namespace CommandUpgrade.Command

open Text

/-- The new name of a block by the arguments from its name on. -/
def blockOf (tables : Tables) (args : List Text) : Outcome Text :=
  match args with
  | [] => .error (.pastEnd .list)
  | [block] => .ok (tables.blockName block)
  | block :: data :: _ => .ok (tables.blockName block data)

/-- A test for a block; its data follows directly. -/
def testforblock (tables : Tables) (args : List Text) : Outcome Text := do
  match args with
  | x :: y :: z :: rest =>
    let block ← blockOf tables rest
    return line "execute if block" (Coordinate.upgradeAll [x, y, z] ++ [block]) ++
      (rest.drop 2).headD []
  | _ => return "execute if block ~ ~ ~ air"

/-- Sets a block, with a mode or with data that follows directly. -/
def setblock (tables : Tables) (args : List Text) : Outcome Text := do
  match args with
  | x :: y :: z :: block :: rest =>
    let block ← blockOf tables (block :: rest)
    let front := line "setblock" (Coordinate.upgradeAll [x, y, z] ++ [block])
    match rest.drop 1 with
    | [] => return front
    | last :: _ =>
      if last = "replace" ∨ last = "destroy" ∨ last = "keep" then return front ++ ' ' :: last
      return front ++ last
  | _ => return "setblock"

/-- Whether a word is a way to fill. -/
def isFillMode (s : Text) : Bool :=
  ["replace", "destroy", "keep", "outline", "hollow"].any fun mode => mode.toList = s

/-- Fills a box, with a mode and the block that is replaced. -/
def fill (tables : Tables) (args : List Text) : Outcome Text := do
  if args.length < 7 then return "fill"
  let block ← blockOf tables (args.drop 6)
  let front := Coordinate.upgradeAll (args.take 6) ++ [block]
  match args.drop 8 with
  | [] => return line "fill" front
  | mode :: rest =>
    if !isFillMode mode then return line "fill" front
    match rest with
    | block :: data :: _ => return line "fill" (front ++ [mode, tables.blockName block data])
    | _ => return line "fill" (front ++ [mode])

/-- Clones a box; nine coordinates and a mode. -/
def clone (args : List Text) : Outcome Text := do
  if args.length < 7 then return "clone"
  if args.length < 9 then throw (.pastEnd .list)
  return line "clone" (Coordinate.upgradeAll (args.take 9) ++ (args.drop 9).take 1)

/-- Merges data into a block. -/
def blockdata (tables : Tables) (args : List Text) : Text :=
  match args with
  | x :: y :: z :: block :: rest =>
    line "data modify block" (Coordinate.upgradeAll [x, y, z] ++ [tables.blockName block] ++
      match rest with
      | [] => []
      | data :: _ => ["merge value".toList, data])
  | _ => "data modify block"

end CommandUpgrade.Command
