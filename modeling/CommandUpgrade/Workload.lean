import CommandUpgrade.Command.Chain
import CommandUpgrade.Coordinate
import CommandUpgrade.Item.Data
import CommandUpgrade.Sample.Commands
import CommandUpgrade.Sample.Data
import CommandUpgrade.Sheet.Unanchored
import CommandUpgrade.Style.Property
import CommandUpgrade.World.Extraction

/-!
# Workloads

A workload converts as many inputs of a kind as it is asked for, going through its list again and
again, and gives what it made of them. Some workloads end with a fixed round of calls.
-/

namespace CommandUpgrade

/-- The workloads. -/
inductive Workload
  /-- Commands of every kind. -/
  | commands
  | selectors
  | entityData
  | itemData
  /-- Data that is read, converted as an entity's, and written. -/
  | mixedData
  /-- Names of blocks, with sounds, particles and packed numbers at the end. -/
  | names
  /-- Commands that run several others. -/
  | chains
  /-- Commands that give heads. -/
  | heads
  /-- Texts with colour codes. -/
  | colours
  /-- Commands of a sheet. -/
  | sheet
  /-- Commands of a sheet, every other one with an unanchored selector. -/
  | unanchored
  /-- The equipment of entities, with worn items at the end. -/
  | equipment
  /-- Data with colour codes, with names, lines and links at the end. -/
  | colouredData
  deriving DecidableEq, Repr

namespace Workload

open Text

/-- The first `count` of the items, which begin again after the last one. -/
def cycle {α : Type} (items : List α) (count : Nat) : List α :=
  (List.range count).filterMap fun i => items[i % items.length]?

/-- The texts that a conversion makes of inputs. -/
def convertAll (convert : Text → Outcome Text) (inputs : List String) : Outcome (List Tag) :=
  inputs.mapM fun input => (convert input.toList).map Tag.text

/-! ## Sheets -/

/-- The row of a command. -/
def sheetRow (command : Text) (i : Nat) : List Text :=
  ["r.0.0.mca".toList, Text.ofNat (i % 32), Text.ofNat (i / 32 % 32), Text.ofNat i, "64".toList,
    Text.ofNat i, Text.ofNat i, command, Text.ofNat command.length, "impulse".toList]

/-- The sheet of commands. -/
def sheetOf (commands : List String) : Text :=
  (World.Extraction.header :: commands.zipIdx.map fun (command, i) => sheetRow command i).flatMap Sheet.writeRow

/-- What a pass wrote, unless a fault ended it. -/
def written (pass : Sheet.Pass) : Outcome (List Sheet.Record) :=
  match pass.fault with
  | some fault => .error fault
  | none => .ok (Sheet.records pass.sheet).records

/-- The commands of every other record have a volume without a position. -/
def volumeCommands : List String := ["kill @e[dx=5,dy=5,dz=5]", "kill @e[x=1,y=2,z=3,dx=5]"]

/-! ## Fixed rounds -/

/-- A tag, or null. -/
def orNull {α : Type} (tag : α → Tag) : Option α → Tag
  | some a => tag a
  | none => .null

/-- A position, or -1. -/
def positionTag (i : Option Nat) : Tag := .int ((i.map Int.ofNat).getD (-1))

/-- The name of a block in the new form, and by its state. -/
def blockNames (tables : Tables) (block : String × String) : Outcome (List Tag) := do
  return [.text (tables.blockName block.1 block.2.toList), ← tables.stateName block.1 block.2.toList]

/-- Sounds, particles, and blocks by packed numbers. -/
def otherNames (tables : Tables) : List Tag :=
  Sample.sounds.map (fun name => .text (tables.soundName name)) ++
    Sample.particles.map (fun name => .text (tables.particleName name)) ++
    [Tag.int 1, Tag.int 4097, Tag.lit "bad"].map fun number => .text (tables.packedBlock number)

/-- A text by its three styles. -/
def styles (s : Text) : Outcome (List Tag) := do
  return [.text (← Style.nameJson s), .text (← Style.loreJson s), .text (← Style.messageJson s)]

/-- The equipment and the chances of an entity, and the items it carries. -/
def equipmentForms (s : Text) : Outcome (List Tag) := do
  return [.text (← Equipment.upgrade s), .text (← Equipment.upgradeChances s),
    .text (Carried.upgradeAll s)]

/-- A worn item as equipment and as it is carried. -/
def wornForms (s : Text) : Outcome (List Tag) := do
  return [orNull .text (← Worn.upgrade s), .text (Carried.upgrade s)]

/-- Data with brackets and quotes inside each other. -/
def nestedData : Text := "\x7ba:\"q\\\"q\",b:\x7bc:[1,2,\x7bd:\"e\"\x7d]\x7d,f:'g'\x7d"

/-- A list with a bracket in quotes. -/
def nestedList : Text := "[1,[2,\"]\"],3]"

/-- The round on worn items, quotes and brackets. -/
def equipmentRound (tables : Tables) : Outcome (List Tag) := do
  let quotes := [
    "\x7bdisplay:\x7bName:\"\x7b\\\"text\\\":\\\"Hi\\\"\x7d\",Lore:[\"\x7b\\\"text\\\":\\\"a\\\"\x7d\"," ++
      "\"\x7b\\\"text\\\":\\\"b\\\"\x7d\"]\x7d\x7d",
    "\x7bdisplay:\x7bName:\"\x7b\"text\":\"Hi\"\x7d\",Lore:[\x7b\"text\":\"a\"\x7d," ++
      "\"\x7b\"text\":\"b\"\x7d\"]\x7d\x7d"].map fun s => Tag.text (DisplayQuotes.fix s.toList)
  let lore ← Lore.quotedLines
    "\"§7A\",\"§9B §eC\",\"\",\"plain\",\x7b\"text\":\"already\"\x7d"
  let worn ← Sample.wornItems.mapM fun item => wornForms item.toList
  let parts := Text.parts ','
    "\x7bid:\"a\",Count:1b,tag:\x7bx:[1,2]\x7d\x7d,\x7bid:\"b\",Count:2b\x7d,\x7bid:\"c\",Count:3b\x7d"
  let start ← Text.braceStart "abc" 1
  let damage := ["\x7bid:\"x\",Damage:3,Count:1\x7d", "\x7bDamage:3b,id:\"x\"\x7d", "\x7bDamage:3b\x7d"]
  return quotes ++ [.text lore] ++ worn.flatten ++ [
    .list (parts.map .text),
    positionTag (Text.matchingFrom? '{' '}' nestedData 0),
    positionTag (Text.matchingFrom? '{' '}' nestedData 1),
    positionTag (Text.matching? '[' ']' nestedList 0),
    positionTag (Text.matching? '[' ']' "[1,2" 0),
    orNull (fun i : Nat => .int i) start,
    orNull (fun i : Nat => .int i) (Text.braceEnd? "abc" 1)] ++
    damage.map (fun s => .text (Entity.dropDamage s)) ++ [
    .text (Effects.upgradeAll
      "\x7bActiveEffects:[\x7bId:1,Amplifier:1,Duration:100\x7d,\x7bId:5\x7d]\x7d"),
    .text (Coordinate.upgrade "~1.50"),
    .text (Coordinate.upgrade "^"),
    .text (tables.entityName "Zombie"),
    .text (tables.entityName "!Skeleton")]

/-- The texts of a literal list. -/
def texts (parts : List String) : List Text := parts.map String.toList

/-- A link that moves. -/
def positionLink (target : String) (more : Entries) : Tag :=
  .compound ([("type".toList, .lit "position"), ("target".toList, .lit target),
    ("x".toList, .lit "~"), ("y".toList, .lit "~"), ("z".toList, .lit "~")] ++ more)

/-- A link that looks for a block. -/
def detectLink (target : String) (more : Entries) : Tag :=
  .compound ([("type".toList, .lit "detect"), ("target".toList, .lit target),
    ("x1".toList, .lit "~"), ("y1".toList, .lit "~"), ("z1".toList, .lit "~"),
    ("x2".toList, .lit "~"), ("y2".toList, .lit "~"), ("z2".toList, .lit "~"),
    ("block".toList, .lit "stone")] ++ more)

/-- The command at the end of a chain. -/
def lastCommand : Entries := [("command".toList, .lit "say hi")]

/-- The arguments of a command that moves, and of one that looks for a block. -/
def positionArgs : List Text := texts ["@a[r=5]", "~", "~1", "~", "say", "hi"]

def detectArgs : List Text :=
  texts ["@a", "~", "~", "~", "detect", "~", "~-1", "~", "stone", "0", "say", "hi"]

/-- The round on names, lines and messages with colour codes. -/
def styleRound : Outcome (List Tag) := do
  let names ← convertAll Style.Property.nameValue ["Name:\"§aHi\"", "Name:\"Plain\"", "nope"]
  let named ← convertAll Style.Property.upgradeName ["Name:\"§aHi\"", "Name:\"Plain\"", "nope"]
  let lines ← convertAll Style.Property.loreValue ["Lore:[\"§7A\",\"§9B\"]", "nope"]
  let lined ← Style.Property.upgradeLore "Lore:[\"x\"]"
  let lore ← Lore.json "\"§7A\",\x7b\"text\":\"x\"\x7d,\"\",\"plain\""
  let coloured ← convertAll Command.restyleText ["§aHi", "§aPlain §btext"]
  let bold ← Style.messageJson "§a§lBold green"
  let told ← convertAll Command.restyleTellraw ["@a §aPlain", "@a"]
  let title ← Command.restyleTitle "@a"
  let quoted ← Command.restyleQuoted "say \"§ahello\" \"plain\""
  return names ++ named ++ lines ++ [.text lined, .text lore] ++ coloured ++ [
    .text bold,
    .text (Style.spelled "§aGreen §lBold §rReset"),
    .text (Command.line "summon" ["Zombie ~ ~ ~ \x7bx:1\x7d".toList]),
    .text (Command.line "give" ["@p stone 1".toList])] ++ told ++ [.text title, .text quoted]

/-- The round on brackets, colours, coordinates and the links of a chain. -/
def linkRound (tables : Tables) : Outcome (List Tag) := do
  let offsets := ["~", "~1.5", "~bad", "7", "bad"].map fun s : String =>
    Tag.float (Command.Chain.offset s)
  let executed ← [positionArgs, detectArgs, texts ["@a"]].mapM fun args =>
    (Command.Chain.convert tables args).map Tag.text
  let links ← [positionArgs, detectArgs, texts ["@a"]].mapM fun args =>
    Command.Chain.link tables args 0
  let next := texts ["execute", "@p", "~", "~", "~", "say", "hi"]
  let position ← Command.Chain.positionLink tables (texts ["@a", "~1", "~", "~"] ++ next) 0
  let detect ← Command.Chain.detectLink tables (detectArgs.take 10 ++ next) 0
  let built ← [[], [positionLink "@a" [], positionLink "@p" lastCommand],
    [detectLink "@a" [], detectLink "@p" lastCommand],
    [.compound (("type".toList, .lit "command") :: lastCommand)]].mapM fun links =>
      (Command.Chain.build tables links).map Tag.text
  return [
    positionTag (Text.matching? '{' '}' "\x7ba:\x7bb:\"\x7d\"\x7d\x7d" 0),
    positionTag (Text.matching? '{' '}' "\x7ba" 0),
    positionTag (Text.matching? '[' ']' nestedList 0),
    positionTag (Text.matching? '[' ']' "[1" 0),
    .text (Style.colorName "a"),
    .text (Style.colorName "9")] ++ offsets ++ executed ++ links ++ [position, detect] ++ built

/-! ## Running -/

/-- What a workload makes of a count of inputs. -/
def run (tables : Tables) (workload : Workload) (count : Nat) : Outcome Tag := do
  let convert := Command.convert tables
  match workload with
  | .commands => return .list (← convertAll convert (cycle Sample.commands count))
  | .selectors =>
    return .list (← convertAll (Selector.upgrade tables (Entity.upgradeData tables true))
      (cycle Sample.selectors count))
  | .entityData =>
    return .list (← convertAll (Entity.upgradeData tables true) (cycle Sample.entityData count))
  | .itemData =>
    let items ← (cycle Sample.itemData count).mapM fun (data, name) =>
      Item.upgradeData true data (some name)
    return .list (items.map .text)
  | .mixedData =>
    let data ← (cycle Sample.mixedData count).mapM fun data =>
      Registry.standard.convert (Tag.read data.toList)
    return .list (data.map fun tag => .text tag.write)
  | .names =>
    let names ← (cycle Sample.blocks count).mapM (blockNames tables)
    return .list (names.flatten ++ otherNames tables)
  | .chains => return .list (← convertAll convert (cycle Sample.chains count))
  | .heads => return .list (← convertAll convert (cycle [Sample.headCommand] count))
  | .colours =>
    let texts ← (cycle Sample.colouredTexts count).mapM fun s => styles s.toList
    let all := texts.flatten ++ (← convertAll Command.restyle Sample.colouredCommands)
    return .list [.int all.length, all.headD .null, all.getLastD .null]
  | .sheet =>
    let records ← written (Sheet.convertCommands convert (sheetOf (cycle Sample.sheetCommands count)))
    return .list (← records.mapM fun record =>
      (record.get Sheet.convertedColumn).map (orNull .text))
  | .unanchored =>
    let records ← written (Sheet.listUnanchored "world" (sheetOf (cycle volumeCommands count)))
    return .int records.length
  | .equipment =>
    let forms ← (cycle Sample.equipment count).mapM fun s => equipmentForms s.toList
    return .list (forms.flatten ++ (← equipmentRound tables))
  | .colouredData =>
    let data ← convertAll (Style.upgradeData .entity) (cycle Sample.colouredData count)
    return .list (data ++ (← styleRound) ++ (← linkRound tables))

end Workload

end CommandUpgrade
