import CommandUpgrade.Command.Convert

/-!
# The self test

Four commands with the form that each should take. The report shows every command, its conversion
and the expected form, and where the two part.
-/

namespace CommandUpgrade.SelfTest

open Text

/-- A command and the form that it should take. -/
structure Case where
  old : String
  new : String

/-- The commands of the test. -/
def cases : List Case := [
  { old :=
      "give @p[m=2,r=150,tag=waygate.activate8] minecraft:skull 1 3 \x7bdisplay:\x7bName:\"§eGate " ++
      "Stone§7\",Lore:[\"§7Charges: §e7§7/§e8\",\"\",\"§6Swap Item\",\"§7Use near a §eWaygate §7to " ++
      "begin\",\"§7a teleportation sequence.\",\"\",\"§7§oA smooth gem with magic sigils\",\"§7§oet" ++
      "ched into it. Used to travel\",\"§7§obetween §e§oWaygates§7§o.\",\"\",\"§9Legendary Item\"]" ++
      "\x7d,SkullOwner:\x7bId:\"18d47163-dfe8-4159-95a3-d396c5022840\",Properties:\x7btextures:[" ++
      "\x7bValue:\"eyJ0ZXh0dXJlcyI6eyJTS0lOIjp7InVybCI6Imh0dHA6Ly90ZXh0dXJlcy5taW5lY3JhZnQubmV0L3Rl" ++
      "eHR1cmUvYjliMWZiYjY4NTdkYWYyMWMxMjljYmExMzQ4ZWNjNWQ0ZWJhYzBjYjc4YThiMTMyYTkxODE2YWM0MzgwODhm" ++
      "MiJ9fX0=\"\x7d]\x7d\x7d\x7d"
    new :=
      "give @p[gamemode=adventure,tag=waygate.activate8,distance=..150] minecraft:player_head[mine" ++
      "craft:item_name=[\x7b\"text\":\"Gate Stone\",\"color\":\"yellow\",\"italic\":false\x7d,\x7b" ++
      "\"text\":\"\",\"color\":\"gray\",\"italic\":false\x7d],minecraft:lore=[[\x7b\"text\":\"Charg" ++
      "es: \",\"color\":\"gray\",\"italic\":false\x7d,\x7b\"text\":\"7\",\"color\":\"yellow\",\"ita" ++
      "lic\":false\x7d,\x7b\"text\":\"/\",\"color\":\"gray\",\"italic\":false\x7d,\x7b\"text\":\"8" ++
      "\",\"color\":\"yellow\",\"italic\":false\x7d],[\x7b\"text\":\"\",\"italic\":false\x7d],[\x7b" ++
      "\"text\":\"Swap Item\",\"color\":\"gold\",\"italic\":false\x7d],[\x7b\"text\":\"Use near a " ++
      "\",\"color\":\"gray\",\"italic\":false\x7d,\x7b\"text\":\"Waygate \",\"color\":\"yellow\",\"" ++
      "italic\":false\x7d,\x7b\"text\":\"to begin\",\"color\":\"gray\",\"italic\":false\x7d],[\x7b" ++
      "\"text\":\"a teleportation sequence.\",\"color\":\"gray\",\"italic\":false\x7d],[\x7b\"text" ++
      "\":\"\",\"italic\":false\x7d],[\x7b\"text\":\"A smooth gem with magic sigils\",\"color\":\"g" ++
      "ray\",\"italic\":true\x7d],[\x7b\"text\":\"etched into it. Used to travel\",\"color\":\"gray" ++
      "\",\"italic\":true\x7d],[\x7b\"text\":\"between \",\"color\":\"gray\",\"italic\":true\x7d," ++
      "\x7b\"text\":\"Waygates\",\"color\":\"yellow\",\"italic\":true\x7d,\x7b\"text\":\".\",\"colo" ++
      "r\":\"gray\",\"italic\":true\x7d],[\x7b\"text\":\"\",\"italic\":false\x7d],[\x7b\"text\":\"L" ++
      "egendary Item\",\"color\":\"blue\",\"italic\":false\x7d]],minecraft:profile=\x7bproperties:[" ++
      "\x7bname:\"textures\",value:\"eyJ0ZXh0dXJlcyI6eyJTS0lOIjp7InVybCI6Imh0dHA6Ly90ZXh0dXJlcy5taW" ++
      "5lY3JhZnQubmV0L3RleHR1cmUvYjliMWZiYjY4NTdkYWYyMWMxMjljYmExMzQ4ZWNjNWQ0ZWJhYzBjYjc4YThiMTMyYT" ++
      "kxODE2YWM0MzgwODhmMiJ9fX0=\"\x7d]\x7d] 1" },
  { old :=
      "give @p golden_sword 1 23 \x7bdisplay:\x7bName:\"§eUsurper's Scepter\",Lore:[\"§7Radiates a " ++
      "strange aura that grants\",\"§7access to unauthorized domains.\",\"\",\"§9Dungeon Item\",\"§" ++
      "r§6Soulbound\"]\x7d\x7d"
    new :=
      "give @p golden_sword[custom_name=\x7b\"text\": \"Usurper's Scepter\", \"color\": \"yellow\"" ++
      ", \"italic\": false\x7d,lore=[\x7b\"text\": \"Radiates a strange aura that grants\", \"color" ++
      "\": \"gray\", \"italic\": false\x7d, \x7b\"text\": \"access to unauthorized domains.\", \"co" ++
      "lor\": \"gray\", \"italic\": false\x7d, \x7b\"text\": \"\", \"italic\": false\x7d, \x7b\"tex" ++
      "t\": \"Dungeon Item\", \"color\": \"blue\", \"italic\": false\x7d, \x7b\"text\": \"Soulbound" ++
      "\", \"color\": \"gold\", \"italic\": false\x7d],damage=23] 1" },
  { old :=
      "scoreboard players tag @a[m=2,tag=!dcsHasSword,r=300] add dcsHasSword \x7bInventory:[\x7bid" ++
      ":\"minecraft:golden_sword\",tag:\x7bdisplay:\x7bName:\"§eUsurper's Scepter\",Lore:[\"§7Radia" ++
      "tes a strange aura that grants\",\"§7access to unauthorized domains.\",\"\",\"§9Dungeon Item" ++
      "\",\"§r§6Soulbound\"]\x7d\x7d\x7d]\x7d"
    new :=
      "tag @a[gamemode=adventure,tag=!dcsHasSword,distance=..300,nbt=\x7bInventory:[\x7bid:\"minec" ++
      "raft:golden_sword\",components:\x7b\"minecraft:custom_name\":\x7b\"color\":\"yellow\",\"ital" ++
      "ic\":false,\"text\":\"Usurper's Scepter\"\x7d,\"minecraft:lore\":[\x7b\"color\":\"gray\",\"i" ++
      "talic\":false,\"text\":\"Radiates a strange aura that grants\"\x7d,\x7b\"color\":\"gray\",\"" ++
      "italic\":false,\"text\":\"access to unauthorized domains.\"\x7d,\x7b\"text\":\"\",\"italic\"" ++
      ":false\x7d,\x7b\"color\":\"blue\",\"italic\":false,\"text\":\"Dungeon Item\"\x7d,\x7b\"color" ++
      "\":\"gold\",\"italic\":false,\"text\":\"Soulbound\"\x7d]\x7d\x7d]\x7d] add dcsHasSword" },
  { old :=
      "execute @a[m=2,r=100] ~ ~ ~ detect ~ 173 ~ stained_hardened_clay 13 testfor @s \x7bSelected" ++
      "Item:\x7bid:\"minecraft:golden_sword\",tag:\x7bdisplay:\x7bName:\"§eUsurper's Scepter\",Lore" ++
      ":[\"§7Radiates a strange aura that grants\",\"§7access to unauthorized domains.\",\"\",\"§9D" ++
      "ungeon Item\",\"§r§6Soulbound\"]\x7d\x7d\x7d\x7d"
    new :=
      "execute as @a[gamemode=adventure,distance=..100] at @s positioned ~ ~ ~ if block ~ 173 ~ mi" ++
      "necraft:green_terracotta run execute if entity @s[nbt=\x7bSelectedItem:\x7bid:\"minecraft:go" ++
      "lden_sword\",components:\x7b\"minecraft:custom_name\":\x7b\"color\":\"yellow\",\"italic\":fa" ++
      "lse,\"text\":\"Usurper's Scepter\"\x7d,\"minecraft:lore\":[\x7b\"color\":\"gray\",\"italic\"" ++
      ":false,\"text\":\"Radiates a strange aura that grants\"\x7d,\x7b\"color\":\"gray\",\"italic" ++
      "\":false,\"text\":\"access to unauthorized domains.\"\x7d,\x7b\"color\":\"blue\",\"italic\":" ++
      "false,\"text\":\"Dungeon Item\"\x7d,\x7b\"color\":\"gold\",\"italic\":false,\"text\":\"Soulb" ++
      "ound\"\x7d]\x7d,count:1\x7d\x7d]" }]

/-- A line across the report. -/
def rule : Text := List.replicate 80 '='

/-- The first position at which two texts of equal start differ, where both have a character. -/
def firstDifference? : Text → Text → Option Nat
  | a :: s, b :: t => if a = b then (firstDifference? s t).map (· + 1) else some 0
  | _, _ => none

/-- The lines on where a conversion parts from the expected form. -/
def differences (converted expected : Text) : List Text :=
  let lengths : List Text :=
    if converted.length = expected.length then []
    else ["  - Length: converted=" ++ ofNat converted.length ++ ", expected=" ++
      ofNat expected.length]
  lengths ++
    match firstDifference? converted expected with
    | some i =>
      let start := i - 50
      let stop := min converted.length (i + 50)
      ["  - First difference at position " ++ ofNat i ++ ":",
        "    Converted: ..." ++ slice start stop converted ++ "...",
        "    Expected:  ..." ++ slice start stop expected ++ "..."]
    | none =>
      if expected.length < converted.length then
        ["  - Converted is longer by " ++ ofNat (converted.length - expected.length) ++
          " characters",
          "    Extra: " ++ converted.drop expected.length]
      else
        ["  - Expected is longer by " ++ ofNat (expected.length - converted.length) ++
          " characters",
          "    Missing: " ++ expected.drop converted.length]

/-- Whether a conversion has the expected form. -/
def passes (convert : Text → Outcome Text) (test : Case) : Bool :=
  match convert test.old with
  | .ok converted => converted == test.new.toList
  | .error _ => false

/-- The lines on the outcome of a case. -/
def outcomeLines (convert : Text → Outcome Text) (test : Case) : List Text :=
  match convert test.old with
  | .error fault => ["[ERROR] " ++ fault.message]
  | .ok converted =>
    ["CONVERTED (1.21.10):".toList, converted, [], "EXPECTED (1.21.10):".toList, test.new.toList,
      []] ++
      if converted = test.new.toList then ["[PASS] Output matches expected".toList]
      else
        ["[FAIL] Output does not match expected".toList, [], "DIFFERENCES:".toList] ++
          differences converted test.new

/-- The lines on a case. -/
def caseLines (convert : Text → Outcome Text) (number : Nat) (test : Case) : List Text :=
  [rule, "TEST CASE " ++ ofNat number, rule, [], "ORIGINAL (1.12):".toList, test.old.toList, []] ++
    outcomeLines convert test ++ [[], []]

/-- The report of the test. -/
def report (convert : Text → Outcome Text) : List Text :=
  let passed := (cases.filter (passes convert)).length
  (cases.zipIdx 1).flatMap (fun (test, number) => caseLines convert number test) ++
    [rule, "SUMMARY: " ++ ofNat passed ++ " passed, " ++ ofNat (cases.length - passed) ++
      " failed out of " ++ ofNat cases.length ++ " tests", rule]

end CommandUpgrade.SelfTest
