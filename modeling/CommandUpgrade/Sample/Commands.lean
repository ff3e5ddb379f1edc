/-!
# Commands to convert

Old commands of every verb, whole and cut short, by kind.
-/

namespace CommandUpgrade.Sample

/-- Commands on the targets of a selector. -/
def targetCommands : List String := [
  "kill @e[type=Zombie,r=10,rm=2,c=-3,m=2]", "kill @e[type=Creeper,c=5,m=s]", "kill @r",
  "kill @r[type=Skeleton,c=2]", "kill @[type=Zombie,r=5]", "kill @a[x=1,y=2,z=3,dx=4,dy=5,dz=6]",
  "kill @a[rx=30,rxm=-30,ry=90,rym=-90]", "kill @a[rx=30]", "kill @a[rxm=-30]", "kill @a[ry=90]",
  "kill @a[rym=-90]", "kill @a[score_obj_min=1,score_obj=5]", "kill @a[r=10]", "kill @a[rm=3]",
  "kill @a[r=10,rm=3]", "kill @a[distance=7]", "kill @a[r=2,rm=10]", "kill @a[r=a,rm=b]",
  "kill @a[distance=3..]", "kill @a[nbt=\x7bOnGround:1b\x7d]", "kill notASelector"]

/-- Commands on tags. -/
def tagCommands : List String := [
  "tag @a[tag=foo] add bar", "tag @a[tag=foo] remove bar",
  "tag @a[tag=foo] add bar \x7bOnGround:1b\x7d", "tag @a add bar \x7bOnGround:1b\x7d",
  "tag @a list", "tag @a mytag \x7bOnGround:1b\x7d", "tag @a[tag=foo] mytag \x7bOnGround:1b\x7d",
  "tag @a mytag", "tag @a add", "tag @a", "tag"]

/-- Commands that say, move and show titles. -/
def messageCommands : List String := [
  "say hello world", "say", "tp @p ~ ~1 ~", "tp @p ~ ~1 ~ 90 0", "tp @p @e[type=ArmorStand,c=1]",
  "tp", "teleport @p 1 2 3", "title @a title \x7b\"text\":\"§aHi\"\x7d",
  "title @a subtitle \x7b\"text\":\"sub\"\x7d", "title @a actionbar \x7b\"text\":\"ab\"\x7d",
  "title @a times 1 2 3", "title @a", "tellraw @a \x7b\"text\":\"§bHello\"\x7d", "tellraw @a"]

/-- Commands on effects and sounds. -/
def effectCommands : List String := [
  "effect @p minecraft:speed 30 2", "effect @p minecraft:speed 0", "effect @p",
  "playsound mob.enderdragon.growl master @a ~ ~ ~ 1 1 0", "playsound random.orb master @a",
  "playsound note.harp master @a ~ ~ ~", "playsound x"]

/-- Commands on scores. -/
def scoreCommands : List String := [
  "scoreboard players add @a obj 1", "scoreboard players set @a obj 5",
  "scoreboard players test @a obj 1 5", "scoreboard players test @a obj 1",
  "scoreboard players test @a obj", "scoreboard players reset @a obj",
  "scoreboard players tag @a add foo", "scoreboard players tag @a add foo \x7bOnGround:1b\x7d",
  "scoreboard players tag @a", "scoreboard players", "scoreboard objectives add obj dummy",
  "scoreboard"]

/-- Commands of other kinds. -/
def otherCommands : List String := [
  "clone 0 0 0 5 5 5 10 10 10", "clone 0 0 0 5 5 5 10 10 10 replace", "clone 0 0 0",
  "unknowncmd @a[r=5] ~ ~ ~", "", "/kill @e"]

/-- Commands on blocks. -/
def blockCommands : List String := [
  "setblock ~ ~ ~ stone", "setblock ~ ~ ~ wool 14", "setblock ~ ~ ~ wool 14 replace",
  "setblock ~ ~ ~ wool 14 replace \x7ba:1\x7d",
  "setblock 1 2 3 minecraft:chest 0 replace \x7bItems:[]\x7d", "fill ~ ~ ~ ~5 ~5 ~5 stone 0",
  "fill ~ ~ ~ ~5 ~5 ~5 wool 14 replace stone 0", "fill ~ ~ ~ ~5 ~5 ~5 wool 14 keep",
  "fill 0 0 0 1 1 1 stone", "testforblock ~ ~ ~ stone",
  "testforblock ~ ~ ~ wool 14 \x7bfoo:1\x7d", "testforblock ~ ~ ~ stone 0",
  "blockdata ~ ~ ~ minecraft:chest \x7bItems:[]\x7d", "blockdata ~ ~ ~ stone", "blockdata",
  "project 0,1,0,stained_glass,15,10;0,2,0,wool,14;trailing text", "project 0,1,0,stone;",
  "project 0,1,0,stone,5;", "clock 0,1,0,wool,14,5; extra", "script 0,1,0,stone;bad", "project"]

/-- Commands on particles. -/
def particleCommands : List String := [
  "particle reddust ~ ~ ~ 1 0 0 1 0 force @a",
  "particle reddust ~ ~ ~ 0.5 0.5 0.5 -1.5 5 normal @a", "particle reddust ~ ~ ~ 1 0 0 1",
  "particle blockdust ~ ~ ~ 0 0 0 0 10 normal @a 4097", "particle blockdust ~ ~ ~ 0 0 0 0 10 1",
  "particle flame ~ ~ ~ 0 0 0 0.1 10 normal @a", "particle smoke ~ ~ ~ 0 0 0 0.1 5", "particle"]

/-- Commands that summon. -/
def summonCommands : List String := [
  "summon Zombie ~ ~ ~ \x7bCustomName:\"§aBoss\",ArmorItems:[\x7b\x7d,\x7b\x7d,\x7b\x7d,\x7bid" ++
  ":\"minecraft:diamond_helmet\",Count:1b,tag:\x7bench:[\x7bid:0,lvl:4\x7d]\x7d\x7d],HandItems" ++
  ":[\x7bid:\"minecraft:diamond_sword\",Count:1b,tag:\x7bench:[\x7bid:16,lvl:5\x7d],display:" ++
  "\x7bName:\"§cBlade\",Lore:[\"§7Sharp\"]\x7d\x7d\x7d,\x7b\x7d],ArmorDropChances:[0.0f,0.0f,0" ++
  ".0f,0.0f],HandDropChances:[0.0f,0.0f],ActiveEffects:[\x7bId:1,Amplifier:2,Duration:999999" ++
  "\x7d]\x7d",
  "summon falling_block ~ ~ ~ \x7bBlock:\"minecraft:stone\",Data:0,Time:1,Passengers:[\x7bid:" ++
  "\"falling_block\",Block:\"minecraft:wool\",Data:14,Time:1\x7d]\x7d",
  "summon Item ~ ~ ~ \x7bItem:\x7bid:\"minecraft:skull\",Damage:3,Count:1b,tag:\x7bSkullOwner:" ++
  "\x7bId:\"abc\",Properties:\x7btextures:[\x7bValue:\"xyz\"\x7d]\x7d\x7d\x7d\x7d\x7d",
  "summon ArmorStand ~ ~ ~ \x7bCustomName:\"Stand\",Invisible:1b,Marker:1b\x7d",
  "summon villager ~ ~ ~ \x7bOffers:\x7bRecipes:[\x7bbuy:\x7bid:emerald,Count:1\x7d,sell:\x7bi" ++
  "d:diamond_sword,Count:1,tag:\x7bdisplay:\x7bName:\"§eSword\"\x7d\x7d\x7d\x7d]\x7d\x7d",
  "summon Zombie", "summon"]

/-- Commands that look at the data of entities, or change it. -/
def dataCommands : List String := [
  "testfor @a \x7bInventory:[\x7bid:\"minecraft:diamond_sword\",Count:1b,tag:\x7bdisplay:\x7bN" ++
  "ame:\"§eSword\",Lore:[\"§7Line1\",\"§9Line2\"]\x7d\x7d\x7d]\x7d",
  "testfor @a \x7bSelectedItem:\x7bid:\"minecraft:golden_sword\",tag:\x7bdisplay:\x7bName:\"§e" ++
  "Scepter\",Lore:[\"§7A\",\"§9B\"]\x7d\x7d\x7d\x7d",
  "testfor @a", "testfor",
  "entitydata @e[type=ArmorStand] \x7bCustomName:\"§aHi\",Fuse:80,MaxHeatlh:20\x7d",
  "entitydata @e", "entitydata"]

/-- Commands on items. -/
def itemCommands : List String := [
  "give @p minecraft:skull 1 3 \x7bdisplay:\x7bName:\"§eHead\",Lore:[\"§7A\",\"§9B\"]\x7d,Skul" ++
  "lOwner:\x7bId:\"abc\",Properties:\x7btextures:[\x7bValue:\"xyz\"\x7d]\x7d\x7d\x7d",
  "give @p golden_sword 1 23 \x7bdisplay:\x7bName:\"§eBlade\",Lore:[\"§7X\",\"\",\"§9Y\"]\x7d" ++
  "\x7d",
  "give @p diamond_sword\x7bdisplay:\x7bName:\"Inline\"\x7d\x7d 1",
  "give @p diamond_sword[custom_name=\"Already\"]", "give @p stone 5 2", "give @p stone 5",
  "give @p stone", "give @p", "give",
  "clear @p skull 3 1 \x7bdisplay:\x7bName:\"§eHead\"\x7d\x7d",
  "clear @p diamond_sword\x7bdisplay:\x7bName:\"Inline\"\x7d\x7d",
  "clear @p diamond_sword[custom_name=\"Already\"] 1",
  "clear @p diamond_sword 0 5 \x7bdisplay:\x7bName:\"X\"\x7d\x7d", "clear @p stone 2",
  "clear @p stone 2 3", "clear @p", "clear"]

/-- Commands that run others. -/
def executeCommands : List String := [
  "execute @a[m=2,r=100] ~ ~ ~ detect ~ ~-1 ~ stone 0 say hi",
  "execute @a[m=2] ~ ~1 ~ execute @e[type=Zombie,r=5] ~ ~ ~ detect ~ ~-1 ~ wool 14 kill @s",
  "execute @p ~ ~ ~ say hi", "execute @p 1 2 3 say hi",
  "execute @p ~ ~ ~ detect ~ 173 ~ stained_hardened_clay 13 testfor @s \x7bSelectedItem:\x7bid" ++
  ":\"minecraft:golden_sword\",tag:\x7bdisplay:\x7bName:\"§eX\"\x7d\x7d\x7d\x7d",
  "execute @a ~ ~ ~", "execute"]

/-- The commands of every kind. -/
def commands : List String :=
  targetCommands ++ tagCommands ++ messageCommands ++ effectCommands ++ scoreCommands ++
    otherCommands ++ blockCommands ++ particleCommands ++ summonCommands ++ dataCommands ++
    itemCommands ++ executeCommands

/-- The commands of a sheet: of every kind but one. -/
def sheetCommands : List String :=
  targetCommands ++ tagCommands ++ messageCommands ++ effectCommands ++ scoreCommands ++
    otherCommands ++ blockCommands ++ particleCommands ++ summonCommands ++ itemCommands ++
    executeCommands

end CommandUpgrade.Sample
