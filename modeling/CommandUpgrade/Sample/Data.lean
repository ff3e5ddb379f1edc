/-!
# Data to convert

Old selectors, data and names that the workloads convert.
-/

namespace CommandUpgrade.Sample

/-- Selectors, and a name that is none. -/
def selectors : List String := [
  "@e[type=Zombie,r=10,rm=2,c=-3,m=2,score_obj_min=1,score_obj=5]",
  "@a[x=1,y=64,z=-3,dx=4,dy=5,dz=6,rx=30,rxm=-30,ry=90,rym=-90]", "@r[type=Skeleton,c=2]", "@r",
  "@[type=Creeper,r=5]", "@p[r=10]", "@p[rm=3]", "@p[r=10,rm=3]", "@p[distance=7]",
  "@a[r=2,rm=10]", "@a[distance=3..]", "@a[r=a,rm=b]", "@a[rx=1]", "@a[rxm=1]", "@a[ry=1]",
  "@a[rym=1]", "@a[tag=foo,tag=!bar]", "@s", "plainName", "@a[nbt=\x7bOnGround:1b\x7d]"]

/-- The data of entities. -/
def entityData : List String := [
  "\x7bCustomName:\"§aBoss\",ArmorItems:[\x7b\x7d,\x7b\x7d,\x7b\x7d,\x7bid:\"minecraft:diamond" ++
  "_helmet\",Count:1b,tag:\x7bench:[\x7bid:0,lvl:4\x7d]\x7d\x7d],HandItems:[\x7bid:\"minecraft" ++
  ":diamond_sword\",Count:1b,tag:\x7bench:[\x7bid:16,lvl:5\x7d],display:\x7bName:\"§cBlade\",L" ++
  "ore:[\"§7Sharp\",\"§9Rare\"]\x7d\x7d\x7d,\x7b\x7d],ArmorDropChances:[0.0f,0.0f,0.0f,0.0f],H" ++
  "andDropChances:[0.0f,0.0f],ActiveEffects:[\x7bId:1,Amplifier:2,Duration:999999\x7d]\x7d",
  "\x7bBlock:\"minecraft:wool\",Data:14,Time:1,Passengers:[\x7bid:\"falling_block\",Block:\"mi" ++
  "necraft:stone\",Data:0,Time:1,ActiveEffects:[\x7bId:5,Amplifier:1,Duration:100\x7d]\x7d]" ++
  "\x7d",
  "\x7bInventory:[\x7bid:\"minecraft:golden_sword\",Count:1b,tag:\x7bdisplay:\x7bName:\"§eScep" ++
  "ter\",Lore:[\"§7A\",\"§9B\",\"\",\"§r§6Soulbound\"]\x7d\x7d\x7d]\x7d",
  "\x7bSelectedItem:\x7bid:\"minecraft:golden_sword\",tag:\x7bdisplay:\x7bName:\"§eScepter\",L" ++
  "ore:[\"§7A\",\"§9B\"]\x7d\x7d\x7d\x7d",
  "\x7bHandItems:[\x7bid:\"minecraft:skull\",Count:1b,Damage:3,tag:\x7bSkullOwner:\x7bId:\"abc" ++
  "\",Properties:\x7btextures:[\x7bValue:\"xyz\"\x7d]\x7d\x7d\x7d\x7d,\x7b\x7d]\x7d"]

/-- The data of items, with the names of the items. -/
def itemData : List (String × String) := [
  ("\x7bdisplay:\x7bName:\"§eHead\",Lore:[\"§7A\",\"§9B\",\"\",\"§6§lBold\"]\x7d,SkullOwner:" ++
   "\x7bId:\"abc\",Properties:\x7btextures:[\x7bValue:\"xyz\"\x7d]\x7d\x7d\x7d", "minecraft:player_head"),
  ("\x7bdisplay:\x7bName:\"§cBlade\",Lore:[\"§7Line1\",\"§r§6Reset\"]\x7d,ench:[\x7bid:16,lvl:" ++
   "5\x7d,\x7bid:34,lvl:3\x7d],Unbreakable:1b\x7d", "diamond_sword"),
  ("\x7bdisplay:\x7bName:\"Plain\"\x7d,HideFlags:63\x7d", "stone"),
  ("\x7bdisplay:\x7bLore:[\"one\",\"two\",\"three\"]\x7d\x7d", "stone")]

/-- Data of every kind of tag. -/
def mixedData : List String := [
  "\x7ba:1b,b:2s,c:3L,d:4.5f,e:6.7d,f:\"hi\",g:[1,2,3],h:[I;1,2,3],i:\x7bj:\"k\",l:[\x7bm:1" ++
  "\x7d,\x7bm:2\x7d]\x7d,n:'single'\x7d",
  "\x7bCustomName:\"§aHi\",ArmorItems:[\x7b\x7d,\x7b\x7d,\x7b\x7d,\x7bid:\"minecraft:x\",Count" ++
  ":1b\x7d],HandItems:[\x7bid:\"minecraft:y\"\x7d,\x7b\x7d],ArmorDropChances:[0.0f,0.0f,0.0f,0" ++
  ".0f],HandDropChances:[0.0f,0.0f]\x7d",
  "\x7bInventory:[\x7bSlot:0b,id:\"minecraft:stone\",Count:64b\x7d],SelectedItem:\x7bid:\"mine" ++
  "craft:dirt\",Count:1b\x7d\x7d",
  "\x7bempty:\x7b\x7d,list:[],str:\"with \\\"escape\\\"\",num:17\x7d"]

/-- Blocks, with their data values. -/
def blocks : List (String × String) := [
  ("stone", "0"), ("wool", "14"), ("stained_hardened_clay", "13"), ("35", "14"),
  ("1", "0"), ("minecraft:wool", "5"), ("stained_glass", "15"), ("skull", "3"),
  ("log", "1"), ("unknown_block_xyz", "0")]

def sounds : List String := [
  "mob.enderdragon.growl", "random.orb", "note.harp", "unknown.sound"]

def particles : List String := [
  "flame", "reddust", "smoke", "explode", "unknownp"]

/-- Commands that run several others. -/
def chains : List String := [
  "execute @a[m=2,r=50] ~ ~ ~ detect ~ ~-1 ~ stone 0 execute @e[type=Zombie,r=5] ~ ~ ~ detect " ++
  "~ ~ ~ wool 14 execute @s ~ ~ ~ say hi",
  "execute @p 10 64 -7 detect ~ ~ ~ stained_hardened_clay 13 testfor @s \x7bOnGround:1b\x7d"]

/-- A command that gives a head with a long text. -/
def headCommand : String :=
  "give @p[m=2,r=150,tag=waygate] minecraft:skull 1 3 \x7bdisplay:\x7bName:\"§eGate Stone§7\"," ++
  "Lore:[\"§7Charges: §e7§7/§e8\",\"\",\"§6Swap Item\",\"§7Use near a §eWaygate §7to begin\"," ++
  "\"§7a teleportation sequence.\",\"\",\"§7§oA smooth gem\",\"§7§oetched into it.\",\"§7§obet" ++
  "ween §e§oWaygates§7§o.\",\"\",\"§9Legendary Item\"]\x7d,SkullOwner:\x7bId:\"18d47163-dfe8-4" ++
  "159-95a3-d396c5022840\",Properties:\x7btextures:[\x7bValue:\"eyJ0ZXh0dXJlcyI6e319\"\x7d]" ++
  "\x7d\x7d\x7d"

/-- Texts with colour codes. -/
def colouredTexts : List String := [
  "§aGreen §lBold §rReset §9Blue", "§7Gray line", "plain", "§eYellow §bAqua", "§6§oItalic gold"]

/-- Commands with colour codes. -/
def colouredCommands : List String := [
  "summon Zombie ~ ~ ~ \x7bCustomName:\"§aHi\"\x7d",
  "give @p stone 1 0 \x7bdisplay:\x7bName:\"§aHi\"\x7d\x7d",
  "tellraw @a \x7b\"text\":\"§aHi\"\x7d", "title @a title \x7b\"text\":\"§aHi\"\x7d",
  "say §eHello"]

/-- The equipment of entities. -/
def equipment : List String := [
  "\x7bArmorItems:[\x7bid:\"minecraft:leather_boots\",Count:1b,tag:\x7bdisplay:\x7bcolor:83393" ++
  "78,Name:\"§cBoots\",Lore:[\"§7A\",\"§9B\"]\x7d\x7d\x7d,\x7b\x7d,\x7b\x7d,\x7bid:\"minecraft" ++
  ":skull\",Count:1b,Damage:3,tag:\x7bSkullOwner:\x7bId:\"abc\",Properties:\x7btextures:[\x7bV" ++
  "alue:\"xyz\"\x7d]\x7d\x7d\x7d\x7d],HandItems:[\x7bid:\"minecraft:diamond_sword\",Count:1b,t" ++
  "ag:\x7bdisplay:\x7bName:\"§eBlade\",Lore:[\"§7X\",\"plain\",\"\"]\x7d\x7d\x7d,\x7bid:\"mine" ++
  "craft:shield\",Count:1b\x7d],ArmorDropChances:[0.0f,0.1f,0.2f,0.3f],HandDropChances:[1.0f,0" ++
  ".5f],CustomName:\"§aBoss\"\x7d",
  "\x7bHandItems:[\x7b\x7d,\x7bid:\"minecraft:bow\",Count:1b,tag:\x7bdisplay:\x7bName:\"§bBow" ++
  "\"\x7d\x7d\x7d]\x7d"]

/-- Worn items, and one without a name. -/
def wornItems : List String := [
  "\x7bid:\"minecraft:leather_helmet\",Count:1b,tag:\x7bdisplay:\x7bcolor:123456,Name:\"§aHat" ++
  "\",Lore:[\"§7Fancy\",\"plain\",\"\"]\x7d\x7d\x7d",
  "\x7bid:\"skull\",Count:1b,Damage:3,tag:\x7bSkullOwner:\x7bId:\"x\",Properties:\x7btextures:" ++
  "[\x7bValue:\"v\"\x7d]\x7d\x7d\x7d\x7d",
  "\x7bid:bow,Count:1b\x7d", "\x7bCount:1b\x7d"]

/-- Data with names and lines that have colour codes. -/
def colouredData : List String := [
  "\x7bdisplay:\x7bName:\"§aHi\",Lore:[\"§7A\",\"§9B\"]\x7d\x7d"]

end CommandUpgrade.Sample
