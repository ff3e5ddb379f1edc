/-!
# Entity names

The sheet of entity names: the old name and the new one.
-/

namespace CommandUpgrade.Table.Standard

/-- Old and new entity names. -/
def entitySheet : String := "original,converted
area_effect_cloud,area_effect_cloud
armor_stand,armor_stand
arrow,arrow
bat,bat
blaze,blaze
boat,oak_boat
cave_spider,cave_spider
chest_minecart,chest_minecart
chicken,chicken
commandblock_minecart,command_block_minecart
cow,cow
creeper,creeper
donkey,donkey
dragon_fireball,dragon_fireball
egg,egg
elder_guardian,elder_guardian
ender_crystal,end_crystal
ender_dragon,ender_dragon
ender_pearl,ender_pearl
enderman,enderman
endermite,endermite
evocation_fangs,evoker_fangs
evocation_illager,evoker
eye_of_ender_signal,eye_of_ender
falling_block,falling_block
fireball,fireball
fireworks_rocket,firework_rocket
furnace_minecart,furnace_minecart
ghast,ghast
giant,giant
guardian,guardian
hopper_minecart,hopper_minecart
horse,horse
husk,husk
illusion_illager,illusioner
item,item
item_frame,item_frame
leash_knot,leash_knot
lightning_bolt,lightning_bolt
llama,llama
llama_spit,llama_spit
magma_cube,magma_cube
minecart,minecart
mooshroom,mooshroom
mule,mule
ocelot,ocelot
painting,painting
parrot,parrot
pig,pig
polar_bear,polar_bear
potion,potion
rabbit,rabbit
sheep,sheep
shulker,shulker
shulker_bullet,shulker_bullet
silverfish,silverfish
skeleton,skeleton
skeleton_horse,skeleton_horse
slime,slime
small_fireball,small_fireball
snowball,snowball
snowman,snow_golem
spawner_minecart,spawner_minecart
spectral_arrow,spectral_arrow
spider,spider
squid,squid
stray,stray
tnt,tnt
tnt_minecart,tnt_minecart
vex,vex
villager,villager
villager_golem,iron_golem
vindication_illager,vindicator
witch,witch
wither,wither
wither_skeleton,wither_skeleton
wither_skull,wither_skull
wolf,wolf
xp_bottle,experience_bottle
xp_orb,experience_orb
zombie,zombie
zombie_horse,zombie_horse
zombie_pigman,zombified_piglin
zombie_villager,zombie_villager
"

end CommandUpgrade.Table.Standard
