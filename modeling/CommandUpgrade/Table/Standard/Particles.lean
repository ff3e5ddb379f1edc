/-!
# Particle names

The sheet of particle names: the old name and the new one.
-/

namespace CommandUpgrade.Table.Standard

/-- Old and new particle names. -/
def particleSheet : String := "1.12_particle,1.20_particle
angryVillager,angry_villager
barrier,block_marker
blockcrack,block
blockdust,block
bubble,bubble
cloud,cloud
crit,crit
damageIndicator,damage_indicator
depthsuspend,suspended
dragonbreath,dragon_breath
dripLava,dripping_lava
dripWater,dripping_water
droplet,dripping_water
enchantmenttable,enchant
endRod,end_rod
explode,explosion
fallingdust,falling_dust
fireworksSpark,firework
flame,flame
footstep,poof
happyVillager,happy_villager
heart,heart
hugeexplosion,explosion
ironcrack,block
instantSpell,instant_effect
largeexplode,explosion
largesmoke,large_smoke
lava,lava
magicCrit,enchanted_hit
mobSpell,entity_effect
mobSpellAmbient,entity_effect
mobappearance,entity_effect
note,note
portal,portal
reddust,dust
slime,item_slime
smoke,smoke
snowballpoof,item_snowball
snowshovel,poof
spell,effect
spit,spit
splash,splash
suspended,suspended
sweepAttack,sweep_attack
take,poof
totem,totem_of_undying
townaura,trail
wake,poof
witchMagic,witch "

end CommandUpgrade.Table.Standard
