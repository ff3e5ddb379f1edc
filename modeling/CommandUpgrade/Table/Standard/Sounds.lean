/-!
# Sound names

The old name of each sound and the new one.
-/

namespace CommandUpgrade.Table.Standard

/-- Sounds of one source that keep their names. -/
def kept (source : String) (names : List String) : String × String × List String :=
  (source, source, names)

/-- The sounds by source: its old name, its new name and the ends that both have. -/
def soundsBySource : List (String × String × List String) := [
  kept "ambient" [".cave"],
  kept "block.anvil" [".break", ".destroy", ".fall", ".hit", ".land", ".place", ".step", ".use"],
  kept "block.brewing_stand" [".brew"], kept "block.chest" [".close", ".locked", ".open"],
  kept "block.chorus_flower" [".death", ".grow"],
  ("block.cloth", "block.wool", [".break", ".fall", ".hit", ".place", ".step"]),
  kept "block.comparator" [".click"], kept "block.dispenser" [".dispense", ".fail", ".launch"],
  kept "block.enchantment_table" [".use"], kept "block.end_gateway" [".spawn"],
  kept "block.end_portal" [".spawn"], kept "block.end_portal_frame" [".fill"],
  ("block.enderchest", "block.ender_chest", [".close", ".open"]),
  kept "block.fence_gate" [".close", ".open"], kept "block.fire" [".ambient", ".extinguish"],
  kept "block.furnace" [".fire_crackle"],
  kept "block.glass" [".break", ".fall", ".hit", ".place", ".step"],
  kept "block.grass" [".break", ".fall", ".hit", ".place", ".step"],
  kept "block.gravel" [".break", ".fall", ".hit", ".place", ".step"],
  kept "block.iron_door" [".close", ".open"], kept "block.iron_trapdoor" [".close", ".open"],
  kept "block.ladder" [".break", ".fall", ".hit", ".place", ".step"],
  kept "block.lava" [".ambient", ".extinguish", ".pop"], kept "block.lever" [".click"],
  kept "block.metal" [".break", ".fall", ".hit", ".place", ".step"],
  ("block.metal_pressureplate", "block.metal_pressure_plate", [".click_off", ".click_on"]),
  ("block.note", "block.note_block", [".basedrum", ".bass", ".bell", ".chime", ".flute",
    ".guitar", ".harp", ".hat", ".pling", ".snare", ".xylophone"]),
  kept "block.piston" [".contract", ".extend"],
  kept "block.portal" [".ambient", ".travel", ".trigger"], kept "block.redstone_torch" [".burnout"],
  kept "block.sand" [".break", ".fall", ".hit", ".place", ".step"],
  kept "block.shulker_box" [".close", ".open"],
  ("block.slime", "block.slime_block", [".break", ".fall", ".hit", ".place", ".step"]),
  kept "block.snow" [".break", ".fall", ".hit", ".place", ".step"],
  kept "block.stone" [".break", ".fall", ".hit", ".place", ".step"],
  kept "block.stone_button" [".click_off", ".click_on"],
  ("block.stone_pressureplate", "block.stone_pressure_plate", [".click_off", ".click_on"]),
  kept "block.tripwire" [".attach", ".click_off", ".click_on", ".detach"],
  kept "block.water" [".ambient"], ("block.waterlily", "block.lily_pad", [".place"]),
  kept "block.wood" [".break", ".fall", ".hit", ".place", ".step"],
  ("block.wood_button", "block.wooden_button", [".click_off", ".click_on"]),
  ("block.wood_pressureplate", "block.wooden_pressure_plate", [".click_off", ".click_on"]),
  kept "block.wooden_door" [".close", ".open"], kept "block.wooden_trapdoor" [".close", ".open"],
  kept "enchant.thorns" [".hit"],
  ("entity.armorstand", "entity.armor_stand", [".break", ".fall", ".hit", ".place"]),
  kept "entity.arrow" [".hit", ".hit_player", ".shoot"],
  kept "entity.bat" [".ambient", ".death", ".hurt", ".loop", ".takeoff"],
  kept "entity.blaze" [".ambient", ".burn", ".death", ".hurt", ".shoot"],
  kept "entity.boat" [".paddle_land", ".paddle_water"],
  ("entity.bobber", "entity.fishing_bobber", [".retrieve", ".splash", ".throw"]),
  kept "entity.cat" [".ambient", ".death", ".hiss", ".hurt", ".purr", ".purreow"],
  kept "entity.chicken" [".ambient", ".death", ".egg", ".hurt", ".step"],
  kept "entity.cow" [".ambient", ".death", ".hurt", ".milk", ".step"],
  kept "entity.creeper" [".death", ".hurt", ".primed"],
  kept "entity.donkey" [".ambient", ".angry", ".chest", ".death", ".hurt"],
  kept "entity.egg" [".throw"],
  kept "entity.elder_guardian" [".ambient", ".ambient_land", ".curse", ".death", ".death_land",
    ".flop", ".hurt", ".hurt_land"],
  ("entity.enderdragon", "entity.ender_dragon", [".ambient", ".death", ".flap", ".growl",
    ".hurt", ".shoot"]), ("entity.enderdragon_fireball", "entity.dragon_fireball", [".explode"]),
  ("entity.endereye", "entity.ender_eye", [".death", ".launch"]),
  ("entity.endermen", "entity.enderman", [".ambient", ".death", ".hurt", ".scream", ".stare",
    ".teleport"]), kept "entity.endermite" [".ambient", ".death", ".hurt", ".step"],
  ("entity.enderpearl", "entity.ender_pearl", [".throw"]),
  ("entity.evocation_fangs", "entity.evoker_fangs", [".attack"]),
  ("entity.evocation_illager", "entity.evoker", [".ambient", ".cast_spell", ".death", ".hurt",
    ".prepare_attack", ".prepare_summon", ".prepare_wololo"]),
  kept "entity.experience_bottle" [".throw"], kept "entity.experience_orb" [".pickup"],
  ("entity.firework", "entity.firework_rocket", [".blast", ".blast_far", ".large_blast",
    ".large_blast_far", ".launch", ".shoot", ".twinkle", ".twinkle_far"]),
  kept "entity.generic" [".big_fall", ".burn", ".death", ".drink", ".eat", ".explode",
    ".extinguish_fire", ".hurt", ".small_fall", ".splash", ".swim"],
  kept "entity.ghast" [".ambient", ".death", ".hurt", ".scream", ".shoot", ".warn"],
  kept "entity.guardian" [".ambient", ".ambient_land", ".attack", ".death", ".death_land",
    ".flop", ".hurt", ".hurt_land"],
  kept "entity.horse" [".ambient", ".angry", ".armor", ".breathe", ".death", ".eat", ".gallop",
    ".hurt", ".jump", ".land", ".saddle", ".step", ".step_wood"],
  kept "entity.hostile" [".big_fall", ".death", ".hurt", ".small_fall", ".splash", ".swim"],
  kept "entity.husk" [".ambient", ".death", ".hurt", ".step"],
  ("entity.illusion_illager", "entity.illusioner", [".ambient", ".cast_spell", ".death",
    ".hurt", ".mirror_move", ".prepare_blindness", ".prepare_mirror"]),
  ("entity.irongolem", "entity.iron_golem", [".attack", ".death", ".hurt", ".step"]),
  kept "entity.item" [".break", ".pickup"],
  ("entity.itemframe", "entity.item_frame", [".add_item", ".break", ".place", ".remove_item",
    ".rotate_item"]), ("entity.leashknot", "entity.leash_knot", [".break", ".place"]),
  ("entity.lightning", "entity.lightning_bolt", [".impact", ".thunder"]),
  ("entity.lingeringpotion", "entity.lingering_potion", [".throw"]),
  kept "entity.llama" [".ambient", ".angry", ".chest", ".death", ".eat", ".hurt", ".spit",
    ".step", ".swag"],
  ("entity.magmacube", "entity.magma_cube", [".death", ".hurt", ".jump", ".squish"]),
  kept "entity.minecart" [".inside", ".riding"], kept "entity.mooshroom" [".shear"],
  kept "entity.mule" [".ambient", ".chest", ".death", ".hurt"],
  kept "entity.painting" [".break", ".place"],
  kept "entity.parrot" [".ambient", ".death", ".eat", ".fly", ".hurt"],
  kept "entity.parrot.imitate" [".blaze", ".creeper", ".elder_guardian"],
  ("entity.parrot.imitate.enderdragon", "entity.parrot.imitate.ender_dragon", [""]),
  kept "entity.parrot.imitate" [".enderman", ".endermite"],
  ("entity.parrot.imitate.evocation_illager", "entity.parrot.imitate.evoker", [""]),
  kept "entity.parrot.imitate" [".ghast", ".husk"],
  ("entity.parrot.imitate.illusion_illager", "entity.parrot.imitate.illusioner", [""]),
  ("entity.parrot.imitate.magmacube", "entity.parrot.imitate.magma_cube", [""]),
  kept "entity.parrot.imitate" [".polar_bear", ".shulker", ".silverfish", ".skeleton", ".slime",
    ".spider", ".stray", ".vex"],
  ("entity.parrot.imitate.vindication_illager", "entity.parrot.imitate.vindicator", [""]),
  kept "entity.parrot.imitate" [".witch", ".wither", ".wither_skeleton", ".wolf", ".zombie"],
  ("entity.parrot.imitate.zombie_pigman", "entity.parrot.imitate.zombie_villager", [""]),
  kept "entity.parrot.imitate" [".zombie_villager"], kept "entity.parrot" [".step"],
  kept "entity.pig" [".ambient", ".death", ".hurt", ".saddle", ".step"],
  kept "entity.player.attack" [".crit", ".knockback", ".nodamage", ".strong", ".sweep", ".weak"],
  kept "entity.player" [".big_fall", ".breath", ".burp", ".death", ".hurt", ".hurt_drown",
    ".hurt_on_fire", ".levelup", ".small_fall", ".splash", ".swim"],
  kept "entity.polar_bear" [".ambient"],
  ("entity.polar_bear.baby_ambient", "entity.polar_bear.ambient_baby", [""]),
  kept "entity.polar_bear" [".death", ".hurt", ".step", ".warning"],
  kept "entity.rabbit" [".ambient", ".attack", ".death", ".hurt", ".jump"],
  kept "entity.sheep" [".ambient", ".death", ".hurt", ".shear", ".step"],
  kept "entity.shulker" [".ambient", ".close", ".death", ".hurt", ".hurt_closed", ".open",
    ".shoot", ".teleport"], kept "entity.shulker_bullet" [".hit", ".hurt"],
  kept "entity.silverfish" [".ambient", ".death", ".hurt", ".step"],
  kept "entity.skeleton" [".ambient", ".death", ".hurt", ".shoot", ".step"],
  kept "entity.skeleton_horse" [".ambient", ".death", ".hurt"],
  kept "entity.slime" [".attack", ".death", ".hurt", ".jump", ".squish"],
  ("entity.small_magmacube.death", "entity.magma_cube.death_small", [""]),
  ("entity.small_magmacube.hurt", "entity.magma_cube.hurt_small", [""]),
  ("entity.small_magmacube.squish", "entity.magma_cube.squish_small", [""]),
  ("entity.small_slime.death", "entity.slime.death_small", [""]),
  ("entity.small_slime.hurt", "entity.slime.hurt_small", [""]),
  ("entity.small_slime.jump", "entity.slime.jump_small", [""]),
  ("entity.small_slime.squish", "entity.slime.squish_small", [""]),
  kept "entity.snowball" [".throw"],
  ("entity.snowman", "entity.snow_golem", [".ambient", ".death", ".hurt", ".shoot"]),
  kept "entity.spider" [".ambient", ".death", ".hurt", ".step"],
  kept "entity.splash_potion" [".break", ".throw"],
  kept "entity.squid" [".ambient", ".death", ".hurt"],
  kept "entity.stray" [".ambient", ".death", ".hurt", ".step"], kept "entity.tnt" [".primed"],
  kept "entity.vex" [".ambient", ".charge", ".death", ".hurt"],
  kept "entity.villager" [".ambient", ".death", ".hurt", ".no"],
  ("entity.villager.trading", "entity.villager.trade", [""]), kept "entity.villager" [".yes"],
  ("entity.vindication_illager", "entity.vindicator", [".ambient", ".death", ".hurt"]),
  kept "entity.witch" [".ambient", ".death", ".drink", ".hurt", ".throw"],
  kept "entity.wither" [".ambient", ".break_block", ".death", ".hurt", ".shoot", ".spawn"],
  kept "entity.wither_skeleton" [".ambient", ".death", ".hurt", ".step"],
  kept "entity.wolf" [".ambient", ".death", ".growl", ".howl", ".hurt", ".pant", ".shake",
    ".step", ".whine"], kept "entity.zombie" [".ambient"],
  ("entity.zombie.attack_door_wood", "entity.zombie.attack_wooden_door", [""]),
  kept "entity.zombie" [".attack_iron_door"],
  ("entity.zombie.break_door_wood", "entity.zombie.break_wooden_door", [""]),
  kept "entity.zombie" [".death", ".hurt", ".infect", ".step"],
  kept "entity.zombie_horse" [".ambient", ".death", ".hurt"],
  ("entity.zombie_pig", "entity.zombified_piglin", [".ambient", ".angry", ".death", ".hurt"]),
  kept "entity.zombie_villager" [".ambient", ".converted", ".cure", ".death", ".hurt", ".step"],
  kept "item.armor" [".equip_chain", ".equip_diamond", ".equip_elytra", ".equip_generic",
    ".equip_gold", ".equip_iron", ".equip_leather"],
  kept "item.bottle" [".empty", ".fill", ".fill_dragonbreath"],
  kept "item.bucket" [".empty", ".empty_lava", ".fill", ".fill_lava"],
  kept "item.chorus_fruit" [".teleport"], kept "item.elytra" [".flying"],
  kept "item.firecharge" [".use"], kept "item.flintandsteel" [".use"], kept "item.hoe" [".till"],
  kept "item.shield" [".block", ".break"], kept "item.shovel" [".flatten"],
  kept "item.totem" [".use"],
  kept "music" [".creative", ".credits", ".dragon", ".end", ".game", ".menu"],
  ("music.nether", "music.nether.nether_wastes", [""]),
  ("record", "music_disc", [".11", ".13", ".blocks", ".cat", ".chirp", ".far", ".mall",
    ".mellohi", ".stal", ".strad", ".wait", ".ward"]), kept "ui.button" [".click"],
  kept "ui.toast" [".challenge_complete", ".in", ".out"], kept "weather" [".rain"],
  ("weather.rain.above", "weather.rain.above ", [""])]

/-- The sheet of sound names: the old name and the new one. -/
def soundSheet : String :=
  "\n".intercalate ("1.12_sound,1.20_sound" :: soundsBySource.flatMap fun (old, new, names) =>
    names.map fun name => "minecraft:" ++ old ++ name ++ "," ++ new ++ name)

end CommandUpgrade.Table.Standard
