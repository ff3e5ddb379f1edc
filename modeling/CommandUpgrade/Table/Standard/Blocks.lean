/-!
# Block names

The sheet of block names: number, data value, the two old names and the new one.
-/

namespace CommandUpgrade.Table.Standard

/-- Old and new block names, some rows in each part. -/
def blockSheetParts : List String := [
"id,data,block,raw_block,conversion name
0,0,air,air,air
1,0,stone,stone,stone
1,1,stone,stone,granite
1,2,stone,stone,polished_granite
1,3,stone,stone,diorite
1,4,stone,stone,polished_diorite
1,5,stone,stone,andesite
1,6,stone,stone,polished_andesite
2,0,grass,grass,grass_block
3,0,dirt,dirt,dirt
3,1,dirt,dirt,coarse_dirt
3,2,dirt,dirt,podzol
4,0,cobblestone,cobblestone,cobblestone
5,0,planks,planks,oak_planks
5,1,spruce_wood_plank,planks,spruce_planks
5,2,birch_wood_plank,planks,birch_planks
5,3,jungle_wood_plank,planks,jungle_planks
5,4,acacia_wood_plank,planks,acacia_planks
5,5,dark_oak_wood_plank,planks,dark_oak_planks
6,0,sapling,sapling,oak_sapling
6,1,spruce_sapling,sapling,spruce_sapling
6,2,birch_sapling,sapling,birch_sapling
6,3,jungle_sapling,sapling,jungle_sapling
6,4,acacia_sapling,sapling,acacia_sapling
6,5,dark_oak_sapling,sapling,dark_oak_sapling
7,0,bedrock,bedrock,bedrock
8,0,flowing_water,flowing_water,flowing_water
9,0,still_water,still_water,water
10,0,flowing_lava,flowing_lava,flowing_lava
11,0,still_lava,still_lava,lava
12,0,sand,sand,sand
12,1,red_sand,sand,red_sand
13,0,gravel,gravel,gravel
14,0,gold_ore,gold_ore,gold_ore
15,0,iron_ore,iron_ore,iron_ore
16,0,coal_ore,coal_ore,coal_ore
17,0,log,log,oak_log
17,1,spruce_wood,log,spruce_log
17,2,birch_wood,log,birch_log
17,3,jungle_wood,log,jungle_log
18,0,leaves,leaves,oak_leaves
18,1,spruce_leaves,leaves,spruce_leaves
18,2,birch_leaves,leaves,birch_leaves
18,3,jungle_leaves,leaves,jungle_leaves
",
"19,0,sponge,sponge,sponge
19,1,wet_sponge,sponge,wet_sponge
20,0,glass,glass,glass
21,0,lapis_lazuli_ore,lapis_lazuli_ore,lapis_ore
22,0,lapis_lazuli_block,lapis_lazuli_block,lapis_block
23,0,dispenser,dispenser,dispenser
24,0,sandstone,sandstone,sandstone
24,1,chiseled_sandstone,sandstone,chiseled_sandstone
24,2,smooth_sandstone,sandstone,cut_sandstone
25,0,note_block,note_block,note_block
26,0,bed,bed,bed
27,0,powered_rail,powered_rail,powered_rail
28,0,detector_rail,detector_rail,detector_rail
29,0,sticky_piston,sticky_piston,sticky_piston
30,0,cobweb,cobweb,cobweb
31,0,dead_shrub,dead_shrub,dead_bush
31,1,grass,dead_shrub,grass
31,2,fern,dead_shrub,fern
32,0,dead_bush,dead_bush,dead_bush
33,0,piston,piston,piston
34,0,piston_head,piston_head,piston_head
35,0,wool,wool,white_wool
35,1,wool,wool,orange_wool
35,2,wool,wool,magenta_wool
35,3,wool,wool,light_blue_wool
35,4,wool,wool,yellow_wool
35,5,wool,wool,lime_wool
35,6,wool,wool,pink_wool
35,7,wool,wool,gray_wool
35,8,wool,wool,light_gray_wool
35,9,wool,wool,cyan_wool
35,10,wool,wool,purple_wool
35,11,wool,wool,blue_wool
35,12,wool,wool,brown_wool
35,13,wool,wool,green_wool
35,14,wool,wool,red_wool
35,15,wool,wool,black_wool
37,0,yellow_flower,yellow_flower,dandelion
38,0,red_flower,red_flower,poppy
38,1,blue_orchid,red_flower,blue_orchid
38,2,allium,red_flower,allium
38,3,azure_bluet,red_flower,azure_bluet
38,4,red_tulip,red_flower,red_tulip
38,5,orange_tulip,red_flower,orange_tulip
",
"38,6,white_tulip,red_flower,white_tulip
38,7,pink_tulip,red_flower,pink_tulip
38,8,oxeye_daisy,red_flower,oxeye_daisy
39,0,brown_mushroom,brown_mushroom,brown_mushroom
40,0,red_mushroom,red_mushroom,red_mushroom
41,0,gold_block,gold_block,gold_block
42,0,iron_block,iron_block,iron_block
43,0,double_stone_slab,double_stone_slab,stone_slab[type=double]
43,1,double_sandstone_slab,double_stone_slab,sandstone_slab[type=double]
43,2,double_wooden_slab,double_stone_slab,wooden_slab[type=double]
43,3,double_cobblestone_slab,double_stone_slab,cobblestone_slab[type=double]
43,4,double_brick_slab,double_stone_slab,brick_slab[type=double]
43,5,double_stone_brick_slab,double_stone_slab,stone_brick_slab[type=double]
43,6,double_nether_brick_slab,double_stone_slab,nether_brick_slab[type=double]
43,7,double_quartz_slab,double_stone_slab,quartz_slab[type=double]
44,0,stone_slab,stone_slab,stone_slab
44,1,sandstone_slab,stone_slab,sandstone_slab
44,2,wooden_slab,stone_slab,wooden_slab
44,3,cobblestone_slab,stone_slab,cobblestone_slab
44,4,brick_slab,stone_slab,brick_slab
44,5,stone_brick_slab,stone_slab,stone_brick_slab
44,6,nether_brick_slab,stone_slab,nether_brick_slab
44,7,quartz_slab,stone_slab,quartz_slab
45,0,bricks,bricks,bricks
46,0,tnt,tnt,tnt 
47,0,bookshelf,bookshelf,bookshelf
48,0,moss_stone,moss_stone,mossy_cobblestone
49,0,obsidian,obsidian,obsidian
50,0,torch,torch,torch
51,0,fire,fire,fire
52,0,monster_spawner,monster_spawner,spawner
",
"53,0,oak_wood_stairs,oak_wood_stairs,oak_stairs
54,0,chest,chest,chest
55,0,redstone_wire,redstone_wire,redstone_wire
56,0,diamond_ore,diamond_ore,diamond_ore
57,0,diamond_block,diamond_block,diamond_block
58,0,crafting_table,crafting_table,crafting_table
59,0,wheat_crops,wheat_crops,wheat
60,0,farmland,farmland,farmland
61,0,furnace,furnace,furnace
63,0,standing_sign_block,standing_sign_block,oak_sign
64,0,oak_door_block,oak_door_block,oak_door
65,0,ladder,ladder,ladder
66,0,rail,rail,rail
67,0,cobblestone_stairs,cobblestone_stairs,cobblestone_stairs
69,0,lever,lever,lever
70,0,stone_pressure_plate,stone_pressure_plate,stone_pressure_plate
71,0,iron_door_block,iron_door_block,iron_door
72,0,wooden_pressure_plate,wooden_pressure_plate,oak_pressure_plate
73,0,redstone_ore,redstone_ore,redstone_ore
76,0,redstone_torch_(on),redstone_torch_(on),redstone_torch
77,0,stone_button,stone_button,stone_button
78,0,snow,snow,snow
79,0,ice,ice,ice
80,0,snow_block,snow_block,snow_block
81,0,cactus,cactus,cactus
82,0,clay,clay,clay
83,0,sugar_canes,sugar_canes,sugar_cane
84,0,jukebox,jukebox,jukebox
85,0,oak_fence,oak_fence,oak_fence
86,0,pumpkin,pumpkin,carved:pumpkin
87,0,netherrack,netherrack,netherrack
88,0,soul_sand,soul_sand,soul_sand
89,0,glowstone,glowstone,glowstone
90,0,nether_portal,nether_portal,nether_portal
91,0,jack_o'lantern,jack_o'lantern,jack_o_lantern
92,0,cake_block,cake_block,cake
93,0,redstone_repeater_block_(off),redstone_repeater_block_(off),repeater
",
"94,0,redstone_repeater_block_(on),redstone_repeater_block_(on),repeater
95,0,stained_glass,stained_glass,white_stained_glass
95,1,orange_stained_glass,stained_glass,orange_stained_glass
95,2,magenta_stained_glass,stained_glass,magenta_stained_glass
95,3,light_blue_stained_glass,stained_glass,light_blue_stained_glass
95,4,yellow_stained_glass,stained_glass,yellow_stained_glass
95,5,lime_stained_glass,stained_glass,lime_stained_glass
95,6,pink_stained_glass,stained_glass,pink_stained_glass
95,7,gray_stained_glass,stained_glass,gray_stained_glass
95,8,light_gray_stained_glass,stained_glass,light_gray_stained_glass
95,9,cyan_stained_glass,stained_glass,cyan_stained_glass
95,10,purple_stained_glass,stained_glass,purple_stained_glass
95,11,blue_stained_glass,stained_glass,blue_stained_glass
95,12,brown_stained_glass,stained_glass,brown_stained_glass
95,13,green_stained_glass,stained_glass,green_stained_glass
95,14,red_stained_glass,stained_glass,red_stained_glass
95,15,black_stained_glass,stained_glass,black_stained_glass
96,0,wooden_trapdoor,wooden_trapdoor,oak_trapdoor
97,0,monster_egg,monster_egg,infested_stone
97,1,cobblestone_monster_egg,monster_egg,infested_cobblestone
97,2,stone_brick_monster_egg,monster_egg,infested_stone_brick
97,3,mossy_stone_brick_monster_egg,monster_egg,infested_mossy_stone_brick
97,4,cracked_stone_brick_monster_egg,monster_egg,infested_cracked_stone_brick
97,5,chiseled_stone_brick_monster_egg,monster_egg,infested_chiseled_stone_brick
",
"98,0,stonebrick,stonebrick,stone_brick
98,1,mossy_stone_bricks,stonebrick,mossy_stone_brick
98,2,cracked_stone_bricks,stonebrick,cracked_stone_brick
98,3,chiseled_stone_bricks,stonebrick,chiseled_stone_brick
99,0,brown_mushroom_block,brown_mushroom_block,brown_mushroom_block
100,0,red_mushroom_block,red_mushroom_block,red_mushroom_block
101,0,iron_bars,iron_bars,iron_bars
102,0,glass_pane,glass_pane,glass_pane
103,0,melon_block,melon_block,melon_block
104,0,pumpkin_stem,pumpkin_stem,pumpkin_stem
105,0,melon_stem,melon_stem,melon_stem
106,0,vines,vines,vines
107,0,oak_fence_gate,oak_fence_gate,oak_gate
108,0,brick_stairs,brick_stairs,brick_stairs
109,0,stone_brick_stairs,stone_brick_stairs,stone_brick_stairs
110,0,mycelium,mycelium,mycelium
111,0,lily_pad,lily_pad,lily_pad
112,0,nether_brick,nether_brick,nether_brick
113,0,nether_brick_fence,nether_brick_fence,nether_brick_fence
114,0,nether_brick_stairs,nether_brick_stairs,nether_brick_stairs
115,0,nether_wart,nether_wart,nether_wart
116,0,enchantment_table,enchantment_table,enchanting_table
117,0,brewing_stand,brewing_stand,brewing_stand
118,0,cauldron,cauldron,cauldron
119,0,end_portal,end_portal,end_portal
120,0,end_portal_frame,end_portal_frame,end_portal_frame
121,0,end_stone,end_stone,end_stone
122,0,dragon_egg,dragon_egg,dragon_egg
123,0,redstone_lamp_(inactive),redstone_lamp_(inactive),redstone_lamp
124,0,redstone_lamp_(active),redstone_lamp_(active),lit_redstone_lamp
",
"125,0,double_wood_slab,double_wood_slab,oak_slab[type=double]
125,1,double_spruce_wood_slab,double_wood_slab,spruce_slab[type=double]
125,2,double_birch_wood_slab,double_wood_slab,birch_slab[type=double]
125,3,double_jungle_wood_slab,double_wood_slab,jungle_slab[type=double]
125,4,double_acacia_wood_slab,double_wood_slab,acacia_slab[type=double]
125,5,double_dark_oak_wood_slab,double_wood_slab,dark_oak_slab[type=double]
126,0,wood_slab,wood_slab,oak_slab
126,1,spruce_wood_slab,wood_slab,spruce_slab
126,2,birch_wood_slab,wood_slab,birch_slab
126,3,jungle_wood_slab,wood_slab,jungle_slab
126,4,acacia_wood_slab,wood_slab,acacia_slab
126,5,dark_oak_wood_slab,wood_slab,dark_slab
127,0,cocoa,cocoa,cocoa
128,0,sandstone_stairs,sandstone_stairs,sandstone_stairs
129,0,emerald_ore,emerald_ore,emerald_ore
130,0,ender_chest,ender_chest,ender_chest
131,0,tripwire_hook,tripwire_hook,tripwire_hook
133,0,emerald_block,emerald_block,emerald_block
134,0,spruce_wood_stairs,spruce_wood_stairs,spruce_stairs
135,0,birch_wood_stairs,birch_wood_stairs,birch_stairs
136,0,jungle_wood_stairs,jungle_wood_stairs,jungle_stairs
137,0,command_block,command_block,command_block
138,0,beacon,beacon,beacon
139,0,cobblestone_wall,cobblestone_wall,cobblestone_wall
139,1,mossy_cobblestone_wall,cobblestone_wall,mossy_cobblestone_wall
140,0,flower_pot,flower_pot,flower_pot
141,0,carrot,carrot,carrot
142,0,potato,potato,potato
143,0,wooden_button,wooden_button,oak_button
145,0,anvil,anvil,anvil
",
"146,0,trapped_chest,trapped_chest,trapped_chest
147,0,weighted_pressure_plate_(light),weighted_pressure_plate_(light),light_weighted_pressure_plate
148,0,weighted_pressure_plate_(heavy),weighted_pressure_plate_(heavy),heave_weighted_pressure_plate
149,0,redstone_comparator_(inactive),redstone_comparator_(inactive),comparator
150,0,redstone_comparator_(active),redstone_comparator_(active),comparator
151,0,daylight_sensor,daylight_sensor,daylight_detector
152,0,redstone_block,redstone_block,redstone_block
153,0,nether_quartz_ore,nether_quartz_ore,nether_quartz_ore
154,0,hopper,hopper,hopper
155,0,quartz_block,quartz_block,quartz_block
155,1,chiseled_quartz_block,quartz_block,chiseled_quartz_block
155,2,pillar_quartz_block,quartz_block,quartz_pillar
156,0,quartz_stairs,quartz_stairs,quartz_stairs
157,0,activator_rail,activator_rail,activator_rail
158,0,dropper,dropper,dropper
159,0,stained_hardened_clay,stained_hardened_clay,white_terracotta
159,1,stained_hardened_clay,stained_hardened_clay,orange_terracotta
159,2,stained_hardened_clay,stained_hardened_clay,magenta_terracotta
159,3,stained_hardened_clay,stained_hardened_clay,light_blue_terracotta
159,4,stained_hardened_clay,stained_hardened_clay,yellow_terracotta
159,5,stained_hardened_clay,stained_hardened_clay,lime_terracotta
159,6,stained_hardened_clay,stained_hardened_clay,pink_terracotta
159,7,stained_hardened_clay,stained_hardened_clay,gray_terracotta
159,8,stained_hardened_clay,stained_hardened_clay,light_gray_terracotta
",
"159,9,stained_hardened_clay,stained_hardened_clay,cyan_terracotta
159,10,stained_hardened_clay,stained_hardened_clay,purple_terracotta
159,11,stained_hardened_clay,stained_hardened_clay,blue_terracotta
159,12,stained_hardened_clay,stained_hardened_clay,brown_terracotta
159,13,stained_hardened_clay,stained_hardened_clay,green_terracotta
159,14,stained_hardened_clay,stained_hardened_clay,red_terracotta
159,15,stained_hardened_clay,stained_hardened_clay,black_terracotta
160,0,stained_glass_pane,stained_glass_pane,white_stained_glass_pane
160,1,stained_glass_pane,stained_glass_pane,orange_stained_glass_pane
160,2,stained_glass_pane,stained_glass_pane,magenta_stained_glass_pane
160,3,stained_glass_pane,stained_glass_pane,light_blue_stained_glass_pane
160,4,stained_glass_pane,stained_glass_pane,yellow_stained_glass_pane
160,5,stained_glass_pane,stained_glass_pane,lime_stained_glass_pane
160,6,stained_glass_pane,stained_glass_pane,pink_stained_glass_pane
160,7,stained_glass_pane,stained_glass_pane,gray_stained_glass_pane
160,8,stained_glass_pane,stained_glass_pane,light_gray_stained_glass_pane
160,9,stained_glass_pane,stained_glass_pane,cyan_stained_glass_pane
160,10,stained_glass_pane,stained_glass_pane,purple_stained_glass_pane
160,11,stained_glass_pane,stained_glass_pane,blue_stained_glass_pane
160,12,stained_glass_pane,stained_glass_pane,brown_stained_glass_pane
160,13,stained_glass_pane,stained_glass_pane,green_stained_glass_pane
",
"160,14,stained_glass_pane,stained_glass_pane,red_stained_glass_pane
160,15,stained_glass_pane,stained_glass_pane,black_stained_glass_pane
161,0,leaves2,leaves2,acacia_leaves
161,1,dark_oak_leaves,leaves2,dark_oak_leaves
162,0,log2,log2,acacia_log
162,1,dark_oak_wood,log2,dark_oak_log
163,0,acacia_stairs,acacia_stairs,acacia_wood_stair
164,0,dark_oak_stairs,dark_oak_stairs,dark_oak_wood_stair
165,0,slime_block,slime_block,slime_block
166,0,barrier,barrier,barrier
167,0,iron_trapdoor,iron_trapdoor,iron_trapdoor
168,0,prismarine,prismarine,prismarine
168,1,prismarine_bricks,prismarine,prismarine_bricks
168,2,dark_prismarine,prismarine,dark_prismarine
169,0,sea_lantern,sea_lantern,sea_lantern
170,0,hay_bale,hay_bale,hay_block
171,0,carpet,carpet,white_carpet
171,1,orange_carpet,carpet,orange_carpet
171,2,magenta_carpet,carpet,magenta_carpet
171,3,light_blue_carpet,carpet,light_blue_carpet
171,4,yellow_carpet,carpet,yellow_carpet
171,5,lime_carpet,carpet,lime_carpet
171,6,pink_carpet,carpet,pink_carpet
171,7,gray_carpet,carpet,gray_carpet
171,8,light_gray_carpet,carpet,light_gray_carpet
171,9,cyan_carpet,carpet,cyan_carpet
171,10,purple_carpet,carpet,purple_carpet
171,11,blue_carpet,carpet,blue_carpet
171,12,brown_carpet,carpet,brown_carpet
171,13,green_carpet,carpet,green_carpet
171,14,red_carpet,carpet,red_carpet
171,15,black_carpet,carpet,black_carpet
172,0,hardened_clay,hardened_clay,terracotta
173,0,block_of_coal,block_of_coal,coal_block
",
"174,0,packed_ice,packed_ice,packed_ice
175,0,double_plant,double_plant,sunflower
175,1,lilac,double_plant,lilac
175,2,double_tallgrass,double_plant,tall_grass
175,3,large_fern,double_plant,large_fern
175,4,rose_bush,double_plant,rose_bush
175,5,peony,double_plant,peony
178,0,inverted_daylight_sensor,inverted_daylight_sensor,daylight_detector[inverted=true]
179,0,red_sandstone,red_sandstone,red_sandstone
179,1,chiseled_red_sandstone,red_sandstone,chiseled_red_sandstone
179,2,smooth_red_sandstone,red_sandstone,smooth_red_sandstone
180,0,red_sandstone_stairs,red_sandstone_stairs,red_sandstone_stairs
181,0,double_stone_slab2,double_stone_slab3,red_sandstone
181,1,double_stone_slab2,double_stone_slab2,red_sandstone
181,2,double_stone_slab2,double_stone_slab1,red_sandstone
181,3,double_stone_slab2,double_stone_slab0,red_sandstone
181,4,double_stone_slab2,double_stone_slab1,red_sandstone
181,5,double_stone_slab2,double_stone_slab2,red_sandstone
181,6,double_stone_slab2,double_stone_slab3,red_sandstone
181,7,double_stone_slab2,double_stone_slab3,smooth_red_sandstone
181,8,double_stone_slab2,double_stone_slab4,smooth_red_sandstone
181,9,double_stone_slab2,double_stone_slab5,smooth_red_sandstone
181,10,double_stone_slab2,double_stone_slab6,smooth_red_sandstone
181,11,double_stone_slab2,double_stone_slab7,smooth_red_sandstone
181,12,double_stone_slab2,double_stone_slab8,smooth_red_sandstone
181,13,double_stone_slab2,double_stone_slab9,smooth_red_sandstone
",
"181,14,double_stone_slab2,double_stone_slab10,smooth_red_sandstone
181,15,double_stone_slab2,double_stone_slab11,smooth_red_sandstone
182,0,stone_slab2,stone_slab2,red_sandstone_slab
183,0,spruce_fence_gate,spruce_fence_gate,spruce_fence_gate
184,0,birch_fence_gate,birch_fence_gate,birch_fence_gate
185,0,jungle_fence_gate,jungle_fence_gate,jungle_fence_gate
186,0,dark_oak_fence_gate,dark_oak_fence_gate,dark_oak_fence_gate
187,0,acacia_fence_gate,acacia_fence_gate,acacia_fence_gate
188,0,spruce_fence,spruce_fence,spruce_fence
189,0,birch_fence,birch_fence,birch_fence
190,0,jungle_fence,jungle_fence,jungle_fence
191,0,dark_oak_fence,dark_oak_fence,dark_oak_fence
192,0,acacia_fence,acacia_fence,acacia_fence
193,0,spruce_door_block,spruce_door_block,spruce_door
194,0,birch_door_block,birch_door_block,birch_door
195,0,jungle_door_block,jungle_door_block,jungle_door
196,0,acacia_door_block,acacia_door_block,acacia_door
197,0,dark_oak_door_block,dark_oak_door_block,dark_oak_door
198,0,end_rod,end_rod,end_rod
199,0,chorus_plant,chorus_plant,chorus_plant
200,0,chorus_flower,chorus_flower,chorus_flower
201,0,purpur_block,purpur_block,purpur_block
202,0,purpur_pillar,purpur_pillar,purpur_pillar
203,0,purpur_stairs,purpur_stairs,purpur_stairs
204,0,purpur_double_slab,purpur_double_slab,purpur_slab[type=double]
205,0,purpur_slab,purpur_slab,purpur_slab
206,0,end_stone_bricks,end_stone_bricks,end_stone_bricks
207,0,beetroot_block,beetroot_block,beetroots
",
"208,0,grass_path,grass_path,dirt_path
209,0,end_gateway,end_gateway,end_gateway
210,0,repeating_command_block,repeating_command_block,repeating_command_block
211,0,chain_command_block,chain_command_block,chain_command_block
213,0,magma,magma_block,magma_block
214,0,nether_wart_block,nether_wart_block,nether_wart_block
215,0,red_nether_brick,red_nether_brick,red_nether_bricks
216,0,bone_block,bone_block,bone_block
217,0,structure_void,structure_void,structure_void
218,0,observer,observer,observer
219,0,white_shulker_box,white_shulker_box,white_shulker_box
220,0,orange_shulker_box,orange_shulker_box,orange_shulker_box
221,0,magenta_shulker_box,magenta_shulker_box,magenta_shulker_box
222,0,light_blue_shulker_box,light_blue_shulker_box,light_blue_shulker_box
223,0,yellow_shulker_box,yellow_shulker_box,yellow_shulker_box
224,0,lime_shulker_box,lime_shulker_box,lime_shulker_box
225,0,pink_shulker_box,pink_shulker_box,pink_shulker_box
226,0,gray_shulker_box,gray_shulker_box,gray_shulker_box
227,0,light_gray_shulker_box,light_gray_shulker_box,light_gray_shulker_box
228,0,cyan_shulker_box,cyan_shulker_box,cyan_shulker_box
229,0,purple_shulker_box,purple_shulker_box,purple_shulker_box
230,0,blue_shulker_box,blue_shulker_box,blue_shulker_box
231,0,brown_shulker_box,brown_shulker_box,brown_shulker_box
232,0,green_shulker_box,green_shulker_box,green_shulker_box
233,0,red_shulker_box,red_shulker_box,red_shulker_box
234,0,black_shulker_box,black_shulker_box,black_shulker_box
",
"235,0,white_glazed_terracotta,white_glazed_terracotta,white_glazed_terracotta
236,0,orange_glazed_terracotta,orange_glazed_terracotta,orange_glazed_terracotta
237,0,magenta_glazed_terracotta,magenta_glazed_terracotta,magenta_glazed_terracotta
238,0,light_blue_glazed_terracotta,light_blue_glazed_terracotta,light_blue_glazed_terracotta
239,0,yellow_glazed_terracotta,yellow_glazed_terracotta,yellow_glazed_terracotta
240,0,lime_glazed_terracotta,lime_glazed_terracotta,lime_glazed_terracotta
241,0,pink_glazed_terracotta,pink_glazed_terracotta,pink_glazed_terracotta
242,0,gray_glazed_terracotta,gray_glazed_terracotta,gray_glazed_terracotta
243,0,light_gray_glazed_terracotta,light_gray_glazed_terracotta,light_gray_glazed_terracotta
244,0,cyan_glazed_terracotta,cyan_glazed_terracotta,cyan_glazed_terracotta
245,0,purple_glazed_terracotta,purple_glazed_terracotta,purple_glazed_terracotta
246,0,blue_glazed_terracotta,blue_glazed_terracotta,blue_glazed_terracotta
247,0,brown_glazed_terracotta,brown_glazed_terracotta,brown_glazed_terracotta
248,0,green_glazed_terracotta,green_glazed_terracotta,green_glazed_terracotta
249,0,red_glazed_terracotta,red_glazed_terracotta,red_glazed_terracotta
250,0,black_glazed_terracotta,black_glazed_terracotta,black_glazed_terracotta
251,0,concrete,concrete,white_concrete
251,1,orange_concrete,concrete,orange_concrete
251,2,magenta_concrete,concrete,magenta_concrete
251,3,light_blue_concrete,concrete,light_blue_concrete
",
"251,4,yellow_concrete,concrete,yellow_concrete
251,5,lime_concrete,concrete,lime_concrete
251,6,pink_concrete,concrete,pink_concrete
251,7,gray_concrete,concrete,gray_concrete
251,8,light_gray_concrete,concrete,light_gray_concrete
251,9,cyan_concrete,concrete,cyan_concrete
251,10,purple_concrete,concrete,pueple_concrete
251,11,blue_concrete,concrete,blue_concrete
251,12,brown_concrete,concrete,brown_concrete
251,13,green_concrete,concrete,green_concrete
251,14,red_concrete,concrete,red_concrete
251,15,black_concrete,concrete,black_concrete
252,0,concrete_powder,concrete_powder,white_concrete_powder
252,1,orange_concrete_powder,concrete_powder,orange_concrete_powder
252,2,magenta_concrete_powder,concrete_powder,magenta_concrete_powder
252,3,light_blue_concrete_powder,concrete_powder,light_blue_concrete_powder
252,4,yellow_concrete_powder,concrete_powder,yellow_concrete_powder
252,5,lime_concrete_powder,concrete_powder,lime_concrete_powder
252,6,pink_concrete_powder,concrete_powder,pink_concrete_powder
252,7,gray_concrete_powder,concrete_powder,gray_concrete_powder
252,8,light_gray_concrete_powder,concrete_powder,light_gray_concrete_powder
252,9,cyan_concrete_powder,concrete_powder,cyan_concrete_powder
252,10,purple_concrete_powder,concrete_powder,pueple_concrete_powder
252,11,blue_concrete_powder,concrete_powder,blue_concrete_powder
252,12,brown_concrete_powder,concrete_powder,brown_concrete_powder
252,13,green_concrete_powder,concrete_powder,green_concrete_powder
",
"252,14,red_concrete_powder,concrete_powder,red_concrete_powder
252,15,black_concrete_powder,concrete_powder,black_concrete_powder
255,0,structure_block,structure_block,structure_block
256,0,iron_shovel,iron_shovel,iron_shovel
257,0,iron_pickaxe,iron_pickaxe,iron_pickaxe
258,0,iron_axe,iron_axe,iron_axe
259,0,flint_and_steel,flint_and_steel,flint_and_steel
260,0,apple,apple,apple
261,0,bow,bow,bow
262,0,arrow,arrow,arrow
263,0,coal,coal,coal
263,1,charcoal,coal,charcoal
264,0,diamond,diamond,diamond
265,0,iron_ingot,iron_ingot,iron_ingot
266,0,gold_ingot,gold_ingot,gold_ingot
267,0,iron_sword,iron_sword,iron_sword
268,0,wooden_sword,wooden_sword,wooden_sword
269,0,wooden_shovel,wooden_shovel,wooden_shovel
270,0,wooden_pickaxe,wooden_pickaxe,wooden_pickaxe
271,0,wooden_axe,wooden_axe,wooden_axe
272,0,stone_sword,stone_sword,stone_sword
273,0,stone_shovel,stone_shovel,stone_shovel
274,0,stone_pickaxe,stone_pickaxe,stone_pickaxe
275,0,stone_axe,stone_axe,stone_axe
276,0,diamond_sword,diamond_sword,diamond_sword
277,0,diamond_shovel,diamond_shovel,diamond_shovel
278,0,diamond_pickaxe,diamond_pickaxe,diamond_pickaxe
279,0,diamond_axe,diamond_axe,diamond_axe
280,0,stick,stick,stick
281,0,bowl,bowl,bowl
282,0,mushroom_stew,mushroom_stew,mushroom_stew
283,0,golden_sword,golden_sword,golden_sword
284,0,golden_shovel,golden_shovel,golden_shovel
285,0,golden_pickaxe,golden_pickaxe,golden_pickaxe
286,0,golden_axe,golden_axe,golden_axe
287,0,string,string,string
",
"288,0,feather,feather,feather
289,0,gunpowder,gunpowder,gunpowder
290,0,wooden_hoe,wooden_hoe,wooden_hoe
291,0,stone_hoe,stone_hoe,stone_hoe
292,0,iron_hoe,iron_hoe,iron_hoe
293,0,diamond_hoe,diamond_hoe,diamond_hoe
294,0,golden_hoe,golden_hoe,golden_hoe
295,0,wheat_seeds,wheat_seeds,wheat_seeds
296,0,wheat,wheat,wheat
297,0,bread,bread,bread
298,0,leather_helmet,leather_helmet,leather_helmet
299,0,leather_tunic,leather_tunic,leather_chestplate
300,0,leather_pants,leather_pants,leather_leggings
301,0,leather_boots,leather_boots,leather_boots
302,0,chainmail_helmet,chainmail_helmet,chainmail_helmet
303,0,chainmail_chestplate,chainmail_chestplate,chainmail_chestplate
304,0,chainmail_leggings,chainmail_leggings,chainmail_leggings
305,0,chainmail_boots,chainmail_boots,chainmail_boots
306,0,iron_helmet,iron_helmet,iron_helmet
307,0,iron_chestplate,iron_chestplate,iron_chestplate
308,0,iron_leggings,iron_leggings,iron_leggings
309,0,iron_boots,iron_boots,iron_boots
310,0,diamond_helmet,diamond_helmet,diamond_helmet
311,0,diamond_chestplate,diamond_chestplate,diamond_chestplate
312,0,diamond_leggings,diamond_leggings,diamond_leggings
313,0,diamond_boots,diamond_boots,diamond_boots
314,0,golden_helmet,golden_helmet,golden_helmet
315,0,golden_chestplate,golden_chestplate,golden_chestplate
316,0,golden_leggings,golden_leggings,golden_leggings
317,0,golden_boots,golden_boots,golden_boots
318,0,flint,flint,flint
319,0,raw_porkchop,raw_porkchop,porkchop
",
"320,0,cooked_porkchop,cooked_porkchop,cooked_porkchop
321,0,painting,painting,painting
322,0,golden_apple,golden_apple,golden_apple
322,1,enchanted_golden_apple,golden_apple,enchanted_apple
323,0,sign,sign,sign
324,0,oak_door,oak_door,oak_door
325,0,bucket,bucket,bucket
326,0,water_bucket,water_bucket,water_bucket
327,0,lava_bucket,lava_bucket,lava_bucket
328,0,minecart,minecart,minecart
329,0,saddle,saddle,saddle
330,0,iron_door,iron_door,iron_door
331,0,redstone,redstone,redstone
332,0,snowball,snowball,snowball
333,0,oak_boat,oak_boat,oak_boat
334,0,leather,leather,leather
335,0,milk_bucket,milk_bucket,milk_bucket
336,0,brick,brick,brick
337,0,clay,clay,clay
338,0,sugar_canes,sugar_canes,sugar_cane
339,0,paper,paper,paper
340,0,book,book,book
341,0,slimeball,slimeball,slimeball
342,0,minecart_with_chest,minecart_with_chest,chest_minecart
343,0,minecart_with_furnace,minecart_with_furnace,furnace_minecart
344,0,egg,egg,egg
345,0,compass,compass,compass
346,0,fishing_rod,fishing_rod,fishing_rod
347,0,clock,clock,clock
348,0,glowstone_dust,glowstone_dust,glowstone_dust
349,0,raw_fish,raw_fish,raw_bush
349,1,raw_salmon,raw_fish,raw_bush
349,2,clownfish,raw_fish,clownfish
349,3,pufferfish,raw_fish,pufferfish
350,0,cooked_fish,cooked_fish,cooked_cod
350,1,cooked_salmon,cooked_fish,cooked_salmon
351,0,dye,dye,ink_sac
351,1,rose_red,dye,red_dye
351,2,cactus_green,dye,green_dye
351,3,coco_beans,dye,cocoa_beans
351,4,lapis_lazuli,dye,lapis_lazuli
351,5,purple_dye,dye,purple_dye
",
"351,6,cyan_dye,dye,cyan_dye
351,7,light_gray_dye,dye,light_gray_dye
351,8,gray_dye,dye,gray_dye
351,9,pink_dye,dye,pink_dye
351,10,lime_dye,dye,lime_dye
351,11,dandelion_yellow,dye,yellow_dye
351,12,light_blue_dye,dye,light_blue_dye
351,13,magenta_dye,dye,magenta_dye
351,14,orange_dye,dye,orange_dye
351,15,bone_meal,dye,bonemeal
352,0,bone,bone,bone
353,0,sugar,sugar,sugar
354,0,cake,cake,cake
355,0,bed,bed,bed
356,0,redstone_repeater,redstone_repeater,redstone_bush
357,0,cookie,cookie,cookie
358,0,map,map,map
359,0,shears,shears,shears
360,0,melon,melon,melon
361,0,pumpkin_seeds,pumpkin_seeds,pumpkin_seeds
362,0,melon_seeds,melon_seeds,melon_seeds
363,0,raw_beef,raw_beef,beef
364,0,steak,steak,cooked_beef
365,0,raw_chicken,raw_chicken,chicken
366,0,cooked_chicken,cooked_chicken,cooked_chicken
367,0,rotten_flesh,rotten_flesh,rotten_flesh
368,0,ender_pearl,ender_pearl,ender_pearl
369,0,blaze_rod,blaze_rod,blaze_rod
370,0,ghast_tear,ghast_tear,ghast_tear
371,0,gold_nugget,gold_nugget,gold_nugget
372,0,nether_wart,nether_wart,nether_wart
373,0,potion,potion,potion
374,0,glass_bottle,glass_bottle,glass_bottle
375,0,spider_eye,spider_eye,spider_eye
376,0,fermented_spider_eye,fermented_spider_eye,fermented_spider_eye
377,0,blaze_powder,blaze_powder,blaze_powder
378,0,magma_cream,magma_cream,magma_cream
379,0,brewing_stand,brewing_stand,brewing_stand
380,0,cauldron,cauldron,cauldron
381,0,eye_of_ender,eye_of_ender,ender_eye
382,0,glistering_melon,glistering_melon,glistering_melon
",
"384,0,bottle_o'_enchanting,bottle_o'_enchanting,experience_bottle
385,0,fire_charge,fire_charge,fire_charge
386,0,book_and_quill,book_and_quill,writable_book
387,0,written_book,written_book,written_book
388,0,emerald,emerald,emerald
389,0,item_frame,item_frame,item_frame
390,0,flower_pot,flower_pot,flower_pot
391,0,carrot,carrot,carrot
392,0,potato,potato,potato
393,0,baked_potato,baked_potato,baked_potato
394,0,poisonous_potato,poisonous_potato,poisonous_potato
395,0,empty_map,empty_map,empty_map
396,0,golden_carrot,golden_carrot,golden_carrot
397,0,skull,skull,skeleton_skull
397,1,skull,skull,wither_skeleton_skull
397,2,skull,skull,zombie_head
397,3,skull,skull,player_head
397,4,skull,skull,creeper_head
397,5,skull,skull,dragon_head
398,0,carrot_on_a_stick,carrot_on_a_stick,carrot_on_a_stick
399,0,nether_star,nether_star,nether_star
400,0,pumpkin_pie,pumpkin_pie,pumpkin_pie
401,0,firework_rocket,firework_rocket,firework_rocket
402,0,firework_star,firework_star,firework_star
403,0,enchanted_book,enchanted_book,enchanted_book
404,0,redstone_comparator,redstone_comparator,comparator
405,0,nether_brick,nether_brick,netherbrick
406,0,nether_quartz,nether_quartz,quartz
407,0,minecart_with_tnt,minecart_with_tnt,tnt_minecart
408,0,minecart_with_hopper,minecart_with_hopper,hopper_minecard
409,0,prismarine_shard,prismarine_shard,prismarine_shard
410,0,prismarine_crystals,prismarine_crystals,prismarine_crystals
411,0,raw_rabbit,raw_rabbit,rabbit
",
"412,0,cooked_rabbit,cooked_rabbit,cooked_rabbit
413,0,rabbit_stew,rabbit_stew,rabbit_stew
414,0,rabbit's_foot,rabbit's_foot,rabbit_foot
415,0,rabbit_hide,rabbit_hide,rabbit_hide
416,0,armor_stand,armor_stand,armor_stand
417,0,iron_horse_armor,iron_horse_armor,iron_horse_armor
418,0,golden_horse_armor,golden_horse_armor,golden_horse_armor
419,0,diamond_horse_armor,diamond_horse_armor,diamond_horse_armor
420,0,lead,lead,lead
421,0,name_tag,name_tag,name_tag
423,0,raw_mutton,raw_mutton,mutton
424,0,cooked_mutton,cooked_mutton,cooked_mutton
425,0,banner,banner,banner
426,0,end_crystal,end_crystal,end_crystal
427,0,spruce_door,spruce_door,spruce_door
428,0,birch_door,birch_door,birch_door
429,0,jungle_door,jungle_door,jungle_door
430,0,acacia_door,acacia_door,acacia_door
431,0,dark_oak_door,dark_oak_door,dark_oak_door
432,0,chorus_fruit,chorus_fruit,chorus_fruit
433,0,popped_chorus_fruit,popped_chorus_fruit,popped_chorus_fruit
434,0,beetroot,beetroot,beetroot
435,0,beetroot_seeds,beetroot_seeds,beetroot_seeds
436,0,beetroot_soup,beetroot_soup,beetroot_soup
437,0,dragon's_breath,dragon's_breath,dragon_breath
438,0,splash_potion,splash_potion,splash_potion
439,0,spectral_arrow,spectral_arrow,spectral_arrow
440,0,tipped_arrow,tipped_arrow,tipped_arrow
441,0,lingering_potion,lingering_potion,lingering_potion
442,0,shield,shield,shield
443,0,elytra,elytra,elytra
444,0,spruce_boat,spruce_boat,spruce_boat
445,0,birch_boat,birch_boat,birch_boat
446,0,jungle_boat,jungle_boat,jungle_boat
",
"447,0,acacia_boat,acacia_boat,acacia_boat
448,0,dark_oak_boat,dark_oak_boat,dark_oak_boat
449,0,totem_of_undying,totem_of_undying,totem_of_undying
450,0,shulker_shell,shulker_shell,shulker_shell
452,0,iron_nugget,iron_nugget,iron_nugget
453,0,knowledge_book,knowledge_book,knowledge_book
2256,0,13_disc,13_disc,music_disc_13
2257,0,cat_disc,cat_disc,music_disc_cat
2258,0,blocks_disc,blocks_disc,music_disc_blocks
2259,0,chirp_disc,chirp_disc,music_disc_chirp
2260,0,far_disc,far_disc,music_disc_far
2261,0,mall_disc,mall_disc,music_disc_mall
2262,0,mellohi_disc,mellohi_disc,music_disc_mellohi
2263,0,stal_disc,stal_disc,music_disc_stal
2264,0,strad_disc,strad_disc,music_disc_strad
2265,0,ward_disc,ward_disc,music_disc_ward
2266,0,11_disc,11_disc,music_disc_11
2267,0,wait_disc,wait_disc,music_disc_wait
"]

/-- Old and new block names. -/
def blockSheet : String := String.join blockSheetParts

end CommandUpgrade.Table.Standard
