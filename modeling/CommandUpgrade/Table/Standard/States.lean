/-!
# Block states

Block states by number and data value.
-/

namespace CommandUpgrade.Table.Standard

/-! ## Properties that several blocks share -/

/-- A property that is the data value. -/
def counting (property : String) (count : Nat) : List (Nat × String) :=
  (List.range count).map fun n => (n, "[" ++ property ++ "=" ++ toString n ++ "]")

def doorStates : List (Nat × String) := [
  (0, "[hinge=right,half=lower,powered=false,facing=east,open=false]"),
  (1, "[hinge=right,half=lower,powered=false,facing=south,open=false]"),
  (2, "[hinge=right,half=lower,powered=false,facing=west,open=false]"),
  (3, "[hinge=right,half=lower,powered=false,facing=north,open=false]"),
  (4, "[hinge=right,half=lower,powered=false,facing=east,open=true]"),
  (5, "[hinge=right,half=lower,powered=false,facing=south,open=true]"),
  (6, "[hinge=right,half=lower,powered=false,facing=west,open=true]"),
  (7, "[hinge=right,half=lower,powered=false,facing=north,open=true]"),
  (8, "[hinge=left,half=upper,powered=false,facing=east,open=false]"),
  (9, "[hinge=right,half=upper,powered=false,facing=east,open=false]"),
  (10, "[hinge=left,half=upper,powered=true,facing=east,open=false]"),
  (11, "[hinge=right,half=upper,powered=true,facing=east,open=false]")]

def gateStates : List (Nat × String) := [
  (0, "[in_wall=false,powered=false,facing=south,open=false]"),
  (1, "[in_wall=false,powered=false,facing=west,open=false]"),
  (2, "[in_wall=false,powered=false,facing=north,open=false]"),
  (3, "[in_wall=false,powered=false,facing=east,open=false]"),
  (4, "[in_wall=false,powered=false,facing=south,open=true]"),
  (5, "[in_wall=false,powered=false,facing=west,open=true]"),
  (6, "[in_wall=false,powered=false,facing=north,open=true]"),
  (7, "[in_wall=false,powered=false,facing=east,open=true]"),
  (8, "[in_wall=false,powered=true,facing=south,open=false]"),
  (9, "[in_wall=false,powered=true,facing=west,open=false]"),
  (10, "[in_wall=false,powered=true,facing=north,open=false]"),
  (11, "[in_wall=false,powered=true,facing=east,open=false]"),
  (12, "[in_wall=false,powered=true,facing=south,open=true]"),
  (13, "[in_wall=false,powered=true,facing=west,open=true]"),
  (14, "[in_wall=false,powered=true,facing=north,open=true]"),
  (15, "[in_wall=false,powered=true,facing=east,open=true]")]

def stairStates : List (Nat × String) := [
  (0, "[half=bottom,shape=straight,facing=east]"), (1, "[half=bottom,shape=straight,facing=west]"),
  (2, "[half=bottom,shape=straight,facing=south]"),
  (3, "[half=bottom,shape=straight,facing=north]"), (4, "[half=top,shape=straight,facing=east]"),
  (5, "[half=top,shape=straight,facing=west]"), (6, "[half=top,shape=straight,facing=south]"),
  (7, "[half=top,shape=straight,facing=north]")]

def sixFacings : List (Nat × String) := [
  (0, "[facing=down]"), (1, "[facing=up]"), (2, "[facing=north]"), (3, "[facing=south]"),
  (4, "[facing=west]"), (5, "[facing=east]")]

def fourFacings : List (Nat × String) := [
  (0, "[facing=south]"), (1, "[facing=west]"), (2, "[facing=north]"), (3, "[facing=east]")]

def wallFacings : List (Nat × String) := [
  (2, "[facing=north]"), (3, "[facing=south]"), (4, "[facing=west]"), (5, "[facing=east]")]

def railStates : List (Nat × String) := [
  (0, "[shape=north_south,powered=false]"), (1, "[shape=east_west,powered=false]"),
  (2, "[shape=ascending_east,powered=false]"), (3, "[shape=ascending_west,powered=false]"),
  (4, "[shape=ascending_north,powered=false]"), (5, "[shape=ascending_south,powered=false]"),
  (8, "[shape=north_south,powered=true]"), (9, "[shape=east_west,powered=true]"),
  (10, "[shape=ascending_east,powered=true]"), (11, "[shape=ascending_west,powered=true]"),
  (12, "[shape=ascending_north,powered=true]"), (13, "[shape=ascending_south,powered=true]")]

def mushroomStates : List (Nat × String) := [
  (0, "[north=false,east=false,south=false,west=false,up=false,down=false]"),
  (1, "[north=true,east=false,south=false,west=true,up=true,down=false]"),
  (2, "[north=true,east=false,south=false,west=false,up=true,down=false]"),
  (3, "[north=true,east=true,south=false,west=false,up=true,down=false]"),
  (4, "[north=false,east=false,south=false,west=true,up=true,down=false]"),
  (5, "[north=false,east=false,south=false,west=false,up=true,down=false]"),
  (6, "[north=false,east=true,south=false,west=false,up=true,down=false]"),
  (7, "[north=false,east=false,south=true,west=true,up=true,down=false]"),
  (8, "[north=false,east=false,south=true,west=false,up=true,down=false]"),
  (9, "[north=false,east=true,south=true,west=false,up=true,down=false]")]

def commandStates : List (Nat × String) := [
  (0, "[conditional=false,facing=down]"), (1, "[conditional=false,facing=up]"),
  (2, "[conditional=false,facing=north]"), (3, "[conditional=false,facing=south]"),
  (4, "[conditional=false,facing=west]"), (5, "[conditional=false,facing=east]"),
  (8, "[conditional=true,facing=down]"), (9, "[conditional=true,facing=up]"),
  (10, "[conditional=true,facing=north]"), (11, "[conditional=true,facing=south]"),
  (12, "[conditional=true,facing=west]"), (13, "[conditional=true,facing=east]")]

def buttonStates : List (Nat × String) := [
  (0, "[powered=false,facing=east,face=ceiling]"), (1, "[powered=false,facing=east,face=wall]"),
  (2, "[powered=false,facing=west,face=wall]"), (3, "[powered=false,facing=south,face=wall]"),
  (4, "[powered=false,facing=north,face=wall]"), (5, "[powered=false,facing=east,face=floor]"),
  (8, "[powered=true,facing=south,face=ceiling]"), (9, "[powered=true,facing=east,face=wall]"),
  (10, "[powered=true,facing=west,face=wall]"), (11, "[powered=true,facing=south,face=wall]"),
  (12, "[powered=true,facing=north,face=wall]"), (13, "[powered=true,facing=south,face=floor]")]

def dispenserStates : List (Nat × String) := [
  (0, "[triggered=false,facing=down]"), (1, "[triggered=false,facing=up]"),
  (2, "[triggered=false,facing=north]"), (3, "[triggered=false,facing=south]"),
  (4, "[triggered=false,facing=west]"), (5, "[triggered=false,facing=east]"),
  (8, "[triggered=true,facing=down]"), (9, "[triggered=true,facing=up]"),
  (10, "[triggered=true,facing=north]"), (11, "[triggered=true,facing=south]"),
  (12, "[triggered=true,facing=west]"), (13, "[triggered=true,facing=east]")]

def pistonStates : List (Nat × String) := [
  (0, "[facing=down,extended=false]"), (1, "[facing=up,extended=false]"),
  (2, "[facing=north,extended=false]"), (3, "[facing=south,extended=false]"),
  (4, "[facing=west,extended=false]"), (5, "[facing=east,extended=false]"),
  (8, "[facing=down,extended=true]"), (9, "[facing=up,extended=true]"),
  (10, "[facing=north,extended=true]"), (11, "[facing=south,extended=true]"),
  (12, "[facing=west,extended=true]"), (13, "[facing=east,extended=true]")]

/-! ## Blocks -/

/-- The number and the name of each block, with the properties it has at each of its data values. A
number may stand for several blocks. -/
def blocksByNumber : List (Nat × String × List (Nat × String)) := [
  (0, "air", [(0, "")]), (1, "stone", [(0, "")]), (1, "granite", [(1, "")]),
  (1, "polished_granite", [(2, "")]), (1, "diorite", [(3, "")]), (1, "polished_diorite", [(4, "")]),
  (1, "andesite", [(5, "")]), (1, "polished_andesite", [(6, "")]),
  (2, "grass_block", [(0, "[snowy=false]")]), (3, "dirt", [(0, "")]), (3, "coarse_dirt", [(1, "")]),
  (3, "podzol", [(2, "[snowy=false]")]), (4, "cobblestone", [(0, "")]),
  (5, "oak_planks", [(0, "")]), (5, "spruce_planks", [(1, "")]), (5, "birch_planks", [(2, "")]),
  (5, "jungle_planks", [(3, "")]), (5, "acacia_planks", [(4, "")]),
  (5, "dark_oak_planks", [(5, "")]), (6, "oak_sapling", [(0, "[stage=0]")]),
  (6, "spruce_sapling", [(1, "[stage=0]")]), (6, "birch_sapling", [(2, "[stage=0]")]),
  (6, "jungle_sapling", [(3, "[stage=0]")]), (6, "acacia_sapling", [(4, "[stage=0]")]),
  (6, "dark_oak_sapling", [(5, "[stage=0]")]), (6, "oak_sapling", [(8, "[stage=1]")]),
  (6, "spruce_sapling", [(9, "[stage=1]")]), (6, "birch_sapling", [(10, "[stage=1]")]),
  (6, "jungle_sapling", [(11, "[stage=1]")]), (6, "acacia_sapling", [(12, "[stage=1]")]),
  (6, "dark_oak_sapling", [(13, "[stage=1]")]), (7, "bedrock", [(0, "")]),
  (8, "water", counting "level" 16), (9, "water", counting "level" 16),
  (10, "lava", counting "level" 16), (11, "lava", counting "level" 16), (12, "sand", [(0, "")]),
  (12, "red_sand", [(1, "")]), (13, "gravel", [(0, "")]), (14, "gold_ore", [(0, "")]),
  (15, "iron_ore", [(0, "")]), (16, "coal_ore", [(0, "")]), (17, "oak_log", [(0, "[axis=y]")]),
  (17, "spruce_log", [(1, "[axis=y]")]), (17, "birch_log", [(2, "[axis=y]")]),
  (17, "jungle_log", [(3, "[axis=y]")]), (17, "oak_log", [(4, "[axis=x]")]),
  (17, "spruce_log", [(5, "[axis=x]")]), (17, "birch_log", [(6, "[axis=x]")]),
  (17, "jungle_log", [(7, "[axis=x]")]), (17, "oak_log", [(8, "[axis=z]")]),
  (17, "spruce_log", [(9, "[axis=z]")]), (17, "birch_log", [(10, "[axis=z]")]),
  (17, "jungle_log", [(11, "[axis=z]")]), (17, "oak_wood", [(12, "")]),
  (17, "spruce_wood", [(13, "")]), (17, "birch_wood", [(14, "")]), (17, "jungle_wood", [(15, "")]),
  (18, "oak_leaves", [(0, "[persistent=false,distance=1]")]),
  (18, "spruce_leaves", [(1, "[persistent=false,distance=1]")]),
  (18, "birch_leaves", [(2, "[persistent=false,distance=1]")]),
  (18, "jungle_leaves", [(3, "[persistent=false,distance=1]")]),
  (18, "oak_leaves", [(4, "[persistent=true,distance=1]")]),
  (18, "spruce_leaves", [(5, "[persistent=true,distance=1]")]),
  (18, "birch_leaves", [(6, "[persistent=true,distance=1]")]),
  (18, "jungle_leaves", [(7, "[persistent=true,distance=1]")]),
  (18, "oak_leaves", [(8, "[persistent=false,distance=1]")]),
  (18, "spruce_leaves", [(9, "[persistent=false,distance=1]")]),
  (18, "birch_leaves", [(10, "[persistent=false,distance=1]")]),
  (18, "jungle_leaves", [(11, "[persistent=false,distance=1]")]),
  (18, "oak_leaves", [(12, "[persistent=true,distance=1]")]),
  (18, "spruce_leaves", [(13, "[persistent=true,distance=1]")]),
  (18, "birch_leaves", [(14, "[persistent=true,distance=1]")]),
  (18, "jungle_leaves", [(15, "[persistent=true,distance=1]")]), (19, "sponge", [(0, "")]),
  (19, "wet_sponge", [(1, "")]), (20, "glass", [(0, "")]), (21, "lapis_ore", [(0, "")]),
  (22, "lapis_block", [(0, "")]), (23, "dispenser", dispenserStates), (24, "sandstone", [(0, "")]),
  (24, "chiseled_sandstone", [(1, "")]), (24, "cut_sandstone", [(2, "")]),
  (25, "note_block", [(0, "")]),
  (26, "red_bed", [(0, "[part=foot,facing=south,occupied=false]"),
    (1, "[part=foot,facing=west,occupied=false]"), (2, "[part=foot,facing=north,occupied=false]"),
    (3, "[part=foot,facing=east,occupied=false]"), (4, "[part=foot,facing=south,occupied=true]"),
    (5, "[part=foot,facing=west,occupied=true]"), (6, "[part=foot,facing=north,occupied=true]"),
    (7, "[part=foot,facing=east,occupied=true]"), (8, "[part=head,facing=south,occupied=false]"),
    (9, "[part=head,facing=west,occupied=false]"),
    (10, "[part=head,facing=north,occupied=false]"),
    (11, "[part=head,facing=east,occupied=false]"),
    (12, "[part=head,facing=south,occupied=true]"), (13, "[part=head,facing=west,occupied=true]"),
    (14, "[part=head,facing=north,occupied=true]"),
    (15, "[part=head,facing=east,occupied=true]")]), (27, "powered_rail", railStates),
  (28, "detector_rail", railStates), (29, "sticky_piston", pistonStates), (30, "cobweb", [(0, "")]),
  (31, "dead_bush", [(0, "")]), (31, "grass", [(1, "")]), (31, "fern", [(2, "")]),
  (32, "dead_bush", [(0, "")]), (33, "piston", pistonStates),
  (34, "piston_head", [(0, "[short=false,facing=down,type=normal]"),
    (1, "[short=false,facing=up,type=normal]"), (2, "[short=false,facing=north,type=normal]"),
    (3, "[short=false,facing=south,type=normal]"), (4, "[short=false,facing=west,type=normal]"),
    (5, "[short=false,facing=east,type=normal]"), (8, "[short=false,facing=down,type=sticky]"),
    (9, "[short=false,facing=up,type=sticky]"), (10, "[short=false,facing=north,type=sticky]"),
    (11, "[short=false,facing=south,type=sticky]"), (12, "[short=false,facing=west,type=sticky]"),
    (13, "[short=false,facing=east,type=sticky]")]), (35, "white_wool", [(0, "")]),
  (35, "orange_wool", [(1, "")]), (35, "magenta_wool", [(2, "")]),
  (35, "light_blue_wool", [(3, "")]), (35, "yellow_wool", [(4, "")]), (35, "lime_wool", [(5, "")]),
  (35, "pink_wool", [(6, "")]), (35, "gray_wool", [(7, "")]), (35, "light_gray_wool", [(8, "")]),
  (35, "cyan_wool", [(9, "")]), (35, "purple_wool", [(10, "")]), (35, "blue_wool", [(11, "")]),
  (35, "brown_wool", [(12, "")]), (35, "green_wool", [(13, "")]), (35, "red_wool", [(14, "")]),
  (35, "black_wool", [(15, "")]),
  (36, "moving_piston", [(0, "[facing=down,type=normal]"), (1, "[facing=up,type=normal]"),
    (2, "[facing=north,type=normal]"), (3, "[facing=south,type=normal]"),
    (4, "[facing=west,type=normal]"), (5, "[facing=east,type=normal]"),
    (8, "[facing=down,type=sticky]"), (9, "[facing=up,type=sticky]"),
    (10, "[facing=north,type=sticky]"), (11, "[facing=south,type=sticky]"),
    (12, "[facing=west,type=sticky]"), (13, "[facing=east,type=sticky]")]),
  (37, "dandelion", [(0, "")]), (38, "poppy", [(0, "")]), (38, "blue_orchid", [(1, "")]),
  (38, "allium", [(2, "")]), (38, "azure_bluet", [(3, "")]), (38, "red_tulip", [(4, "")]),
  (38, "orange_tulip", [(5, "")]), (38, "white_tulip", [(6, "")]), (38, "pink_tulip", [(7, "")]),
  (38, "oxeye_daisy", [(8, "")]), (39, "brown_mushroom", [(0, "")]),
  (40, "red_mushroom", [(0, "")]), (41, "gold_block", [(0, "")]), (42, "iron_block", [(0, "")]),
  (43, "stone_slab", [(0, "[type=double]")]), (43, "sandstone_slab", [(1, "[type=double]")]),
  (43, "petrified_oak_slab", [(2, "[type=double]")]),
  (43, "cobblestone_slab", [(3, "[type=double]")]), (43, "brick_slab", [(4, "[type=double]")]),
  (43, "stone_brick_slab", [(5, "[type=double]")]),
  (43, "nether_brick_slab", [(6, "[type=double]")]), (43, "quartz_slab", [(7, "[type=double]")]),
  (43, "smooth_stone", [(8, "")]), (43, "smooth_sandstone", [(9, "")]),
  (43, "petrified_oak_slab", [(10, "[type=double]")]),
  (43, "cobblestone_slab", [(11, "[type=double]")]), (43, "brick_slab", [(12, "[type=double]")]),
  (43, "stone_brick_slab", [(13, "[type=double]")]),
  (43, "nether_brick_slab", [(14, "[type=double]")]), (43, "smooth_quartz", [(15, "")]),
  (44, "stone_slab", [(0, "[type=bottom]")]), (44, "sandstone_slab", [(1, "[type=bottom]")]),
  (44, "petrified_oak_slab", [(2, "[type=bottom]")]),
  (44, "cobblestone_slab", [(3, "[type=bottom]")]), (44, "brick_slab", [(4, "[type=bottom]")]),
  (44, "stone_brick_slab", [(5, "[type=bottom]")]),
  (44, "nether_brick_slab", [(6, "[type=bottom]")]), (44, "quartz_slab", [(7, "[type=bottom]")]),
  (44, "stone_slab", [(8, "[type=top]")]), (44, "sandstone_slab", [(9, "[type=top]")]),
  (44, "petrified_oak_slab", [(10, "[type=top]")]), (44, "cobblestone_slab", [(11, "[type=top]")]),
  (44, "brick_slab", [(12, "[type=top]")]), (44, "stone_brick_slab", [(13, "[type=top]")]),
  (44, "nether_brick_slab", [(14, "[type=top]")]), (44, "quartz_slab", [(15, "[type=top]")]),
  (45, "bricks", [(0, "")]), (46, "tnt", [(0, "[unstable=false]"), (1, "[unstable=true]")]),
  (47, "bookshelf", [(0, "")]), (48, "mossy_cobblestone", [(0, "")]), (49, "obsidian", [(0, "")]),
  (50, "wall_torch", [(1, "[facing=east]"), (2, "[facing=west]"), (3, "[facing=south]"),
    (4, "[facing=north]")]), (50, "torch", [(5, "")]),
  (51, "fire", [(0, "[east=false,south=false,north=false,west=false,up=false,age=0]"),
    (1, "[east=false,south=false,north=false,west=false,up=false,age=1]"),
    (2, "[east=false,south=false,north=false,west=false,up=false,age=2]"),
    (3, "[east=false,south=false,north=false,west=false,up=false,age=3]"),
    (4, "[east=false,south=false,north=false,west=false,up=false,age=4]"),
    (5, "[east=false,south=false,north=false,west=false,up=false,age=5]"),
    (6, "[east=false,south=false,north=false,west=false,up=false,age=6]"),
    (7, "[east=false,south=false,north=false,west=false,up=false,age=7]"),
    (8, "[east=false,south=false,north=false,west=false,up=false,age=8]"),
    (9, "[east=false,south=false,north=false,west=false,up=false,age=9]"),
    (10, "[east=false,south=false,north=false,west=false,up=false,age=10]"),
    (11, "[east=false,south=false,north=false,west=false,up=false,age=11]"),
    (12, "[east=false,south=false,north=false,west=false,up=false,age=12]"),
    (13, "[east=false,south=false,north=false,west=false,up=false,age=13]"),
    (14, "[east=false,south=false,north=false,west=false,up=false,age=14]"),
    (15, "[east=false,south=false,north=false,west=false,up=false,age=15]")]),
  (52, "spawner", [(0, "")]), (53, "oak_stairs", stairStates),
  (54, "chest", [(2, "[facing=north,type=single]"), (3, "[facing=south,type=single]"),
    (4, "[facing=west,type=single]"), (5, "[facing=east,type=single]")]),
  (55, "redstone_wire", [(0, "[east=none,south=none,north=none,west=none,power=0]"),
    (1, "[east=none,south=none,north=none,west=none,power=1]"),
    (2, "[east=none,south=none,north=none,west=none,power=2]"),
    (3, "[east=none,south=none,north=none,west=none,power=3]"),
    (4, "[east=none,south=none,north=none,west=none,power=4]"),
    (5, "[east=none,south=none,north=none,west=none,power=5]"),
    (6, "[east=none,south=none,north=none,west=none,power=6]"),
    (7, "[east=none,south=none,north=none,west=none,power=7]"),
    (8, "[east=none,south=none,north=none,west=none,power=8]"),
    (9, "[east=none,south=none,north=none,west=none,power=9]"),
    (10, "[east=none,south=none,north=none,west=none,power=10]"),
    (11, "[east=none,south=none,north=none,west=none,power=11]"),
    (12, "[east=none,south=none,north=none,west=none,power=12]"),
    (13, "[east=none,south=none,north=none,west=none,power=13]"),
    (14, "[east=none,south=none,north=none,west=none,power=14]"),
    (15, "[east=none,south=none,north=none,west=none,power=15]")]), (56, "diamond_ore", [(0, "")]),
  (57, "diamond_block", [(0, "")]), (58, "crafting_table", [(0, "")]),
  (59, "wheat", counting "age" 8), (60, "farmland", counting "moisture" 8),
  (61, "furnace", [(2, "[facing=north,lit=false]"), (3, "[facing=south,lit=false]"),
    (4, "[facing=west,lit=false]"), (5, "[facing=east,lit=false]")]),
  (62, "furnace", [(2, "[facing=north,lit=true]"), (3, "[facing=south,lit=true]"),
    (4, "[facing=west,lit=true]"), (5, "[facing=east,lit=true]")]),
  (63, "sign", counting "rotation" 16), (64, "oak_door", doorStates), (65, "ladder", wallFacings),
  (66, "rail", [(0, "[shape=north_south]"), (1, "[shape=east_west]"),
    (2, "[shape=ascending_east]"), (3, "[shape=ascending_west]"), (4, "[shape=ascending_north]"),
    (5, "[shape=ascending_south]"), (6, "[shape=south_east]"), (7, "[shape=south_west]"),
    (8, "[shape=north_west]"), (9, "[shape=north_east]")]), (67, "cobblestone_stairs", stairStates),
  (68, "wall_sign", wallFacings),
  (69, "lever", [(0, "[powered=false,facing=north,face=ceiling]"),
    (1, "[powered=false,facing=east,face=wall]"), (2, "[powered=false,facing=west,face=wall]"),
    (3, "[powered=false,facing=south,face=wall]"), (4, "[powered=false,facing=north,face=wall]"),
    (5, "[powered=false,facing=east,face=floor]"), (6, "[powered=false,facing=north,face=floor]"),
    (7, "[powered=false,facing=east,face=ceiling]"),
    (8, "[powered=true,facing=north,face=ceiling]"), (9, "[powered=true,facing=east,face=wall]"),
    (10, "[powered=true,facing=west,face=wall]"), (11, "[powered=true,facing=south,face=wall]"),
    (12, "[powered=true,facing=north,face=wall]"), (13, "[powered=true,facing=east,face=floor]"),
    (14, "[powered=true,facing=north,face=floor]"),
    (15, "[powered=true,facing=east,face=ceiling]")]),
  (70, "stone_pressure_plate", [(0, "[powered=false]"), (1, "[powered=true]")]),
  (71, "iron_door", doorStates),
  (72, "oak_pressure_plate", [(0, "[powered=false]"), (1, "[powered=true]")]),
  (73, "redstone_ore", [(0, "[lit=false]")]), (74, "redstone_ore", [(0, "[lit=true]")]),
  (75, "redstone_wall_torch", [(1, "[facing=east,lit=false]"), (2, "[facing=west,lit=false]"),
    (3, "[facing=south,lit=false]"), (4, "[facing=north,lit=false]")]),
  (75, "redstone_torch", [(5, "[lit=false]")]),
  (76, "redstone_wall_torch", [(1, "[facing=east,lit=true]"), (2, "[facing=west,lit=true]"),
    (3, "[facing=south,lit=true]"), (4, "[facing=north,lit=true]")]),
  (76, "redstone_torch", [(5, "[lit=true]")]), (77, "stone_button", buttonStates),
  (78, "snow", [(0, "[layers=1]"), (1, "[layers=2]"), (2, "[layers=3]"), (3, "[layers=4]"),
    (4, "[layers=5]"), (5, "[layers=6]"), (6, "[layers=7]"), (7, "[layers=8]")]),
  (79, "ice", [(0, "")]), (80, "snow_block", [(0, "")]), (81, "cactus", counting "age" 16),
  (82, "clay", [(0, "")]), (83, "sugar_cane", counting "age" 16),
  (84, "jukebox", [(0, "[has_record=false]"), (1, "[has_record=true]")]),
  (85, "oak_fence", [(0, "[east=false,south=false,north=false,west=false]")]),
  (86, "carved_pumpkin", fourFacings), (87, "netherrack", [(0, "")]), (88, "soul_sand", [(0, "")]),
  (89, "glowstone", [(0, "")]), (90, "nether_portal", [(1, "[axis=x]"), (2, "[axis=z]")]),
  (91, "jack_o_lantern", fourFacings), (92, "cake", counting "bites" 7),
  (93, "repeater", [(0, "[delay=1,facing=south,locked=false,powered=false]"),
    (1, "[delay=1,facing=west,locked=false,powered=false]"),
    (2, "[delay=1,facing=north,locked=false,powered=false]"),
    (3, "[delay=1,facing=east,locked=false,powered=false]"),
    (4, "[delay=2,facing=south,locked=false,powered=false]"),
    (5, "[delay=2,facing=west,locked=false,powered=false]"),
    (6, "[delay=2,facing=north,locked=false,powered=false]"),
    (7, "[delay=2,facing=east,locked=false,powered=false]"),
    (8, "[delay=3,facing=south,locked=false,powered=false]"),
    (9, "[delay=3,facing=west,locked=false,powered=false]"),
    (10, "[delay=3,facing=north,locked=false,powered=false]"),
    (11, "[delay=3,facing=east,locked=false,powered=false]"),
    (12, "[delay=4,facing=south,locked=false,powered=false]"),
    (13, "[delay=4,facing=west,locked=false,powered=false]"),
    (14, "[delay=4,facing=north,locked=false,powered=false]"),
    (15, "[delay=4,facing=east,locked=false,powered=false]")]),
  (94, "repeater", [(0, "[delay=1,facing=south,locked=false,powered=true]"),
    (1, "[delay=1,facing=west,locked=false,powered=true]"),
    (2, "[delay=1,facing=north,locked=false,powered=true]"),
    (3, "[delay=1,facing=east,locked=false,powered=true]"),
    (4, "[delay=2,facing=south,locked=false,powered=true]"),
    (5, "[delay=2,facing=west,locked=false,powered=true]"),
    (6, "[delay=2,facing=north,locked=false,powered=true]"),
    (7, "[delay=2,facing=east,locked=false,powered=true]"),
    (8, "[delay=3,facing=south,locked=false,powered=true]"),
    (9, "[delay=3,facing=west,locked=false,powered=true]"),
    (10, "[delay=3,facing=north,locked=false,powered=true]"),
    (11, "[delay=3,facing=east,locked=false,powered=true]"),
    (12, "[delay=4,facing=south,locked=false,powered=true]"),
    (13, "[delay=4,facing=west,locked=false,powered=true]"),
    (14, "[delay=4,facing=north,locked=false,powered=true]"),
    (15, "[delay=4,facing=east,locked=false,powered=true]")]),
  (95, "white_stained_glass", [(0, "")]), (95, "orange_stained_glass", [(1, "")]),
  (95, "magenta_stained_glass", [(2, "")]), (95, "light_blue_stained_glass", [(3, "")]),
  (95, "yellow_stained_glass", [(4, "")]), (95, "lime_stained_glass", [(5, "")]),
  (95, "pink_stained_glass", [(6, "")]), (95, "gray_stained_glass", [(7, "")]),
  (95, "light_gray_stained_glass", [(8, "")]), (95, "cyan_stained_glass", [(9, "")]),
  (95, "purple_stained_glass", [(10, "")]), (95, "blue_stained_glass", [(11, "")]),
  (95, "brown_stained_glass", [(12, "")]), (95, "green_stained_glass", [(13, "")]),
  (95, "red_stained_glass", [(14, "")]), (95, "black_stained_glass", [(15, "")]),
  (96, "oak_trapdoor", [(0, "[half=bottom,facing=north,open=false,powered=false]"),
    (1, "[half=bottom,facing=south,open=false,powered=false]"),
    (2, "[half=bottom,facing=west,open=false,powered=false]"),
    (3, "[half=bottom,facing=east,open=false,powered=false]"),
    (4, "[half=bottom,facing=north,open=true,powered=true]"),
    (5, "[half=bottom,facing=south,open=true,powered=true]"),
    (6, "[half=bottom,facing=west,open=true,powered=true]"),
    (7, "[half=bottom,facing=east,open=true,powered=true]"),
    (8, "[half=top,facing=north,open=false,powered=false]"),
    (9, "[half=top,facing=south,open=false,powered=false]"),
    (10, "[half=top,facing=west,open=false,powered=false]"),
    (11, "[half=top,facing=east,open=false,powered=false]"),
    (12, "[half=top,facing=north,open=true,powered=true]"),
    (13, "[half=top,facing=south,open=true,powered=true]"),
    (14, "[half=top,facing=west,open=true,powered=true]"),
    (15, "[half=top,facing=east,open=true,powered=true]")]), (97, "infested_stone", [(0, "")]),
  (97, "infested_cobblestone", [(1, "")]), (97, "infested_stone_bricks", [(2, "")]),
  (97, "infested_mossy_stone_bricks", [(3, "")]), (97, "infested_cracked_stone_bricks", [(4, "")]),
  (97, "infested_chiseled_stone_bricks", [(5, "")]), (98, "stone_bricks", [(0, "")]),
  (98, "mossy_stone_bricks", [(1, "")]), (98, "cracked_stone_bricks", [(2, "")]),
  (98, "chiseled_stone_bricks", [(3, "")]), (99, "brown_mushroom_block", mushroomStates),
  (99, "mushroom_stem", [(10, "[north=true,east=true,south=true,west=true,up=false,down=false]")]),
  (99, "brown_mushroom_block",
    [(14, "[north=true,east=true,south=true,west=true,up=true,down=true]")]),
  (99, "mushroom_stem", [(15, "[north=true,east=true,south=true,west=true,up=true,down=true]")]),
  (100, "red_mushroom_block", mushroomStates),
  (100, "mushroom_stem", [(10, "[north=true,east=true,south=true,west=true,up=false,down=false]")]),
  (100, "red_mushroom_block",
    [(14, "[north=true,east=true,south=true,west=true,up=true,down=true]")]),
  (100, "mushroom_stem", [(15, "[north=true,east=true,south=true,west=true,up=true,down=true]")]),
  (101, "iron_bars", [(0, "[east=false,south=false,north=false,west=false]")]),
  (102, "glass_pane", [(0, "[east=false,south=false,north=false,west=false]")]),
  (103, "melon", [(0, "")]), (104, "pumpkin_stem", counting "age" 8),
  (105, "melon_stem", counting "age" 8),
  (106, "vine", [(0, "[east=false,south=false,north=false,west=false,up=false]"),
    (1, "[east=false,south=true,north=false,west=false,up=false]"),
    (2, "[east=false,south=false,north=false,west=true,up=false]"),
    (3, "[east=false,south=true,north=false,west=true,up=false]"),
    (4, "[east=false,south=false,north=true,west=false,up=false]"),
    (5, "[east=false,south=true,north=true,west=false,up=false]"),
    (6, "[east=false,south=false,north=true,west=true,up=false]"),
    (7, "[east=false,south=true,north=true,west=true,up=false]"),
    (8, "[east=true,south=false,north=false,west=false,up=false]"),
    (9, "[east=true,south=true,north=false,west=false,up=false]"),
    (10, "[east=true,south=false,north=false,west=true,up=false]"),
    (11, "[east=true,south=true,north=false,west=true,up=false]"),
    (12, "[east=true,south=false,north=true,west=false,up=false]"),
    (13, "[east=true,south=true,north=true,west=false,up=false]"),
    (14, "[east=true,south=false,north=true,west=true,up=false]"),
    (15, "[east=true,south=true,north=true,west=true,up=false]")]),
  (107, "oak_fence_gate", gateStates), (108, "brick_stairs", stairStates),
  (109, "stone_brick_stairs", stairStates), (110, "mycelium", [(0, "[snowy=false]")]),
  (111, "lily_pad", [(0, "")]), (112, "nether_bricks", [(0, "")]),
  (113, "nether_brick_fence", [(0, "[east=false,south=false,north=false,west=false]")]),
  (114, "nether_brick_stairs", stairStates), (115, "nether_wart", counting "age" 4),
  (116, "enchanting_table", [(0, "")]),
  (117, "brewing_stand", [(0, "[has_bottle_0=false,has_bottle_1=false,has_bottle_2=false]"),
    (1, "[has_bottle_0=true,has_bottle_1=false,has_bottle_2=false]"),
    (2, "[has_bottle_0=false,has_bottle_1=true,has_bottle_2=false]"),
    (3, "[has_bottle_0=true,has_bottle_1=true,has_bottle_2=false]"),
    (4, "[has_bottle_0=false,has_bottle_1=false,has_bottle_2=true]"),
    (5, "[has_bottle_0=true,has_bottle_1=false,has_bottle_2=true]"),
    (6, "[has_bottle_0=false,has_bottle_1=true,has_bottle_2=true]"),
    (7, "[has_bottle_0=true,has_bottle_1=true,has_bottle_2=true]")]),
  (118, "cauldron", counting "level" 4), (119, "end_portal", [(0, "")]),
  (120, "end_portal_frame", [(0, "[eye=false,facing=south]"), (1, "[eye=false,facing=west]"),
    (2, "[eye=false,facing=north]"), (3, "[eye=false,facing=east]"),
    (4, "[eye=true,facing=south]"), (5, "[eye=true,facing=west]"), (6, "[eye=true,facing=north]"),
    (7, "[eye=true,facing=east]")]), (121, "end_stone", [(0, "")]), (122, "dragon_egg", [(0, "")]),
  (123, "redstone_lamp", [(0, "[lit=false]")]), (124, "redstone_lamp", [(0, "[lit=true]")]),
  (125, "oak_slab", [(0, "[type=double]")]), (125, "spruce_slab", [(1, "[type=double]")]),
  (125, "birch_slab", [(2, "[type=double]")]), (125, "jungle_slab", [(3, "[type=double]")]),
  (125, "acacia_slab", [(4, "[type=double]")]), (125, "dark_oak_slab", [(5, "[type=double]")]),
  (126, "oak_slab", [(0, "[type=bottom]")]), (126, "spruce_slab", [(1, "[type=bottom]")]),
  (126, "birch_slab", [(2, "[type=bottom]")]), (126, "jungle_slab", [(3, "[type=bottom]")]),
  (126, "acacia_slab", [(4, "[type=bottom]")]), (126, "dark_oak_slab", [(5, "[type=bottom]")]),
  (126, "oak_slab", [(8, "[type=top]")]), (126, "spruce_slab", [(9, "[type=top]")]),
  (126, "birch_slab", [(10, "[type=top]")]), (126, "jungle_slab", [(11, "[type=top]")]),
  (126, "acacia_slab", [(12, "[type=top]")]), (126, "dark_oak_slab", [(13, "[type=top]")]),
  (127, "cocoa", [(0, "[facing=south,age=0]"), (1, "[facing=west,age=0]"),
    (2, "[facing=north,age=0]"), (3, "[facing=east,age=0]"), (4, "[facing=south,age=1]"),
    (5, "[facing=west,age=1]"), (6, "[facing=north,age=1]"), (7, "[facing=east,age=1]"),
    (8, "[facing=south,age=2]"), (9, "[facing=west,age=2]"), (10, "[facing=north,age=2]"),
    (11, "[facing=east,age=2]")]), (128, "sandstone_stairs", stairStates),
  (129, "emerald_ore", [(0, "")]), (130, "ender_chest", wallFacings),
  (131, "tripwire_hook", [(0, "[powered=false,attached=false,facing=south]"),
    (1, "[powered=false,attached=false,facing=west]"),
    (2, "[powered=false,attached=false,facing=north]"),
    (3, "[powered=false,attached=false,facing=east]"),
    (4, "[powered=false,attached=true,facing=south]"),
    (5, "[powered=false,attached=true,facing=west]"),
    (6, "[powered=false,attached=true,facing=north]"),
    (7, "[powered=false,attached=true,facing=east]"),
    (8, "[powered=true,attached=false,facing=south]"),
    (9, "[powered=true,attached=false,facing=west]"),
    (10, "[powered=true,attached=false,facing=north]"),
    (11, "[powered=true,attached=false,facing=east]"),
    (12, "[powered=true,attached=true,facing=south]"),
    (13, "[powered=true,attached=true,facing=west]"),
    (14, "[powered=true,attached=true,facing=north]"),
    (15, "[powered=true,attached=true,facing=east]")]),
  (132, "tripwire",
    [(0, "[disarmed=false,east=false,powered=false,south=false,north=false,west=false,attached=false]"),
    (1, "[disarmed=false,east=false,powered=true,south=false,north=false,west=false,attached=false]"),
    (4, "[disarmed=false,east=false,powered=false,south=false,north=false,west=false,attached=true]"),
    (5, "[disarmed=false,east=false,powered=true,south=false,north=false,west=false,attached=true]"),
    (8, "[disarmed=true,east=false,powered=false,south=false,north=false,west=false,attached=false]"),
    (9, "[disarmed=true,east=false,powered=true,south=false,north=false,west=false,attached=false]"),
    (12, "[disarmed=true,east=false,powered=false,south=false,north=false,west=false,attached=true]"),
    (13, "[disarmed=true,east=false,powered=true,south=false,north=false,west=false,attached=true]")]),
  (133, "emerald_block", [(0, "")]), (134, "spruce_stairs", stairStates),
  (135, "birch_stairs", stairStates), (136, "jungle_stairs", stairStates),
  (137, "command_block", commandStates), (138, "beacon", [(0, "")]),
  (139, "cobblestone_wall", [(0, "[east=false,south=false,north=false,west=false,up=false]")]),
  (139, "mossy_cobblestone_wall",
    [(1, "[east=false,south=false,north=false,west=false,up=false]")]),
  (140, "flower_pot", [(0, "")]), (140, "potted_poppy", [(1, "")]),
  (140, "potted_dandelion", [(2, "")]), (140, "potted_oak_sapling", [(3, "")]),
  (140, "potted_spruce_sapling", [(4, "")]), (140, "potted_birch_sapling", [(5, "")]),
  (140, "potted_jungle_sapling", [(6, "")]), (140, "potted_red_mushroom", [(7, "")]),
  (140, "potted_brown_mushroom", [(8, "")]), (140, "potted_cactus", [(9, "")]),
  (140, "potted_dead_bush", [(10, "")]), (140, "potted_fern", [(11, "")]),
  (140, "potted_acacia_sapling", [(12, "")]), (140, "potted_dark_oak_sapling", [(13, "")]),
  (140, "potted_blue_orchid", [(14, "")]), (140, "potted_allium", [(15, "")]),
  (141, "carrots", counting "age" 8), (142, "potatoes", counting "age" 8),
  (143, "oak_button", buttonStates),
  (144, "skeleton_skull", [(0, "[rotation=0]"), (1, "[rotation=4]")]),
  (144, "skeleton_wall_skull", wallFacings),
  (144, "skeleton_skull", [(8, "[rotation=8]"), (9, "[rotation=12]")]),
  (144, "skeleton_wall_skull", [(10, "[facing=north]"), (11, "[facing=south]"),
    (12, "[facing=west]"), (13, "[facing=east]")]), (145, "anvil", fourFacings),
  (145, "chipped_anvil", [(4, "[facing=south]"), (5, "[facing=west]"), (6, "[facing=north]"),
    (7, "[facing=east]")]),
  (145, "damaged_anvil", [(8, "[facing=south]"), (9, "[facing=west]"), (10, "[facing=north]"),
    (11, "[facing=east]")]),
  (146, "trapped_chest", [(2, "[facing=north,type=single]"), (3, "[facing=south,type=single]"),
    (4, "[facing=west,type=single]"), (5, "[facing=east,type=single]")]),
  (147, "light_weighted_pressure_plate", counting "power" 16),
  (148, "heavy_weighted_pressure_plate", counting "power" 16),
  (149, "comparator", [(0, "[mode=compare,powered=false,facing=south]"),
    (1, "[mode=compare,powered=false,facing=west]"),
    (2, "[mode=compare,powered=false,facing=north]"),
    (3, "[mode=compare,powered=false,facing=east]"),
    (4, "[mode=subtract,powered=false,facing=south]"),
    (5, "[mode=subtract,powered=false,facing=west]"),
    (6, "[mode=subtract,powered=false,facing=north]"),
    (7, "[mode=subtract,powered=false,facing=east]"),
    (8, "[mode=compare,powered=false,facing=south]"),
    (9, "[mode=compare,powered=false,facing=west]"),
    (10, "[mode=compare,powered=false,facing=north]"),
    (11, "[mode=compare,powered=false,facing=east]"),
    (12, "[mode=subtract,powered=false,facing=south]"),
    (13, "[mode=subtract,powered=false,facing=west]"),
    (14, "[mode=subtract,powered=false,facing=north]"),
    (15, "[mode=subtract,powered=false,facing=east]")]),
  (150, "comparator", [(0, "[mode=compare,powered=true,facing=south]"),
    (1, "[mode=compare,powered=true,facing=west]"),
    (2, "[mode=compare,powered=true,facing=north]"),
    (3, "[mode=compare,powered=true,facing=east]"),
    (4, "[mode=subtract,powered=true,facing=south]"),
    (5, "[mode=subtract,powered=true,facing=west]"),
    (6, "[mode=subtract,powered=true,facing=north]"),
    (7, "[mode=subtract,powered=true,facing=east]"),
    (8, "[mode=compare,powered=true,facing=south]"),
    (9, "[mode=compare,powered=true,facing=west]"),
    (10, "[mode=compare,powered=true,facing=north]"),
    (11, "[mode=compare,powered=true,facing=east]"),
    (12, "[mode=subtract,powered=true,facing=south]"),
    (13, "[mode=subtract,powered=true,facing=west]"),
    (14, "[mode=subtract,powered=true,facing=north]"),
    (15, "[mode=subtract,powered=true,facing=east]")]),
  (151, "daylight_detector", [(0, "[inverted=false,power=0]"), (1, "[inverted=false,power=1]"),
    (2, "[inverted=false,power=2]"), (3, "[inverted=false,power=3]"),
    (4, "[inverted=false,power=4]"), (5, "[inverted=false,power=5]"),
    (6, "[inverted=false,power=6]"), (7, "[inverted=false,power=7]"),
    (8, "[inverted=false,power=8]"), (9, "[inverted=false,power=9]"),
    (10, "[inverted=false,power=10]"), (11, "[inverted=false,power=11]"),
    (12, "[inverted=false,power=12]"), (13, "[inverted=false,power=13]"),
    (14, "[inverted=false,power=14]"), (15, "[inverted=false,power=15]")]),
  (152, "redstone_block", [(0, "")]), (153, "nether_quartz_ore", [(0, "")]),
  (154, "hopper", [(0, "[facing=down,enabled=true]"), (2, "[facing=north,enabled=true]"),
    (3, "[facing=south,enabled=true]"), (4, "[facing=west,enabled=true]"),
    (5, "[facing=east,enabled=true]"), (8, "[facing=down,enabled=false]"),
    (10, "[facing=north,enabled=false]"), (11, "[facing=south,enabled=false]"),
    (12, "[facing=west,enabled=false]"), (13, "[facing=east,enabled=false]")]),
  (155, "quartz_block", [(0, "")]), (155, "chiseled_quartz_block", [(1, "")]),
  (155, "quartz_pillar", [(2, "[axis=y]"), (3, "[axis=x]"), (4, "[axis=z]"), (6, "[axis=x]"),
    (10, "[axis=z]")]), (156, "quartz_stairs", stairStates), (157, "activator_rail", railStates),
  (158, "dropper", dispenserStates), (159, "white_terracotta", [(0, "")]),
  (159, "orange_terracotta", [(1, "")]), (159, "magenta_terracotta", [(2, "")]),
  (159, "light_blue_terracotta", [(3, "")]), (159, "yellow_terracotta", [(4, "")]),
  (159, "lime_terracotta", [(5, "")]), (159, "pink_terracotta", [(6, "")]),
  (159, "gray_terracotta", [(7, "")]), (159, "light_gray_terracotta", [(8, "")]),
  (159, "cyan_terracotta", [(9, "")]), (159, "purple_terracotta", [(10, "")]),
  (159, "blue_terracotta", [(11, "")]), (159, "brown_terracotta", [(12, "")]),
  (159, "green_terracotta", [(13, "")]), (159, "red_terracotta", [(14, "")]),
  (159, "black_terracotta", [(15, "")]),
  (160, "white_stained_glass_pane", [(0, "[east=false,south=false,north=false,west=false]")]),
  (160, "orange_stained_glass_pane", [(1, "[east=false,south=false,north=false,west=false]")]),
  (160, "magenta_stained_glass_pane", [(2, "[east=false,south=false,north=false,west=false]")]),
  (160, "light_blue_stained_glass_pane", [(3, "[east=false,south=false,north=false,west=false]")]),
  (160, "yellow_stained_glass_pane", [(4, "[east=false,south=false,north=false,west=false]")]),
  (160, "lime_stained_glass_pane", [(5, "[east=false,south=false,north=false,west=false]")]),
  (160, "pink_stained_glass_pane", [(6, "[east=false,south=false,north=false,west=false]")]),
  (160, "gray_stained_glass_pane", [(7, "[east=false,south=false,north=false,west=false]")]),
  (160, "light_gray_stained_glass_pane", [(8, "[east=false,south=false,north=false,west=false]")]),
  (160, "cyan_stained_glass_pane", [(9, "[east=false,south=false,north=false,west=false]")]),
  (160, "purple_stained_glass_pane", [(10, "[east=false,south=false,north=false,west=false]")]),
  (160, "blue_stained_glass_pane", [(11, "[east=false,south=false,north=false,west=false]")]),
  (160, "brown_stained_glass_pane", [(12, "[east=false,south=false,north=false,west=false]")]),
  (160, "green_stained_glass_pane", [(13, "[east=false,south=false,north=false,west=false]")]),
  (160, "red_stained_glass_pane", [(14, "[east=false,south=false,north=false,west=false]")]),
  (160, "black_stained_glass_pane", [(15, "[east=false,south=false,north=false,west=false]")]),
  (161, "acacia_leaves", [(0, "[persistent=false,distance=1]")]),
  (161, "dark_oak_leaves", [(1, "[persistent=false,distance=1]")]),
  (161, "acacia_leaves", [(4, "[persistent=true,distance=1]")]),
  (161, "dark_oak_leaves", [(5, "[persistent=true,distance=1]")]),
  (161, "acacia_leaves", [(8, "[persistent=false,distance=1]")]),
  (161, "dark_oak_leaves", [(9, "[persistent=false,distance=1]")]),
  (161, "acacia_leaves", [(12, "[persistent=true,distance=1]")]),
  (161, "dark_oak_leaves", [(13, "[persistent=true,distance=1]")]),
  (162, "acacia_log", [(0, "[axis=y]")]), (162, "dark_oak_log", [(1, "[axis=y]")]),
  (162, "acacia_log", [(4, "[axis=x]")]), (162, "dark_oak_log", [(5, "[axis=x]")]),
  (162, "acacia_log", [(8, "[axis=z]")]), (162, "dark_oak_log", [(9, "[axis=z]")]),
  (162, "acacia_wood", [(12, "")]), (162, "dark_oak_wood", [(13, "")]),
  (163, "acacia_stairs", stairStates), (164, "dark_oak_stairs", stairStates),
  (165, "slime_block", [(0, "")]), (166, "barrier", [(0, "")]),
  (167, "iron_trapdoor", [(0, "[half=bottom,facing=north,open=false]"),
    (1, "[half=bottom,facing=south,open=false]"), (2, "[half=bottom,facing=west,open=false]"),
    (3, "[half=bottom,facing=east,open=false]"), (4, "[half=bottom,facing=north,open=true]"),
    (5, "[half=bottom,facing=south,open=true]"), (6, "[half=bottom,facing=west,open=true]"),
    (7, "[half=bottom,facing=east,open=true]"), (8, "[half=top,facing=north,open=false]"),
    (9, "[half=top,facing=south,open=false]"), (10, "[half=top,facing=west,open=false]"),
    (11, "[half=top,facing=east,open=false]"), (12, "[half=top,facing=north,open=true]"),
    (13, "[half=top,facing=south,open=true]"), (14, "[half=top,facing=west,open=true]"),
    (15, "[half=top,facing=east,open=true]")]), (168, "prismarine", [(0, "")]),
  (168, "prismarine_bricks", [(1, "")]), (168, "dark_prismarine", [(2, "")]),
  (169, "sea_lantern", [(0, "")]),
  (170, "hay_block", [(0, "[axis=y]"), (4, "[axis=x]"), (8, "[axis=z]")]),
  (171, "white_carpet", [(0, "")]), (171, "orange_carpet", [(1, "")]),
  (171, "magenta_carpet", [(2, "")]), (171, "light_blue_carpet", [(3, "")]),
  (171, "yellow_carpet", [(4, "")]), (171, "lime_carpet", [(5, "")]),
  (171, "pink_carpet", [(6, "")]), (171, "gray_carpet", [(7, "")]),
  (171, "light_gray_carpet", [(8, "")]), (171, "cyan_carpet", [(9, "")]),
  (171, "purple_carpet", [(10, "")]), (171, "blue_carpet", [(11, "")]),
  (171, "brown_carpet", [(12, "")]), (171, "green_carpet", [(13, "")]),
  (171, "red_carpet", [(14, "")]), (171, "black_carpet", [(15, "")]),
  (172, "terracotta", [(0, "")]), (173, "coal_block", [(0, "")]), (174, "packed_ice", [(0, "")]),
  (175, "sunflower", [(0, "[half=lower]")]), (175, "lilac", [(1, "[half=lower]")]),
  (175, "tall_grass", [(2, "[half=lower]")]), (175, "large_fern", [(3, "[half=lower]")]),
  (175, "rose_bush", [(4, "[half=lower]")]), (175, "peony", [(5, "[half=lower]")]),
  (175, "sunflower", [(8, "[half=upper]")]), (175, "lilac", [(9, "[half=upper]")]),
  (175, "tall_grass", [(10, "[half=upper]")]), (175, "large_fern", [(11, "[half=upper]")]),
  (175, "rose_bush", [(12, "[half=upper]")]), (175, "peony", [(13, "[half=upper]")]),
  (176, "white_banner", counting "rotation" 16), (177, "white_wall_banner", wallFacings),
  (178, "daylight_detector", [(0, "[inverted=true,power=0]"), (1, "[inverted=true,power=1]"),
    (2, "[inverted=true,power=2]"), (3, "[inverted=true,power=3]"),
    (4, "[inverted=true,power=4]"), (5, "[inverted=true,power=5]"),
    (6, "[inverted=true,power=6]"), (7, "[inverted=true,power=7]"),
    (8, "[inverted=true,power=8]"), (9, "[inverted=true,power=9]"),
    (10, "[inverted=true,power=10]"), (11, "[inverted=true,power=11]"),
    (12, "[inverted=true,power=12]"), (13, "[inverted=true,power=13]"),
    (14, "[inverted=true,power=14]"), (15, "[inverted=true,power=15]")]),
  (179, "red_sandstone", [(0, "")]), (179, "chiseled_red_sandstone", [(1, "")]),
  (179, "cut_red_sandstone", [(2, "")]), (180, "red_sandstone_stairs", stairStates),
  (181, "red_sandstone_slab", [(0, "[type=double]")]), (181, "smooth_red_sandstone", [(8, "")]),
  (182, "red_sandstone_slab", [(0, "[type=bottom]"), (8, "[type=top]")]),
  (183, "spruce_fence_gate", gateStates), (184, "birch_fence_gate", gateStates),
  (185, "jungle_fence_gate", gateStates), (186, "dark_oak_fence_gate", gateStates),
  (187, "acacia_fence_gate", gateStates),
  (188, "spruce_fence", [(0, "[east=false,south=false,north=false,west=false]")]),
  (189, "birch_fence", [(0, "[east=false,south=false,north=false,west=false]")]),
  (190, "jungle_fence", [(0, "[east=false,south=false,north=false,west=false]")]),
  (191, "dark_oak_fence", [(0, "[east=false,south=false,north=false,west=false]")]),
  (192, "acacia_fence", [(0, "[east=false,south=false,north=false,west=false]")]),
  (193, "spruce_door", doorStates), (194, "birch_door", doorStates),
  (195, "jungle_door", doorStates), (196, "acacia_door", doorStates),
  (197, "dark_oak_door", doorStates), (198, "end_rod", sixFacings),
  (199, "chorus_plant",
    [(0, "[east=false,south=false,north=false,west=false,up=false,down=false]")]),
  (200, "chorus_flower", counting "age" 6), (201, "purpur_block", [(0, "")]),
  (202, "purpur_pillar", [(0, "[axis=y]"), (4, "[axis=x]"), (8, "[axis=z]")]),
  (203, "purpur_stairs", stairStates), (204, "purpur_slab", [(0, "[type=double]")]),
  (205, "purpur_slab", [(0, "[type=bottom]"), (8, "[type=top]")]),
  (206, "end_stone_bricks", [(0, "")]), (207, "beetroots", counting "age" 4),
  (208, "grass_path", [(0, "")]), (209, "end_gateway", [(0, "")]),
  (210, "repeating_command_block", commandStates), (211, "chain_command_block", commandStates),
  (212, "frosted_ice", counting "age" 4), (213, "magma_block", [(0, "")]),
  (214, "nether_wart_block", [(0, "")]), (215, "red_nether_bricks", [(0, "")]),
  (216, "bone_block", [(0, "[axis=y]"), (4, "[axis=x]"), (8, "[axis=z]")]),
  (217, "structure_void", [(0, "")]),
  (218, "observer", [(0, "[powered=false,facing=down]"), (1, "[powered=false,facing=up]"),
    (2, "[powered=false,facing=north]"), (3, "[powered=false,facing=south]"),
    (4, "[powered=false,facing=west]"), (5, "[powered=false,facing=east]"),
    (8, "[powered=true,facing=down]"), (9, "[powered=true,facing=up]"),
    (10, "[powered=true,facing=north]"), (11, "[powered=true,facing=south]"),
    (12, "[powered=true,facing=west]"), (13, "[powered=true,facing=east]")]),
  (219, "white_shulker_box", sixFacings), (220, "orange_shulker_box", sixFacings),
  (221, "magenta_shulker_box", sixFacings), (222, "light_blue_shulker_box", sixFacings),
  (223, "yellow_shulker_box", sixFacings), (224, "lime_shulker_box", sixFacings),
  (225, "pink_shulker_box", sixFacings), (226, "gray_shulker_box", sixFacings),
  (227, "light_gray_shulker_box", sixFacings), (228, "cyan_shulker_box", sixFacings),
  (229, "purple_shulker_box", sixFacings), (230, "blue_shulker_box", sixFacings),
  (231, "brown_shulker_box", sixFacings), (232, "green_shulker_box", sixFacings),
  (233, "red_shulker_box", sixFacings), (234, "black_shulker_box", sixFacings),
  (235, "white_glazed_terracotta", fourFacings), (236, "orange_glazed_terracotta", fourFacings),
  (237, "magenta_glazed_terracotta", fourFacings),
  (238, "light_blue_glazed_terracotta", fourFacings),
  (239, "yellow_glazed_terracotta", fourFacings), (240, "lime_glazed_terracotta", fourFacings),
  (241, "pink_glazed_terracotta", fourFacings), (242, "gray_glazed_terracotta", fourFacings),
  (243, "light_gray_glazed_terracotta", fourFacings), (244, "cyan_glazed_terracotta", fourFacings),
  (245, "purple_glazed_terracotta", fourFacings), (246, "blue_glazed_terracotta", fourFacings),
  (247, "brown_glazed_terracotta", fourFacings), (248, "green_glazed_terracotta", fourFacings),
  (249, "red_glazed_terracotta", fourFacings), (250, "black_glazed_terracotta", fourFacings),
  (251, "white_concrete", [(0, "")]), (251, "orange_concrete", [(1, "")]),
  (251, "magenta_concrete", [(2, "")]), (251, "light_blue_concrete", [(3, "")]),
  (251, "yellow_concrete", [(4, "")]), (251, "lime_concrete", [(5, "")]),
  (251, "pink_concrete", [(6, "")]), (251, "gray_concrete", [(7, "")]),
  (251, "light_gray_concrete", [(8, "")]), (251, "cyan_concrete", [(9, "")]),
  (251, "purple_concrete", [(10, "")]), (251, "blue_concrete", [(11, "")]),
  (251, "brown_concrete", [(12, "")]), (251, "green_concrete", [(13, "")]),
  (251, "red_concrete", [(14, "")]), (251, "black_concrete", [(15, "")]),
  (252, "white_concrete_powder", [(0, "")]), (252, "orange_concrete_powder", [(1, "")]),
  (252, "magenta_concrete_powder", [(2, "")]), (252, "light_blue_concrete_powder", [(3, "")]),
  (252, "yellow_concrete_powder", [(4, "")]), (252, "lime_concrete_powder", [(5, "")]),
  (252, "pink_concrete_powder", [(6, "")]), (252, "gray_concrete_powder", [(7, "")]),
  (252, "light_gray_concrete_powder", [(8, "")]), (252, "cyan_concrete_powder", [(9, "")]),
  (252, "purple_concrete_powder", [(10, "")]), (252, "blue_concrete_powder", [(11, "")]),
  (252, "brown_concrete_powder", [(12, "")]), (252, "green_concrete_powder", [(13, "")]),
  (252, "red_concrete_powder", [(14, "")]), (252, "black_concrete_powder", [(15, "")]),
  (255, "structure_block", [(0, "[mode=save]"), (1, "[mode=load]"), (2, "[mode=corner]"),
    (3, "[mode=data]")])]

/-- The number, the data value and the state of each block, in rising order. -/
def blockStates : List (Nat × Nat × String) :=
  blocksByNumber.flatMap fun (number, name, rows) =>
    rows.map fun (data, properties) => (number, data, "minecraft:" ++ name ++ properties)

end CommandUpgrade.Table.Standard
