/-!
# The face of picture text

Text in a picture is set in one sans-serif face at two sizes, 10 points for tick labels and
their scale labels and 12 points for titles, and measured at two resolutions: 100 pixels an inch
while the layout is tightened and 120 when the picture is saved. Glyphs are hinted at eight times
the horizontal resolution and then narrowed back, so that an advance is a whole number of
eighths of a pixel.

For each size and resolution the face has a table of glyph metrics in 64ths of a pixel: the
advance of the glyph (how far the pen moves on after it) and the lowest and highest point of its
hinted outline. A character the table does not hold is set with the glyph for a missing
character.
-/

namespace Turtle

namespace Face

/-- The metrics of a glyph, in 64ths of a pixel. -/
structure Glyph where
  /-- how far the pen moves on after the glyph -/
  advance : Nat
  /-- the lowest point of the outline, negative below the baseline -/
  low : Int
  /-- the highest point of the outline -/
  high : Int

/-- The sizes text is set at. -/
inductive Size where
  /-- tick labels and scale labels, 10 points -/
  | tick
  /-- titles, 12 points -/
  | title
deriving DecidableEq

/-- The resolutions a picture is measured at. -/
inductive Resolution where
  /-- 100 pixels an inch, while the layout is tightened -/
  | measured
  /-- 120 pixels an inch, when the picture is saved -/
  | saved
deriving DecidableEq

/-- Pixels an inch. -/
def Resolution.dpi : Resolution → Float
  | .measured => 100.0
  | .saved => 120.0

/-- The tick label glyphs at 10 points and 100 pixels an inch. -/
def tickMeasured : List (Nat × Nat × Int × Int) :=
  [(43, 752, 0, 576), (46, 280, 0, 118), (48, 568, 0, 640), (49, 568, 0, 640), (50, 568, 0, 640),
   (51, 568, 0, 640), (52, 568, 0, 640), (53, 568, 0, 640), (54, 568, 0, 640), (55, 568, 0, 640),
   (56, 568, 0, 640), (57, 568, 0, 640), (101, 544, 0, 512), (108, 248, 0, 704),
   (112, 568, -192, 512), (8722, 744, 246, 320)]

/-- The tick label glyphs at 10 points and 120 pixels an inch. -/
def tickSaved : List (Nat × Nat × Int × Int) :=
  [(43, 888, 0, 640), (46, 336, 0, 127), (48, 680, 0, 768), (49, 680, 0, 768), (50, 680, 0, 768),
   (51, 680, 0, 768), (52, 680, 0, 768), (53, 680, 0, 768), (54, 680, 0, 768), (55, 680, 0, 768),
   (56, 680, 0, 768), (57, 680, 0, 768), (101, 656, 0, 576), (108, 304, 0, 768),
   (112, 680, -192, 576), (8722, 896, 295, 384)]

/-- The title glyphs at 12 points and 100 pixels an inch. -/
def titleMeasured : List (Nat × Nat × Int × Int) :=
  [(32, 336, 0, 0), (33, 424, 0, 768), (34, 496, 512, 768), (35, 888, 0, 768),
   (36, 680, -160, 768), (37, 1008, 0, 768), (38, 824, 0, 768), (39, 296, 512, 768),
   (40, 408, -160, 768), (41, 416, -160, 768), (42, 536, 320, 768), (43, 888, 0, 640),
   (44, 344, -128, 128), (45, 392, 243, 321), (46, 336, 0, 127), (47, 360, -64, 768),
   (48, 680, 0, 768), (49, 680, 0, 768), (50, 680, 0, 768), (51, 680, 0, 768), (52, 680, 0, 768),
   (53, 680, 0, 768), (54, 680, 0, 768), (55, 680, 0, 768), (56, 680, 0, 768), (57, 680, 0, 768),
   (58, 368, 0, 512), (59, 368, -128, 512), (60, 896, 47, 597), (61, 888, 179, 449),
   (62, 896, 47, 597), (63, 568, 0, 768), (64, 1064, -205, 705), (65, 728, 0, 768),
   (66, 728, 0, 768), (67, 744, 0, 768), (68, 824, 0, 768), (69, 672, 0, 768), (70, 608, 0, 768),
   (71, 824, 0, 768), (72, 800, 0, 768), (73, 312, 0, 768), (74, 312, -192, 768),
   (75, 696, 0, 768), (76, 592, 0, 768), (77, 920, 0, 768), (78, 800, 0, 768), (79, 832, 0, 768),
   (80, 648, 0, 768), (81, 832, -128, 768), (82, 744, 0, 768), (83, 680, 0, 768),
   (84, 656, 0, 768), (85, 784, 0, 768), (86, 728, 0, 768), (87, 1056, 0, 768), (88, 728, 0, 768),
   (89, 648, 0, 768), (90, 728, 0, 768), (91, 416, -141, 768), (92, 360, -64, 768),
   (93, 424, -141, 768), (94, 896, 448, 736), (95, 536, -269, -191), (96, 536, 640, 832),
   (97, 656, 0, 576), (98, 680, 0, 768), (99, 584, 0, 576), (100, 672, 0, 768),
   (101, 656, 0, 576), (102, 376, 0, 768), (103, 672, -192, 576), (104, 672, 0, 768),
   (105, 304, 0, 768), (106, 304, -192, 768), (107, 624, 0, 768), (108, 304, 0, 768),
   (109, 1040, 0, 576), (110, 672, 0, 576), (111, 648, 0, 576), (112, 680, -192, 576),
   (113, 672, -192, 576), (114, 440, 0, 585), (115, 560, 0, 576), (116, 424, 0, 736),
   (117, 672, 0, 576), (118, 632, 0, 576), (119, 872, 0, 576), (120, 632, 0, 576),
   (121, 632, -192, 576), (122, 568, 0, 576), (123, 680, -205, 768), (124, 360, -256, 768),
   (125, 680, -205, 768), (126, 896, 230, 397), (160, 336, 0, 0), (161, 424, -192, 576),
   (162, 680, -142, 722), (163, 680, 0, 768), (164, 680, 48, 581), (165, 680, 0, 768),
   (166, 360, -192, 704), (167, 536, -77, 768), (168, 536, 691, 769), (169, 1064, -13, 769),
   (170, 496, 256, 832), (171, 656, 71, 531), (172, 896, 179, 449), (173, 392, 243, 321),
   (174, 1064, -13, 769), (175, 536, 691, 769), (176, 536, 435, 769), (177, 888, 0, 640),
   (178, 432, 384, 832), (179, 424, 384, 832), (180, 536, 640, 832), (181, 672, -192, 576),
   (182, 680, -110, 768), (183, 336, 320, 448), (184, 536, -191, 1), (185, 424, 384, 832),
   (186, 496, 256, 832), (187, 656, 71, 531), (188, 1032, -27, 741), (189, 1032, -13, 755),
   (190, 1024, -27, 769), (191, 568, -192, 576), (192, 728, 0, 960), (193, 728, 0, 960),
   (194, 728, 0, 960), (195, 728, 0, 961), (196, 728, 0, 897), (197, 736, 0, 961),
   (198, 1040, 0, 768), (199, 744, -192, 768), (200, 672, 0, 960), (201, 672, 0, 960),
   (202, 672, 0, 960), (203, 672, 0, 897), (204, 312, 0, 960), (205, 312, 0, 960),
   (206, 312, 0, 960), (207, 328, 0, 897), (208, 832, 0, 768), (209, 800, 0, 961),
   (210, 832, 0, 960), (211, 832, 0, 960), (212, 832, 0, 960), (213, 832, 0, 961),
   (214, 832, 0, 961), (215, 896, 32, 613), (216, 832, -20, 787), (217, 784, 0, 960),
   (218, 784, 0, 960), (219, 784, 0, 960), (220, 784, 0, 961), (221, 648, 0, 960),
   (222, 648, 0, 768), (223, 672, 0, 768), (224, 656, 0, 832), (225, 656, 0, 832),
   (226, 656, 0, 832), (227, 656, 0, 768), (228, 656, 0, 768), (229, 656, 0, 897),
   (230, 1048, 0, 576), (231, 584, -192, 576), (232, 656, 0, 832), (233, 656, 0, 832),
   (234, 656, 0, 832), (235, 656, 0, 768), (236, 304, 0, 832), (237, 304, 0, 832),
   (238, 304, 0, 832), (239, 296, 0, 768), (240, 648, 0, 768), (241, 672, 0, 768),
   (242, 648, 0, 832), (243, 648, 0, 832), (244, 648, 0, 832), (245, 648, 0, 768),
   (246, 648, 0, 768), (247, 888, 69, 576), (248, 648, -32, 608), (249, 672, 0, 832),
   (250, 672, 0, 832), (251, 672, 0, 832), (252, 672, 0, 768), (253, 632, -192, 832),
   (254, 680, -192, 768), (255, 632, -192, 768), (256, 728, 0, 897), (257, 656, 0, 768),
   (258, 728, 0, 960), (259, 656, 0, 768), (260, 728, -192, 768), (261, 656, -192, 576),
   (262, 744, 0, 960), (263, 584, 0, 832), (264, 744, 0, 960), (265, 584, 0, 832),
   (266, 744, 0, 961), (267, 584, 0, 768), (268, 744, 0, 960), (269, 584, 0, 832),
   (270, 824, 0, 960), (271, 672, 0, 768), (272, 832, 0, 768), (273, 672, 0, 768),
   (274, 672, 0, 897), (275, 656, 0, 768), (276, 672, 0, 960), (277, 656, 0, 832),
   (278, 672, 0, 897), (279, 656, 0, 768), (280, 680, -192, 768), (281, 656, -192, 576),
   (282, 672, 0, 960), (283, 656, 0, 832), (284, 824, 0, 960), (285, 672, -192, 832),
   (286, 824, 0, 960), (287, 672, -192, 832), (288, 824, 0, 961), (289, 672, -192, 768),
   (290, 824, -256, 768), (291, 672, -192, 768), (292, 800, 0, 960), (293, 672, 0, 960),
   (294, 976, 0, 768), (295, 744, 0, 768), (296, 312, 0, 961), (297, 304, 0, 768),
   (298, 328, 0, 897), (299, 296, 0, 768), (300, 312, 0, 960), (301, 304, 0, 800),
   (302, 312, -192, 768), (303, 304, -192, 768), (304, 312, 0, 897), (305, 304, 0, 576),
   (306, 624, -192, 768), (307, 600, -192, 768), (308, 312, -192, 960), (309, 304, -192, 832),
   (310, 696, -256, 768), (311, 624, -256, 768), (312, 624, 0, 576), (313, 592, 0, 960),
   (314, 304, 0, 960), (315, 592, -256, 768), (316, 304, -256, 768), (317, 592, 0, 768),
   (318, 400, 0, 768), (319, 600, 0, 768), (320, 368, 0, 768), (321, 600, 0, 768),
   (322, 304, 0, 768), (323, 800, 0, 960), (324, 672, 0, 832), (325, 800, -256, 768),
   (326, 672, -256, 576), (327, 800, 0, 960), (328, 672, 0, 832), (329, 872, 0, 768),
   (330, 792, -192, 768), (331, 672, -192, 576), (332, 832, 0, 961), (333, 648, 0, 768),
   (334, 832, 0, 960), (335, 648, 0, 832), (336, 832, 0, 965), (337, 648, 0, 832),
   (338, 1136, 0, 768), (339, 1088, 0, 576), (340, 744, 0, 960), (341, 440, 0, 832),
   (342, 744, -256, 768), (343, 440, -256, 585), (344, 744, 0, 960), (345, 440, 0, 832),
   (346, 680, 0, 960), (347, 560, 0, 832), (348, 680, 0, 960), (349, 560, 0, 832),
   (350, 680, -192, 768), (351, 560, -192, 576), (352, 680, 0, 960), (353, 560, 0, 832),
   (354, 656, -192, 768), (355, 424, -192, 736), (356, 656, 0, 960), (357, 424, 0, 832),
   (358, 656, 0, 768), (359, 424, 0, 736), (360, 784, 0, 961), (361, 672, 0, 768),
   (362, 784, 0, 961), (363, 672, 0, 768), (364, 784, 0, 960), (365, 672, 0, 800),
   (366, 784, 0, 961), (367, 672, 0, 897), (368, 784, 0, 965), (369, 672, 0, 829),
   (370, 784, -192, 768), (371, 672, -192, 576), (372, 1056, 0, 960), (373, 872, 0, 832),
   (374, 648, 0, 960), (375, 632, -192, 864), (376, 648, 0, 897), (377, 728, 0, 960),
   (378, 568, 0, 832), (379, 728, 0, 897), (380, 568, 0, 768), (381, 728, 0, 960),
   (382, 568, 0, 832), (383, 384, 0, 768), (913, 728, 0, 768), (914, 728, 0, 768),
   (915, 592, 0, 768), (916, 728, 0, 768), (917, 672, 0, 768), (918, 728, 0, 768),
   (919, 800, 0, 768), (920, 832, 0, 768), (921, 312, 0, 768), (922, 696, 0, 768),
   (923, 728, 0, 768), (924, 920, 0, 768), (925, 800, 0, 768), (926, 672, 0, 768),
   (927, 832, 0, 768), (928, 800, 0, 768), (929, 648, 0, 768), (931, 680, 0, 768),
   (932, 656, 0, 768), (933, 648, 0, 768), (934, 832, 0, 768), (935, 728, 0, 768),
   (936, 848, 0, 768), (937, 816, 0, 768), (938, 328, 0, 897), (939, 648, 0, 897),
   (940, 696, 0, 832), (941, 576, 0, 832), (942, 672, -192, 832), (943, 360, 0, 832),
   (944, 616, 0, 1024), (945, 696, 0, 576), (946, 680, -192, 768), (947, 632, -192, 576),
   (948, 648, 0, 768), (949, 576, 0, 576), (950, 576, -192, 768), (951, 672, -192, 576),
   (952, 648, 0, 768), (953, 360, 0, 576), (954, 624, 0, 576), (955, 632, 0, 768),
   (956, 672, -192, 576), (957, 600, 0, 576), (958, 600, -192, 768), (959, 648, 0, 576),
   (960, 648, 0, 576), (961, 680, -192, 576), (962, 624, -192, 576), (963, 672, 0, 576),
   (964, 648, 0, 576), (965, 616, 0, 576), (966, 704, -192, 576), (967, 616, -192, 576),
   (968, 704, -192, 576), (969, 896, 0, 576), (1025, 672, 0, 897), (1026, 840, -192, 768),
   (1027, 648, 0, 960), (1028, 744, 0, 768), (1029, 680, 0, 768), (1030, 312, 0, 768),
   (1031, 328, 0, 897), (1032, 312, -192, 768), (1033, 1160, 0, 768), (1034, 1112, 0, 768),
   (1035, 840, 0, 768), (1036, 752, 0, 960), (1037, 800, 0, 960), (1038, 648, 0, 960),
   (1039, 800, -160, 768), (1040, 728, 0, 768), (1041, 728, 0, 768), (1042, 728, 0, 768),
   (1043, 648, 0, 768), (1044, 840, -178, 768), (1045, 672, 0, 768), (1046, 1144, 0, 768),
   (1047, 680, 0, 768), (1048, 800, 0, 768), (1049, 800, 0, 960), (1050, 752, 0, 768),
   (1051, 800, 0, 768), (1052, 920, 0, 768), (1053, 800, 0, 768), (1054, 832, 0, 768),
   (1055, 800, 0, 768), (1056, 648, 0, 768), (1057, 744, 0, 768), (1058, 656, 0, 768),
   (1059, 648, 0, 768), (1060, 920, 0, 768), (1061, 728, 0, 768), (1062, 824, -171, 768),
   (1063, 728, 0, 768), (1064, 1144, 0, 768), (1065, 1160, -171, 768), (1066, 888, 0, 768),
   (1067, 936, 0, 768), (1068, 728, 0, 768), (1069, 744, 0, 768), (1070, 1152, 0, 768),
   (1071, 736, 0, 768), (1072, 656, 0, 576), (1073, 656, 0, 842), (1074, 632, 0, 576),
   (1075, 568, 0, 576), (1076, 736, -114, 576), (1077, 656, 0, 576), (1078, 960, 0, 576),
   (1079, 568, 0, 576), (1080, 688, 0, 576), (1081, 688, 0, 768), (1082, 648, 0, 576),
   (1083, 680, 0, 576), (1084, 808, 0, 576), (1085, 696, 0, 576), (1086, 648, 0, 576),
   (1087, 696, 0, 576), (1088, 680, -192, 576), (1089, 584, 0, 576), (1090, 624, 0, 576),
   (1091, 632, -192, 576), (1092, 912, -192, 768), (1093, 632, 0, 576), (1094, 728, -118, 576),
   (1095, 632, 0, 576), (1096, 968, 0, 576), (1097, 1008, -118, 576), (1098, 760, 0, 576),
   (1099, 840, 0, 576), (1100, 632, 0, 576), (1101, 584, 0, 576), (1102, 904, 0, 576),
   (1103, 640, 0, 576), (1104, 656, 0, 832), (1105, 656, 0, 769), (1106, 664, -214, 768),
   (1107, 568, 0, 832), (1108, 584, 0, 576), (1109, 560, 0, 576), (1110, 304, 0, 769),
   (1111, 296, 0, 769), (1112, 304, -192, 769), (1113, 968, 0, 576), (1114, 960, 0, 576),
   (1115, 696, 0, 768), (1116, 648, 0, 832), (1117, 688, 0, 832), (1118, 632, -192, 800),
   (1119, 696, -128, 576), (8722, 896, 295, 384), (8364, 680, 0, 768)]

/-- The title glyphs at 12 points and 120 pixels an inch. -/
def titleSaved : List (Nat × Nat × Int × Int) :=
  [(32, 408, 0, 0), (33, 512, 0, 896), (34, 584, 576, 896), (35, 1072, 0, 896),
   (36, 808, -192, 960), (37, 1224, 0, 896), (38, 1000, 0, 896), (39, 344, 576, 896),
   (40, 504, -160, 960), (41, 496, -160, 960), (42, 648, 320, 896), (43, 1072, 0, 768),
   (44, 408, -128, 192), (45, 464, 320, 416), (46, 400, 0, 138), (47, 432, -128, 896),
   (48, 816, 0, 896), (49, 816, 0, 896), (50, 816, 0, 896), (51, 816, 0, 896), (52, 816, 0, 896),
   (53, 816, 0, 896), (54, 816, 0, 896), (55, 816, 0, 896), (56, 816, 0, 896), (57, 816, 0, 896),
   (58, 432, 0, 640), (59, 432, -128, 650), (60, 1072, 58, 730), (61, 1072, 192, 544),
   (62, 1072, 58, 730), (63, 672, 0, 896), (64, 1280, -192, 928), (65, 872, 0, 896),
   (66, 880, 0, 896), (67, 896, 0, 896), (68, 984, 0, 896), (69, 808, 0, 896), (70, 736, 0, 896),
   (71, 992, 0, 896), (72, 968, 0, 896), (73, 384, 0, 896), (74, 384, -256, 896),
   (75, 840, 0, 896), (76, 712, 0, 896), (77, 1112, 0, 896), (78, 960, 0, 896),
   (79, 1008, 0, 896), (80, 768, 0, 896), (81, 1008, -160, 896), (82, 888, 0, 896),
   (83, 816, 0, 896), (84, 792, 0, 896), (85, 936, 0, 896), (86, 872, 0, 896), (87, 1264, 0, 896),
   (88, 880, 0, 896), (89, 784, 0, 896), (90, 872, 0, 896), (91, 496, -160, 960),
   (92, 432, -128, 896), (93, 496, -160, 960), (94, 1072, 576, 928), (95, 648, -320, -224),
   (96, 640, 768, 992), (97, 792, 0, 704), (98, 816, 0, 960), (99, 704, 0, 704),
   (100, 816, 0, 960), (101, 792, 0, 704), (102, 456, 0, 960), (103, 816, -256, 704),
   (104, 816, 0, 960), (105, 352, 0, 960), (106, 352, -256, 960), (107, 744, 0, 960),
   (108, 352, 0, 960), (109, 1256, 0, 704), (110, 816, 0, 704), (111, 784, 0, 704),
   (112, 816, -256, 704), (113, 816, -256, 704), (114, 536, 0, 704), (115, 664, 0, 704),
   (116, 504, 0, 896), (117, 816, 0, 704), (118, 760, 0, 704), (119, 1048, 0, 704),
   (120, 760, 0, 704), (121, 760, -256, 704), (122, 672, 0, 704), (123, 816, -224, 960),
   (124, 424, -288, 960), (125, 816, -224, 960), (126, 1072, 305, 526), (160, 408, 0, 0),
   (161, 512, -192, 704), (162, 816, -192, 896), (163, 816, 0, 896), (164, 816, 46, 723),
   (165, 816, 0, 896), (166, 424, -192, 896), (167, 640, -160, 896), (168, 640, 832, 928),
   (169, 1280, 0, 928), (170, 608, 256, 960), (171, 784, 87, 650), (172, 1072, 192, 544),
   (173, 464, 320, 416), (174, 1280, 0, 928), (175, 648, 832, 928), (176, 640, 512, 896),
   (177, 1072, 0, 768), (178, 512, 448, 960), (179, 512, 448, 960), (180, 640, 768, 992),
   (181, 816, -256, 704), (182, 808, -160, 896), (183, 400, 384, 522), (184, 640, -267, -11),
   (185, 512, 448, 960), (186, 600, 256, 960), (187, 784, 87, 650), (188, 1240, -7, 921),
   (189, 1240, -32, 928), (190, 1248, -7, 960), (191, 680, -256, 704), (192, 872, 0, 1152),
   (193, 872, 0, 1152), (194, 872, 0, 1152), (195, 880, 0, 1184), (196, 872, 0, 1120),
   (197, 872, 0, 1184), (198, 1240, 0, 896), (199, 896, -256, 896), (200, 808, 0, 1152),
   (201, 808, 0, 1152), (202, 808, 0, 1152), (203, 808, 0, 1120), (204, 384, 0, 1152),
   (205, 384, 0, 1152), (206, 384, 0, 1152), (207, 384, 0, 1120), (208, 992, 0, 896),
   (209, 960, 0, 1184), (210, 1008, 0, 1184), (211, 1008, 0, 1184), (212, 1008, 0, 1184),
   (213, 1008, 0, 1184), (214, 1008, 0, 1152), (215, 1072, 39, 749), (216, 1008, -25, 920),
   (217, 936, 0, 1184), (218, 936, 0, 1184), (219, 936, 0, 1184), (220, 936, 0, 1152),
   (221, 784, 0, 1152), (222, 776, 0, 896), (223, 816, 0, 960), (224, 792, 0, 1024),
   (225, 792, 0, 1024), (226, 792, 0, 1024), (227, 792, 0, 960), (228, 792, 0, 960),
   (229, 792, 0, 1120), (230, 1256, 0, 704), (231, 704, -256, 704), (232, 792, 0, 1024),
   (233, 792, 0, 1024), (234, 792, 0, 1024), (235, 792, 0, 960), (236, 352, 0, 992),
   (237, 352, 0, 992), (238, 352, 0, 992), (239, 352, 0, 960), (240, 784, 0, 960),
   (241, 816, 0, 960), (242, 784, 0, 1024), (243, 784, 0, 1024), (244, 784, 0, 1024),
   (245, 784, 0, 960), (246, 784, 0, 960), (247, 1072, 118, 704), (248, 784, -40, 744),
   (249, 816, 0, 1024), (250, 816, 0, 1024), (251, 816, 0, 1024), (252, 816, 0, 960),
   (253, 760, -256, 1024), (254, 816, -256, 960), (255, 752, -256, 960), (256, 872, 0, 1120),
   (257, 792, 0, 960), (258, 872, 0, 1184), (259, 792, 0, 960), (260, 880, -256, 896),
   (261, 792, -256, 704), (262, 896, 0, 1184), (263, 704, 0, 1024), (264, 896, 0, 1184),
   (265, 704, 0, 1024), (266, 896, 0, 1152), (267, 704, 0, 960), (268, 896, 0, 1184),
   (269, 704, 0, 1024), (270, 984, 0, 1152), (271, 816, 0, 960), (272, 992, 0, 896),
   (273, 816, 0, 960), (274, 808, 0, 1120), (275, 792, 0, 960), (276, 808, 0, 1152),
   (277, 792, 0, 992), (278, 808, 0, 1120), (279, 792, 0, 960), (280, 808, -256, 896),
   (281, 792, -256, 704), (282, 808, 0, 1152), (283, 792, 0, 1024), (284, 992, 0, 1184),
   (285, 816, -256, 1024), (286, 992, 0, 1184), (287, 816, -256, 992), (288, 992, 0, 1152),
   (289, 816, -256, 960), (290, 992, -320, 896), (291, 816, -256, 960), (292, 968, 0, 1152),
   (293, 816, 0, 1152), (294, 1176, 0, 896), (295, 888, 0, 960), (296, 384, 0, 1184),
   (297, 368, 0, 960), (298, 392, 0, 1120), (299, 360, 0, 960), (300, 384, 0, 1152),
   (301, 352, 0, 992), (302, 384, -256, 896), (303, 360, -256, 960), (304, 384, 0, 1120),
   (305, 352, 0, 704), (306, 760, -256, 896), (307, 712, -256, 960), (308, 384, -256, 1152),
   (309, 352, -256, 1024), (310, 840, -320, 896), (311, 744, -320, 960), (312, 744, 0, 704),
   (313, 712, 0, 1152), (314, 352, 0, 1152), (315, 712, -320, 896), (316, 352, -320, 960),
   (317, 712, 0, 896), (318, 480, 0, 960), (319, 712, 0, 896), (320, 432, 0, 960),
   (321, 712, 0, 896), (322, 368, 0, 960), (323, 960, 0, 1152), (324, 816, 0, 1024),
   (325, 960, -320, 896), (326, 816, -320, 704), (327, 960, 0, 1152), (328, 816, 0, 1024),
   (329, 1040, 0, 896), (330, 960, -256, 896), (331, 816, -256, 704), (332, 1008, 0, 1152),
   (333, 784, 0, 960), (334, 1008, 0, 1184), (335, 784, 0, 992), (336, 1008, 0, 1206),
   (337, 784, 0, 1024), (338, 1368, 0, 896), (339, 1312, 0, 704), (340, 888, 0, 1152),
   (341, 536, 0, 1024), (342, 888, -320, 896), (343, 536, -320, 704), (344, 888, 0, 1152),
   (345, 536, 0, 992), (346, 816, 0, 1184), (347, 664, 0, 1024), (348, 816, 0, 1184),
   (349, 664, 0, 1024), (350, 816, -256, 896), (351, 664, -256, 704), (352, 816, 0, 1184),
   (353, 664, 0, 1024), (354, 792, -256, 896), (355, 504, -256, 864), (356, 792, 0, 1152),
   (357, 504, 0, 1024), (358, 792, 0, 896), (359, 504, 0, 896), (360, 936, 0, 1184),
   (361, 816, 0, 960), (362, 936, 0, 1152), (363, 816, 0, 960), (364, 936, 0, 1184),
   (365, 816, 0, 992), (366, 936, 0, 1184), (367, 816, 0, 1088), (368, 936, 0, 1206),
   (369, 816, 0, 1024), (370, 936, -256, 896), (371, 816, -256, 704), (372, 1264, 0, 1184),
   (373, 1048, 0, 1024), (374, 784, 0, 1184), (375, 760, -256, 1024), (376, 784, 0, 1120),
   (377, 872, 0, 1152), (378, 672, 0, 1024), (379, 872, 0, 1120), (380, 672, 0, 960),
   (381, 872, 0, 1152), (382, 672, 0, 992), (383, 448, 0, 960), (913, 872, 0, 896),
   (914, 880, 0, 896), (915, 712, 0, 896), (916, 872, 0, 896), (917, 808, 0, 896),
   (918, 872, 0, 896), (919, 968, 0, 896), (920, 1008, 0, 896), (921, 384, 0, 896),
   (922, 840, 0, 896), (923, 872, 0, 896), (924, 1112, 0, 896), (925, 960, 0, 896),
   (926, 808, 0, 896), (927, 1008, 0, 896), (928, 968, 0, 896), (929, 768, 0, 896),
   (931, 808, 0, 896), (932, 792, 0, 896), (933, 784, 0, 896), (934, 1008, 0, 896),
   (935, 880, 0, 896), (936, 1008, 0, 896), (937, 976, 0, 896), (938, 384, 0, 1120),
   (939, 784, 0, 1120), (940, 848, 0, 992), (941, 688, 0, 1024), (942, 816, -256, 1024),
   (943, 432, 0, 992), (944, 744, 0, 1248), (945, 848, 0, 704), (946, 816, -256, 960),
   (947, 752, -256, 704), (948, 784, 0, 896), (949, 688, 0, 704), (950, 696, -256, 960),
   (951, 816, -256, 704), (952, 784, 0, 960), (953, 432, 0, 704), (954, 760, 0, 704),
   (955, 760, 0, 960), (956, 816, -256, 704), (957, 720, 0, 704), (958, 712, -256, 960),
   (959, 784, 0, 704), (960, 776, 0, 704), (961, 816, -256, 704), (962, 752, -256, 704),
   (963, 816, 0, 704), (964, 776, 0, 704), (965, 744, 0, 704), (966, 848, -256, 704),
   (967, 744, -256, 704), (968, 848, -256, 704), (969, 1072, 0, 704), (1025, 808, 0, 1120),
   (1026, 1008, -256, 896), (1027, 784, 0, 1152), (1028, 896, 0, 896), (1029, 816, 0, 896),
   (1030, 384, 0, 896), (1031, 384, 0, 1120), (1032, 384, -256, 896), (1033, 1400, 0, 896),
   (1034, 1336, 0, 896), (1035, 1008, 0, 896), (1036, 912, 0, 1152), (1037, 960, 0, 1152),
   (1038, 784, 0, 1152), (1039, 968, -192, 896), (1040, 872, 0, 896), (1041, 880, 0, 896),
   (1042, 880, 0, 896), (1043, 784, 0, 896), (1044, 1000, -224, 896), (1045, 808, 0, 896),
   (1046, 1376, 0, 896), (1047, 824, 0, 896), (1048, 960, 0, 896), (1049, 960, 0, 1152),
   (1050, 912, 0, 896), (1051, 960, 0, 896), (1052, 1112, 0, 896), (1053, 968, 0, 896),
   (1054, 1008, 0, 896), (1055, 968, 0, 896), (1056, 768, 0, 896), (1057, 896, 0, 896),
   (1058, 792, 0, 896), (1059, 784, 0, 896), (1060, 1096, 0, 896), (1061, 880, 0, 896),
   (1062, 992, -216, 896), (1063, 880, 0, 896), (1064, 1376, 0, 896), (1065, 1400, -216, 896),
   (1066, 1064, 0, 896), (1067, 1136, 0, 896), (1068, 880, 0, 896), (1069, 896, 0, 896),
   (1070, 1376, 0, 896), (1071, 896, 0, 896), (1072, 792, 0, 704), (1073, 792, 0, 1003),
   (1074, 760, 0, 704), (1075, 672, 0, 704), (1076, 880, -160, 704), (1077, 792, 0, 704),
   (1078, 1152, 0, 704), (1079, 672, 0, 704), (1080, 840, 0, 704), (1081, 840, 0, 960),
   (1082, 776, 0, 704), (1083, 816, 0, 704), (1084, 968, 0, 704), (1085, 840, 0, 704),
   (1086, 784, 0, 704), (1087, 840, 0, 704), (1088, 816, -256, 704), (1089, 704, 0, 704),
   (1090, 752, 0, 704), (1091, 760, -256, 704), (1092, 1096, -256, 896), (1093, 760, 0, 704),
   (1094, 872, -166, 704), (1095, 760, 0, 704), (1096, 1184, 0, 704), (1097, 1208, -166, 704),
   (1098, 904, 0, 704), (1099, 1008, 0, 704), (1100, 760, 0, 704), (1101, 704, 0, 704),
   (1102, 1080, 0, 704), (1103, 776, 0, 704), (1104, 792, 0, 1024), (1105, 792, 0, 960),
   (1106, 808, -261, 960), (1107, 672, 0, 1024), (1108, 704, 0, 704), (1109, 664, 0, 704),
   (1110, 352, 0, 960), (1111, 352, 0, 928), (1112, 352, -256, 960), (1113, 1152, 0, 704),
   (1114, 1152, 0, 704), (1115, 840, 0, 960), (1116, 776, 0, 1024), (1117, 840, 0, 1024),
   (1118, 752, -256, 960), (1119, 840, -160, 704), (8722, 1072, 330, 448), (8364, 816, 0, 896)]


/-- The glyph table of a size at a resolution, by code point. -/
def table : Size → Resolution → List (Nat × Nat × Int × Int)
  | .tick, .measured => tickMeasured
  | .tick, .saved => tickSaved
  | .title, .measured => titleMeasured
  | .title, .saved => titleSaved

/-- The glyph for a missing character. -/
def missing : Size → Resolution → Glyph
  | .tick, .measured => ⟨536, -179, 628⟩
  | .tick, .saved | .title, .measured => ⟨640, -189, 764⟩
  | .title, .saved => ⟨768, -199, 903⟩

/-- The glyph a character is set with. -/
def glyph (s : Size) (r : Resolution) (c : Char) : Glyph :=
  match (table s r).lookup c.toNat with
  | some (a, l, h) => ⟨a, l, h⟩
  | none => missing s r

end Face

end Turtle
