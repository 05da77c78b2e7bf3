import TypeHints.Text.IdentifierRanges

/-!
# Characters of one weight

Which characters dictionary order does not tell apart: those without any weight, and those with the
weight of another character, such as the digits of the scripts and the letters of the mathematical
alphabets. Characters that decompose are left out.
-/

namespace TypeHints.Text

/-- Ranges of characters without any weight, first and last of each range. -/
def weightless : List (Nat × Nat) :=
  [(0, 8), (14, 31), (127, 132), (134, 159), (173, 173), (847, 847), (1160, 1161), (1425, 1455),
   (1469, 1469), (1476, 1477), (1536, 1541), (1552, 1562), (1564, 1564), (1600, 1600), (1750, 1757),
   (1759, 1764), (1767, 1768), (1770, 1773), (1807, 1807), (1856, 1856), (1859, 1860), (1863, 1866),
   (2042, 2042), (2192, 2193), (2200, 2205), (2250, 2274), (2282, 2287), (2291, 2291), (2385, 2386),
   (3864, 3865), (3893, 3893), (3895, 3895), (3902, 3903), (3974, 3975), (4038, 4038), (6068, 6069),
   (6099, 6099), (6154, 6159), (6783, 6783), (7019, 7027), (7376, 7400), (7412, 7412), (7415, 7417),
   (8203, 8207), (8234, 8238), (8288, 8292), (8294, 8303), (11647, 11647), (42608, 42610),
   (43232, 43249), (65024, 65039), (65057, 65057), (65059, 65062), (65064, 65064), (65066, 65069),
   (65071, 65071), (65139, 65139), (65279, 65279), (65529, 65531), (66272, 66272), (69371, 69371),
   (69373, 69375), (69821, 69821), (69837, 69837), (70502, 70508), (70512, 70516), (70625, 70626),
   (78896, 78912), (78919, 78933), (94180, 94180), (113824, 113827), (118528, 118573),
   (118576, 118598), (119141, 119145), (119149, 119170), (119173, 119179), (119210, 119213),
   (119362, 119364), (121344, 121398), (121403, 121452), (121461, 121461), (121476, 121476),
   (121499, 121503), (121505, 121519), (125136, 125142), (917505, 917505), (917536, 917631),
   (917760, 917999)]

/-- Ranges of characters that all have the weight of one character: first, last and that one. -/
def sharedWeights : List (Nat × Nat × Nat) :=
  [(675, 675, 499), (678, 678, 446), (782, 782, 781), (786, 786, 781), (789, 789, 781),
   (791, 793, 790), (794, 794, 781), (796, 800, 790), (809, 812, 790), (815, 815, 790),
   (819, 819, 790), (823, 823, 822), (826, 828, 790), (829, 831, 781), (838, 838, 781),
   (839, 841, 790), (842, 844, 781), (845, 846, 790), (848, 850, 781), (851, 854, 790),
   (855, 855, 781), (857, 858, 790), (859, 859, 781), (860, 860, 790), (861, 862, 781),
   (863, 863, 790), (866, 866, 790), (900, 900, 180), (1156, 1156, 781), (1157, 1157, 788),
   (1158, 1158, 787), (1159, 1159, 781), (1466, 1466, 1465), (1479, 1479, 1464), (1857, 1857, 781),
   (1858, 1858, 790), (1861, 1861, 781), (1862, 1862, 790), (2045, 2045, 790), (2077, 2077, 2076),
   (2079, 2080, 2078), (2082, 2083, 2081), (2085, 2085, 2084), (2087, 2087, 2086),
   (2089, 2090, 2088), (2137, 2139, 790), (2161, 2178, 2160), (2179, 2179, 1652),
   (2182, 2182, 1766), (2183, 2183, 1652), (2206, 2207, 1619), (2221, 2221, 2160),
   (2305, 2305, 2304), (2433, 2433, 2304), (2492, 2492, 2364), (2561, 2561, 2304),
   (2620, 2620, 2364), (2689, 2689, 2304), (2748, 2748, 2364), (2810, 2810, 1618),
   (2811, 2811, 1617), (2812, 2812, 1619), (2813, 2815, 2364), (2817, 2817, 2304),
   (2876, 2876, 2364), (2901, 2901, 781), (2946, 2946, 2306), (3072, 3073, 2304),
   (3076, 3076, 2306), (3132, 3132, 2364), (3201, 3201, 2304), (3260, 3260, 2364),
   (3315, 3315, 2306), (3328, 3328, 2306), (3329, 3329, 2304), (3388, 3388, 3387),
   (3452, 3452, 3406), (3457, 3457, 2304), (3970, 3971, 2304), (4150, 4150, 2306),
   (4152, 4152, 2307), (6091, 6097, 781), (6109, 6109, 781), (6618, 6618, 49), (6745, 6745, 6744),
   (6747, 6747, 6746), (6772, 6772, 2306), (6832, 6836, 781), (6837, 6842, 790), (6843, 6844, 781),
   (6845, 6845, 790), (6849, 6850, 781), (6851, 6852, 790), (6853, 6857, 781), (6858, 6858, 790),
   (6859, 6859, 781), (6863, 6876, 781), (6877, 6877, 790), (6880, 6885, 781), (6886, 6886, 790),
   (6887, 6891, 781), (6912, 6913, 2304), (6914, 6914, 2306), (6916, 6916, 2307),
   (6964, 6964, 2364), (7040, 7040, 2306), (7042, 7042, 2307), (7108, 7108, 7107),
   (7117, 7117, 7116), (7130, 7130, 7129), (7142, 7142, 2364), (7223, 7223, 2364),
   (7301, 7301, 7300), (7403, 7404, 7402), (7405, 7405, 2306), (7406, 7409, 7402),
   (7410, 7411, 2307), (7418, 7418, 7402), (7491, 7491, 170), (7506, 7506, 186), (7545, 7545, 6860),
   (7616, 7617, 781), (7618, 7618, 790), (7619, 7625, 781), (7626, 7626, 876), (7627, 7630, 781),
   (7631, 7632, 790), (7633, 7633, 781), (7636, 7636, 230), (7641, 7641, 240), (7653, 7653, 383),
   (7665, 7665, 6847), (7669, 7672, 781), (7673, 7674, 790), (7675, 7675, 781), (7676, 7677, 790),
   (7678, 7678, 781), (7679, 7679, 790), (8127, 8127, 8125), (8194, 8198, 5760), (8199, 8199, 160),
   (8200, 8202, 5760), (8239, 8239, 160), (8287, 8287, 5760), (8403, 8403, 8402), (8408, 8410, 822),
   (8413, 8416, 6846), (8418, 8420, 6846), (8421, 8421, 822), (8426, 8427, 822), (8428, 8431, 790),
   (8432, 8432, 781), (8460, 8461, 8459), (8463, 8463, 295), (8465, 8465, 8464), (8476, 8477, 8475),
   (8488, 8488, 8484), (8493, 8493, 8450), (8519, 8519, 8495), (8520, 8520, 8505),
   (8560, 8560, 869), (8564, 8564, 878), (8569, 8569, 879), (8572, 8572, 7645), (8575, 8575, 875),
   (8581, 8581, 54), (9471, 9471, 9450), (11503, 11503, 781), (11504, 11504, 788),
   (11505, 11505, 787), (11745, 11745, 7296), (11747, 11747, 7297), (11754, 11754, 7298),
   (11769, 11769, 7304), (11770, 11770, 7303), (12074, 12074, 11920), (12083, 12083, 11923),
   (12179, 12179, 11974), (12199, 12199, 11985), (12215, 12215, 11997), (12295, 12295, 48),
   (12344, 12344, 12055), (12872, 12872, 9321), (12873, 12873, 9331), (12890, 12890, 12874),
   (12981, 12981, 12875), (12991, 12991, 12876), (42601, 42601, 7298), (42602, 42602, 42600),
   (42603, 42603, 7298), (42604, 42604, 42600), (42605, 42606, 7298), (42616, 42616, 7302),
   (42620, 42621, 781), (42648, 42648, 42600), (42649, 42649, 7298), (42650, 42650, 42600),
   (42651, 42651, 7298), (42805, 42805, 7637), (42809, 42809, 7638), (42843, 42843, 7651),
   (42874, 42874, 7640), (42883, 42883, 6861), (42887, 42887, 6862), (42907, 42907, 7666),
   (42909, 42909, 7667), (42911, 42911, 7668), (43019, 43019, 2306), (43205, 43205, 2304),
   (43252, 43255, 43251), (43392, 43392, 2304), (43393, 43393, 2306), (43395, 43395, 2307),
   (43443, 43443, 2364), (64515, 64515, 64505), (64616, 64616, 64506), (65056, 65056, 865),
   (65058, 65058, 864), (65063, 65063, 790), (65065, 65065, 864), (65070, 65070, 1155),
   (65076, 65076, 65075), (65098, 65100, 65097), (65102, 65103, 65101), (65858, 65858, 49),
   (65859, 65859, 53), (65864, 65864, 53), (65871, 65871, 53), (65880, 65882, 49),
   (65883, 65886, 50), (65887, 65887, 53), (65907, 65907, 53), (65930, 65930, 48),
   (66045, 66045, 790), (66336, 66336, 49), (66337, 66337, 53), (67459, 67459, 7469),
   (67477, 67477, 43000), (67835, 67835, 49), (67836, 67836, 53), (67862, 67862, 49),
   (68109, 68109, 790), (68221, 68221, 49), (68253, 68253, 49), (68325, 68325, 781),
   (68326, 68326, 790), (68331, 68331, 49), (68332, 68332, 53), (68858, 68858, 49),
   (68859, 68859, 53), (68900, 68903, 781), (68971, 68971, 781), (68972, 68972, 2364),
   (68973, 68973, 781), (69291, 69291, 1620), (69292, 69292, 1619), (69317, 69317, 1766),
   (69372, 69372, 1648), (69446, 69447, 790), (69448, 69450, 781), (69451, 69451, 790),
   (69452, 69452, 781), (69453, 69456, 790), (69457, 69457, 49), (69506, 69506, 781),
   (69507, 69507, 790), (69508, 69508, 781), (69509, 69509, 790), (69632, 69632, 2304),
   (69760, 69760, 2304), (69818, 69818, 2364), (69888, 69888, 2304), (70003, 70003, 2364),
   (70016, 70016, 2304), (70089, 70089, 2558), (70090, 70090, 2364), (70095, 70095, 2304),
   (70196, 70196, 2306), (70198, 70198, 2364), (70199, 70199, 1617), (70206, 70206, 1618),
   (70367, 70367, 2306), (70377, 70377, 2364), (70400, 70400, 2306), (70401, 70401, 2304),
   (70459, 70460, 2364), (70602, 70602, 2304), (70723, 70723, 2304), (70726, 70726, 2364),
   (70750, 70750, 2558), (70847, 70847, 2304), (70851, 70851, 2364), (71100, 71100, 2304),
   (71104, 71104, 2364), (71232, 71232, 2304), (71351, 71351, 2364), (71738, 71738, 2364),
   (71995, 71995, 2306), (71996, 71996, 2304), (72003, 72003, 2364), (72243, 72243, 2364),
   (72245, 72247, 2304), (72764, 72764, 2304), (72885, 72885, 2306), (72886, 72886, 2304),
   (73026, 73026, 2364), (73027, 73027, 2304), (73472, 73472, 2304), (73473, 73473, 2306),
   (73475, 73475, 2307), (73562, 73562, 2364), (74810, 74811, 51), (74812, 74815, 52),
   (74818, 74819, 55), (74820, 74821, 56), (74822, 74825, 57), (74837, 74837, 53),
   (90413, 90413, 2306), (94194, 94194, 12041), (113821, 113821, 781), (113822, 113822, 822),
   (117975, 117975, 8492), (117976, 117976, 8450), (117977, 117977, 8517), (117981, 117981, 8459),
   (117982, 117982, 8464), (117985, 117985, 8466), (117986, 117986, 8499), (117987, 117987, 8469),
   (117999, 117999, 8484), (119671, 119671, 49), (119672, 119672, 53), (119808, 119808, 117974),
   (119809, 119809, 8492), (119810, 119810, 8450), (119811, 119811, 8517), (119814, 119814, 117980),
   (119815, 119815, 8459), (119816, 119816, 8464), (119819, 119819, 8466), (119820, 119820, 8499),
   (119821, 119821, 8469), (119822, 119822, 117988), (119833, 119833, 8484), (119837, 119837, 8518),
   (119838, 119838, 8495), (119840, 119840, 8458), (119841, 119841, 8462), (119842, 119842, 8505),
   (119843, 119843, 8521), (119845, 119845, 8467), (119848, 119848, 8500), (119860, 119860, 117974),
   (119861, 119861, 8492), (119862, 119862, 8450), (119863, 119863, 8517), (119866, 119866, 117980),
   (119867, 119867, 8459), (119868, 119868, 8464), (119871, 119871, 8466), (119872, 119872, 8499),
   (119873, 119873, 8469), (119874, 119874, 117988), (119885, 119885, 8484), (119889, 119889, 8518),
   (119890, 119890, 8495), (119891, 119891, 119839), (119892, 119892, 8458), (119894, 119894, 8505),
   (119895, 119895, 8521), (119896, 119896, 119844), (119897, 119897, 8467), (119900, 119900, 8500),
   (119912, 119912, 117974), (119913, 119913, 8492), (119914, 119914, 8450), (119915, 119915, 8517),
   (119918, 119918, 117980), (119919, 119919, 8459), (119920, 119920, 8464), (119923, 119923, 8466),
   (119924, 119924, 8499), (119925, 119925, 8469), (119926, 119926, 117988), (119937, 119937, 8484),
   (119941, 119941, 8518), (119942, 119942, 8495), (119943, 119943, 119839), (119944, 119944, 8458),
   (119945, 119945, 8462), (119946, 119946, 8505), (119947, 119947, 8521), (119948, 119948, 119844),
   (119949, 119949, 8467), (119952, 119952, 8500), (119964, 119964, 117974), (119966, 119966, 8450),
   (119967, 119967, 8517), (119970, 119970, 117980), (119977, 119977, 8469),
   (119978, 119978, 117988), (119989, 119989, 8484), (119993, 119993, 8518),
   (119995, 119995, 119839), (119997, 119997, 8462), (119998, 119998, 8505), (119999, 119999, 8521),
   (120000, 120000, 119844), (120001, 120001, 8467), (120016, 120016, 117974),
   (120017, 120017, 8492), (120018, 120018, 8450), (120019, 120019, 8517), (120022, 120022, 117980),
   (120023, 120023, 8459), (120024, 120024, 8464), (120027, 120027, 8466), (120028, 120028, 8499),
   (120029, 120029, 8469), (120030, 120030, 117988), (120041, 120041, 8484), (120045, 120045, 8518),
   (120046, 120046, 8495), (120047, 120047, 119839), (120048, 120048, 8458), (120049, 120049, 8462),
   (120050, 120050, 8505), (120051, 120051, 8521), (120052, 120052, 119844), (120053, 120053, 8467),
   (120056, 120056, 8500), (120068, 120068, 117974), (120069, 120069, 8492), (120071, 120071, 8517),
   (120074, 120074, 117980), (120079, 120079, 8466), (120080, 120080, 8499), (120081, 120081, 8469),
   (120082, 120082, 117988), (120097, 120097, 8518), (120098, 120098, 8495),
   (120099, 120099, 119839), (120100, 120100, 8458), (120101, 120101, 8462), (120102, 120102, 8505),
   (120103, 120103, 8521), (120104, 120104, 119844), (120105, 120105, 8467), (120108, 120108, 8500),
   (120120, 120120, 117974), (120121, 120121, 8492), (120123, 120123, 8517),
   (120126, 120126, 117980), (120128, 120128, 8464), (120131, 120131, 8466), (120132, 120132, 8499),
   (120134, 120134, 117988), (120149, 120149, 8518), (120150, 120150, 8495),
   (120151, 120151, 119839), (120152, 120152, 8458), (120153, 120153, 8462), (120154, 120154, 8505),
   (120155, 120155, 8521), (120156, 120156, 119844), (120157, 120157, 8467), (120160, 120160, 8500),
   (120172, 120172, 117974), (120173, 120173, 8492), (120174, 120174, 8450), (120175, 120175, 8517),
   (120178, 120178, 117980), (120179, 120179, 8459), (120180, 120180, 8464), (120183, 120183, 8466),
   (120184, 120184, 8499), (120185, 120185, 8469), (120186, 120186, 117988), (120197, 120197, 8484),
   (120201, 120201, 8518), (120202, 120202, 8495), (120203, 120203, 119839), (120204, 120204, 8458),
   (120205, 120205, 8462), (120206, 120206, 8505), (120207, 120207, 8521), (120208, 120208, 119844),
   (120209, 120209, 8467), (120212, 120212, 8500), (120224, 120224, 117974), (120225, 120225, 8492),
   (120226, 120226, 8450), (120227, 120227, 8517), (120230, 120230, 117980), (120231, 120231, 8459),
   (120232, 120232, 8464), (120235, 120235, 8466), (120236, 120236, 8499), (120237, 120237, 8469),
   (120238, 120238, 117988), (120249, 120249, 8484), (120253, 120253, 8518), (120254, 120254, 8495),
   (120255, 120255, 119839), (120256, 120256, 8458), (120257, 120257, 8462), (120258, 120258, 8505),
   (120259, 120259, 8521), (120260, 120260, 119844), (120261, 120261, 8467), (120264, 120264, 8500),
   (120276, 120276, 117974), (120277, 120277, 8492), (120278, 120278, 8450), (120279, 120279, 8517),
   (120282, 120282, 117980), (120283, 120283, 8459), (120284, 120284, 8464), (120287, 120287, 8466),
   (120288, 120288, 8499), (120289, 120289, 8469), (120290, 120290, 117988), (120301, 120301, 8484),
   (120305, 120305, 8518), (120306, 120306, 8495), (120307, 120307, 119839), (120308, 120308, 8458),
   (120309, 120309, 8462), (120310, 120310, 8505), (120311, 120311, 8521), (120312, 120312, 119844),
   (120313, 120313, 8467), (120316, 120316, 8500), (120328, 120328, 117974), (120329, 120329, 8492),
   (120330, 120330, 8450), (120331, 120331, 8517), (120334, 120334, 117980), (120335, 120335, 8459),
   (120336, 120336, 8464), (120339, 120339, 8466), (120340, 120340, 8499), (120341, 120341, 8469),
   (120342, 120342, 117988), (120353, 120353, 8484), (120357, 120357, 8518), (120358, 120358, 8495),
   (120359, 120359, 119839), (120360, 120360, 8458), (120361, 120361, 8462), (120362, 120362, 8505),
   (120363, 120363, 8521), (120364, 120364, 119844), (120365, 120365, 8467), (120368, 120368, 8500),
   (120380, 120380, 117974), (120381, 120381, 8492), (120382, 120382, 8450), (120383, 120383, 8517),
   (120386, 120386, 117980), (120387, 120387, 8459), (120388, 120388, 8464), (120391, 120391, 8466),
   (120392, 120392, 8499), (120393, 120393, 8469), (120394, 120394, 117988), (120405, 120405, 8484),
   (120409, 120409, 8518), (120410, 120410, 8495), (120411, 120411, 119839), (120412, 120412, 8458),
   (120413, 120413, 8462), (120414, 120414, 8505), (120415, 120415, 8521), (120416, 120416, 119844),
   (120417, 120417, 8467), (120420, 120420, 8500), (120432, 120432, 117974), (120433, 120433, 8492),
   (120434, 120434, 8450), (120435, 120435, 8517), (120438, 120438, 117980), (120439, 120439, 8459),
   (120440, 120440, 8464), (120443, 120443, 8466), (120444, 120444, 8499), (120445, 120445, 8469),
   (120446, 120446, 117988), (120457, 120457, 8484), (120461, 120461, 8518), (120462, 120462, 8495),
   (120463, 120463, 119839), (120464, 120464, 8458), (120465, 120465, 8462), (120466, 120466, 8505),
   (120467, 120467, 8521), (120468, 120468, 119844), (120469, 120469, 8467), (120472, 120472, 8500),
   (120490, 120490, 8510), (120503, 120503, 8511), (120505, 120505, 120495), (120516, 120516, 8509),
   (120529, 120529, 8508), (120532, 120532, 120531), (120540, 120540, 120518),
   (120541, 120541, 120521), (120542, 120542, 120523), (120543, 120543, 120535),
   (120544, 120544, 120530), (120545, 120545, 8508), (120548, 120548, 8510), (120561, 120561, 8511),
   (120562, 120562, 120504), (120563, 120563, 120495), (120574, 120574, 8509),
   (120587, 120587, 8508), (120590, 120590, 120531), (120598, 120598, 120518),
   (120599, 120599, 120521), (120600, 120600, 120523), (120601, 120601, 120535),
   (120602, 120602, 120530), (120603, 120603, 8508), (120606, 120606, 8510), (120619, 120619, 8511),
   (120620, 120620, 120504), (120621, 120621, 120495), (120632, 120632, 8509),
   (120645, 120645, 8508), (120648, 120648, 120531), (120656, 120656, 120518),
   (120657, 120657, 120521), (120658, 120658, 120523), (120659, 120659, 120535),
   (120660, 120660, 120530), (120661, 120661, 8508), (120664, 120664, 8510), (120677, 120677, 8511),
   (120678, 120678, 120504), (120679, 120679, 120495), (120690, 120690, 8509),
   (120703, 120703, 8508), (120706, 120706, 120531), (120714, 120714, 120518),
   (120715, 120715, 120521), (120716, 120716, 120523), (120717, 120717, 120535),
   (120718, 120718, 120530), (120719, 120719, 8508), (120722, 120722, 8510), (120735, 120735, 8511),
   (120736, 120736, 120504), (120737, 120737, 120495), (120748, 120748, 8509),
   (120761, 120761, 8508), (120764, 120764, 120531), (120772, 120772, 120518),
   (120773, 120773, 120521), (120774, 120774, 120523), (120775, 120775, 120535),
   (120776, 120776, 120530), (120777, 120777, 8508), (123184, 123184, 92980),
   (123185, 123185, 92976), (123190, 123190, 92977), (123566, 123566, 781), (124398, 124398, 781),
   (124399, 124399, 790), (125253, 125254, 125252), (126255, 126255, 93845),
   (126503, 126503, 126471), (126521, 126521, 126489), (126523, 126523, 126491),
   (126530, 126530, 126466), (126535, 126535, 126471), (126537, 126537, 126473),
   (126539, 126539, 126475), (126548, 126548, 126484), (126551, 126551, 126487),
   (126553, 126553, 126489), (126555, 126555, 126491), (126557, 126557, 126493),
   (126559, 126559, 126495), (126564, 126564, 126500), (126590, 126590, 126494),
   (126596, 126596, 126500), (127243, 127244, 9450), (127275, 127275, 9400), (127276, 127276, 9415),
   (127280, 127280, 7468), (127281, 127281, 7470), (127282, 127282, 42994), (127285, 127285, 42995),
   (127294, 127294, 7484), (127295, 127295, 7486), (127296, 127296, 42996), (127297, 127297, 7487),
   (127298, 127298, 42993), (127301, 127301, 11389), (127302, 127302, 7490),
   (127307, 127307, 13241), (127344, 127344, 7468), (127345, 127345, 7470), (127346, 127346, 42994),
   (127349, 127349, 42995), (127358, 127358, 7484), (127359, 127359, 7486), (127360, 127360, 42996),
   (127361, 127361, 7487), (127362, 127362, 42993), (127365, 127365, 11389), (127366, 127366, 7490),
   (127370, 127370, 7486), (127375, 127375, 127311)]

/-- Ranges of characters that have the weights of another range in turn: first, last and the first
of the other range. -/
def pairedWeights : List (Nat × Nat × Nat) :=
  [(1632, 1641, 48), (1776, 1785, 48), (1984, 1993, 48), (2180, 2181, 1765), (2387, 2388, 768),
   (2406, 2415, 48), (2434, 2435, 2306), (2534, 2543, 48), (2562, 2563, 2306), (2662, 2671, 48),
   (2690, 2691, 2306), (2790, 2799, 48), (2818, 2819, 2306), (2918, 2927, 48), (3046, 3055, 48),
   (3074, 3075, 2306), (3174, 3183, 48), (3192, 3195, 48), (3196, 3198, 49), (3202, 3203, 2306),
   (3302, 3311, 48), (3330, 3331, 2306), (3430, 3439, 48), (3458, 3459, 2306), (3558, 3567, 48),
   (3664, 3673, 48), (3792, 3801, 48), (3872, 3881, 48), (3966, 3967, 2306), (4160, 4169, 48),
   (4240, 4249, 48), (4969, 4977, 49), (6086, 6087, 2306), (6112, 6121, 48), (6128, 6137, 48),
   (6160, 6169, 48), (6470, 6479, 48), (6608, 6617, 48), (6784, 6793, 48), (6800, 6809, 48),
   (6992, 7001, 48), (7088, 7097, 48), (7232, 7241, 48), (7248, 7257, 48), (8573, 8574, 872),
   (9451, 9460, 9322), (9461, 9470, 9312), (10102, 10111, 9312), (10112, 10121, 9312),
   (10122, 10131, 9312), (11757, 11758, 7299), (12321, 12329, 49), (42528, 42537, 48),
   (43136, 43137, 2306), (43216, 43225, 48), (43264, 43273, 48), (43472, 43481, 48),
   (43504, 43513, 48), (43600, 43609, 48), (44016, 44025, 48), (65799, 65807, 49),
   (66273, 66281, 49), (66513, 66514, 49), (66720, 66729, 48), (67672, 67674, 49),
   (67705, 67709, 49), (67751, 67754, 49), (67755, 67756, 52), (67866, 67867, 50),
   (68032, 68040, 49), (68110, 68111, 2306), (68160, 68163, 49), (68440, 68443, 49),
   (68472, 68475, 49), (68521, 68524, 49), (68912, 68921, 48), (68928, 68937, 48),
   (69216, 69224, 49), (69405, 69409, 49), (69573, 69576, 49), (69633, 69634, 2306),
   (69714, 69722, 49), (69734, 69743, 48), (69761, 69762, 2306), (69872, 69881, 48),
   (69889, 69890, 2306), (69942, 69951, 48), (70017, 70018, 2306), (70096, 70105, 48),
   (70113, 70121, 49), (70384, 70393, 48), (70402, 70403, 2306), (70604, 70605, 2306),
   (70724, 70725, 2306), (70736, 70745, 48), (70848, 70849, 2306), (70864, 70873, 48),
   (71101, 71102, 2306), (71229, 71230, 2306), (71248, 71257, 48), (71339, 71340, 2306),
   (71360, 71369, 48), (71376, 71385, 48), (71386, 71395, 48), (71472, 71481, 48),
   (71735, 71736, 2306), (71904, 71913, 48), (72016, 72025, 48), (72158, 72159, 2306),
   (72248, 72249, 2306), (72342, 72343, 2306), (72688, 72697, 48), (72765, 72766, 2306),
   (72784, 72793, 48), (72794, 72802, 49), (73024, 73025, 2306), (73040, 73049, 48),
   (73109, 73110, 2306), (73120, 73129, 48), (73184, 73193, 48), (73552, 73561, 48),
   (74752, 74759, 50), (74760, 74766, 51), (74767, 74772, 52), (74773, 74781, 49),
   (74782, 74786, 49), (74787, 74788, 50), (74789, 74795, 51), (74796, 74798, 49),
   (74799, 74801, 51), (74804, 74806, 49), (74807, 74809, 51), (74816, 74817, 54),
   (74826, 74830, 50), (74831, 74834, 49), (74835, 74836, 52), (74838, 74839, 50),
   (74840, 74841, 49), (74857, 74862, 52), (90416, 90425, 48), (92768, 92777, 48),
   (92864, 92873, 48), (93008, 93017, 48), (93552, 93561, 48), (93824, 93833, 48),
   (117978, 117979, 8496), (117989, 117991, 8473), (119488, 119497, 48), (119520, 119529, 48),
   (119648, 119656, 49), (119666, 119670, 49), (119812, 119813, 8496), (119817, 119818, 117983),
   (119823, 119825, 8473), (119826, 119832, 117992), (119864, 119865, 8496),
   (119869, 119870, 117983), (119875, 119877, 8473), (119878, 119884, 117992),
   (119886, 119888, 119834), (119898, 119899, 119846), (119901, 119911, 119849),
   (119916, 119917, 8496), (119921, 119922, 117983), (119927, 119929, 8473),
   (119930, 119936, 117992), (119938, 119940, 119834), (119950, 119951, 119846),
   (119953, 119963, 119849), (119973, 119974, 117983), (119979, 119980, 8473),
   (119982, 119988, 117992), (119990, 119992, 119834), (120002, 120003, 119846),
   (120005, 120015, 119849), (120020, 120021, 8496), (120025, 120026, 117983),
   (120031, 120033, 8473), (120034, 120040, 117992), (120042, 120044, 119834),
   (120054, 120055, 119846), (120057, 120067, 119849), (120072, 120073, 8496),
   (120077, 120078, 117983), (120083, 120084, 8473), (120086, 120092, 117992),
   (120094, 120096, 119834), (120106, 120107, 119846), (120109, 120119, 119849),
   (120124, 120125, 8496), (120129, 120130, 117983), (120138, 120144, 117992),
   (120146, 120148, 119834), (120158, 120159, 119846), (120161, 120171, 119849),
   (120176, 120177, 8496), (120181, 120182, 117983), (120187, 120189, 8473),
   (120190, 120196, 117992), (120198, 120200, 119834), (120210, 120211, 119846),
   (120213, 120223, 119849), (120228, 120229, 8496), (120233, 120234, 117983),
   (120239, 120241, 8473), (120242, 120248, 117992), (120250, 120252, 119834),
   (120262, 120263, 119846), (120265, 120275, 119849), (120280, 120281, 8496),
   (120285, 120286, 117983), (120291, 120293, 8473), (120294, 120300, 117992),
   (120302, 120304, 119834), (120314, 120315, 119846), (120317, 120327, 119849),
   (120332, 120333, 8496), (120337, 120338, 117983), (120343, 120345, 8473),
   (120346, 120352, 117992), (120354, 120356, 119834), (120366, 120367, 119846),
   (120369, 120379, 119849), (120384, 120385, 8496), (120389, 120390, 117983),
   (120395, 120397, 8473), (120398, 120404, 117992), (120406, 120408, 119834),
   (120418, 120419, 119846), (120421, 120431, 119849), (120436, 120437, 8496),
   (120441, 120442, 117983), (120447, 120449, 8473), (120450, 120456, 117992),
   (120458, 120460, 119834), (120470, 120471, 119846), (120473, 120483, 119849),
   (120546, 120547, 120488), (120549, 120560, 120491), (120564, 120573, 120506),
   (120575, 120586, 120517), (120588, 120589, 120530), (120591, 120597, 120533),
   (120604, 120605, 120488), (120607, 120618, 120491), (120622, 120631, 120506),
   (120633, 120644, 120517), (120646, 120647, 120530), (120649, 120655, 120533),
   (120662, 120663, 120488), (120665, 120676, 120491), (120680, 120689, 120506),
   (120691, 120702, 120517), (120704, 120705, 120530), (120707, 120713, 120533),
   (120720, 120721, 120488), (120723, 120734, 120491), (120738, 120747, 120506),
   (120749, 120760, 120517), (120762, 120763, 120530), (120765, 120771, 120533),
   (120782, 120791, 118000), (120792, 120801, 118000), (120802, 120811, 118000),
   (120812, 120821, 118000), (120822, 120831, 118000), (123186, 123187, 92978),
   (123188, 123189, 92981), (123200, 123209, 48), (123632, 123641, 48), (124144, 124153, 48),
   (124401, 124410, 48), (125127, 125135, 49), (125264, 125273, 48), (126065, 126073, 49),
   (126115, 126123, 49), (126129, 126130, 93844), (126209, 126217, 49), (126497, 126498, 126465),
   (126505, 126514, 126473), (126516, 126519, 126484), (126541, 126543, 126477),
   (126545, 126546, 126481), (126561, 126562, 126465), (126567, 126570, 126471),
   (126572, 126578, 126476), (126580, 126583, 126484), (126585, 126588, 126489),
   (126592, 126595, 126464), (126597, 126601, 126469), (126603, 126619, 126475),
   (126625, 126627, 126465), (126629, 126633, 126469), (126635, 126651, 126475),
   (127283, 127284, 7472), (127286, 127293, 7475), (127299, 127300, 7488), (127312, 127337, 9398),
   (127347, 127348, 7472), (127350, 127357, 7475), (127363, 127364, 7488), (127367, 127369, 127303),
   (130032, 130041, 118000)]

/-- Whether a character has any weight. -/
def hasWeight (c : Char) : Bool := !inRanges weightless c.toNat

/-- The first character with the weight of a character. -/
def leader (c : Char) : Char :=
  let n := c.toNat
  if n < 0x2a3 then c
  else
    match sharedWeights.find? fun r => r.1 ≤ n && n ≤ r.2.1 with
    | some (_, _, m) => Char.ofNat m
    | none =>
      match pairedWeights.find? fun r => r.1 ≤ n && n ≤ r.2.1 with
      | some (first, _, m) => Char.ofNat (m + (n - first))
      | none => c

end TypeHints.Text
