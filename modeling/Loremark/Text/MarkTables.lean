/-!
# Tables of marks

What is known about the marks that combine with the character in front of them: which characters
are marks, in which order marks stand behind one character, and which characters stand for a
character and a mark. The data are those of Unicode 14.
-/

set_option autoImplicit false

namespace Loremark.Text

/-- Edges of the set of marks that take up no place of their own (general category Mn). -/
def nonspacingEdges : List Nat := [
  768, 880, 1155, 1160, 1425, 1470, 1471, 1472, 1473, 1475, 1476, 1478, 1479, 1480, 1552, 1563,
  1611, 1632, 1648, 1649, 1750, 1757, 1759, 1765, 1767, 1769, 1770, 1774, 1809, 1810, 1840, 1867,
  1958, 1969, 2027, 2036, 2045, 2046, 2070, 2074, 2075, 2084, 2085, 2088, 2089, 2094, 2137, 2140,
  2200, 2208, 2250, 2274, 2275, 2307, 2362, 2363, 2364, 2365, 2369, 2377, 2381, 2382, 2385, 2392,
  2402, 2404, 2433, 2434, 2492, 2493, 2497, 2501, 2509, 2510, 2530, 2532, 2558, 2559, 2561, 2563,
  2620, 2621, 2625, 2627, 2631, 2633, 2635, 2638, 2641, 2642, 2672, 2674, 2677, 2678, 2689, 2691,
  2748, 2749, 2753, 2758, 2759, 2761, 2765, 2766, 2786, 2788, 2810, 2816, 2817, 2818, 2876, 2877,
  2879, 2880, 2881, 2885, 2893, 2894, 2901, 2903, 2914, 2916, 2946, 2947, 3008, 3009, 3021, 3022,
  3072, 3073, 3076, 3077, 3132, 3133, 3134, 3137, 3142, 3145, 3146, 3150, 3157, 3159, 3170, 3172,
  3201, 3202, 3260, 3261, 3263, 3264, 3270, 3271, 3276, 3278, 3298, 3300, 3328, 3330, 3387, 3389,
  3393, 3397, 3405, 3406, 3426, 3428, 3457, 3458, 3530, 3531, 3538, 3541, 3542, 3543, 3633, 3634,
  3636, 3643, 3655, 3663, 3761, 3762, 3764, 3773, 3784, 3790, 3864, 3866, 3893, 3894, 3895, 3896,
  3897, 3898, 3953, 3967, 3968, 3973, 3974, 3976, 3981, 3992, 3993, 4029, 4038, 4039, 4141, 4145,
  4146, 4152, 4153, 4155, 4157, 4159, 4184, 4186, 4190, 4193, 4209, 4213, 4226, 4227, 4229, 4231,
  4237, 4238, 4253, 4254, 4957, 4960, 5906, 5909, 5938, 5940, 5970, 5972, 6002, 6004, 6068, 6070,
  6071, 6078, 6086, 6087, 6089, 6100, 6109, 6110, 6155, 6158, 6159, 6160, 6277, 6279, 6313, 6314,
  6432, 6435, 6439, 6441, 6450, 6451, 6457, 6460, 6679, 6681, 6683, 6684, 6742, 6743, 6744, 6751,
  6752, 6753, 6754, 6755, 6757, 6765, 6771, 6781, 6783, 6784, 6832, 6846, 6847, 6863, 6912, 6916,
  6964, 6965, 6966, 6971, 6972, 6973, 6978, 6979, 7019, 7028, 7040, 7042, 7074, 7078, 7080, 7082,
  7083, 7086, 7142, 7143, 7144, 7146, 7149, 7150, 7151, 7154, 7212, 7220, 7222, 7224, 7376, 7379,
  7380, 7393, 7394, 7401, 7405, 7406, 7412, 7413, 7416, 7418, 7616, 7680, 8400, 8413, 8417, 8418,
  8421, 8433, 11503, 11506, 11647, 11648, 11744, 11776, 12330, 12334, 12441, 12443, 42607, 42608,
  42612, 42622, 42654, 42656, 42736, 42738, 43010, 43011, 43014, 43015, 43019, 43020, 43045,
  43047, 43052, 43053, 43204, 43206, 43232, 43250, 43263, 43264, 43302, 43310, 43335, 43346,
  43392, 43395, 43443, 43444, 43446, 43450, 43452, 43454, 43493, 43494, 43561, 43567, 43569,
  43571, 43573, 43575, 43587, 43588, 43596, 43597, 43644, 43645, 43696, 43697, 43698, 43701,
  43703, 43705, 43710, 43712, 43713, 43714, 43756, 43758, 43766, 43767, 44005, 44006, 44008,
  44009, 44013, 44014, 64286, 64287, 65024, 65040, 65056, 65072, 66045, 66046, 66272, 66273,
  66422, 66427, 68097, 68100, 68101, 68103, 68108, 68112, 68152, 68155, 68159, 68160, 68325,
  68327, 68900, 68904, 69291, 69293, 69446, 69457, 69506, 69510, 69633, 69634, 69688, 69703,
  69744, 69745, 69747, 69749, 69759, 69762, 69811, 69815, 69817, 69819, 69826, 69827, 69888,
  69891, 69927, 69932, 69933, 69941, 70003, 70004, 70016, 70018, 70070, 70079, 70089, 70093,
  70095, 70096, 70191, 70194, 70196, 70197, 70198, 70200, 70206, 70207, 70367, 70368, 70371,
  70379, 70400, 70402, 70459, 70461, 70464, 70465, 70502, 70509, 70512, 70517, 70712, 70720,
  70722, 70725, 70726, 70727, 70750, 70751, 70835, 70841, 70842, 70843, 70847, 70849, 70850,
  70852, 71090, 71094, 71100, 71102, 71103, 71105, 71132, 71134, 71219, 71227, 71229, 71230,
  71231, 71233, 71339, 71340, 71341, 71342, 71344, 71350, 71351, 71352, 71453, 71456, 71458,
  71462, 71463, 71468, 71727, 71736, 71737, 71739, 71995, 71997, 71998, 71999, 72003, 72004,
  72148, 72152, 72154, 72156, 72160, 72161, 72193, 72203, 72243, 72249, 72251, 72255, 72263,
  72264, 72273, 72279, 72281, 72284, 72330, 72343, 72344, 72346, 72752, 72759, 72760, 72766,
  72767, 72768, 72850, 72872, 72874, 72881, 72882, 72884, 72885, 72887, 73009, 73015, 73018,
  73019, 73020, 73022, 73023, 73030, 73031, 73032, 73104, 73106, 73109, 73110, 73111, 73112,
  73459, 73461, 92912, 92917, 92976, 92983, 94031, 94032, 94095, 94099, 94180, 94181, 113821,
  113823, 118528, 118574, 118576, 118599, 119143, 119146, 119163, 119171, 119173, 119180, 119210,
  119214, 119362, 119365, 121344, 121399, 121403, 121453, 121461, 121462, 121476, 121477, 121499,
  121504, 121505, 121520, 122880, 122887, 122888, 122905, 122907, 122914, 122915, 122917, 122918,
  122923, 123184, 123191, 123566, 123567, 123628, 123632, 125136, 125143, 125252, 125259, 917760,
  918000]

/-- Edges of the set of all marks (general category M). -/
def markEdges : List Nat := [
  768, 880, 1155, 1162, 1425, 1470, 1471, 1472, 1473, 1475, 1476, 1478, 1479, 1480, 1552, 1563,
  1611, 1632, 1648, 1649, 1750, 1757, 1759, 1765, 1767, 1769, 1770, 1774, 1809, 1810, 1840, 1867,
  1958, 1969, 2027, 2036, 2045, 2046, 2070, 2074, 2075, 2084, 2085, 2088, 2089, 2094, 2137, 2140,
  2200, 2208, 2250, 2274, 2275, 2308, 2362, 2365, 2366, 2384, 2385, 2392, 2402, 2404, 2433, 2436,
  2492, 2493, 2494, 2501, 2503, 2505, 2507, 2510, 2519, 2520, 2530, 2532, 2558, 2559, 2561, 2564,
  2620, 2621, 2622, 2627, 2631, 2633, 2635, 2638, 2641, 2642, 2672, 2674, 2677, 2678, 2689, 2692,
  2748, 2749, 2750, 2758, 2759, 2762, 2763, 2766, 2786, 2788, 2810, 2816, 2817, 2820, 2876, 2877,
  2878, 2885, 2887, 2889, 2891, 2894, 2901, 2904, 2914, 2916, 2946, 2947, 3006, 3011, 3014, 3017,
  3018, 3022, 3031, 3032, 3072, 3077, 3132, 3133, 3134, 3141, 3142, 3145, 3146, 3150, 3157, 3159,
  3170, 3172, 3201, 3204, 3260, 3261, 3262, 3269, 3270, 3273, 3274, 3278, 3285, 3287, 3298, 3300,
  3328, 3332, 3387, 3389, 3390, 3397, 3398, 3401, 3402, 3406, 3415, 3416, 3426, 3428, 3457, 3460,
  3530, 3531, 3535, 3541, 3542, 3543, 3544, 3552, 3570, 3572, 3633, 3634, 3636, 3643, 3655, 3663,
  3761, 3762, 3764, 3773, 3784, 3790, 3864, 3866, 3893, 3894, 3895, 3896, 3897, 3898, 3902, 3904,
  3953, 3973, 3974, 3976, 3981, 3992, 3993, 4029, 4038, 4039, 4139, 4159, 4182, 4186, 4190, 4193,
  4194, 4197, 4199, 4206, 4209, 4213, 4226, 4238, 4239, 4240, 4250, 4254, 4957, 4960, 5906, 5910,
  5938, 5941, 5970, 5972, 6002, 6004, 6068, 6100, 6109, 6110, 6155, 6158, 6159, 6160, 6277, 6279,
  6313, 6314, 6432, 6444, 6448, 6460, 6679, 6684, 6741, 6751, 6752, 6781, 6783, 6784, 6832, 6863,
  6912, 6917, 6964, 6981, 7019, 7028, 7040, 7043, 7073, 7086, 7142, 7156, 7204, 7224, 7376, 7379,
  7380, 7401, 7405, 7406, 7412, 7413, 7415, 7418, 7616, 7680, 8400, 8433, 11503, 11506, 11647,
  11648, 11744, 11776, 12330, 12336, 12441, 12443, 42607, 42611, 42612, 42622, 42654, 42656,
  42736, 42738, 43010, 43011, 43014, 43015, 43019, 43020, 43043, 43048, 43052, 43053, 43136,
  43138, 43188, 43206, 43232, 43250, 43263, 43264, 43302, 43310, 43335, 43348, 43392, 43396,
  43443, 43457, 43493, 43494, 43561, 43575, 43587, 43588, 43596, 43598, 43643, 43646, 43696,
  43697, 43698, 43701, 43703, 43705, 43710, 43712, 43713, 43714, 43755, 43760, 43765, 43767,
  44003, 44011, 44012, 44014, 64286, 64287, 65024, 65040, 65056, 65072, 66045, 66046, 66272,
  66273, 66422, 66427, 68097, 68100, 68101, 68103, 68108, 68112, 68152, 68155, 68159, 68160,
  68325, 68327, 68900, 68904, 69291, 69293, 69446, 69457, 69506, 69510, 69632, 69635, 69688,
  69703, 69744, 69745, 69747, 69749, 69759, 69763, 69808, 69819, 69826, 69827, 69888, 69891,
  69927, 69941, 69957, 69959, 70003, 70004, 70016, 70019, 70067, 70081, 70089, 70093, 70094,
  70096, 70188, 70200, 70206, 70207, 70367, 70379, 70400, 70404, 70459, 70461, 70462, 70469,
  70471, 70473, 70475, 70478, 70487, 70488, 70498, 70500, 70502, 70509, 70512, 70517, 70709,
  70727, 70750, 70751, 70832, 70852, 71087, 71094, 71096, 71105, 71132, 71134, 71216, 71233,
  71339, 71352, 71453, 71468, 71724, 71739, 71984, 71990, 71991, 71993, 71995, 71999, 72000,
  72001, 72002, 72004, 72145, 72152, 72154, 72161, 72164, 72165, 72193, 72203, 72243, 72250,
  72251, 72255, 72263, 72264, 72273, 72284, 72330, 72346, 72751, 72759, 72760, 72768, 72850,
  72872, 72873, 72887, 73009, 73015, 73018, 73019, 73020, 73022, 73023, 73030, 73031, 73032,
  73098, 73103, 73104, 73106, 73107, 73112, 73459, 73463, 92912, 92917, 92976, 92983, 94031,
  94032, 94033, 94088, 94095, 94099, 94180, 94181, 94192, 94194, 113821, 113823, 118528, 118574,
  118576, 118599, 119141, 119146, 119149, 119155, 119163, 119171, 119173, 119180, 119210, 119214,
  119362, 119365, 121344, 121399, 121403, 121453, 121461, 121462, 121476, 121477, 121499, 121504,
  121505, 121520, 122880, 122887, 122888, 122905, 122907, 122914, 122915, 122917, 122918, 122923,
  123184, 123191, 123566, 123567, 123628, 123632, 125136, 125143, 125252, 125259, 917760, 918000]

/-- The combining classes of marks: the first and the last code point of a run of marks, and the
class they share. What is in no run has class zero. -/
def markClasses : List (Nat × Nat × Nat) := [
  (768, 788, 230), (789, 789, 232), (790, 793, 220), (794, 794, 232), (795, 795, 216),
  (796, 800, 220), (801, 802, 202), (803, 806, 220), (807, 808, 202), (809, 819, 220),
  (820, 824, 1), (825, 828, 220), (829, 836, 230), (837, 837, 240), (838, 838, 230),
  (839, 841, 220), (842, 844, 230), (845, 846, 220), (848, 850, 230), (851, 854, 220),
  (855, 855, 230), (856, 856, 232), (857, 858, 220), (859, 859, 230), (860, 860, 233),
  (861, 862, 234), (863, 863, 233), (864, 865, 234), (866, 866, 233), (867, 879, 230),
  (1155, 1159, 230), (1425, 1425, 220), (1426, 1429, 230), (1430, 1430, 220), (1431, 1433, 230),
  (1434, 1434, 222), (1435, 1435, 220), (1436, 1441, 230), (1442, 1447, 220), (1448, 1449, 230),
  (1450, 1450, 220), (1451, 1452, 230), (1453, 1453, 222), (1454, 1454, 228), (1455, 1455, 230),
  (1456, 1456, 10), (1457, 1457, 11), (1458, 1458, 12), (1459, 1459, 13), (1460, 1460, 14),
  (1461, 1461, 15), (1462, 1462, 16), (1463, 1463, 17), (1464, 1464, 18), (1465, 1466, 19),
  (1467, 1467, 20), (1468, 1468, 21), (1469, 1469, 22), (1471, 1471, 23), (1473, 1473, 24),
  (1474, 1474, 25), (1476, 1476, 230), (1477, 1477, 220), (1479, 1479, 18), (1552, 1559, 230),
  (1560, 1560, 30), (1561, 1561, 31), (1562, 1562, 32), (1611, 1611, 27), (1612, 1612, 28),
  (1613, 1613, 29), (1614, 1614, 30), (1615, 1615, 31), (1616, 1616, 32), (1617, 1617, 33),
  (1618, 1618, 34), (1619, 1620, 230), (1621, 1622, 220), (1623, 1627, 230), (1628, 1628, 220),
  (1629, 1630, 230), (1631, 1631, 220), (1648, 1648, 35), (1750, 1756, 230), (1759, 1762, 230),
  (1763, 1763, 220), (1764, 1764, 230), (1767, 1768, 230), (1770, 1770, 220), (1771, 1772, 230),
  (1773, 1773, 220), (1809, 1809, 36), (1840, 1840, 230), (1841, 1841, 220), (1842, 1843, 230),
  (1844, 1844, 220), (1845, 1846, 230), (1847, 1849, 220), (1850, 1850, 230), (1851, 1852, 220),
  (1853, 1853, 230), (1854, 1854, 220), (1855, 1857, 230), (1858, 1858, 220), (1859, 1859, 230),
  (1860, 1860, 220), (1861, 1861, 230), (1862, 1862, 220), (1863, 1863, 230), (1864, 1864, 220),
  (1865, 1866, 230), (2027, 2033, 230), (2034, 2034, 220), (2035, 2035, 230), (2045, 2045, 220),
  (2070, 2073, 230), (2075, 2083, 230), (2085, 2087, 230), (2089, 2093, 230), (2137, 2139, 220),
  (2200, 2200, 230), (2201, 2203, 220), (2204, 2207, 230), (2250, 2254, 230), (2255, 2259, 220),
  (2260, 2273, 230), (2275, 2275, 220), (2276, 2277, 230), (2278, 2278, 220), (2279, 2280, 230),
  (2281, 2281, 220), (2282, 2284, 230), (2285, 2287, 220), (2288, 2288, 27), (2289, 2289, 28),
  (2290, 2290, 29), (2291, 2293, 230), (2294, 2294, 220), (2295, 2296, 230), (2297, 2298, 220),
  (2299, 2303, 230), (2364, 2364, 7), (2381, 2381, 9), (2385, 2385, 230), (2386, 2386, 220),
  (2387, 2388, 230), (2492, 2492, 7), (2509, 2509, 9), (2558, 2558, 230), (2620, 2620, 7),
  (2637, 2637, 9), (2748, 2748, 7), (2765, 2765, 9), (2876, 2876, 7), (2893, 2893, 9),
  (3021, 3021, 9), (3132, 3132, 7), (3149, 3149, 9), (3157, 3157, 84), (3158, 3158, 91),
  (3260, 3260, 7), (3277, 3277, 9), (3387, 3388, 9), (3405, 3405, 9), (3530, 3530, 9),
  (3640, 3641, 103), (3642, 3642, 9), (3656, 3659, 107), (3768, 3769, 118), (3770, 3770, 9),
  (3784, 3787, 122), (3864, 3865, 220), (3893, 3893, 220), (3895, 3895, 220), (3897, 3897, 216),
  (3953, 3953, 129), (3954, 3954, 130), (3956, 3956, 132), (3962, 3965, 130), (3968, 3968, 130),
  (3970, 3971, 230), (3972, 3972, 9), (3974, 3975, 230), (4038, 4038, 220), (4151, 4151, 7),
  (4153, 4154, 9), (4237, 4237, 220), (4957, 4959, 230), (5908, 5909, 9), (5940, 5940, 9),
  (6098, 6098, 9), (6109, 6109, 230), (6313, 6313, 228), (6457, 6457, 222), (6458, 6458, 230),
  (6459, 6459, 220), (6679, 6679, 230), (6680, 6680, 220), (6752, 6752, 9), (6773, 6780, 230),
  (6783, 6783, 220), (6832, 6836, 230), (6837, 6842, 220), (6843, 6844, 230), (6845, 6845, 220),
  (6847, 6848, 220), (6849, 6850, 230), (6851, 6852, 220), (6853, 6857, 230), (6858, 6858, 220),
  (6859, 6862, 230), (6964, 6964, 7), (6980, 6980, 9), (7019, 7019, 230), (7020, 7020, 220),
  (7021, 7027, 230), (7082, 7083, 9), (7142, 7142, 7), (7154, 7155, 9), (7223, 7223, 7),
  (7376, 7378, 230), (7380, 7380, 1), (7381, 7385, 220), (7386, 7387, 230), (7388, 7391, 220),
  (7392, 7392, 230), (7394, 7400, 1), (7405, 7405, 220), (7412, 7412, 230), (7416, 7417, 230),
  (7616, 7617, 230), (7618, 7618, 220), (7619, 7625, 230), (7626, 7626, 220), (7627, 7628, 230),
  (7629, 7629, 234), (7630, 7630, 214), (7631, 7631, 220), (7632, 7632, 202), (7633, 7669, 230),
  (7670, 7670, 232), (7671, 7672, 228), (7673, 7673, 220), (7674, 7674, 218), (7675, 7675, 230),
  (7676, 7676, 233), (7677, 7677, 220), (7678, 7678, 230), (7679, 7679, 220), (8400, 8401, 230),
  (8402, 8403, 1), (8404, 8407, 230), (8408, 8410, 1), (8411, 8412, 230), (8417, 8417, 230),
  (8421, 8422, 1), (8423, 8423, 230), (8424, 8424, 220), (8425, 8425, 230), (8426, 8427, 1),
  (8428, 8431, 220), (8432, 8432, 230), (11503, 11505, 230), (11647, 11647, 9),
  (11744, 11775, 230), (12330, 12330, 218), (12331, 12331, 228), (12332, 12332, 232),
  (12333, 12333, 222), (12334, 12335, 224), (12441, 12442, 8), (42607, 42607, 230),
  (42612, 42621, 230), (42654, 42655, 230), (42736, 42737, 230), (43014, 43014, 9),
  (43052, 43052, 9), (43204, 43204, 9), (43232, 43249, 230), (43307, 43309, 220),
  (43347, 43347, 9), (43443, 43443, 7), (43456, 43456, 9), (43696, 43696, 230),
  (43698, 43699, 230), (43700, 43700, 220), (43703, 43704, 230), (43710, 43711, 230),
  (43713, 43713, 230), (43766, 43766, 9), (44013, 44013, 9), (64286, 64286, 26),
  (65056, 65062, 230), (65063, 65069, 220), (65070, 65071, 230), (66045, 66045, 220),
  (66272, 66272, 220), (66422, 66426, 230), (68109, 68109, 220), (68111, 68111, 230),
  (68152, 68152, 230), (68153, 68153, 1), (68154, 68154, 220), (68159, 68159, 9),
  (68325, 68325, 230), (68326, 68326, 220), (68900, 68903, 230), (69291, 69292, 230),
  (69446, 69447, 220), (69448, 69450, 230), (69451, 69451, 220), (69452, 69452, 230),
  (69453, 69456, 220), (69506, 69506, 230), (69507, 69507, 220), (69508, 69508, 230),
  (69509, 69509, 220), (69702, 69702, 9), (69744, 69744, 9), (69759, 69759, 9), (69817, 69817, 9),
  (69818, 69818, 7), (69888, 69890, 230), (69939, 69940, 9), (70003, 70003, 7), (70080, 70080, 9),
  (70090, 70090, 7), (70197, 70197, 9), (70198, 70198, 7), (70377, 70377, 7), (70378, 70378, 9),
  (70459, 70460, 7), (70477, 70477, 9), (70502, 70508, 230), (70512, 70516, 230),
  (70722, 70722, 9), (70726, 70726, 7), (70750, 70750, 230), (70850, 70850, 9), (70851, 70851, 7),
  (71103, 71103, 9), (71104, 71104, 7), (71231, 71231, 9), (71350, 71350, 9), (71351, 71351, 7),
  (71467, 71467, 9), (71737, 71737, 9), (71738, 71738, 7), (71997, 71998, 9), (72003, 72003, 7),
  (72160, 72160, 9), (72244, 72244, 9), (72263, 72263, 9), (72345, 72345, 9), (72767, 72767, 9),
  (73026, 73026, 7), (73028, 73029, 9), (73111, 73111, 9), (92912, 92916, 1), (92976, 92982, 230),
  (94192, 94193, 6), (113822, 113822, 1), (119141, 119142, 216), (119143, 119145, 1),
  (119149, 119149, 226), (119150, 119154, 216), (119163, 119170, 220), (119173, 119177, 230),
  (119178, 119179, 220), (119210, 119213, 230), (119362, 119364, 230), (122880, 122886, 230),
  (122888, 122904, 230), (122907, 122913, 230), (122915, 122916, 230), (122918, 122922, 230),
  (123184, 123190, 230), (123566, 123566, 230), (123628, 123631, 230), (125136, 125142, 220),
  (125252, 125257, 230), (125258, 125258, 7)]

/-- The characters that can be written as two: for a second one, the first ones with which it
makes one character, each with that character. -/
def compositions : List (Nat × List (Nat × Nat)) := [
  (768, [(65, 192), (69, 200), (73, 204), (78, 504), (79, 210), (85, 217), (87, 7808), (89, 7922),
    (97, 224), (101, 232), (105, 236), (110, 505), (111, 242), (117, 249), (119, 7809),
    (121, 7923), (168, 8173), (194, 7846), (202, 7872), (212, 7890), (220, 475), (226, 7847),
    (234, 7873), (244, 7891), (252, 476), (258, 7856), (259, 7857), (274, 7700), (275, 7701),
    (332, 7760), (333, 7761), (416, 7900), (417, 7901), (431, 7914), (432, 7915), (913, 8122),
    (917, 8136), (919, 8138), (921, 8154), (927, 8184), (933, 8170), (937, 8186), (945, 8048),
    (949, 8050), (951, 8052), (953, 8054), (959, 8056), (965, 8058), (969, 8060), (970, 8146),
    (971, 8162), (1045, 1024), (1048, 1037), (1077, 1104), (1080, 1117), (7936, 7938),
    (7937, 7939), (7944, 7946), (7945, 7947), (7952, 7954), (7953, 7955), (7960, 7962),
    (7961, 7963), (7968, 7970), (7969, 7971), (7976, 7978), (7977, 7979), (7984, 7986),
    (7985, 7987), (7992, 7994), (7993, 7995), (8000, 8002), (8001, 8003), (8008, 8010),
    (8009, 8011), (8016, 8018), (8017, 8019), (8025, 8027), (8032, 8034), (8033, 8035),
    (8040, 8042), (8041, 8043), (8127, 8141), (8190, 8157)]),
  (769, [(65, 193), (67, 262), (69, 201), (71, 500), (73, 205), (75, 7728), (76, 313), (77, 7742),
    (78, 323), (79, 211), (80, 7764), (82, 340), (83, 346), (85, 218), (87, 7810), (89, 221),
    (90, 377), (97, 225), (99, 263), (101, 233), (103, 501), (105, 237), (107, 7729), (108, 314),
    (109, 7743), (110, 324), (111, 243), (112, 7765), (114, 341), (115, 347), (117, 250),
    (119, 7811), (121, 253), (122, 378), (168, 901), (194, 7844), (197, 506), (198, 508),
    (199, 7688), (202, 7870), (207, 7726), (212, 7888), (213, 7756), (216, 510), (220, 471),
    (226, 7845), (229, 507), (230, 509), (231, 7689), (234, 7871), (239, 7727), (244, 7889),
    (245, 7757), (248, 511), (252, 472), (258, 7854), (259, 7855), (274, 7702), (275, 7703),
    (332, 7762), (333, 7763), (360, 7800), (361, 7801), (416, 7898), (417, 7899), (431, 7912),
    (432, 7913), (913, 902), (917, 904), (919, 905), (921, 906), (927, 908), (933, 910),
    (937, 911), (945, 940), (949, 941), (951, 942), (953, 943), (959, 972), (965, 973),
    (969, 974), (970, 912), (971, 944), (978, 979), (1043, 1027), (1050, 1036), (1075, 1107),
    (1082, 1116), (7936, 7940), (7937, 7941), (7944, 7948), (7945, 7949), (7952, 7956),
    (7953, 7957), (7960, 7964), (7961, 7965), (7968, 7972), (7969, 7973), (7976, 7980),
    (7977, 7981), (7984, 7988), (7985, 7989), (7992, 7996), (7993, 7997), (8000, 8004),
    (8001, 8005), (8008, 8012), (8009, 8013), (8016, 8020), (8017, 8021), (8025, 8029),
    (8032, 8036), (8033, 8037), (8040, 8044), (8041, 8045), (8127, 8142), (8190, 8158)]),
  (770, [(65, 194), (67, 264), (69, 202), (71, 284), (72, 292), (73, 206), (74, 308), (79, 212),
    (83, 348), (85, 219), (87, 372), (89, 374), (90, 7824), (97, 226), (99, 265), (101, 234),
    (103, 285), (104, 293), (105, 238), (106, 309), (111, 244), (115, 349), (117, 251),
    (119, 373), (121, 375), (122, 7825), (7840, 7852), (7841, 7853), (7864, 7878), (7865, 7879),
    (7884, 7896), (7885, 7897)]),
  (771, [(65, 195), (69, 7868), (73, 296), (78, 209), (79, 213), (85, 360), (86, 7804),
    (89, 7928), (97, 227), (101, 7869), (105, 297), (110, 241), (111, 245), (117, 361),
    (118, 7805), (121, 7929), (194, 7850), (202, 7876), (212, 7894), (226, 7851), (234, 7877),
    (244, 7895), (258, 7860), (259, 7861), (416, 7904), (417, 7905), (431, 7918), (432, 7919)]),
  (772, [(65, 256), (69, 274), (71, 7712), (73, 298), (79, 332), (85, 362), (89, 562), (97, 257),
    (101, 275), (103, 7713), (105, 299), (111, 333), (117, 363), (121, 563), (196, 478),
    (198, 482), (213, 556), (214, 554), (220, 469), (228, 479), (230, 483), (245, 557),
    (246, 555), (252, 470), (490, 492), (491, 493), (550, 480), (551, 481), (558, 560),
    (559, 561), (913, 8121), (921, 8153), (933, 8169), (945, 8113), (953, 8145), (965, 8161),
    (1048, 1250), (1059, 1262), (1080, 1251), (1091, 1263), (7734, 7736), (7735, 7737),
    (7770, 7772), (7771, 7773)]),
  (774, [(65, 258), (69, 276), (71, 286), (73, 300), (79, 334), (85, 364), (97, 259), (101, 277),
    (103, 287), (105, 301), (111, 335), (117, 365), (552, 7708), (553, 7709), (913, 8120),
    (921, 8152), (933, 8168), (945, 8112), (953, 8144), (965, 8160), (1040, 1232), (1045, 1238),
    (1046, 1217), (1048, 1049), (1059, 1038), (1072, 1233), (1077, 1239), (1078, 1218),
    (1080, 1081), (1091, 1118), (7840, 7862), (7841, 7863)]),
  (775, [(65, 550), (66, 7682), (67, 266), (68, 7690), (69, 278), (70, 7710), (71, 288),
    (72, 7714), (73, 304), (77, 7744), (78, 7748), (79, 558), (80, 7766), (82, 7768), (83, 7776),
    (84, 7786), (87, 7814), (88, 7818), (89, 7822), (90, 379), (97, 551), (98, 7683), (99, 267),
    (100, 7691), (101, 279), (102, 7711), (103, 289), (104, 7715), (109, 7745), (110, 7749),
    (111, 559), (112, 7767), (114, 7769), (115, 7777), (116, 7787), (119, 7815), (120, 7819),
    (121, 7823), (122, 380), (346, 7780), (347, 7781), (352, 7782), (353, 7783), (383, 7835),
    (7778, 7784), (7779, 7785)]),
  (776, [(65, 196), (69, 203), (72, 7718), (73, 207), (79, 214), (85, 220), (87, 7812),
    (88, 7820), (89, 376), (97, 228), (101, 235), (104, 7719), (105, 239), (111, 246),
    (116, 7831), (117, 252), (119, 7813), (120, 7821), (121, 255), (213, 7758), (245, 7759),
    (362, 7802), (363, 7803), (921, 938), (933, 939), (953, 970), (965, 971), (978, 980),
    (1030, 1031), (1040, 1234), (1045, 1025), (1046, 1244), (1047, 1246), (1048, 1252),
    (1054, 1254), (1059, 1264), (1063, 1268), (1067, 1272), (1069, 1260), (1072, 1235),
    (1077, 1105), (1078, 1245), (1079, 1247), (1080, 1253), (1086, 1255), (1091, 1265),
    (1095, 1269), (1099, 1273), (1101, 1261), (1110, 1111), (1240, 1242), (1241, 1243),
    (1256, 1258), (1257, 1259)]),
  (777, [(65, 7842), (69, 7866), (73, 7880), (79, 7886), (85, 7910), (89, 7926), (97, 7843),
    (101, 7867), (105, 7881), (111, 7887), (117, 7911), (121, 7927), (194, 7848), (202, 7874),
    (212, 7892), (226, 7849), (234, 7875), (244, 7893), (258, 7858), (259, 7859), (416, 7902),
    (417, 7903), (431, 7916), (432, 7917)]),
  (778, [(65, 197), (85, 366), (97, 229), (117, 367), (119, 7832), (121, 7833)]),
  (779, [(79, 336), (85, 368), (111, 337), (117, 369), (1059, 1266), (1091, 1267)]),
  (780, [(65, 461), (67, 268), (68, 270), (69, 282), (71, 486), (72, 542), (73, 463), (75, 488),
    (76, 317), (78, 327), (79, 465), (82, 344), (83, 352), (84, 356), (85, 467), (90, 381),
    (97, 462), (99, 269), (100, 271), (101, 283), (103, 487), (104, 543), (105, 464), (106, 496),
    (107, 489), (108, 318), (110, 328), (111, 466), (114, 345), (115, 353), (116, 357),
    (117, 468), (122, 382), (220, 473), (252, 474), (439, 494), (658, 495)]),
  (783, [(65, 512), (69, 516), (73, 520), (79, 524), (82, 528), (85, 532), (97, 513), (101, 517),
    (105, 521), (111, 525), (114, 529), (117, 533), (1140, 1142), (1141, 1143)]),
  (785, [(65, 514), (69, 518), (73, 522), (79, 526), (82, 530), (85, 534), (97, 515), (101, 519),
    (105, 523), (111, 527), (114, 531), (117, 535)]),
  (787, [(913, 7944), (917, 7960), (919, 7976), (921, 7992), (927, 8008), (937, 8040),
    (945, 7936), (949, 7952), (951, 7968), (953, 7984), (959, 8000), (961, 8164), (965, 8016),
    (969, 8032)]),
  (788, [(913, 7945), (917, 7961), (919, 7977), (921, 7993), (927, 8009), (929, 8172),
    (933, 8025), (937, 8041), (945, 7937), (949, 7953), (951, 7969), (953, 7985), (959, 8001),
    (961, 8165), (965, 8017), (969, 8033)]),
  (795, [(79, 416), (85, 431), (111, 417), (117, 432)]),
  (803, [(65, 7840), (66, 7684), (68, 7692), (69, 7864), (72, 7716), (73, 7882), (75, 7730),
    (76, 7734), (77, 7746), (78, 7750), (79, 7884), (82, 7770), (83, 7778), (84, 7788),
    (85, 7908), (86, 7806), (87, 7816), (89, 7924), (90, 7826), (97, 7841), (98, 7685),
    (100, 7693), (101, 7865), (104, 7717), (105, 7883), (107, 7731), (108, 7735), (109, 7747),
    (110, 7751), (111, 7885), (114, 7771), (115, 7779), (116, 7789), (117, 7909), (118, 7807),
    (119, 7817), (121, 7925), (122, 7827), (416, 7906), (417, 7907), (431, 7920), (432, 7921)]),
  (804, [(85, 7794), (117, 7795)]),
  (805, [(65, 7680), (97, 7681)]),
  (806, [(83, 536), (84, 538), (115, 537), (116, 539)]),
  (807, [(67, 199), (68, 7696), (69, 552), (71, 290), (72, 7720), (75, 310), (76, 315), (78, 325),
    (82, 342), (83, 350), (84, 354), (99, 231), (100, 7697), (101, 553), (103, 291), (104, 7721),
    (107, 311), (108, 316), (110, 326), (114, 343), (115, 351), (116, 355)]),
  (808, [(65, 260), (69, 280), (73, 302), (79, 490), (85, 370), (97, 261), (101, 281), (105, 303),
    (111, 491), (117, 371)]),
  (813, [(68, 7698), (69, 7704), (76, 7740), (78, 7754), (84, 7792), (85, 7798), (100, 7699),
    (101, 7705), (108, 7741), (110, 7755), (116, 7793), (117, 7799)]),
  (814, [(72, 7722), (104, 7723)]),
  (816, [(69, 7706), (73, 7724), (85, 7796), (101, 7707), (105, 7725), (117, 7797)]),
  (817, [(66, 7686), (68, 7694), (75, 7732), (76, 7738), (78, 7752), (82, 7774), (84, 7790),
    (90, 7828), (98, 7687), (100, 7695), (104, 7830), (107, 7733), (108, 7739), (110, 7753),
    (114, 7775), (116, 7791), (122, 7829)]),
  (824, [(60, 8814), (61, 8800), (62, 8815), (8592, 8602), (8594, 8603), (8596, 8622),
    (8656, 8653), (8658, 8655), (8660, 8654), (8707, 8708), (8712, 8713), (8715, 8716),
    (8739, 8740), (8741, 8742), (8764, 8769), (8771, 8772), (8773, 8775), (8776, 8777),
    (8781, 8813), (8801, 8802), (8804, 8816), (8805, 8817), (8818, 8820), (8819, 8821),
    (8822, 8824), (8823, 8825), (8826, 8832), (8827, 8833), (8828, 8928), (8829, 8929),
    (8834, 8836), (8835, 8837), (8838, 8840), (8839, 8841), (8849, 8930), (8850, 8931),
    (8866, 8876), (8872, 8877), (8873, 8878), (8875, 8879), (8882, 8938), (8883, 8939),
    (8884, 8940), (8885, 8941)]),
  (834, [(168, 8129), (945, 8118), (951, 8134), (953, 8150), (965, 8166), (969, 8182),
    (970, 8151), (971, 8167), (7936, 7942), (7937, 7943), (7944, 7950), (7945, 7951),
    (7968, 7974), (7969, 7975), (7976, 7982), (7977, 7983), (7984, 7990), (7985, 7991),
    (7992, 7998), (7993, 7999), (8016, 8022), (8017, 8023), (8025, 8031), (8032, 8038),
    (8033, 8039), (8040, 8046), (8041, 8047), (8127, 8143), (8190, 8159)]),
  (837, [(913, 8124), (919, 8140), (937, 8188), (940, 8116), (942, 8132), (945, 8115),
    (951, 8131), (969, 8179), (974, 8180), (7936, 8064), (7937, 8065), (7938, 8066), (7939, 8067),
    (7940, 8068), (7941, 8069), (7942, 8070), (7943, 8071), (7944, 8072), (7945, 8073),
    (7946, 8074), (7947, 8075), (7948, 8076), (7949, 8077), (7950, 8078), (7951, 8079),
    (7968, 8080), (7969, 8081), (7970, 8082), (7971, 8083), (7972, 8084), (7973, 8085),
    (7974, 8086), (7975, 8087), (7976, 8088), (7977, 8089), (7978, 8090), (7979, 8091),
    (7980, 8092), (7981, 8093), (7982, 8094), (7983, 8095), (8032, 8096), (8033, 8097),
    (8034, 8098), (8035, 8099), (8036, 8100), (8037, 8101), (8038, 8102), (8039, 8103),
    (8040, 8104), (8041, 8105), (8042, 8106), (8043, 8107), (8044, 8108), (8045, 8109),
    (8046, 8110), (8047, 8111), (8048, 8114), (8052, 8130), (8060, 8178), (8118, 8119),
    (8134, 8135), (8182, 8183)]),
  (1619, [(1575, 1570)]),
  (1620, [(1575, 1571), (1608, 1572), (1610, 1574), (1729, 1730), (1746, 1747), (1749, 1728)]),
  (1621, [(1575, 1573)]),
  (2364, [(2344, 2345), (2352, 2353), (2355, 2356)]),
  (2494, [(2503, 2507)]),
  (2519, [(2503, 2508)]),
  (2878, [(2887, 2891)]),
  (2902, [(2887, 2888)]),
  (2903, [(2887, 2892)]),
  (3006, [(3014, 3018), (3015, 3019)]),
  (3031, [(2962, 2964), (3014, 3020)]),
  (3158, [(3142, 3144)]),
  (3266, [(3270, 3274)]),
  (3285, [(3263, 3264), (3270, 3271), (3274, 3275)]),
  (3286, [(3270, 3272)]),
  (3390, [(3398, 3402), (3399, 3403)]),
  (3415, [(3398, 3404)]),
  (3530, [(3545, 3546), (3548, 3549)]),
  (3535, [(3545, 3548)]),
  (3551, [(3545, 3550)]),
  (4142, [(4133, 4134)]),
  (6965, [(6917, 6918), (6919, 6920), (6921, 6922), (6923, 6924), (6925, 6926), (6929, 6930),
    (6970, 6971), (6972, 6973), (6974, 6976), (6975, 6977), (6978, 6979)]),
  (12441, [(12358, 12436), (12363, 12364), (12365, 12366), (12367, 12368), (12369, 12370),
    (12371, 12372), (12373, 12374), (12375, 12376), (12377, 12378), (12379, 12380),
    (12381, 12382), (12383, 12384), (12385, 12386), (12388, 12389), (12390, 12391),
    (12392, 12393), (12399, 12400), (12402, 12403), (12405, 12406), (12408, 12409),
    (12411, 12412), (12445, 12446), (12454, 12532), (12459, 12460), (12461, 12462),
    (12463, 12464), (12465, 12466), (12467, 12468), (12469, 12470), (12471, 12472),
    (12473, 12474), (12475, 12476), (12477, 12478), (12479, 12480), (12481, 12482),
    (12484, 12485), (12486, 12487), (12488, 12489), (12495, 12496), (12498, 12499),
    (12501, 12502), (12504, 12505), (12507, 12508), (12527, 12535), (12528, 12536),
    (12529, 12537), (12530, 12538), (12541, 12542)]),
  (12442, [(12399, 12401), (12402, 12404), (12405, 12407), (12408, 12410), (12411, 12413),
    (12495, 12497), (12498, 12500), (12501, 12503), (12504, 12506), (12507, 12509)]),
  (69818, [(69785, 69786), (69787, 69788), (69797, 69803)]),
  (69927, [(69937, 69934), (69938, 69935)]),
  (70462, [(70471, 70475)]),
  (70487, [(70471, 70476)]),
  (70832, [(70841, 70844)]),
  (70842, [(70841, 70843)]),
  (70845, [(70841, 70846)]),
  (71087, [(71096, 71098), (71097, 71099)]),
  (71984, [(71989, 71992)])]

end Loremark.Text
