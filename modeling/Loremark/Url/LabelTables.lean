/-!
# Tables of the characters in labels

The properties of characters that decide whether a label of a host name may hold them. Every table
lists the edges of ranges of code points, as the tables of character properties do. What a table
says holds of the characters that a label may hold; other characters may lie within its ranges.
-/

set_option autoImplicit false

namespace Loremark.Url.Label

/-- Edges of ranges whose letters, marks and numbers no label holds: variants of other characters,
numbers that are not decimal digits, old Korean letters, and marks that are not seen. -/
def variantEdges : List Nat := [
  170, 191, 307, 308, 320, 321, 329, 330, 383, 384, 454, 461, 499, 500, 688, 697, 736, 741, 832,
  834, 835, 838, 847, 848, 884, 885, 890, 891, 976, 983, 1008, 1011, 1013, 1014, 1160, 1162, 1415,
  1416, 1600, 1601, 1632, 1642, 1653, 1657, 1776, 1786, 2042, 2043, 2392, 2400, 2524, 2528, 2548,
  2554, 2611, 2612, 2614, 2615, 2649, 2652, 2654, 2655, 2908, 2910, 2930, 2936, 3056, 3059, 3192,
  3199, 3416, 3423, 3440, 3449, 3635, 3636, 3763, 3764, 3804, 3806, 3882, 3892, 3907, 3908, 3917,
  3918, 3922, 3923, 3927, 3928, 3932, 3933, 3945, 3946, 3955, 3956, 3957, 3962, 3969, 3970, 3987,
  3988, 3997, 3998, 4002, 4003, 4007, 4008, 4012, 4013, 4025, 4026, 4348, 4349, 4352, 4608, 4969,
  4989, 5112, 5118, 5870, 5873, 6068, 6070, 6128, 6160, 6618, 6619, 6846, 6847, 7296, 7305, 7468,
  7471, 7472, 7483, 7484, 7502, 7503, 7531, 7544, 7545, 7579, 7616, 7834, 7836, 8049, 8050, 8051,
  8052, 8053, 8054, 8055, 8056, 8057, 8058, 8059, 8060, 8061, 8104, 8114, 8117, 8119, 8133, 8135,
  8136, 8147, 8148, 8163, 8164, 8178, 8181, 8183, 8522, 8528, 8579, 8581, 10132, 11388, 11390,
  11517, 11518, 11631, 11632, 12321, 12330, 12334, 12348, 12447, 12448, 12543, 12544, 12593,
  12694, 12832, 12992, 42608, 42611, 42652, 42654, 42726, 42736, 42864, 42865, 42994, 42997,
  43000, 43002, 43056, 43062, 43360, 43389, 43868, 43872, 43881, 43968, 55216, 64014, 64016,
  64017, 64018, 64019, 64021, 64031, 64032, 64033, 64034, 64035, 64037, 64039, 64042, 64286,
  64287, 65040, 65136, 65139, 65140, 65501, 65799, 65932, 66273, 66300, 66336, 66340, 66369,
  66370, 66378, 66379, 66513, 66518, 67457, 67515, 67672, 67680, 67705, 67712, 67751, 67760,
  67835, 67840, 67862, 67868, 68028, 68030, 68032, 68096, 68160, 68169, 68221, 68223, 68253,
  68256, 68331, 68336, 68440, 68448, 68472, 68480, 68521, 68528, 68858, 68864, 69216, 69247,
  69405, 69415, 69457, 69461, 69573, 69580, 69714, 69734, 70113, 70133, 71482, 71484, 71914,
  71923, 72794, 72813, 73664, 73685, 74752, 74863, 93019, 93026, 93824, 93847, 119141, 120832,
  125127, 125136, 126065, 130042, 194560, 195102, 917760, 918000]

/-- Edges of ranges whose letters are joined to the letter behind them only. -/
def joinsBehindEdges : List Nat := [
  43122, 43123, 68301, 68302, 68311, 68312, 68864, 68865]

/-- Edges of ranges whose letters are joined to the letter in front of them only. -/
def joinsFrontEdges : List Nat := [
  1570, 1574, 1575, 1576, 1577, 1578, 1583, 1587, 1608, 1609, 1649, 1652, 1672, 1690, 1728, 1729,
  1731, 1740, 1741, 1742, 1743, 1744, 1746, 1750, 1774, 1776, 1808, 1809, 1813, 1818, 1822, 1823,
  1832, 1833, 1834, 1835, 1836, 1837, 1839, 1870, 1881, 1884, 1899, 1901, 1905, 1906, 1907, 1909,
  1912, 1914, 2112, 2113, 2118, 2120, 2121, 2122, 2132, 2133, 2134, 2137, 2151, 2152, 2153, 2179,
  2190, 2191, 2218, 2221, 2222, 2223, 2225, 2227, 2233, 2234, 68293, 68294, 68295, 68299, 68302,
  68307, 68317, 68318, 68321, 68322, 68324, 68325, 68481, 68482, 68483, 68486, 68489, 68490,
  68492, 68493, 68494, 68496, 68497, 68498, 68898, 68899, 69427, 69428, 69492, 69494, 69556,
  69559, 69561, 69563, 69565, 69566, 69570, 69572]

/-- Edges of ranges whose letters are joined on both sides. -/
def joinsBothEdges : List Nat := [
  1568, 1569, 1574, 1575, 1576, 1577, 1578, 1583, 1587, 1608, 1609, 1611, 1646, 1648, 1657, 1672,
  1690, 1728, 1729, 1731, 1740, 1741, 1742, 1743, 1744, 1746, 1786, 1789, 1791, 1792, 1810, 1813,
  1818, 1822, 1823, 1832, 1833, 1834, 1835, 1836, 1837, 1839, 1870, 1881, 1884, 1899, 1901, 1905,
  1906, 1907, 1909, 1912, 1914, 1920, 1994, 2027, 2113, 2118, 2120, 2121, 2122, 2132, 2133, 2134,
  2144, 2145, 2146, 2150, 2152, 2153, 2182, 2183, 2185, 2190, 2208, 2218, 2223, 2225, 2227, 2233,
  2234, 2249, 6176, 6265, 6279, 6315, 43072, 43122, 68288, 68293, 68307, 68311, 68312, 68317,
  68318, 68321, 68480, 68481, 68482, 68483, 68486, 68489, 68490, 68492, 68493, 68494, 68496,
  68497, 68865, 68898, 68899, 68900, 69424, 69427, 69428, 69445, 69488, 69492, 69494, 69553,
  69554, 69556, 69560, 69561, 69563, 69565, 69566, 69568, 69569, 69570, 69572, 69573, 125218,
  125252]

/-- Edges of ranges whose letters are written from right to left. -/
def rightToLeftEdges : List Nat := [
  1488, 2250, 65139, 65140, 67584, 69623, 124928, 125274]

/-- Edges of ranges whose characters have no direction of their own, marks and numbers left out. -/
def neutralEdges : List Nat := [
  45, 46, 183, 184, 697, 699, 710, 720, 748, 749, 885, 886, 8204, 8206, 11823, 11824, 12539,
  12540, 42623, 42624, 42775, 42784, 42888, 42889]

/-- Edges of ranges of Greek letters. -/
def greekEdges : List Nat := [
  881, 994, 1011, 1021, 7462, 7467, 7936, 8183, 43877, 43878]

/-- Edges of ranges of Hebrew letters. -/
def hebrewEdges : List Nat := [
  1425, 1525, 64286, 64287]

/-- Edges of ranges of Japanese letters and of ideographs. -/
def japaneseEdges : List Nat := [
  12293, 12294, 12295, 12296, 12353, 12439, 12445, 12539, 12541, 12543, 12784, 40960, 64014,
  64042, 94179, 94180, 94192, 94194, 110576, 110952, 131072, 201547]

end Loremark.Url.Label
