/-
**Upper case.**

Main definitions:

* `Text.upperCased` — a text in upper case, where one letter may become several.
-/

set_option autoImplicit false

namespace ApiContract.Text

/-- Letters with one upper-case letter: `a, a + s, …` become `b, b + s, …`, as `(a, b, n, s)` with
`n` letters. -/
def upperRuns : List (Nat × Nat × Nat × Nat) :=
  [(97, 65, 26, 1), (181, 924, 1, 1), (224, 192, 23, 1), (248, 216, 7, 1), (255, 376, 1, 1),
   (257, 256, 24, 2), (305, 73, 1, 1), (307, 306, 3, 2), (314, 313, 8, 2), (331, 330, 23, 2),
   (378, 377, 3, 2), (383, 83, 1, 1), (384, 579, 1, 1), (387, 386, 2, 2), (392, 391, 1, 1),
   (396, 395, 1, 1), (402, 401, 1, 1), (405, 502, 1, 1), (409, 408, 1, 1), (410, 573, 1, 1),
   (411, 42972, 1, 1), (414, 544, 1, 1), (417, 416, 3, 2), (424, 423, 1, 1),
   (429, 428, 1, 1), (432, 431, 1, 1), (436, 435, 2, 2), (441, 440, 1, 1), (445, 444, 1, 1),
   (447, 503, 1, 1), (453, 452, 1, 1), (454, 452, 1, 1), (456, 455, 1, 1), (457, 455, 1, 1),
   (459, 458, 1, 1), (460, 458, 1, 1), (462, 461, 8, 2), (477, 398, 1, 1), (479, 478, 9, 2),
   (498, 497, 1, 1), (499, 497, 1, 1), (501, 500, 1, 1), (505, 504, 20, 2), (547, 546, 9, 2),
   (572, 571, 1, 1), (575, 11390, 2, 1), (578, 577, 1, 1), (583, 582, 5, 2),
   (592, 11375, 1, 1), (593, 11373, 1, 1), (594, 11376, 1, 1), (595, 385, 1, 1),
   (596, 390, 1, 1), (598, 393, 2, 1), (601, 399, 1, 1), (603, 400, 1, 1),
   (604, 42923, 1, 1), (608, 403, 1, 1), (609, 42924, 1, 1), (611, 404, 1, 1),
   (612, 42955, 1, 1), (613, 42893, 1, 1), (614, 42922, 1, 1), (616, 407, 1, 1),
   (617, 406, 1, 1), (618, 42926, 1, 1), (619, 11362, 1, 1), (620, 42925, 1, 1),
   (623, 412, 1, 1), (625, 11374, 1, 1), (626, 413, 1, 1), (629, 415, 1, 1),
   (637, 11364, 1, 1), (640, 422, 1, 1), (642, 42949, 1, 1), (643, 425, 1, 1),
   (647, 42929, 1, 1), (648, 430, 1, 1), (649, 580, 1, 1), (650, 433, 2, 1),
   (652, 581, 1, 1), (658, 439, 1, 1), (669, 42930, 1, 1), (670, 42928, 1, 1),
   (837, 921, 1, 1), (881, 880, 2, 2), (887, 886, 1, 1), (891, 1021, 3, 1), (940, 902, 1, 1),
   (941, 904, 3, 1), (945, 913, 17, 1), (962, 931, 1, 1), (963, 931, 9, 1), (972, 908, 1, 1),
   (973, 910, 2, 1), (976, 914, 1, 1), (977, 920, 1, 1), (981, 934, 1, 1), (982, 928, 1, 1),
   (983, 975, 1, 1), (985, 984, 12, 2), (1008, 922, 1, 1), (1009, 929, 1, 1),
   (1010, 1017, 1, 1), (1011, 895, 1, 1), (1013, 917, 1, 1), (1016, 1015, 1, 1),
   (1019, 1018, 1, 1), (1072, 1040, 32, 1), (1104, 1024, 16, 1), (1121, 1120, 17, 2),
   (1163, 1162, 27, 2), (1218, 1217, 7, 2), (1231, 1216, 1, 1), (1233, 1232, 48, 2),
   (1377, 1329, 38, 1), (4304, 7312, 43, 1), (4349, 7357, 3, 1), (5112, 5104, 6, 1),
   (7296, 1042, 1, 1), (7297, 1044, 1, 1), (7298, 1054, 1, 1), (7299, 1057, 2, 1),
   (7301, 1058, 1, 1), (7302, 1066, 1, 1), (7303, 1122, 1, 1), (7304, 42570, 1, 1),
   (7306, 7305, 1, 1), (7545, 42877, 1, 1), (7549, 11363, 1, 1), (7566, 42950, 1, 1),
   (7681, 7680, 75, 2), (7835, 7776, 1, 1), (7841, 7840, 48, 2), (7936, 7944, 8, 1),
   (7952, 7960, 6, 1), (7968, 7976, 8, 1), (7984, 7992, 8, 1), (8000, 8008, 6, 1),
   (8017, 8025, 4, 2), (8032, 8040, 8, 1), (8048, 8122, 2, 1), (8050, 8136, 4, 1),
   (8054, 8154, 2, 1), (8056, 8184, 2, 1), (8058, 8170, 2, 1), (8060, 8186, 2, 1),
   (8112, 8120, 2, 1), (8126, 921, 1, 1), (8144, 8152, 2, 1), (8160, 8168, 2, 1),
   (8165, 8172, 1, 1), (8526, 8498, 1, 1), (8560, 8544, 16, 1), (8580, 8579, 1, 1),
   (9424, 9398, 26, 1), (11312, 11264, 48, 1), (11361, 11360, 1, 1), (11365, 570, 1, 1),
   (11366, 574, 1, 1), (11368, 11367, 3, 2), (11379, 11378, 1, 1), (11382, 11381, 1, 1),
   (11393, 11392, 50, 2), (11500, 11499, 2, 2), (11507, 11506, 1, 1), (11520, 4256, 38, 1),
   (11559, 4295, 1, 1), (11565, 4301, 1, 1), (42561, 42560, 23, 2), (42625, 42624, 14, 2),
   (42787, 42786, 7, 2), (42803, 42802, 31, 2), (42874, 42873, 2, 2), (42879, 42878, 5, 2),
   (42892, 42891, 1, 1), (42897, 42896, 2, 2), (42900, 42948, 1, 1), (42903, 42902, 10, 2),
   (42933, 42932, 8, 2), (42952, 42951, 2, 2), (42957, 42956, 8, 2), (42998, 42997, 1, 1),
   (43859, 42931, 1, 1), (43888, 5024, 80, 1), (65345, 65313, 26, 1), (66600, 66560, 40, 1),
   (66776, 66736, 36, 1), (66967, 66928, 11, 1), (66979, 66940, 15, 1), (66995, 66956, 7, 1),
   (67003, 66964, 2, 1), (68800, 68736, 51, 1), (68976, 68944, 22, 1), (71872, 71840, 32, 1),
   (93792, 93760, 32, 1), (93883, 93856, 25, 1), (125218, 125184, 34, 1)]

/-- Letters whose upper-case form has several characters. -/
def upperExpansions : List (Nat × List Nat) :=
  [(223, [83, 83]), (329, [700, 78]), (496, [74, 780]), (912, [921, 776, 769]),
   (944, [933, 776, 769]), (1415, [1333, 1362]), (7830, [72, 817]), (7831, [84, 776]),
   (7832, [87, 778]), (7833, [89, 778]), (7834, [65, 702]), (8016, [933, 787]),
   (8018, [933, 787, 768]), (8020, [933, 787, 769]), (8022, [933, 787, 834]),
   (8064, [7944, 921]), (8065, [7945, 921]), (8066, [7946, 921]), (8067, [7947, 921]),
   (8068, [7948, 921]), (8069, [7949, 921]), (8070, [7950, 921]), (8071, [7951, 921]),
   (8072, [7944, 921]), (8073, [7945, 921]), (8074, [7946, 921]), (8075, [7947, 921]),
   (8076, [7948, 921]), (8077, [7949, 921]), (8078, [7950, 921]), (8079, [7951, 921]),
   (8080, [7976, 921]), (8081, [7977, 921]), (8082, [7978, 921]), (8083, [7979, 921]),
   (8084, [7980, 921]), (8085, [7981, 921]), (8086, [7982, 921]), (8087, [7983, 921]),
   (8088, [7976, 921]), (8089, [7977, 921]), (8090, [7978, 921]), (8091, [7979, 921]),
   (8092, [7980, 921]), (8093, [7981, 921]), (8094, [7982, 921]), (8095, [7983, 921]),
   (8096, [8040, 921]), (8097, [8041, 921]), (8098, [8042, 921]), (8099, [8043, 921]),
   (8100, [8044, 921]), (8101, [8045, 921]), (8102, [8046, 921]), (8103, [8047, 921]),
   (8104, [8040, 921]), (8105, [8041, 921]), (8106, [8042, 921]), (8107, [8043, 921]),
   (8108, [8044, 921]), (8109, [8045, 921]), (8110, [8046, 921]), (8111, [8047, 921]),
   (8114, [8122, 921]), (8115, [913, 921]), (8116, [902, 921]), (8118, [913, 834]),
   (8119, [913, 834, 921]), (8124, [913, 921]), (8130, [8138, 921]), (8131, [919, 921]),
   (8132, [905, 921]), (8134, [919, 834]), (8135, [919, 834, 921]), (8140, [919, 921]),
   (8146, [921, 776, 768]), (8147, [921, 776, 769]), (8150, [921, 834]),
   (8151, [921, 776, 834]), (8162, [933, 776, 768]), (8163, [933, 776, 769]),
   (8164, [929, 787]), (8166, [933, 834]), (8167, [933, 776, 834]), (8178, [8186, 921]),
   (8179, [937, 921]), (8180, [911, 921]), (8182, [937, 834]), (8183, [937, 834, 921]),
   (8188, [937, 921]), (64256, [70, 70]), (64257, [70, 73]), (64258, [70, 76]),
   (64259, [70, 70, 73]), (64260, [70, 70, 76]), (64261, [83, 84]), (64262, [83, 84]),
   (64275, [1348, 1350]), (64276, [1348, 1333]), (64277, [1348, 1339]),
   (64278, [1358, 1350]), (64279, [1348, 1341])]

/-- The upper-case form of a character. -/
def upper (c : Char) : List Char :=
  let n := c.toNat
  if n < 128 then [c.toUpper]
  else match upperExpansions.lookup n with
    | some ns => ns.map Char.ofNat
    | none =>
      match upperRuns.findSome? fun (a, b, count, step) =>
          if a ≤ n ∧ n < a + count * step ∧ (n - a) % step = 0 then some (b + (n - a))
          else none with
      | some m => [Char.ofNat m]
      | none => [c]

/-- A text in upper case. -/
def upperCased (s : String) : String := String.ofList (s.toList.flatMap upper)

end ApiContract.Text
