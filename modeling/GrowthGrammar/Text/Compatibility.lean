import GrowthGrammar.Text.Composition

/-!
Compatibility: characters that stand for others, such as letters of another width or style,
ligatures and presentation forms. The tables hold those that names may contain.
-/
namespace GrowthGrammar.Text

/-- The first and last character of a run, and the character that the first one stands for. Those
after it stand for those after that. -/
def standInRuns : List (Nat × Nat × Nat) :=
  [(0x1d33, 0x1d3a, 0x47), (0x1dae, 0x1db1, 0x272), (0x2096, 0x2099, 0x6b),
   (0x2135, 0x2138, 0x5d0), (0x313a, 0x313f, 0x11b0), (0x3145, 0x314e, 0x1109),
   (0x314f, 0x3163, 0x1161), (0x3178, 0x317c, 0x112b), (0xff10, 0xff19, 0x30),
   (0xff21, 0xff3a, 0x41), (0xff41, 0xff5a, 0x61), (0xff85, 0xff8a, 0x30ca),
   (0xff8f, 0xff93, 0x30de), (0xff96, 0xff9b, 0x30e8), (0xffaa, 0xffaf, 0x11b0),
   (0xffb5, 0xffbe, 0x1109), (0xffc2, 0xffc7, 0x1161), (0xffca, 0xffcf, 0x1167),
   (0xffd2, 0xffd7, 0x116d), (0x1d400, 0x1d419, 0x41), (0x1d41a, 0x1d433, 0x61),
   (0x1d434, 0x1d44d, 0x41), (0x1d44e, 0x1d454, 0x61), (0x1d456, 0x1d467, 0x69),
   (0x1d468, 0x1d481, 0x41), (0x1d482, 0x1d49b, 0x61), (0x1d4a9, 0x1d4ac, 0x4e),
   (0x1d4ae, 0x1d4b5, 0x53), (0x1d4b6, 0x1d4b9, 0x61), (0x1d4bd, 0x1d4c3, 0x68),
   (0x1d4c5, 0x1d4cf, 0x70), (0x1d4d0, 0x1d4e9, 0x41), (0x1d4ea, 0x1d503, 0x61),
   (0x1d507, 0x1d50a, 0x44), (0x1d50d, 0x1d514, 0x4a), (0x1d516, 0x1d51c, 0x53),
   (0x1d51e, 0x1d537, 0x61), (0x1d53b, 0x1d53e, 0x44), (0x1d540, 0x1d544, 0x49),
   (0x1d54a, 0x1d550, 0x53), (0x1d552, 0x1d56b, 0x61), (0x1d56c, 0x1d585, 0x41),
   (0x1d586, 0x1d59f, 0x61), (0x1d5a0, 0x1d5b9, 0x41), (0x1d5ba, 0x1d5d3, 0x61),
   (0x1d5d4, 0x1d5ed, 0x41), (0x1d5ee, 0x1d607, 0x61), (0x1d608, 0x1d621, 0x41),
   (0x1d622, 0x1d63b, 0x61), (0x1d63c, 0x1d655, 0x41), (0x1d656, 0x1d66f, 0x61),
   (0x1d670, 0x1d689, 0x41), (0x1d68a, 0x1d6a3, 0x61), (0x1d6a8, 0x1d6b8, 0x391),
   (0x1d6ba, 0x1d6c0, 0x3a3), (0x1d6c2, 0x1d6da, 0x3b1), (0x1d6e2, 0x1d6f2, 0x391),
   (0x1d6f4, 0x1d6fa, 0x3a3), (0x1d6fc, 0x1d714, 0x3b1), (0x1d71c, 0x1d72c, 0x391),
   (0x1d72e, 0x1d734, 0x3a3), (0x1d736, 0x1d74e, 0x3b1), (0x1d756, 0x1d766, 0x391),
   (0x1d768, 0x1d76e, 0x3a3), (0x1d770, 0x1d788, 0x3b1), (0x1d790, 0x1d7a0, 0x391),
   (0x1d7a2, 0x1d7a8, 0x3a3), (0x1d7aa, 0x1d7c2, 0x3b1), (0x1d7ce, 0x1d7d7, 0x30),
   (0x1d7d8, 0x1d7e1, 0x30), (0x1d7e2, 0x1d7eb, 0x30), (0x1d7ec, 0x1d7f5, 0x30),
   (0x1d7f6, 0x1d7ff, 0x30), (0x1ee0a, 0x1ee0d, 0x643), (0x1ee2a, 0x1ee2d, 0x643),
   (0x1fbf0, 0x1fbf9, 0x30)]

/-- Characters that stand for one character each: the first of a block, and what the characters from
there on stand for. -/
def standIns : List (Nat × List Nat) :=
  [(0xaa, [0x61]), (0xb5, [0x3bc]), (0xba, [0x6f]), (0x17f, [0x73]), (0x2b0, [0x68, 0x266, 0x6a,
    0x72, 0x279, 0x27b, 0x281, 0x77, 0x79]), (0x2e0, [0x263, 0x6c, 0x73, 0x78, 0x295]), (0x340, [
    0x300, 0x301]), (0x343, [0x313]), (0x374, [0x2b9]), (0x387, [0xb7]), (0x3d0, [0x3b2, 0x3b8,
    0x3a5]), (0x3d5, [0x3c6, 0x3c0]), (0x3f0, [0x3ba, 0x3c1, 0x3c2]), (0x3f4, [0x398, 0x3b5]),
    (0x3f9, [0x3a3]), (0x10fc, [0x10dc]), (0x1d2c, [0x41, 0xc6, 0x42]), (0x1d30, [0x44, 0x45,
    0x18e]), (0x1d3c, [0x4f, 0x222, 0x50, 0x52, 0x54, 0x55, 0x57, 0x61, 0x250, 0x251, 0x1d02,
    0x62, 0x64, 0x65, 0x259, 0x25b, 0x25c, 0x67]), (0x1d4f, [0x6b, 0x6d, 0x14b, 0x6f, 0x254,
    0x1d16, 0x1d17, 0x70, 0x74, 0x75, 0x1d1d, 0x26f, 0x76, 0x1d25, 0x3b2, 0x3b3, 0x3b4, 0x3c6,
    0x3c7, 0x69, 0x72, 0x75, 0x76, 0x3b2, 0x3b3, 0x3c1, 0x3c6, 0x3c7]), (0x1d78, [0x43d]),
    (0x1d9b, [0x252, 0x63, 0x255, 0xf0, 0x25c, 0x66, 0x25f, 0x261, 0x265, 0x268, 0x269, 0x26a,
    0x1d7b, 0x29d, 0x26d, 0x1d85, 0x29f, 0x271, 0x270]), (0x1db2, [0x278, 0x282, 0x283, 0x1ab,
    0x289, 0x28a, 0x1d1c, 0x28b, 0x28c, 0x7a, 0x290, 0x291, 0x292, 0x3b8]), (0x1fbe, [0x3b9]),
    (0x2071, [0x69]), (0x207f, [0x6e]), (0x2090, [0x61, 0x65, 0x6f, 0x78, 0x259, 0x68]),
    (0x209a, [0x70, 0x73, 0x74]), (0x2102, [0x43]), (0x2107, [0x190]), (0x210a, [0x67, 0x48, 0x48,
    0x48, 0x68, 0x127, 0x49, 0x49, 0x4c, 0x6c]), (0x2115, [0x4e]), (0x2119, [0x50, 0x51, 0x52,
    0x52, 0x52]), (0x2124, [0x5a]), (0x2126, [0x3a9]), (0x2128, [0x5a]), (0x212a, [0x4b]),
    (0x212c, [0x42, 0x43]), (0x212f, [0x65, 0x45, 0x46]), (0x2133, [0x4d, 0x6f]), (0x2139, [
    0x69]), (0x213c, [0x3c0, 0x3b3, 0x393, 0x3a0]), (0x2145, [0x44, 0x64, 0x65, 0x69, 0x6a]),
    (0x2160, [0x49]), (0x2164, [0x56]), (0x2169, [0x58]), (0x216c, [0x4c, 0x43, 0x44, 0x4d,
    0x69]), (0x2174, [0x76]), (0x2179, [0x78]), (0x217c, [0x6c, 0x63, 0x64, 0x6d]), (0x2c7c, [
    0x6a, 0x56]), (0x2d6f, [0x2d61]), (0x3038, [0x5341, 0x5344, 0x5345]), (0x3131, [0x1100,
    0x1101, 0x11aa, 0x1102, 0x11ac, 0x11ad, 0x1103, 0x1104, 0x1105]), (0x3140, [0x111a, 0x1106,
    0x1107, 0x1108, 0x1121]), (0x3164, [0x1160, 0x1114, 0x1115, 0x11c7, 0x11c8, 0x11cc, 0x11ce,
    0x11d3, 0x11d7, 0x11d9, 0x111c, 0x11dd, 0x11df, 0x111d, 0x111e, 0x1120, 0x1122, 0x1123,
    0x1127, 0x1129]), (0x317d, [0x1132, 0x1136, 0x1140, 0x1147, 0x114c, 0x11f1, 0x11f2, 0x1157,
    0x1158, 0x1159, 0x1184, 0x1185, 0x1188, 0x1191, 0x1192, 0x1194, 0x119e, 0x11a1]), (0xa69c, [
    0x44a, 0x44c]), (0xa770, [0xa76f]), (0xa7f2, [0x43, 0x46, 0x51]), (0xa7f8, [0x126, 0x153]),
    (0xab5c, [0xa727, 0xab37, 0x26b, 0xab52]), (0xab69, [0x28d]), (0xf900, [0x8c48, 0x66f4,
    0x8eca, 0x8cc8, 0x6ed1, 0x4e32, 0x53e5, 0x9f9c, 0x9f9c, 0x5951, 0x91d1, 0x5587, 0x5948,
    0x61f6, 0x7669, 0x7f85, 0x863f, 0x87ba, 0x88f8, 0x908f, 0x6a02, 0x6d1b, 0x70d9, 0x73de,
    0x843d, 0x916a, 0x99f1, 0x4e82, 0x5375, 0x6b04, 0x721b, 0x862d, 0x9e1e, 0x5d50, 0x6feb,
    0x85cd, 0x8964, 0x62c9, 0x81d8, 0x881f, 0x5eca, 0x6717, 0x6d6a, 0x72fc, 0x90ce, 0x4f86,
    0x51b7, 0x52de, 0x64c4, 0x6ad3, 0x7210, 0x76e7, 0x8001, 0x8606, 0x865c, 0x8def, 0x9732,
    0x9b6f, 0x9dfa, 0x788c, 0x797f, 0x7da0, 0x83c9, 0x9304, 0x9e7f, 0x8ad6, 0x58df, 0x5f04,
    0x7c60, 0x807e, 0x7262, 0x78ca, 0x8cc2, 0x96f7, 0x58d8, 0x5c62, 0x6a13, 0x6dda, 0x6f0f,
    0x7d2f, 0x7e37, 0x964b, 0x52d2, 0x808b, 0x51dc, 0x51cc, 0x7a1c, 0x7dbe, 0x83f1, 0x9675,
    0x8b80, 0x62cf, 0x6a02, 0x8afe, 0x4e39, 0x5be7, 0x6012, 0x7387, 0x7570, 0x5317, 0x78fb,
    0x4fbf, 0x5fa9, 0x4e0d, 0x6ccc, 0x6578, 0x7d22, 0x53c3, 0x585e, 0x7701, 0x8449, 0x8aaa,
    0x6bba, 0x8fb0, 0x6c88, 0x62fe, 0x82e5, 0x63a0, 0x7565, 0x4eae, 0x5169, 0x51c9, 0x6881,
    0x7ce7, 0x826f, 0x8ad2, 0x91cf, 0x52f5, 0x5442, 0x5973, 0x5eec, 0x65c5, 0x6ffe, 0x792a,
    0x95ad, 0x9a6a, 0x9e97, 0x9ece, 0x529b, 0x66c6, 0x6b77, 0x8f62, 0x5e74, 0x6190, 0x6200,
    0x649a, 0x6f23, 0x7149, 0x7489, 0x79ca, 0x7df4, 0x806f, 0x8f26, 0x84ee, 0x9023, 0x934a,
    0x5217, 0x52a3, 0x54bd, 0x70c8, 0x88c2, 0x8aaa, 0x5ec9, 0x5ff5, 0x637b, 0x6bae, 0x7c3e,
    0x7375, 0x4ee4, 0x56f9, 0x5be7, 0x5dba, 0x601c, 0x73b2, 0x7469, 0x7f9a, 0x8046, 0x9234,
    0x96f6, 0x9748, 0x9818, 0x4f8b, 0x79ae, 0x91b4, 0x96b8, 0x60e1, 0x4e86, 0x50da, 0x5bee,
    0x5c3f, 0x6599, 0x6a02, 0x71ce, 0x7642, 0x84fc, 0x907c, 0x9f8d, 0x6688, 0x962e, 0x5289,
    0x677b, 0x67f3, 0x6d41, 0x6e9c, 0x7409, 0x7559, 0x786b, 0x7d10, 0x985e, 0x516d, 0x622e,
    0x9678, 0x502b, 0x5d19, 0x6dea, 0x8f2a, 0x5f8b, 0x6144, 0x6817, 0x7387, 0x9686, 0x5229,
    0x540f, 0x5c65, 0x6613, 0x674e, 0x68a8, 0x6ce5, 0x7406, 0x75e2, 0x7f79, 0x88cf, 0x88e1,
    0x91cc, 0x96e2, 0x533f, 0x6eba, 0x541d, 0x71d0, 0x7498, 0x85fa, 0x96a3, 0x9c57, 0x9e9f,
    0x6797, 0x6dcb, 0x81e8, 0x7acb, 0x7b20, 0x7c92, 0x72c0, 0x7099, 0x8b58, 0x4ec0, 0x8336,
    0x523a, 0x5207, 0x5ea6, 0x62d3, 0x7cd6, 0x5b85, 0x6d1e, 0x66b4, 0x8f3b, 0x884c, 0x964d,
    0x898b, 0x5ed3, 0x5140, 0x55c0]), (0xfa10, [0x585a]), (0xfa12, [0x6674]), (0xfa15, [0x51de,
    0x732a, 0x76ca, 0x793c, 0x795e, 0x7965, 0x798f, 0x9756, 0x7cbe, 0x7fbd]), (0xfa20, [0x8612]),
    (0xfa22, [0x8af8]), (0xfa25, [0x9038, 0x90fd]), (0xfa2a, [0x98ef, 0x98fc, 0x9928, 0x9db4,
    0x90de, 0x96b7, 0x4fae, 0x50e7, 0x514d, 0x52c9, 0x52e4, 0x5351, 0x559d, 0x5606, 0x5668,
    0x5840, 0x58a8, 0x5c64, 0x5c6e, 0x6094, 0x6168, 0x618e, 0x61f2, 0x654f, 0x65e2, 0x6691,
    0x6885, 0x6d77, 0x6e1a, 0x6f22, 0x716e, 0x722b, 0x7422, 0x7891, 0x793e, 0x7949, 0x7948,
    0x7950, 0x7956, 0x795d, 0x798d, 0x798e, 0x7a40, 0x7a81, 0x7bc0, 0x7df4, 0x7e09, 0x7e41,
    0x7f72, 0x8005, 0x81ed, 0x8279, 0x8279, 0x8457, 0x8910, 0x8996, 0x8b01, 0x8b39, 0x8cd3,
    0x8d08, 0x8fb6, 0x9038, 0x96e3, 0x97ff, 0x983b, 0x6075, 0x242ee, 0x8218]), (0xfa70, [0x4e26,
    0x51b5, 0x5168, 0x4f80, 0x5145, 0x5180, 0x52c7, 0x52fa, 0x559d, 0x5555, 0x5599, 0x55e2,
    0x585a, 0x58b3, 0x5944, 0x5954, 0x5a62, 0x5b28, 0x5ed2, 0x5ed9, 0x5f69, 0x5fad, 0x60d8,
    0x614e, 0x6108, 0x618e, 0x6160, 0x61f2, 0x6234, 0x63c4, 0x641c, 0x6452, 0x6556, 0x6674,
    0x6717, 0x671b, 0x6756, 0x6b79, 0x6bba, 0x6d41, 0x6edb, 0x6ecb, 0x6f22, 0x701e, 0x716e,
    0x77a7, 0x7235, 0x72af, 0x732a, 0x7471, 0x7506, 0x753b, 0x761d, 0x761f, 0x76ca, 0x76db,
    0x76f4, 0x774a, 0x7740, 0x78cc, 0x7ab1, 0x7bc0, 0x7c7b, 0x7d5b, 0x7df4, 0x7f3e, 0x8005,
    0x8352, 0x83ef, 0x8779, 0x8941, 0x8986, 0x8996, 0x8abf, 0x8af8, 0x8acb, 0x8b01, 0x8afe,
    0x8aed, 0x8b39, 0x8b8a, 0x8d08, 0x8f38, 0x9072, 0x9199, 0x9276, 0x967c, 0x96e3, 0x9756,
    0x97db, 0x97ff, 0x980b, 0x983b, 0x9b12, 0x9f9c, 0x2284a, 0x22844, 0x233d5, 0x3b9d, 0x4018,
    0x4039, 0x25249, 0x25cd0, 0x27ed3, 0x9f43, 0x9f8e]), (0xfb20, [0x5e2, 0x5d0, 0x5d3, 0x5d4,
    0x5db, 0x5dc, 0x5dd, 0x5e8, 0x5ea]), (0xfb50, [0x671, 0x671, 0x67b, 0x67b, 0x67b, 0x67b,
    0x67e, 0x67e, 0x67e, 0x67e, 0x680, 0x680, 0x680, 0x680, 0x67a, 0x67a, 0x67a, 0x67a, 0x67f,
    0x67f, 0x67f, 0x67f, 0x679, 0x679, 0x679, 0x679, 0x6a4, 0x6a4, 0x6a4, 0x6a4, 0x6a6, 0x6a6,
    0x6a6, 0x6a6, 0x684, 0x684, 0x684, 0x684, 0x683, 0x683, 0x683, 0x683, 0x686, 0x686, 0x686,
    0x686, 0x687, 0x687, 0x687, 0x687, 0x68d, 0x68d, 0x68c, 0x68c, 0x68e, 0x68e, 0x688, 0x688,
    0x698, 0x698, 0x691, 0x691, 0x6a9, 0x6a9, 0x6a9, 0x6a9, 0x6af, 0x6af, 0x6af, 0x6af, 0x6b3,
    0x6b3, 0x6b3, 0x6b3, 0x6b1, 0x6b1, 0x6b1, 0x6b1, 0x6ba, 0x6ba, 0x6bb, 0x6bb, 0x6bb, 0x6bb]),
    (0xfba6, [0x6c1, 0x6c1, 0x6c1, 0x6c1, 0x6be, 0x6be, 0x6be, 0x6be, 0x6d2, 0x6d2]), (0xfbd3, [
    0x6ad, 0x6ad, 0x6ad, 0x6ad, 0x6c7, 0x6c7, 0x6c6, 0x6c6, 0x6c8, 0x6c8]), (0xfbde, [0x6cb,
    0x6cb, 0x6c5, 0x6c5, 0x6c9, 0x6c9, 0x6d0, 0x6d0, 0x6d0, 0x6d0, 0x649, 0x649]), (0xfbfc, [
    0x6cc, 0x6cc, 0x6cc, 0x6cc]), (0xfe33, [0x5f, 0x5f]), (0xfe4d, [0x5f, 0x5f, 0x5f]), (0xfe80, [
    0x621]), (0xfe8d, [0x627, 0x627, 0x628, 0x628, 0x628, 0x628, 0x629, 0x629, 0x62a, 0x62a,
    0x62a, 0x62a, 0x62b, 0x62b, 0x62b, 0x62b, 0x62c, 0x62c, 0x62c, 0x62c, 0x62d, 0x62d, 0x62d,
    0x62d, 0x62e, 0x62e, 0x62e, 0x62e, 0x62f, 0x62f, 0x630, 0x630, 0x631, 0x631, 0x632, 0x632,
    0x633, 0x633, 0x633, 0x633, 0x634, 0x634, 0x634, 0x634, 0x635, 0x635, 0x635, 0x635, 0x636,
    0x636, 0x636, 0x636, 0x637, 0x637, 0x637, 0x637, 0x638, 0x638, 0x638, 0x638, 0x639, 0x639,
    0x639, 0x639, 0x63a, 0x63a, 0x63a, 0x63a, 0x641, 0x641, 0x641, 0x641, 0x642, 0x642, 0x642,
    0x642, 0x643, 0x643, 0x643, 0x643, 0x644, 0x644, 0x644, 0x644, 0x645, 0x645, 0x645, 0x645,
    0x646, 0x646, 0x646, 0x646, 0x647, 0x647, 0x647, 0x647, 0x648, 0x648, 0x649, 0x649, 0x64a,
    0x64a, 0x64a, 0x64a]), (0xff3f, [0x5f]), (0xff66, [0x30f2, 0x30a1, 0x30a3, 0x30a5, 0x30a7,
    0x30a9, 0x30e3, 0x30e5, 0x30e7, 0x30c3, 0x30fc, 0x30a2, 0x30a4, 0x30a6, 0x30a8, 0x30aa,
    0x30ab, 0x30ad, 0x30af, 0x30b1, 0x30b3, 0x30b5, 0x30b7, 0x30b9, 0x30bb, 0x30bd, 0x30bf,
    0x30c1, 0x30c4, 0x30c6, 0x30c8]), (0xff8b, [0x30d2, 0x30d5, 0x30d8, 0x30db]), (0xff94, [
    0x30e4, 0x30e6]), (0xff9c, [0x30ef, 0x30f3, 0x3099, 0x309a, 0x1160, 0x1100, 0x1101, 0x11aa,
    0x1102, 0x11ac, 0x11ad, 0x1103, 0x1104, 0x1105]), (0xffb0, [0x111a, 0x1106, 0x1107, 0x1108,
    0x1121]), (0xffda, [0x1173, 0x1174, 0x1175]), (0x10781, [0x2d0, 0x2d1, 0xe6, 0x299, 0x253]),
    (0x10787, [0x2a3, 0xab66, 0x2a5, 0x2a4, 0x256, 0x257, 0x1d91, 0x258, 0x25e, 0x2a9, 0x264,
    0x262, 0x260, 0x29b, 0x127, 0x29c, 0x267, 0x284, 0x2aa, 0x2ab, 0x26c, 0x1df04, 0xa78e, 0x26e,
    0x1df05, 0x28e, 0x1df06, 0xf8, 0x276, 0x277, 0x71, 0x27a, 0x1df08, 0x27d, 0x27e, 0x280, 0x2a8,
    0x2a6, 0xab67, 0x2a7, 0x288, 0x2c71]), (0x107b2, [0x28f, 0x2a1, 0x2a2, 0x298, 0x1c0, 0x1c1,
    0x1c2, 0x1df0a, 0x1df1e]), (0x1d49c, [0x41]), (0x1d49e, [0x43, 0x44]), (0x1d4a2, [0x47]),
    (0x1d4a5, [0x4a, 0x4b]), (0x1d4bb, [0x66]), (0x1d504, [0x41, 0x42]), (0x1d538, [0x41, 0x42]),
    (0x1d546, [0x4f]), (0x1d6a4, [0x131, 0x237]), (0x1d6b9, [0x398]), (0x1d6dc, [0x3b5, 0x3b8,
    0x3ba, 0x3c6, 0x3c1, 0x3c0]), (0x1d6f3, [0x398]), (0x1d716, [0x3b5, 0x3b8, 0x3ba, 0x3c6,
    0x3c1, 0x3c0]), (0x1d72d, [0x398]), (0x1d750, [0x3b5, 0x3b8, 0x3ba, 0x3c6, 0x3c1, 0x3c0]),
    (0x1d767, [0x398]), (0x1d78a, [0x3b5, 0x3b8, 0x3ba, 0x3c6, 0x3c1, 0x3c0]), (0x1d7a1, [0x398]),
    (0x1d7c4, [0x3b5, 0x3b8, 0x3ba, 0x3c6, 0x3c1, 0x3c0, 0x3dc, 0x3dd]), (0x1ee00, [0x627, 0x628,
    0x62c, 0x62f]), (0x1ee05, [0x648, 0x632, 0x62d, 0x637, 0x64a]), (0x1ee0e, [0x633, 0x639,
    0x641, 0x635, 0x642, 0x631, 0x634, 0x62a, 0x62b, 0x62e, 0x630, 0x636, 0x638, 0x63a, 0x66e,
    0x6ba, 0x6a1, 0x66f]), (0x1ee21, [0x628, 0x62c]), (0x1ee24, [0x647]), (0x1ee27, [0x62d]),
    (0x1ee29, [0x64a]), (0x1ee2e, [0x633, 0x639, 0x641, 0x635, 0x642]), (0x1ee34, [0x634, 0x62a,
    0x62b, 0x62e]), (0x1ee39, [0x636]), (0x1ee3b, [0x63a]), (0x1ee42, [0x62c]), (0x1ee47, [
    0x62d]), (0x1ee49, [0x64a]), (0x1ee4b, [0x644]), (0x1ee4d, [0x646, 0x633, 0x639]), (0x1ee51, [
    0x635, 0x642]), (0x1ee54, [0x634]), (0x1ee57, [0x62e]), (0x1ee59, [0x636]), (0x1ee5b, [
    0x63a]), (0x1ee5d, [0x6ba]), (0x1ee5f, [0x66f]), (0x1ee61, [0x628, 0x62c]), (0x1ee64, [
    0x647]), (0x1ee67, [0x62d, 0x637, 0x64a, 0x643]), (0x1ee6c, [0x645, 0x646, 0x633, 0x639,
    0x641, 0x635, 0x642]), (0x1ee74, [0x634, 0x62a, 0x62b, 0x62e]), (0x1ee79, [0x636, 0x638,
    0x63a, 0x66e]), (0x1ee7e, [0x6a1]), (0x1ee80, [0x627, 0x628, 0x62c, 0x62f, 0x647, 0x648,
    0x632, 0x62d, 0x637, 0x64a]), (0x1ee8b, [0x644, 0x645, 0x646, 0x633, 0x639, 0x641, 0x635,
    0x642, 0x631, 0x634, 0x62a, 0x62b, 0x62e, 0x630, 0x636, 0x638, 0x63a]), (0x1eea1, [0x628,
    0x62c, 0x62f]), (0x1eea5, [0x648, 0x632, 0x62d, 0x637, 0x64a]), (0x1eeab, [0x644, 0x645,
    0x646, 0x633, 0x639, 0x641, 0x635, 0x642, 0x631, 0x634, 0x62a, 0x62b, 0x62e, 0x630, 0x636,
    0x638, 0x63a]), (0x2f800, [0x4e3d, 0x4e38, 0x4e41, 0x20122, 0x4f60, 0x4fae, 0x4fbb, 0x5002,
    0x507a, 0x5099, 0x50e7, 0x50cf, 0x349e, 0x2063a, 0x514d, 0x5154, 0x5164, 0x5177, 0x2051c,
    0x34b9, 0x5167, 0x518d, 0x2054b, 0x5197, 0x51a4, 0x4ecc, 0x51ac, 0x51b5, 0x291df, 0x51f5,
    0x5203, 0x34df, 0x523b, 0x5246, 0x5272, 0x5277, 0x3515, 0x52c7, 0x52c9, 0x52e4, 0x52fa,
    0x5305, 0x5306, 0x5317, 0x5349, 0x5351, 0x535a, 0x5373, 0x537d, 0x537f, 0x537f, 0x537f,
    0x20a2c, 0x7070, 0x53ca, 0x53df, 0x20b63, 0x53eb, 0x53f1, 0x5406, 0x549e, 0x5438, 0x5448,
    0x5468, 0x54a2, 0x54f6, 0x5510, 0x5553, 0x5563, 0x5584, 0x5584, 0x5599, 0x55ab, 0x55b3,
    0x55c2, 0x5716, 0x5606, 0x5717, 0x5651, 0x5674, 0x5207, 0x58ee, 0x57ce, 0x57f4, 0x580d,
    0x578b, 0x5832, 0x5831, 0x58ac, 0x214e4, 0x58f2, 0x58f7, 0x5906, 0x591a, 0x5922, 0x5962,
    0x216a8, 0x216ea, 0x59ec, 0x5a1b, 0x5a27, 0x59d8, 0x5a66, 0x36ee, 0x36fc, 0x5b08, 0x5b3e,
    0x5b3e, 0x219c8, 0x5bc3, 0x5bd8, 0x5be7, 0x5bf3, 0x21b18, 0x5bff, 0x5c06, 0x5f53, 0x5c22,
    0x3781, 0x5c60, 0x5c6e, 0x5cc0, 0x5c8d, 0x21de4, 0x5d43, 0x21de6, 0x5d6e, 0x5d6b, 0x5d7c,
    0x5de1, 0x5de2, 0x382f, 0x5dfd, 0x5e28, 0x5e3d, 0x5e69, 0x3862, 0x22183, 0x387c, 0x5eb0,
    0x5eb3, 0x5eb6, 0x5eca, 0x2a392, 0x5efe, 0x22331, 0x22331, 0x8201, 0x5f22, 0x5f22, 0x38c7,
    0x232b8, 0x261da, 0x5f62, 0x5f6b, 0x38e3, 0x5f9a, 0x5fcd, 0x5fd7, 0x5ff9, 0x6081, 0x393a,
    0x391c, 0x6094, 0x226d4, 0x60c7, 0x6148, 0x614c, 0x614e, 0x614c, 0x617a, 0x618e, 0x61b2,
    0x61a4, 0x61af, 0x61de, 0x61f2, 0x61f6, 0x6210, 0x621b, 0x625d, 0x62b1, 0x62d4, 0x6350,
    0x22b0c, 0x633d, 0x62fc, 0x6368, 0x6383, 0x63e4, 0x22bf1, 0x6422, 0x63c5, 0x63a9, 0x3a2e,
    0x6469, 0x647e, 0x649d, 0x6477, 0x3a6c, 0x654f, 0x656c, 0x2300a, 0x65e3, 0x66f8, 0x6649,
    0x3b19, 0x6691, 0x3b08, 0x3ae4, 0x5192, 0x5195, 0x6700, 0x669c, 0x80ad, 0x43d9, 0x6717,
    0x671b, 0x6721, 0x675e, 0x6753, 0x233c3, 0x3b49, 0x67fa, 0x6785, 0x6852, 0x6885, 0x2346d,
    0x688e, 0x681f, 0x6914, 0x3b9d, 0x6942, 0x69a3, 0x69ea, 0x6aa8, 0x236a3, 0x6adb, 0x3c18,
    0x6b21, 0x238a7, 0x6b54, 0x3c4e, 0x6b72, 0x6b9f, 0x6bba, 0x6bbb, 0x23a8d, 0x21d0b, 0x23afa,
    0x6c4e, 0x23cbc, 0x6cbf, 0x6ccd, 0x6c67, 0x6d16, 0x6d3e, 0x6d77, 0x6d41, 0x6d69, 0x6d78,
    0x6d85, 0x23d1e, 0x6d34, 0x6e2f, 0x6e6e, 0x3d33, 0x6ecb, 0x6ec7, 0x23ed1, 0x6df9, 0x6f6e,
    0x23f5e, 0x23f8e, 0x6fc6, 0x7039, 0x701e, 0x701b, 0x3d96, 0x704a, 0x707d, 0x7077, 0x70ad,
    0x20525, 0x7145, 0x24263, 0x719c, 0x243ab, 0x7228, 0x7235, 0x7250, 0x24608, 0x7280, 0x7295,
    0x24735, 0x24814, 0x737a, 0x738b, 0x3eac, 0x73a5, 0x3eb8, 0x3eb8, 0x7447, 0x745c, 0x7471,
    0x7485, 0x74ca, 0x3f1b, 0x7524, 0x24c36, 0x753e, 0x24c92, 0x7570, 0x2219f, 0x7610, 0x24fa1,
    0x24fb8, 0x25044, 0x3ffc, 0x4008, 0x76f4, 0x250f3, 0x250f2, 0x25119, 0x25133, 0x771e, 0x771f,
    0x771f, 0x774a, 0x4039, 0x778b, 0x4046, 0x4096, 0x2541d, 0x784e, 0x788c, 0x78cc, 0x40e3,
    0x25626, 0x7956, 0x2569a, 0x256c5, 0x798f, 0x79eb, 0x412f, 0x7a40, 0x7a4a, 0x7a4f, 0x2597c,
    0x25aa7, 0x25aa7, 0x7aee, 0x4202, 0x25bab, 0x7bc6, 0x7bc9, 0x4227, 0x25c80, 0x7cd2, 0x42a0,
    0x7ce8, 0x7ce3, 0x7d00, 0x25f86, 0x7d63, 0x4301, 0x7dc7, 0x7e02, 0x7e45, 0x4334, 0x26228,
    0x26247, 0x4359, 0x262d9, 0x7f7a, 0x2633e, 0x7f95, 0x7ffa, 0x8005, 0x264da, 0x26523, 0x8060,
    0x265a8, 0x8070, 0x2335f, 0x43d5, 0x80b2, 0x8103, 0x440b, 0x813e, 0x5ab5, 0x267a7, 0x267b5,
    0x23393, 0x2339c, 0x8201, 0x8204, 0x8f9e, 0x446b, 0x8291, 0x828b, 0x829d, 0x52b3, 0x82b1,
    0x82b3, 0x82bd, 0x82e6, 0x26b3c, 0x82e5, 0x831d, 0x8363, 0x83ad, 0x8323, 0x83bd, 0x83e7,
    0x8457, 0x8353, 0x83ca, 0x83cc, 0x83dc, 0x26c36, 0x26d6b, 0x26cd5, 0x452b, 0x84f1, 0x84f3,
    0x8516, 0x273ca, 0x8564, 0x26f2c, 0x455d, 0x4561, 0x26fb1, 0x270d2, 0x456b, 0x8650, 0x865c,
    0x8667, 0x8669, 0x86a9, 0x8688, 0x870e, 0x86e2, 0x8779, 0x8728, 0x876b, 0x8786, 0x45d7,
    0x87e1, 0x8801, 0x45f9, 0x8860, 0x8863, 0x27667, 0x88d7, 0x88de, 0x4635, 0x88fa, 0x34bb,
    0x278ae, 0x27966, 0x46be, 0x46c7, 0x8aa0, 0x8aed, 0x8b8a, 0x8c55, 0x27ca8, 0x8cab, 0x8cc1,
    0x8d1b, 0x8d77, 0x27f2f, 0x20804, 0x8dcb, 0x8dbc, 0x8df0, 0x208de, 0x8ed4, 0x8f38, 0x285d2,
    0x285ed, 0x9094, 0x90f1, 0x9111, 0x2872e, 0x911b, 0x9238, 0x92d7, 0x92d8, 0x927c, 0x93f9,
    0x9415, 0x28bfa, 0x958b, 0x4995, 0x95b7, 0x28d77, 0x49e6, 0x96c3, 0x5db2, 0x9723, 0x29145,
    0x2921a, 0x4a6e, 0x4a76, 0x97e0, 0x2940a, 0x4ab2, 0x29496, 0x980b, 0x980b, 0x9829, 0x295b6,
    0x98e2, 0x4b33, 0x9929, 0x99a7, 0x99c2, 0x99fe, 0x4bce, 0x29b30, 0x9b12, 0x9c40, 0x9cfd,
    0x4cce, 0x4ced, 0x9d67, 0x2a0ce, 0x4cf8, 0x2a105, 0x2a20e, 0x2a291, 0x9ebb, 0x4d56, 0x9ef9,
    0x9efe, 0x9f05, 0x9f0f, 0x9f16, 0x9f3b, 0x2a600])]

/-- Characters that stand for several: the first of a block, and what the characters from there on
stand for. -/
def ligatures : List (Nat × List (List Nat)) :=
  [(0x132, [[0x49, 0x4a], [0x69, 0x6a]]), (0x13f, [[0x4c, 0xb7], [0x6c, 0xb7]]), (0x149, [
    [0x2bc, 0x6e]]), (0x1c4, [[0x44, 0x5a, 0x30c], [0x44, 0x7a, 0x30c], [0x64, 0x7a, 0x30c],
    [0x4c, 0x4a], [0x4c, 0x6a], [0x6c, 0x6a], [0x4e, 0x4a], [0x4e, 0x6a], [0x6e, 0x6a]]),
    (0x1f1, [[0x44, 0x5a], [0x44, 0x7a], [0x64, 0x7a]]), (0x344, [[0x308, 0x301]]), (0x587, [
    [0x565, 0x582]]), (0x675, [[0x627, 0x674], [0x648, 0x674], [0x6c7, 0x674], [0x64a, 0x674]]),
    (0x958, [[0x915, 0x93c], [0x916, 0x93c], [0x917, 0x93c], [0x91c, 0x93c], [0x921, 0x93c],
    [0x922, 0x93c], [0x92b, 0x93c], [0x92f, 0x93c]]), (0x9dc, [[0x9a1, 0x9bc], [0x9a2, 0x9bc]]),
    (0x9df, [[0x9af, 0x9bc]]), (0xa33, [[0xa32, 0xa3c]]), (0xa36, [[0xa38, 0xa3c]]), (0xa59, [
    [0xa16, 0xa3c], [0xa17, 0xa3c], [0xa1c, 0xa3c]]), (0xa5e, [[0xa2b, 0xa3c]]), (0xb5c, [
    [0xb21, 0xb3c], [0xb22, 0xb3c]]), (0xe33, [[0xe4d, 0xe32]]), (0xeb3, [[0xecd, 0xeb2]]),
    (0xedc, [[0xeab, 0xe99], [0xeab, 0xea1]]), (0xf43, [[0xf42, 0xfb7]]), (0xf4d, [
    [0xf4c, 0xfb7]]), (0xf52, [[0xf51, 0xfb7]]), (0xf57, [[0xf56, 0xfb7]]), (0xf5c, [
    [0xf5b, 0xfb7]]), (0xf69, [[0xf40, 0xfb5]]), (0xf73, [[0xf71, 0xf72]]), (0xf75, [
    [0xf71, 0xf74], [0xfb2, 0xf80], [0xfb2, 0xf71, 0xf80], [0xfb3, 0xf80],
    [0xfb3, 0xf71, 0xf80]]), (0xf81, [[0xf71, 0xf80]]), (0xf93, [[0xf92, 0xfb7]]), (0xf9d, [
    [0xf9c, 0xfb7]]), (0xfa2, [[0xfa1, 0xfb7]]), (0xfa7, [[0xfa6, 0xfb7]]), (0xfac, [
    [0xfab, 0xfb7]]), (0xfb9, [[0xf90, 0xfb5]]), (0x1e9a, [[0x61, 0x2be]]), (0x1f71, [
    [0x3b1, 0x301]]), (0x1f73, [[0x3b5, 0x301]]), (0x1f75, [[0x3b7, 0x301]]), (0x1f77, [
    [0x3b9, 0x301]]), (0x1f79, [[0x3bf, 0x301]]), (0x1f7b, [[0x3c5, 0x301]]), (0x1f7d, [
    [0x3c9, 0x301]]), (0x1fbb, [[0x391, 0x301]]), (0x1fc9, [[0x395, 0x301]]), (0x1fcb, [
    [0x397, 0x301]]), (0x1fd3, [[0x3b9, 0x308, 0x301]]), (0x1fdb, [[0x399, 0x301]]), (0x1fe3, [
    [0x3c5, 0x308, 0x301]]), (0x1feb, [[0x3a5, 0x301]]), (0x1ff9, [[0x39f, 0x301]]), (0x1ffb, [
    [0x3a9, 0x301]]), (0x212b, [[0x41, 0x30a]]), (0x2161, [[0x49, 0x49], [0x49, 0x49, 0x49],
    [0x49, 0x56]]), (0x2165, [[0x56, 0x49], [0x56, 0x49, 0x49], [0x56, 0x49, 0x49, 0x49],
    [0x49, 0x58]]), (0x216a, [[0x58, 0x49], [0x58, 0x49, 0x49]]), (0x2171, [[0x69, 0x69],
    [0x69, 0x69, 0x69], [0x69, 0x76]]), (0x2175, [[0x76, 0x69], [0x76, 0x69, 0x69],
    [0x76, 0x69, 0x69, 0x69], [0x69, 0x78]]), (0x217a, [[0x78, 0x69], [0x78, 0x69, 0x69]]),
    (0x309f, [[0x3088, 0x308a]]), (0x30ff, [[0x30b3, 0x30c8]]), (0xfb00, [[0x66, 0x66],
    [0x66, 0x69], [0x66, 0x6c], [0x66, 0x66, 0x69], [0x66, 0x66, 0x6c], [0x73, 0x74],
    [0x73, 0x74]]), (0xfb13, [[0x574, 0x576], [0x574, 0x565], [0x574, 0x56b], [0x57e, 0x576],
    [0x574, 0x56d]]), (0xfb1d, [[0x5d9, 0x5b4]]), (0xfb1f, [[0x5f2, 0x5b7]]), (0xfb2a, [
    [0x5e9, 0x5c1], [0x5e9, 0x5c2], [0x5e9, 0x5bc, 0x5c1], [0x5e9, 0x5bc, 0x5c2], [0x5d0, 0x5b7],
    [0x5d0, 0x5b8], [0x5d0, 0x5bc], [0x5d1, 0x5bc], [0x5d2, 0x5bc], [0x5d3, 0x5bc],
    [0x5d4, 0x5bc], [0x5d5, 0x5bc], [0x5d6, 0x5bc]]), (0xfb38, [[0x5d8, 0x5bc], [0x5d9, 0x5bc],
    [0x5da, 0x5bc], [0x5db, 0x5bc], [0x5dc, 0x5bc]]), (0xfb3e, [[0x5de, 0x5bc]]), (0xfb40, [
    [0x5e0, 0x5bc], [0x5e1, 0x5bc]]), (0xfb43, [[0x5e3, 0x5bc], [0x5e4, 0x5bc]]), (0xfb46, [
    [0x5e6, 0x5bc], [0x5e7, 0x5bc], [0x5e8, 0x5bc], [0x5e9, 0x5bc], [0x5ea, 0x5bc],
    [0x5d5, 0x5b9], [0x5d1, 0x5bf], [0x5db, 0x5bf], [0x5e4, 0x5bf], [0x5d0, 0x5dc]]), (0xfba4, [
    [0x6d5, 0x654], [0x6d5, 0x654]]), (0xfbb0, [[0x6d2, 0x654], [0x6d2, 0x654]]), (0xfbdd, [
    [0x6c7, 0x674]]), (0xfbea, [[0x64a, 0x654, 0x627], [0x64a, 0x654, 0x627],
    [0x64a, 0x654, 0x6d5], [0x64a, 0x654, 0x6d5], [0x64a, 0x654, 0x648], [0x64a, 0x654, 0x648],
    [0x64a, 0x654, 0x6c7], [0x64a, 0x654, 0x6c7], [0x64a, 0x654, 0x6c6], [0x64a, 0x654, 0x6c6],
    [0x64a, 0x654, 0x6c8], [0x64a, 0x654, 0x6c8], [0x64a, 0x654, 0x6d0], [0x64a, 0x654, 0x6d0],
    [0x64a, 0x654, 0x6d0], [0x64a, 0x654, 0x649], [0x64a, 0x654, 0x649], [0x64a, 0x654, 0x649]]),
    (0xfc00, [[0x64a, 0x654, 0x62c], [0x64a, 0x654, 0x62d], [0x64a, 0x654, 0x645],
    [0x64a, 0x654, 0x649], [0x64a, 0x654, 0x64a], [0x628, 0x62c], [0x628, 0x62d], [0x628, 0x62e],
    [0x628, 0x645], [0x628, 0x649], [0x628, 0x64a], [0x62a, 0x62c], [0x62a, 0x62d],
    [0x62a, 0x62e], [0x62a, 0x645], [0x62a, 0x649], [0x62a, 0x64a], [0x62b, 0x62c],
    [0x62b, 0x645], [0x62b, 0x649], [0x62b, 0x64a], [0x62c, 0x62d], [0x62c, 0x645],
    [0x62d, 0x62c], [0x62d, 0x645], [0x62e, 0x62c], [0x62e, 0x62d], [0x62e, 0x645],
    [0x633, 0x62c], [0x633, 0x62d], [0x633, 0x62e], [0x633, 0x645], [0x635, 0x62d],
    [0x635, 0x645], [0x636, 0x62c], [0x636, 0x62d], [0x636, 0x62e], [0x636, 0x645],
    [0x637, 0x62d], [0x637, 0x645], [0x638, 0x645], [0x639, 0x62c], [0x639, 0x645],
    [0x63a, 0x62c], [0x63a, 0x645], [0x641, 0x62c], [0x641, 0x62d], [0x641, 0x62e],
    [0x641, 0x645], [0x641, 0x649], [0x641, 0x64a], [0x642, 0x62d], [0x642, 0x645],
    [0x642, 0x649], [0x642, 0x64a], [0x643, 0x627], [0x643, 0x62c], [0x643, 0x62d],
    [0x643, 0x62e], [0x643, 0x644], [0x643, 0x645], [0x643, 0x649], [0x643, 0x64a],
    [0x644, 0x62c], [0x644, 0x62d], [0x644, 0x62e], [0x644, 0x645], [0x644, 0x649],
    [0x644, 0x64a], [0x645, 0x62c], [0x645, 0x62d], [0x645, 0x62e], [0x645, 0x645],
    [0x645, 0x649], [0x645, 0x64a], [0x646, 0x62c], [0x646, 0x62d], [0x646, 0x62e],
    [0x646, 0x645], [0x646, 0x649], [0x646, 0x64a], [0x647, 0x62c], [0x647, 0x645],
    [0x647, 0x649], [0x647, 0x64a], [0x64a, 0x62c], [0x64a, 0x62d], [0x64a, 0x62e],
    [0x64a, 0x645], [0x64a, 0x649], [0x64a, 0x64a], [0x630, 0x670], [0x631, 0x670],
    [0x649, 0x670]]), (0xfc64, [[0x64a, 0x654, 0x631], [0x64a, 0x654, 0x632],
    [0x64a, 0x654, 0x645], [0x64a, 0x654, 0x646], [0x64a, 0x654, 0x649], [0x64a, 0x654, 0x64a],
    [0x628, 0x631], [0x628, 0x632], [0x628, 0x645], [0x628, 0x646], [0x628, 0x649],
    [0x628, 0x64a], [0x62a, 0x631], [0x62a, 0x632], [0x62a, 0x645], [0x62a, 0x646],
    [0x62a, 0x649], [0x62a, 0x64a], [0x62b, 0x631], [0x62b, 0x632], [0x62b, 0x645],
    [0x62b, 0x646], [0x62b, 0x649], [0x62b, 0x64a], [0x641, 0x649], [0x641, 0x64a],
    [0x642, 0x649], [0x642, 0x64a], [0x643, 0x627], [0x643, 0x644], [0x643, 0x645],
    [0x643, 0x649], [0x643, 0x64a], [0x644, 0x645], [0x644, 0x649], [0x644, 0x64a],
    [0x645, 0x627], [0x645, 0x645], [0x646, 0x631], [0x646, 0x632], [0x646, 0x645],
    [0x646, 0x646], [0x646, 0x649], [0x646, 0x64a], [0x649, 0x670], [0x64a, 0x631],
    [0x64a, 0x632], [0x64a, 0x645], [0x64a, 0x646], [0x64a, 0x649], [0x64a, 0x64a],
    [0x64a, 0x654, 0x62c], [0x64a, 0x654, 0x62d], [0x64a, 0x654, 0x62e], [0x64a, 0x654, 0x645],
    [0x64a, 0x654, 0x647], [0x628, 0x62c], [0x628, 0x62d], [0x628, 0x62e], [0x628, 0x645],
    [0x628, 0x647], [0x62a, 0x62c], [0x62a, 0x62d], [0x62a, 0x62e], [0x62a, 0x645],
    [0x62a, 0x647], [0x62b, 0x645], [0x62c, 0x62d], [0x62c, 0x645], [0x62d, 0x62c],
    [0x62d, 0x645], [0x62e, 0x62c], [0x62e, 0x645], [0x633, 0x62c], [0x633, 0x62d],
    [0x633, 0x62e], [0x633, 0x645], [0x635, 0x62d], [0x635, 0x62e], [0x635, 0x645],
    [0x636, 0x62c], [0x636, 0x62d], [0x636, 0x62e], [0x636, 0x645], [0x637, 0x62d],
    [0x638, 0x645], [0x639, 0x62c], [0x639, 0x645], [0x63a, 0x62c], [0x63a, 0x645],
    [0x641, 0x62c], [0x641, 0x62d], [0x641, 0x62e], [0x641, 0x645], [0x642, 0x62d],
    [0x642, 0x645], [0x643, 0x62c], [0x643, 0x62d], [0x643, 0x62e], [0x643, 0x644],
    [0x643, 0x645], [0x644, 0x62c], [0x644, 0x62d], [0x644, 0x62e], [0x644, 0x645],
    [0x644, 0x647], [0x645, 0x62c], [0x645, 0x62d], [0x645, 0x62e], [0x645, 0x645],
    [0x646, 0x62c], [0x646, 0x62d], [0x646, 0x62e], [0x646, 0x645], [0x646, 0x647],
    [0x647, 0x62c], [0x647, 0x645], [0x647, 0x670], [0x64a, 0x62c], [0x64a, 0x62d],
    [0x64a, 0x62e], [0x64a, 0x645], [0x64a, 0x647], [0x64a, 0x654, 0x645], [0x64a, 0x654, 0x647],
    [0x628, 0x645], [0x628, 0x647], [0x62a, 0x645], [0x62a, 0x647], [0x62b, 0x645],
    [0x62b, 0x647], [0x633, 0x645], [0x633, 0x647], [0x634, 0x645], [0x634, 0x647],
    [0x643, 0x644], [0x643, 0x645], [0x644, 0x645], [0x646, 0x645], [0x646, 0x647],
    [0x64a, 0x645], [0x64a, 0x647], [0x640, 0x64e, 0x651], [0x640, 0x64f, 0x651],
    [0x640, 0x650, 0x651], [0x637, 0x649], [0x637, 0x64a], [0x639, 0x649], [0x639, 0x64a],
    [0x63a, 0x649], [0x63a, 0x64a], [0x633, 0x649], [0x633, 0x64a], [0x634, 0x649],
    [0x634, 0x64a], [0x62d, 0x649], [0x62d, 0x64a], [0x62c, 0x649], [0x62c, 0x64a],
    [0x62e, 0x649], [0x62e, 0x64a], [0x635, 0x649], [0x635, 0x64a], [0x636, 0x649],
    [0x636, 0x64a], [0x634, 0x62c], [0x634, 0x62d], [0x634, 0x62e], [0x634, 0x645],
    [0x634, 0x631], [0x633, 0x631], [0x635, 0x631], [0x636, 0x631], [0x637, 0x649],
    [0x637, 0x64a], [0x639, 0x649], [0x639, 0x64a], [0x63a, 0x649], [0x63a, 0x64a],
    [0x633, 0x649], [0x633, 0x64a], [0x634, 0x649], [0x634, 0x64a], [0x62d, 0x649],
    [0x62d, 0x64a], [0x62c, 0x649], [0x62c, 0x64a], [0x62e, 0x649], [0x62e, 0x64a],
    [0x635, 0x649], [0x635, 0x64a], [0x636, 0x649], [0x636, 0x64a], [0x634, 0x62c],
    [0x634, 0x62d], [0x634, 0x62e], [0x634, 0x645], [0x634, 0x631], [0x633, 0x631],
    [0x635, 0x631], [0x636, 0x631], [0x634, 0x62c], [0x634, 0x62d], [0x634, 0x62e],
    [0x634, 0x645], [0x633, 0x647], [0x634, 0x647], [0x637, 0x645], [0x633, 0x62c],
    [0x633, 0x62d], [0x633, 0x62e], [0x634, 0x62c], [0x634, 0x62d], [0x634, 0x62e],
    [0x637, 0x645], [0x638, 0x645], [0x627, 0x64b], [0x627, 0x64b]]), (0xfd50, [
    [0x62a, 0x62c, 0x645], [0x62a, 0x62d, 0x62c], [0x62a, 0x62d, 0x62c], [0x62a, 0x62d, 0x645],
    [0x62a, 0x62e, 0x645], [0x62a, 0x645, 0x62c], [0x62a, 0x645, 0x62d], [0x62a, 0x645, 0x62e],
    [0x62c, 0x645, 0x62d], [0x62c, 0x645, 0x62d], [0x62d, 0x645, 0x64a], [0x62d, 0x645, 0x649],
    [0x633, 0x62d, 0x62c], [0x633, 0x62c, 0x62d], [0x633, 0x62c, 0x649], [0x633, 0x645, 0x62d],
    [0x633, 0x645, 0x62d], [0x633, 0x645, 0x62c], [0x633, 0x645, 0x645], [0x633, 0x645, 0x645],
    [0x635, 0x62d, 0x62d], [0x635, 0x62d, 0x62d], [0x635, 0x645, 0x645], [0x634, 0x62d, 0x645],
    [0x634, 0x62d, 0x645], [0x634, 0x62c, 0x64a], [0x634, 0x645, 0x62e], [0x634, 0x645, 0x62e],
    [0x634, 0x645, 0x645], [0x634, 0x645, 0x645], [0x636, 0x62d, 0x649], [0x636, 0x62e, 0x645],
    [0x636, 0x62e, 0x645], [0x637, 0x645, 0x62d], [0x637, 0x645, 0x62d], [0x637, 0x645, 0x645],
    [0x637, 0x645, 0x64a], [0x639, 0x62c, 0x645], [0x639, 0x645, 0x645], [0x639, 0x645, 0x645],
    [0x639, 0x645, 0x649], [0x63a, 0x645, 0x645], [0x63a, 0x645, 0x64a], [0x63a, 0x645, 0x649],
    [0x641, 0x62e, 0x645], [0x641, 0x62e, 0x645], [0x642, 0x645, 0x62d], [0x642, 0x645, 0x645],
    [0x644, 0x62d, 0x645], [0x644, 0x62d, 0x64a], [0x644, 0x62d, 0x649], [0x644, 0x62c, 0x62c],
    [0x644, 0x62c, 0x62c], [0x644, 0x62e, 0x645], [0x644, 0x62e, 0x645], [0x644, 0x645, 0x62d],
    [0x644, 0x645, 0x62d], [0x645, 0x62d, 0x62c], [0x645, 0x62d, 0x645], [0x645, 0x62d, 0x64a],
    [0x645, 0x62c, 0x62d], [0x645, 0x62c, 0x645], [0x645, 0x62e, 0x62c], [0x645, 0x62e, 0x645]]),
    (0xfd92, [[0x645, 0x62c, 0x62e], [0x647, 0x645, 0x62c], [0x647, 0x645, 0x645],
    [0x646, 0x62d, 0x645], [0x646, 0x62d, 0x649], [0x646, 0x62c, 0x645], [0x646, 0x62c, 0x645],
    [0x646, 0x62c, 0x649], [0x646, 0x645, 0x64a], [0x646, 0x645, 0x649], [0x64a, 0x645, 0x645],
    [0x64a, 0x645, 0x645], [0x628, 0x62e, 0x64a], [0x62a, 0x62c, 0x64a], [0x62a, 0x62c, 0x649],
    [0x62a, 0x62e, 0x64a], [0x62a, 0x62e, 0x649], [0x62a, 0x645, 0x64a], [0x62a, 0x645, 0x649],
    [0x62c, 0x645, 0x64a], [0x62c, 0x62d, 0x649], [0x62c, 0x645, 0x649], [0x633, 0x62e, 0x649],
    [0x635, 0x62d, 0x64a], [0x634, 0x62d, 0x64a], [0x636, 0x62d, 0x64a], [0x644, 0x62c, 0x64a],
    [0x644, 0x645, 0x64a], [0x64a, 0x62d, 0x64a], [0x64a, 0x62c, 0x64a], [0x64a, 0x645, 0x64a],
    [0x645, 0x645, 0x64a], [0x642, 0x645, 0x64a], [0x646, 0x62d, 0x64a], [0x642, 0x645, 0x62d],
    [0x644, 0x62d, 0x645], [0x639, 0x645, 0x64a], [0x643, 0x645, 0x64a], [0x646, 0x62c, 0x62d],
    [0x645, 0x62e, 0x64a], [0x644, 0x62c, 0x645], [0x643, 0x645, 0x645], [0x644, 0x62c, 0x645],
    [0x646, 0x62c, 0x62d], [0x62c, 0x62d, 0x64a], [0x62d, 0x62c, 0x64a], [0x645, 0x62c, 0x64a],
    [0x641, 0x645, 0x64a], [0x628, 0x62d, 0x64a], [0x643, 0x645, 0x645], [0x639, 0x62c, 0x645],
    [0x635, 0x645, 0x645], [0x633, 0x62e, 0x64a], [0x646, 0x62c, 0x64a]]), (0xfdf0, [
    [0x635, 0x644, 0x6d2], [0x642, 0x644, 0x6d2], [0x627, 0x644, 0x644, 0x647],
    [0x627, 0x643, 0x628, 0x631], [0x645, 0x62d, 0x645, 0x62f], [0x635, 0x644, 0x639, 0x645],
    [0x631, 0x633, 0x648, 0x644], [0x639, 0x644, 0x64a, 0x647], [0x648, 0x633, 0x644, 0x645],
    [0x635, 0x644, 0x649]]), (0xfe71, [[0x640, 0x64b]]), (0xfe77, [[0x640, 0x64e]]), (0xfe79, [
    [0x640, 0x64f]]), (0xfe7b, [[0x640, 0x650]]), (0xfe7d, [[0x640, 0x651]]), (0xfe7f, [
    [0x640, 0x652]]), (0xfe81, [[0x627, 0x653], [0x627, 0x653], [0x627, 0x654], [0x627, 0x654],
    [0x648, 0x654], [0x648, 0x654], [0x627, 0x655], [0x627, 0x655], [0x64a, 0x654],
    [0x64a, 0x654], [0x64a, 0x654], [0x64a, 0x654]]), (0xfef5, [[0x644, 0x627, 0x653],
    [0x644, 0x627, 0x653], [0x644, 0x627, 0x654], [0x644, 0x627, 0x654], [0x644, 0x627, 0x655],
    [0x644, 0x627, 0x655], [0x644, 0x627], [0x644, 0x627]])]

/-- The entry of a character in blocks. -/
def inBlocks? {α : Type} (blocks : List (Nat × List α)) (n : Nat) : Option α :=
  blocks.findSome? fun (start, entries) => if start ≤ n then entries[n - start]? else none

/-- What a character stands for that is no composed one, written out as far as possible. -/
def standsFor (n : Nat) : List Nat :=
  match standInRuns.find? fun (first, last, _) => first ≤ n && n ≤ last with
  | some (first, _, target) => [target + (n - first)]
  | none =>
    match inBlocks? standIns n with
    | some target => [target]
    | none => (inBlocks? ligatures n).getD [n]

end GrowthGrammar.Text
