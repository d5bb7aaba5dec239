import TraceScope.Text.Blank

/-!
# Plain file names

A name that came from outside is reduced to letters, digits, points, dashes and underscores, so
that it names a file in one folder and nothing else. This is one way to do it.
-/

namespace TraceScope.Reference

/-- Runs of characters that decompose to one ASCII character: first and last code point, their
distance, the step between their letters, and the first letter. -/
def foldRuns : List (Nat × Nat × Nat × Nat × Nat) := [
  (0xa0, 0xa0, 1, 0, 32), (0xa8, 0xa8, 1, 0, 32), (0xaa, 0xaa, 1, 0, 97), (0xaf, 0xaf, 1, 0,
  32), (0xb2, 0xb3, 1, 1, 50), (0xb4, 0xb4, 1, 0, 32), (0xb8, 0xb8, 1, 0, 32), (0xb9, 0xb9, 1,
  0, 49), (0xba, 0xba, 1, 0, 111), (0xc0, 0xc5, 1, 0, 65), (0xc7, 0xc7, 1, 0, 67), (0xc8, 0xcb,
  1, 0, 69), (0xcc, 0xcf, 1, 0, 73), (0xd1, 0xd2, 1, 1, 78), (0xd3, 0xd6, 1, 0, 79), (0xd9,
  0xdc, 1, 0, 85), (0xdd, 0xdd, 1, 0, 89), (0xe0, 0xe5, 1, 0, 97), (0xe7, 0xe7, 1, 0, 99),
  (0xe8, 0xeb, 1, 0, 101), (0xec, 0xef, 1, 0, 105), (0xf1, 0xf2, 1, 1, 110), (0xf3, 0xf6, 1, 0,
  111), (0xf9, 0xfc, 1, 0, 117), (0xfd, 0xff, 2, 0, 121), (0x100, 0x104, 2, 0, 65), (0x101,
  0x105, 2, 0, 97), (0x106, 0x10c, 2, 0, 67), (0x107, 0x10d, 2, 0, 99), (0x10e, 0x10e, 1, 0,
  68), (0x10f, 0x10f, 1, 0, 100), (0x112, 0x11a, 2, 0, 69), (0x113, 0x11b, 2, 0, 101), (0x11c,
  0x122, 2, 0, 71), (0x11d, 0x123, 2, 0, 103), (0x124, 0x124, 1, 0, 72), (0x125, 0x125, 1, 0,
  104), (0x128, 0x130, 2, 0, 73), (0x129, 0x12f, 2, 0, 105), (0x134, 0x136, 2, 1, 74), (0x135,
  0x137, 2, 1, 106), (0x139, 0x13f, 2, 0, 76), (0x13a, 0x140, 2, 0, 108), (0x143, 0x147, 2, 0,
  78), (0x144, 0x148, 2, 0, 110), (0x149, 0x149, 1, 0, 110), (0x14c, 0x150, 2, 0, 79), (0x14d,
  0x151, 2, 0, 111), (0x154, 0x158, 2, 0, 82), (0x155, 0x159, 2, 0, 114), (0x15a, 0x160, 2, 0,
  83), (0x15b, 0x161, 2, 0, 115), (0x162, 0x164, 2, 0, 84), (0x163, 0x165, 2, 0, 116), (0x168,
  0x172, 2, 0, 85), (0x169, 0x173, 2, 0, 117), (0x174, 0x174, 1, 0, 87), (0x175, 0x175, 1, 0,
  119), (0x176, 0x178, 2, 0, 89), (0x177, 0x177, 1, 0, 121), (0x179, 0x17d, 2, 0, 90), (0x17a,
  0x17e, 2, 0, 122), (0x17f, 0x17f, 1, 0, 115), (0x1a0, 0x1a0, 1, 0, 79), (0x1a1, 0x1a1, 1, 0,
  111), (0x1af, 0x1af, 1, 0, 85), (0x1b0, 0x1b0, 1, 0, 117), (0x1cd, 0x1cd, 1, 0, 65), (0x1ce,
  0x1ce, 1, 0, 97), (0x1cf, 0x1cf, 1, 0, 73), (0x1d0, 0x1d0, 1, 0, 105), (0x1d1, 0x1d1, 1, 0,
  79), (0x1d2, 0x1d2, 1, 0, 111), (0x1d3, 0x1db, 2, 0, 85), (0x1d4, 0x1dc, 2, 0, 117), (0x1de,
  0x1e0, 2, 0, 65), (0x1df, 0x1e1, 2, 0, 97), (0x1e6, 0x1e6, 1, 0, 71), (0x1e7, 0x1e7, 1, 0,
  103), (0x1e8, 0x1e8, 1, 0, 75), (0x1e9, 0x1e9, 1, 0, 107), (0x1ea, 0x1ec, 2, 0, 79), (0x1eb,
  0x1ed, 2, 0, 111), (0x1f0, 0x1f0, 1, 0, 106), (0x1f4, 0x1f4, 1, 0, 71), (0x1f5, 0x1f5, 1, 0,
  103), (0x1f8, 0x1f8, 1, 0, 78), (0x1f9, 0x1f9, 1, 0, 110), (0x1fa, 0x1fa, 1, 0, 65), (0x1fb,
  0x1fb, 1, 0, 97), (0x200, 0x202, 2, 0, 65), (0x201, 0x203, 2, 0, 97), (0x204, 0x206, 2, 0,
  69), (0x205, 0x207, 2, 0, 101), (0x208, 0x20a, 2, 0, 73), (0x209, 0x20b, 2, 0, 105), (0x20c,
  0x20e, 2, 0, 79), (0x20d, 0x20f, 2, 0, 111), (0x210, 0x212, 2, 0, 82), (0x211, 0x213, 2, 0,
  114), (0x214, 0x216, 2, 0, 85), (0x215, 0x217, 2, 0, 117), (0x218, 0x21a, 2, 1, 83), (0x219,
  0x21b, 2, 1, 115), (0x21e, 0x21e, 1, 0, 72), (0x21f, 0x21f, 1, 0, 104), (0x226, 0x226, 1, 0,
  65), (0x227, 0x227, 1, 0, 97), (0x228, 0x228, 1, 0, 69), (0x229, 0x229, 1, 0, 101), (0x22a,
  0x230, 2, 0, 79), (0x22b, 0x231, 2, 0, 111), (0x232, 0x232, 1, 0, 89), (0x233, 0x233, 1, 0,
  121), (0x2b0, 0x2b0, 1, 0, 104), (0x2b2, 0x2b2, 1, 0, 106), (0x2b3, 0x2b3, 1, 0, 114), (0x2b7,
  0x2b7, 1, 0, 119), (0x2b8, 0x2b8, 1, 0, 121), (0x2d8, 0x2dd, 1, 0, 32), (0x2e1, 0x2e1, 1, 0,
  108), (0x2e2, 0x2e2, 1, 0, 115), (0x2e3, 0x2e3, 1, 0, 120), (0x37a, 0x37a, 1, 0, 32), (0x37e,
  0x37e, 1, 0, 59), (0x384, 0x385, 1, 0, 32), (0x1d2c, 0x1d2e, 2, 1, 65), (0x1d30, 0x1d31, 1, 1,
  68), (0x1d33, 0x1d3a, 1, 1, 71), (0x1d3c, 0x1d3e, 2, 1, 79), (0x1d3f, 0x1d3f, 1, 0, 82),
  (0x1d40, 0x1d41, 1, 1, 84), (0x1d42, 0x1d42, 1, 0, 87), (0x1d43, 0x1d43, 1, 0, 97), (0x1d47,
  0x1d47, 1, 0, 98), (0x1d48, 0x1d49, 1, 1, 100), (0x1d4d, 0x1d4d, 1, 0, 103), (0x1d4f, 0x1d4f,
  1, 0, 107), (0x1d50, 0x1d50, 1, 0, 109), (0x1d52, 0x1d52, 1, 0, 111), (0x1d56, 0x1d56, 1, 0,
  112), (0x1d57, 0x1d58, 1, 1, 116), (0x1d5b, 0x1d5b, 1, 0, 118), (0x1d62, 0x1d62, 1, 0, 105),
  (0x1d63, 0x1d63, 1, 0, 114), (0x1d64, 0x1d65, 1, 1, 117), (0x1d9c, 0x1d9c, 1, 0, 99), (0x1da0,
  0x1da0, 1, 0, 102), (0x1dbb, 0x1dbb, 1, 0, 122), (0x1e00, 0x1e02, 2, 1, 65), (0x1e01, 0x1e03,
  2, 1, 97), (0x1e04, 0x1e06, 2, 0, 66), (0x1e05, 0x1e07, 2, 0, 98), (0x1e08, 0x1e0a, 2, 1, 67),
  (0x1e09, 0x1e0b, 2, 1, 99), (0x1e0c, 0x1e12, 2, 0, 68), (0x1e0d, 0x1e13, 2, 0, 100), (0x1e14,
  0x1e1c, 2, 0, 69), (0x1e15, 0x1e1d, 2, 0, 101), (0x1e1e, 0x1e22, 2, 1, 70), (0x1e1f, 0x1e23,
  2, 1, 102), (0x1e24, 0x1e2a, 2, 0, 72), (0x1e25, 0x1e2b, 2, 0, 104), (0x1e2c, 0x1e2e, 2, 0,
  73), (0x1e2d, 0x1e2f, 2, 0, 105), (0x1e30, 0x1e34, 2, 0, 75), (0x1e31, 0x1e35, 2, 0, 107),
  (0x1e36, 0x1e3c, 2, 0, 76), (0x1e37, 0x1e3d, 2, 0, 108), (0x1e3e, 0x1e42, 2, 0, 77), (0x1e3f,
  0x1e43, 2, 0, 109), (0x1e44, 0x1e4a, 2, 0, 78), (0x1e45, 0x1e4b, 2, 0, 110), (0x1e4c, 0x1e52,
  2, 0, 79), (0x1e4d, 0x1e53, 2, 0, 111), (0x1e54, 0x1e56, 2, 0, 80), (0x1e55, 0x1e57, 2, 0,
  112), (0x1e58, 0x1e5e, 2, 0, 82), (0x1e59, 0x1e5f, 2, 0, 114), (0x1e60, 0x1e68, 2, 0, 83),
  (0x1e61, 0x1e69, 2, 0, 115), (0x1e6a, 0x1e70, 2, 0, 84), (0x1e6b, 0x1e71, 2, 0, 116), (0x1e72,
  0x1e7a, 2, 0, 85), (0x1e73, 0x1e7b, 2, 0, 117), (0x1e7c, 0x1e7e, 2, 0, 86), (0x1e7d, 0x1e7f,
  2, 0, 118), (0x1e80, 0x1e88, 2, 0, 87), (0x1e81, 0x1e89, 2, 0, 119), (0x1e8a, 0x1e8c, 2, 0,
  88), (0x1e8b, 0x1e8d, 2, 0, 120), (0x1e8e, 0x1e90, 2, 1, 89), (0x1e8f, 0x1e91, 2, 1, 121),
  (0x1e92, 0x1e94, 2, 0, 90), (0x1e93, 0x1e95, 2, 0, 122), (0x1e96, 0x1e96, 1, 0, 104), (0x1e97,
  0x1e97, 1, 0, 116), (0x1e98, 0x1e98, 1, 0, 119), (0x1e99, 0x1e99, 1, 0, 121), (0x1e9a, 0x1e9a,
  1, 0, 97), (0x1e9b, 0x1e9b, 1, 0, 115), (0x1ea0, 0x1eb6, 2, 0, 65), (0x1ea1, 0x1eb7, 2, 0,
  97), (0x1eb8, 0x1ec6, 2, 0, 69), (0x1eb9, 0x1ec7, 2, 0, 101), (0x1ec8, 0x1eca, 2, 0, 73),
  (0x1ec9, 0x1ecb, 2, 0, 105), (0x1ecc, 0x1ee2, 2, 0, 79), (0x1ecd, 0x1ee3, 2, 0, 111), (0x1ee4,
  0x1ef0, 2, 0, 85), (0x1ee5, 0x1ef1, 2, 0, 117), (0x1ef2, 0x1ef8, 2, 0, 89), (0x1ef3, 0x1ef9,
  2, 0, 121), (0x1fbd, 0x1fc1, 2, 0, 32), (0x1fc0, 0x1fc0, 1, 0, 32), (0x1fcd, 0x1fcf, 1, 0,
  32), (0x1fdd, 0x1fdf, 1, 0, 32), (0x1fed, 0x1fee, 1, 0, 32), (0x1fef, 0x1fef, 1, 0, 96),
  (0x1ffd, 0x1ffe, 1, 0, 32), (0x2000, 0x200a, 1, 0, 32), (0x2017, 0x2017, 1, 0, 32), (0x2024,
  0x2024, 1, 0, 46), (0x202f, 0x202f, 1, 0, 32), (0x203e, 0x203e, 1, 0, 32), (0x205f, 0x205f, 1,
  0, 32), (0x2070, 0x2070, 1, 0, 48), (0x2071, 0x2071, 1, 0, 105), (0x2074, 0x2079, 1, 1, 52),
  (0x207a, 0x207a, 1, 0, 43), (0x207c, 0x207c, 1, 0, 61), (0x207d, 0x207e, 1, 1, 40), (0x207f,
  0x207f, 1, 0, 110), (0x2080, 0x2089, 1, 1, 48), (0x208a, 0x208a, 1, 0, 43), (0x208c, 0x208c,
  1, 0, 61), (0x208d, 0x208e, 1, 1, 40), (0x2090, 0x2090, 1, 0, 97), (0x2091, 0x2091, 1, 0,
  101), (0x2092, 0x2092, 1, 0, 111), (0x2093, 0x2093, 1, 0, 120), (0x2095, 0x2095, 1, 0, 104),
  (0x2096, 0x2099, 1, 1, 107), (0x209a, 0x209a, 1, 0, 112), (0x209b, 0x209c, 1, 1, 115),
  (0x2102, 0x2103, 1, 0, 67), (0x2109, 0x2109, 1, 0, 70), (0x210a, 0x210a, 1, 0, 103), (0x210b,
  0x210d, 1, 0, 72), (0x210e, 0x210e, 1, 0, 104), (0x2110, 0x2111, 1, 0, 73), (0x2112, 0x2112,
  1, 0, 76), (0x2113, 0x2113, 1, 0, 108), (0x2115, 0x2115, 1, 0, 78), (0x2119, 0x211b, 1, 1,
  80), (0x211c, 0x211d, 1, 0, 82), (0x2124, 0x2124, 1, 0, 90), (0x2128, 0x2128, 1, 0, 90),
  (0x212a, 0x212a, 1, 0, 75), (0x212b, 0x212d, 1, 1, 65), (0x212f, 0x212f, 1, 0, 101), (0x2130,
  0x2131, 1, 1, 69), (0x2133, 0x2133, 1, 0, 77), (0x2134, 0x2134, 1, 0, 111), (0x2139, 0x2139,
  1, 0, 105), (0x2145, 0x2145, 1, 0, 68), (0x2146, 0x2147, 1, 1, 100), (0x2148, 0x2149, 1, 1,
  105), (0x215f, 0x215f, 1, 0, 49), (0x2160, 0x2160, 1, 0, 73), (0x2164, 0x2164, 1, 0, 86),
  (0x2169, 0x2169, 1, 0, 88), (0x216c, 0x216c, 1, 0, 76), (0x216d, 0x216e, 1, 1, 67), (0x216f,
  0x216f, 1, 0, 77), (0x2170, 0x2170, 1, 0, 105), (0x2174, 0x2174, 1, 0, 118), (0x2179, 0x2179,
  1, 0, 120), (0x217c, 0x217c, 1, 0, 108), (0x217d, 0x217e, 1, 1, 99), (0x217f, 0x217f, 1, 0,
  109), (0x2260, 0x2260, 1, 0, 61), (0x226e, 0x226e, 1, 0, 60), (0x226f, 0x226f, 1, 0, 62),
  (0x2460, 0x2468, 1, 1, 49), (0x24b6, 0x24cf, 1, 1, 65), (0x24d0, 0x24e9, 1, 1, 97), (0x24ea,
  0x24ea, 1, 0, 48), (0x2c7c, 0x2c7c, 1, 0, 106), (0x2c7d, 0x2c7d, 1, 0, 86), (0x3000, 0x3000,
  1, 0, 32), (0x309b, 0x309c, 1, 0, 32), (0x32c0, 0x32c8, 1, 1, 49), (0x3358, 0x3361, 1, 1, 48),
  (0x3382, 0x3382, 1, 0, 65), (0x338c, 0x338c, 1, 0, 70), (0x338d, 0x338d, 1, 0, 103), (0x3395,
  0x3395, 1, 0, 108), (0x339b, 0x339b, 1, 0, 109), (0x33b2, 0x33b2, 1, 0, 115), (0x33b6, 0x33b6,
  1, 0, 86), (0x33bc, 0x33bc, 1, 0, 87), (0x33c0, 0x33c0, 1, 0, 107), (0x33c1, 0x33c1, 1, 0,
  77), (0x33e0, 0x33e8, 1, 1, 49), (0xa7f2, 0xa7f2, 1, 0, 67), (0xa7f3, 0xa7f3, 1, 0, 70),
  (0xa7f4, 0xa7f4, 1, 0, 81), (0xfb29, 0xfb29, 1, 0, 43), (0xfc5e, 0xfc63, 1, 0, 32), (0xfdfb,
  0xfdfb, 1, 0, 32), (0xfe10, 0xfe10, 1, 0, 44), (0xfe13, 0xfe14, 1, 1, 58), (0xfe15, 0xfe15, 1,
  0, 33), (0xfe16, 0xfe16, 1, 0, 63), (0xfe33, 0xfe34, 1, 0, 95), (0xfe35, 0xfe36, 1, 1, 40),
  (0xfe37, 0xfe37, 1, 0, 123), (0xfe38, 0xfe38, 1, 0, 125), (0xfe47, 0xfe47, 1, 0, 91), (0xfe48,
  0xfe48, 1, 0, 93), (0xfe49, 0xfe4c, 1, 0, 32), (0xfe4d, 0xfe4f, 1, 0, 95), (0xfe50, 0xfe50, 1,
  0, 44), (0xfe52, 0xfe52, 1, 0, 46), (0xfe54, 0xfe54, 1, 0, 59), (0xfe55, 0xfe55, 1, 0, 58),
  (0xfe56, 0xfe56, 1, 0, 63), (0xfe57, 0xfe57, 1, 0, 33), (0xfe59, 0xfe5a, 1, 1, 40), (0xfe5b,
  0xfe5b, 1, 0, 123), (0xfe5c, 0xfe5c, 1, 0, 125), (0xfe5f, 0xfe5f, 1, 0, 35), (0xfe60, 0xfe60,
  1, 0, 38), (0xfe61, 0xfe62, 1, 1, 42), (0xfe63, 0xfe63, 1, 0, 45), (0xfe64, 0xfe66, 2, 1, 60),
  (0xfe65, 0xfe65, 1, 0, 62), (0xfe68, 0xfe68, 1, 0, 92), (0xfe69, 0xfe6a, 1, 1, 36), (0xfe6b,
  0xfe6b, 1, 0, 64), (0xfe70, 0xfe7e, 2, 0, 32), (0xff01, 0xff5e, 1, 1, 33), (0xffe3, 0xffe3, 1,
  0, 32), (0x107a5, 0x107a5, 1, 0, 113), (0x1d400, 0x1d419, 1, 1, 65), (0x1d41a, 0x1d433, 1, 1,
  97), (0x1d434, 0x1d44d, 1, 1, 65), (0x1d44e, 0x1d454, 1, 1, 97), (0x1d456, 0x1d467, 1, 1,
  105), (0x1d468, 0x1d481, 1, 1, 65), (0x1d482, 0x1d49b, 1, 1, 97), (0x1d49c, 0x1d49c, 1, 0,
  65), (0x1d49e, 0x1d49f, 1, 1, 67), (0x1d4a2, 0x1d4a2, 1, 0, 71), (0x1d4a5, 0x1d4a6, 1, 1, 74),
  (0x1d4a9, 0x1d4ac, 1, 1, 78), (0x1d4ae, 0x1d4b5, 1, 1, 83), (0x1d4b6, 0x1d4b9, 1, 1, 97),
  (0x1d4bb, 0x1d4bb, 1, 0, 102), (0x1d4bd, 0x1d4c3, 1, 1, 104), (0x1d4c5, 0x1d4cf, 1, 1, 112),
  (0x1d4d0, 0x1d4e9, 1, 1, 65), (0x1d4ea, 0x1d503, 1, 1, 97), (0x1d504, 0x1d505, 1, 1, 65),
  (0x1d507, 0x1d50a, 1, 1, 68), (0x1d50d, 0x1d514, 1, 1, 74), (0x1d516, 0x1d51c, 1, 1, 83),
  (0x1d51e, 0x1d537, 1, 1, 97), (0x1d538, 0x1d539, 1, 1, 65), (0x1d53b, 0x1d53e, 1, 1, 68),
  (0x1d540, 0x1d544, 1, 1, 73), (0x1d546, 0x1d546, 1, 0, 79), (0x1d54a, 0x1d550, 1, 1, 83),
  (0x1d552, 0x1d56b, 1, 1, 97), (0x1d56c, 0x1d585, 1, 1, 65), (0x1d586, 0x1d59f, 1, 1, 97),
  (0x1d5a0, 0x1d5b9, 1, 1, 65), (0x1d5ba, 0x1d5d3, 1, 1, 97), (0x1d5d4, 0x1d5ed, 1, 1, 65),
  (0x1d5ee, 0x1d607, 1, 1, 97), (0x1d608, 0x1d621, 1, 1, 65), (0x1d622, 0x1d63b, 1, 1, 97),
  (0x1d63c, 0x1d655, 1, 1, 65), (0x1d656, 0x1d66f, 1, 1, 97), (0x1d670, 0x1d689, 1, 1, 65),
  (0x1d68a, 0x1d6a3, 1, 1, 97), (0x1d7ce, 0x1d7d7, 1, 1, 48), (0x1d7d8, 0x1d7e1, 1, 1, 48),
  (0x1d7e2, 0x1d7eb, 1, 1, 48), (0x1d7ec, 0x1d7f5, 1, 1, 48), (0x1d7f6, 0x1d7ff, 1, 1, 48),
  (0x1f12a, 0x1f12a, 1, 0, 83), (0x1f12b, 0x1f12b, 1, 0, 67), (0x1f12c, 0x1f12c, 1, 0, 82),
  (0x1f130, 0x1f149, 1, 1, 65), (0x1fbf0, 0x1fbf9, 1, 1, 48)]

/-- Characters that decompose to several ASCII characters. -/
def foldLists : List (Nat × String) := [
  (0xbc, "14"), (0xbd, "12"), (0xbe, "34"), (0x132, "IJ"), (0x133, "ij"), (0x1c4, "DZ"), (0x1c5,
  "Dz"), (0x1c6, "dz"), (0x1c7, "LJ"), (0x1c8, "Lj"), (0x1c9, "lj"), (0x1ca, "NJ"), (0x1cb,
  "Nj"), (0x1cc, "nj"), (0x1f1, "DZ"), (0x1f2, "Dz"), (0x1f3, "dz"), (0x2025, ".."), (0x2026,
  "..."), (0x203c, "!!"), (0x2047, "??"), (0x2048, "?!"), (0x2049, "!?"), (0x20a8, "Rs"),
  (0x2100, "a/c"), (0x2101, "a/s"), (0x2105, "c/o"), (0x2106, "c/u"), (0x2116, "No"), (0x2120,
  "SM"), (0x2121, "TEL"), (0x2122, "TM"), (0x213b, "FAX"), (0x2150, "17"), (0x2151, "19"),
  (0x2152, "110"), (0x2153, "13"), (0x2154, "23"), (0x2155, "15"), (0x2156, "25"), (0x2157,
  "35"), (0x2158, "45"), (0x2159, "16"), (0x215a, "56"), (0x215b, "18"), (0x215c, "38"),
  (0x215d, "58"), (0x215e, "78"), (0x2161, "II"), (0x2162, "III"), (0x2163, "IV"), (0x2165,
  "VI"), (0x2166, "VII"), (0x2167, "VIII"), (0x2168, "IX"), (0x216a, "XI"), (0x216b, "XII"),
  (0x2171, "ii"), (0x2172, "iii"), (0x2173, "iv"), (0x2175, "vi"), (0x2176, "vii"), (0x2177,
  "viii"), (0x2178, "ix"), (0x217a, "xi"), (0x217b, "xii"), (0x2189, "03"), (0x2469, "10"),
  (0x246a, "11"), (0x246b, "12"), (0x246c, "13"), (0x246d, "14"), (0x246e, "15"), (0x246f,
  "16"), (0x2470, "17"), (0x2471, "18"), (0x2472, "19"), (0x2473, "20"), (0x2474, "(1)"),
  (0x2475, "(2)"), (0x2476, "(3)"), (0x2477, "(4)"), (0x2478, "(5)"), (0x2479, "(6)"), (0x247a,
  "(7)"), (0x247b, "(8)"), (0x247c, "(9)"), (0x247d, "(10)"), (0x247e, "(11)"), (0x247f,
  "(12)"), (0x2480, "(13)"), (0x2481, "(14)"), (0x2482, "(15)"), (0x2483, "(16)"), (0x2484,
  "(17)"), (0x2485, "(18)"), (0x2486, "(19)"), (0x2487, "(20)"), (0x2488, "1."), (0x2489, "2."),
  (0x248a, "3."), (0x248b, "4."), (0x248c, "5."), (0x248d, "6."), (0x248e, "7."), (0x248f,
  "8."), (0x2490, "9."), (0x2491, "10."), (0x2492, "11."), (0x2493, "12."), (0x2494, "13."),
  (0x2495, "14."), (0x2496, "15."), (0x2497, "16."), (0x2498, "17."), (0x2499, "18."), (0x249a,
  "19."), (0x249b, "20."), (0x249c, "(a)"), (0x249d, "(b)"), (0x249e, "(c)"), (0x249f, "(d)"),
  (0x24a0, "(e)"), (0x24a1, "(f)"), (0x24a2, "(g)"), (0x24a3, "(h)"), (0x24a4, "(i)"), (0x24a5,
  "(j)"), (0x24a6, "(k)"), (0x24a7, "(l)"), (0x24a8, "(m)"), (0x24a9, "(n)"), (0x24aa, "(o)"),
  (0x24ab, "(p)"), (0x24ac, "(q)"), (0x24ad, "(r)"), (0x24ae, "(s)"), (0x24af, "(t)"), (0x24b0,
  "(u)"), (0x24b1, "(v)"), (0x24b2, "(w)"), (0x24b3, "(x)"), (0x24b4, "(y)"), (0x24b5, "(z)"),
  (0x2a74, "::="), (0x2a75, "=="), (0x2a76, "==="), (0x3200, "()"), (0x3201, "()"), (0x3202,
  "()"), (0x3203, "()"), (0x3204, "()"), (0x3205, "()"), (0x3206, "()"), (0x3207, "()"),
  (0x3208, "()"), (0x3209, "()"), (0x320a, "()"), (0x320b, "()"), (0x320c, "()"), (0x320d,
  "()"), (0x320e, "()"), (0x320f, "()"), (0x3210, "()"), (0x3211, "()"), (0x3212, "()"),
  (0x3213, "()"), (0x3214, "()"), (0x3215, "()"), (0x3216, "()"), (0x3217, "()"), (0x3218,
  "()"), (0x3219, "()"), (0x321a, "()"), (0x321b, "()"), (0x321c, "()"), (0x321d, "()"),
  (0x321e, "()"), (0x3220, "()"), (0x3221, "()"), (0x3222, "()"), (0x3223, "()"), (0x3224,
  "()"), (0x3225, "()"), (0x3226, "()"), (0x3227, "()"), (0x3228, "()"), (0x3229, "()"),
  (0x322a, "()"), (0x322b, "()"), (0x322c, "()"), (0x322d, "()"), (0x322e, "()"), (0x322f,
  "()"), (0x3230, "()"), (0x3231, "()"), (0x3232, "()"), (0x3233, "()"), (0x3234, "()"),
  (0x3235, "()"), (0x3236, "()"), (0x3237, "()"), (0x3238, "()"), (0x3239, "()"), (0x323a,
  "()"), (0x323b, "()"), (0x323c, "()"), (0x323d, "()"), (0x323e, "()"), (0x323f, "()"),
  (0x3240, "()"), (0x3241, "()"), (0x3242, "()"), (0x3243, "()"), (0x3250, "PTE"), (0x3251,
  "21"), (0x3252, "22"), (0x3253, "23"), (0x3254, "24"), (0x3255, "25"), (0x3256, "26"),
  (0x3257, "27"), (0x3258, "28"), (0x3259, "29"), (0x325a, "30"), (0x325b, "31"), (0x325c,
  "32"), (0x325d, "33"), (0x325e, "34"), (0x325f, "35"), (0x32b1, "36"), (0x32b2, "37"),
  (0x32b3, "38"), (0x32b4, "39"), (0x32b5, "40"), (0x32b6, "41"), (0x32b7, "42"), (0x32b8,
  "43"), (0x32b9, "44"), (0x32ba, "45"), (0x32bb, "46"), (0x32bc, "47"), (0x32bd, "48"),
  (0x32be, "49"), (0x32bf, "50"), (0x32c9, "10"), (0x32ca, "11"), (0x32cb, "12"), (0x32cc,
  "Hg"), (0x32cd, "erg"), (0x32ce, "eV"), (0x32cf, "LTD"), (0x3362, "10"), (0x3363, "11"),
  (0x3364, "12"), (0x3365, "13"), (0x3366, "14"), (0x3367, "15"), (0x3368, "16"), (0x3369,
  "17"), (0x336a, "18"), (0x336b, "19"), (0x336c, "20"), (0x336d, "21"), (0x336e, "22"),
  (0x336f, "23"), (0x3370, "24"), (0x3371, "hPa"), (0x3372, "da"), (0x3373, "AU"), (0x3374,
  "bar"), (0x3375, "oV"), (0x3376, "pc"), (0x3377, "dm"), (0x3378, "dm2"), (0x3379, "dm3"),
  (0x337a, "IU"), (0x3380, "pA"), (0x3381, "nA"), (0x3383, "mA"), (0x3384, "kA"), (0x3385,
  "KB"), (0x3386, "MB"), (0x3387, "GB"), (0x3388, "cal"), (0x3389, "kcal"), (0x338a, "pF"),
  (0x338b, "nF"), (0x338e, "mg"), (0x338f, "kg"), (0x3390, "Hz"), (0x3391, "kHz"), (0x3392,
  "MHz"), (0x3393, "GHz"), (0x3394, "THz"), (0x3396, "ml"), (0x3397, "dl"), (0x3398, "kl"),
  (0x3399, "fm"), (0x339a, "nm"), (0x339c, "mm"), (0x339d, "cm"), (0x339e, "km"), (0x339f,
  "mm2"), (0x33a0, "cm2"), (0x33a1, "m2"), (0x33a2, "km2"), (0x33a3, "mm3"), (0x33a4, "cm3"),
  (0x33a5, "m3"), (0x33a6, "km3"), (0x33a7, "ms"), (0x33a8, "ms2"), (0x33a9, "Pa"), (0x33aa,
  "kPa"), (0x33ab, "MPa"), (0x33ac, "GPa"), (0x33ad, "rad"), (0x33ae, "rads"), (0x33af,
  "rads2"), (0x33b0, "ps"), (0x33b1, "ns"), (0x33b3, "ms"), (0x33b4, "pV"), (0x33b5, "nV"),
  (0x33b7, "mV"), (0x33b8, "kV"), (0x33b9, "MV"), (0x33ba, "pW"), (0x33bb, "nW"), (0x33bd,
  "mW"), (0x33be, "kW"), (0x33bf, "MW"), (0x33c2, "a.m."), (0x33c3, "Bq"), (0x33c4, "cc"),
  (0x33c5, "cd"), (0x33c6, "Ckg"), (0x33c7, "Co."), (0x33c8, "dB"), (0x33c9, "Gy"), (0x33ca,
  "ha"), (0x33cb, "HP"), (0x33cc, "in"), (0x33cd, "KK"), (0x33ce, "KM"), (0x33cf, "kt"),
  (0x33d0, "lm"), (0x33d1, "ln"), (0x33d2, "log"), (0x33d3, "lx"), (0x33d4, "mb"), (0x33d5,
  "mil"), (0x33d6, "mol"), (0x33d7, "PH"), (0x33d8, "p.m."), (0x33d9, "PPM"), (0x33da, "PR"),
  (0x33db, "sr"), (0x33dc, "Sv"), (0x33dd, "Wb"), (0x33de, "Vm"), (0x33df, "Am"), (0x33e9,
  "10"), (0x33ea, "11"), (0x33eb, "12"), (0x33ec, "13"), (0x33ed, "14"), (0x33ee, "15"),
  (0x33ef, "16"), (0x33f0, "17"), (0x33f1, "18"), (0x33f2, "19"), (0x33f3, "20"), (0x33f4,
  "21"), (0x33f5, "22"), (0x33f6, "23"), (0x33f7, "24"), (0x33f8, "25"), (0x33f9, "26"),
  (0x33fa, "27"), (0x33fb, "28"), (0x33fc, "29"), (0x33fd, "30"), (0x33fe, "31"), (0x33ff,
  "gal"), (0xfb00, "ff"), (0xfb01, "fi"), (0xfb02, "fl"), (0xfb03, "ffi"), (0xfb04, "ffl"),
  (0xfb05, "st"), (0xfb06, "st"), (0xfdfa, "   "), (0xfe19, "..."), (0xfe30, ".."), (0x1f100,
  "0."), (0x1f101, "0,"), (0x1f102, "1,"), (0x1f103, "2,"), (0x1f104, "3,"), (0x1f105, "4,"),
  (0x1f106, "5,"), (0x1f107, "6,"), (0x1f108, "7,"), (0x1f109, "8,"), (0x1f10a, "9,"), (0x1f110,
  "(A)"), (0x1f111, "(B)"), (0x1f112, "(C)"), (0x1f113, "(D)"), (0x1f114, "(E)"), (0x1f115,
  "(F)"), (0x1f116, "(G)"), (0x1f117, "(H)"), (0x1f118, "(I)"), (0x1f119, "(J)"), (0x1f11a,
  "(K)"), (0x1f11b, "(L)"), (0x1f11c, "(M)"), (0x1f11d, "(N)"), (0x1f11e, "(O)"), (0x1f11f,
  "(P)"), (0x1f120, "(Q)"), (0x1f121, "(R)"), (0x1f122, "(S)"), (0x1f123, "(T)"), (0x1f124,
  "(U)"), (0x1f125, "(V)"), (0x1f126, "(W)"), (0x1f127, "(X)"), (0x1f128, "(Y)"), (0x1f129,
  "(Z)"), (0x1f12d, "CD"), (0x1f12e, "WZ"), (0x1f14a, "HV"), (0x1f14b, "MV"), (0x1f14c, "SD"),
  (0x1f14d, "SS"), (0x1f14e, "PPV"), (0x1f14f, "WC"), (0x1f16a, "MC"), (0x1f16b, "MD"),
  (0x1f16c, "MR"), (0x1f190, "DJ")]

/-- The ASCII characters left of a character once it is taken apart into letters and marks. -/
def asciiFold (c : Char) : List Char :=
  let n := c.toNat
  if n < 128 then [c]
  else
    match foldRuns.find? fun r => r.1 ≤ n ∧ n ≤ r.2.1 ∧ (n - r.1) % r.2.2.1 = 0 with
    | some (first, _, distance, step, letter) =>
      [Char.ofNat (letter + (n - first) / distance * step)]
    | none => ((foldLists.find? fun r => r.1 = n).map (·.2.toList)).getD []

def isPlain (c : Char) : Bool :=
  c.isAlphanum || c = '_' || c = '.' || c = '-'

def words : List Char → List Char → List (List Char)
  | [], word => if word.isEmpty then [] else [word.reverse]
  | c :: cs, word =>
    if Text.isBlank c then
      if word.isEmpty then words cs [] else word.reverse :: words cs []
    else words cs (c :: word)

def trimMarks (cs : List Char) : List Char :=
  let mark := fun c : Char => c = '.' || c = '_'
  ((cs.dropWhile mark).reverse.dropWhile mark).reverse

/-- A plain name for a text: slashes part words like blanks do, words are joined by underscores,
and what is not plain is dropped. -/
def plainName (s : String) : String :=
  let folded := s.toList.flatMap asciiFold
  let parted := folded.map fun c => if c = '/' then ' ' else c
  let joined := ['_'].intercalate (words parted [])
  String.ofList (trimMarks (joined.filter isPlain))

end TraceScope.Reference
