import RuleSchema.Text.Composition
import RuleSchema.Text.LetterCase

/-!
# One form of the names of hosts

The same name may be typed in many ways: with capital letters, with wide letters, with one
character for several, with invisible characters in between.  Each character of a name is replaced
by what it means there, and the result is put into composed form.  Some characters mean nothing in
a name.

* `Mapping.image?` is what a character means.
* `Mapping.apply` gives the one form of a text, or the first character that has no meaning.
-/

namespace RuleSchema.Mapping

open Text (Run)

/-- What characters mean.  The members of a run with one image have images in a run, and those of
a run with several images have all of them. -/
def imageTable : List String :=
  ["a0 0 20,8 0 20 308,2 0 61,5 0 20 304,3 1 32,1 0 20 301,1 0 3bc,3 0 20 327,1 0 31,1 0 6f",
   "2 0 31 2044 34,1 0 31 2044 32,1 0 33 2044 34,72 0 69 307,2 1 69 6a,c 1 6c b7,9 0 2bc 6e",
   "36 0 73,45 2 64 17e,1 2 6c 6a,1 2 6e 6a,25 2 64 7a,bd 0 68,1 0 266,1 0 6a,1 0 72,1 0 279",
   "1 0 27b,1 0 281,1 0 77,1 0 79,20 0 20 306,1 0 20 307,1 0 20 30a,1 0 20 328,1 0 20 303",
   "1 0 20 30b,3 0 263,1 0 6c,1 0 73,1 0 78,1 0 295,61 0 3b9,35 0 20 3b9,a 0 20 301",
   "1 0 20 308 301,4b 0 3b2,1 0 3b8,1 0 3c5,1 0 3cd,1 0 3cb,1 0 3c6,1 0 3c0,1a 0 3ba,1 0 3c1",
   "1 0 3c3,3 0 3b5,4 0 3c3,18e 0 565 582,ee 0 627 674,1 0 648 674,1 0 6c7 674,1 0 64a 674",
   "7bb 0 e4d e32,80 0 ecd eb2,29 0 eab e99,1 0 eab ea1,2f 0 f0b,6b 0 fb2 f71 f80",
   "2 0 fb3 f71 f80,183 0 10dc,2a4 55 13a0,3 5 13f0,883 0 432,1 0 434,1 0 43e,1 1 441,1 0 442",
   "1 0 44a,1 0 463,1 0 a64b,1 0 1c8a,a3 0 61,1 0 e6,1 0 62,2 1 64,1 0 1dd,1 7 67,2 0 6f,1 0 223",
   "1 0 70,1 0 72,1 1 74,1 0 77,1 0 61,1 1 250,1 0 1d02,1 0 62,1 1 64,1 0 259,1 1 25b,1 0 67",
   "2 0 6b,1 0 6d,1 0 14b,1 0 6f,1 0 254,1 1 1d16,1 0 70,1 1 74,1 0 1d1d,1 0 26f,1 0 76,1 0 1d25",
   "1 2 3b2,1 1 3c6,1 0 69,1 0 72,1 1 75,1 1 3b2,1 0 3c1,1 1 3c6,e 0 43d,23 0 252,1 0 63,1 0 255",
   "1 0 f0,1 0 25c,1 0 66,1 0 25f,1 0 261,1 0 265,1 2 268,1 0 1d7b,1 0 29d,1 0 26d,1 0 1d85",
   "1 0 29f,1 0 271,1 0 270,1 3 272,1 0 278,1 1 282,1 0 1ab,1 1 289,1 0 1d1c,1 1 28b,1 0 7a",
   "1 2 290,1 0 3b8,db 0 61 2be,1 0 1e61,e5 0 1f00 3b9,1 0 1f01 3b9,1 0 1f02 3b9,1 0 1f03 3b9",
   "1 0 1f04 3b9,1 0 1f05 3b9,1 0 1f06 3b9,1 0 1f07 3b9,1 0 1f00 3b9,1 0 1f01 3b9,1 0 1f02 3b9",
   "1 0 1f03 3b9,1 0 1f04 3b9,1 0 1f05 3b9,1 0 1f06 3b9,1 0 1f07 3b9,1 0 1f20 3b9,1 0 1f21 3b9",
   "1 0 1f22 3b9,1 0 1f23 3b9,1 0 1f24 3b9,1 0 1f25 3b9,1 0 1f26 3b9,1 0 1f27 3b9,1 0 1f20 3b9",
   "1 0 1f21 3b9,1 0 1f22 3b9,1 0 1f23 3b9,1 0 1f24 3b9,1 0 1f25 3b9,1 0 1f26 3b9,1 0 1f27 3b9",
   "1 0 1f60 3b9,1 0 1f61 3b9,1 0 1f62 3b9,1 0 1f63 3b9,1 0 1f64 3b9,1 0 1f65 3b9,1 0 1f66 3b9",
   "1 0 1f67 3b9,1 0 1f60 3b9,1 0 1f61 3b9,1 0 1f62 3b9,1 0 1f63 3b9,1 0 1f64 3b9,1 0 1f65 3b9",
   "1 0 1f66 3b9,1 0 1f67 3b9,3 0 1f70 3b9,1 0 3b1 3b9,1 0 3ac 3b9,3 0 1fb6 3b9,5 0 3b1 3b9",
   "1 0 20 313,2 0 20 313,1 0 20 342,1 0 20 308 342,1 0 1f74 3b9,1 0 3b7 3b9,1 0 3ae 3b9",
   "3 0 1fc6 3b9,5 0 3b7 3b9,1 0 20 313 300,1 0 20 313 301,1 0 20 313 342,e 0 20 314 300",
   "1 0 20 314 301,1 0 20 314 342,e 0 20 308 300,1 0 20 308 301,4 0 1f7c 3b9,1 0 3c9 3b9",
   "1 0 3ce 3b9,3 0 1ff6 3b9,5 0 3c9 3b9,1 0 20 301,1 0 20 314,2 0 20,1 0 20,1 0 20,1 0 20",
   "1 0 20,1 0 20,1 0 20,1 0 20,1 0 20,1 0 20,1 0 20,7 0 2010,6 0 20 333,18 0 20,4 0 2032 2032",
   "1 0 2032 2032 2032,2 0 2035 2035,1 0 2035 2035 2035,5 0 21 21,2 0 20 305,9 0 3f 3f,1 0 3f 21",
   "1 0 21 3f,e 0 2032 2032 2032 2032,8 0 20,11 0 30,1 0 69,3 5 34,1 0 2b,1 0 2212,1 0 3d,1 1 28",
   "1 0 6e,1 9 30,1 0 2b,1 0 2212,1 0 3d,1 1 28,2 0 61,1 0 65,1 0 6f,1 0 78,1 0 259,1 0 68",
   "1 3 6b,1 0 70,1 1 73,c 0 72 73,58 0 61 2f 63,1 0 61 2f 73,1 0 63,1 0 b0 63,2 0 63 2f 6f",
   "1 0 63 2f 75,1 0 25b,2 0 b0 66,1 1 67,1 0 68,1 0 68,1 0 68,1 0 127,1 0 69,1 0 69,1 0 6c",
   "1 0 6c,2 0 6e,1 0 6e 6f,3 2 70,1 0 72,1 0 72,3 0 73 6d,1 0 74 65 6c,1 0 74 6d,2 0 7a,4 0 7a",
   "4 1 62,2 0 65,1 1 65,2 0 6d,1 0 6f,1 3 5d0,1 0 69,2 0 66 61 78,1 0 3c0,1 0 3b3,1 0 3b3",
   "1 0 3c0,1 0 2211,5 0 64,1 1 64,1 1 69,7 0 31 2044 37,1 0 31 2044 39,1 0 31 2044 31 30",
   "1 0 31 2044 33,1 0 32 2044 33,1 0 31 2044 35,1 0 32 2044 35,1 0 33 2044 35,1 0 34 2044 35",
   "1 0 31 2044 36,1 0 35 2044 36,1 0 31 2044 38,1 0 33 2044 38,1 0 35 2044 38,1 0 37 2044 38",
   "1 0 31 2044,1 0 69,1 0 69 69,1 0 69 69 69,1 0 69 76,1 0 76,1 0 76 69,1 0 76 69 69",
   "1 0 76 69 69 69,1 0 69 78,1 0 78,1 0 78 69,1 0 78 69 69,1 0 6c,1 1 63,1 0 6d,1 0 69",
   "1 0 69 69,1 0 69 69 69,1 0 69 76,1 0 76,1 0 76 69,1 0 76 69 69,1 0 76 69 69 69,1 0 69 78",
   "1 0 78,1 0 78 69,1 0 78 69 69,1 0 6c,1 1 63,1 0 6d,a 0 30 2044 33,a3 0 222b 222b",
   "1 0 222b 222b 222b,2 0 222e 222e,1 0 222e 222e 222e,230 8 31,1 0 31 30,1 0 31 31,1 0 31 32",
   "1 0 31 33,1 0 31 34,1 0 31 35,1 0 31 36,1 0 31 37,1 0 31 38,1 0 31 39,1 0 32 30,1 0 28 31 29",
   "1 0 28 32 29,1 0 28 33 29,1 0 28 34 29,1 0 28 35 29,1 0 28 36 29,1 0 28 37 29,1 0 28 38 29",
   "1 0 28 39 29,1 0 28 31 30 29,1 0 28 31 31 29,1 0 28 31 32 29,1 0 28 31 33 29,1 0 28 31 34 29",
   "1 0 28 31 35 29,1 0 28 31 36 29,1 0 28 31 37 29,1 0 28 31 38 29,1 0 28 31 39 29",
   "1 0 28 32 30 29,15 0 28 61 29,1 0 28 62 29,1 0 28 63 29,1 0 28 64 29,1 0 28 65 29",
   "1 0 28 66 29,1 0 28 67 29,1 0 28 68 29,1 0 28 69 29,1 0 28 6a 29,1 0 28 6b 29,1 0 28 6c 29",
   "1 0 28 6d 29,1 0 28 6e 29,1 0 28 6f 29,1 0 28 70 29,1 0 28 71 29,1 0 28 72 29,1 0 28 73 29",
   "1 0 28 74 29,1 0 28 75 29,1 0 28 76 29,1 0 28 77 29,1 0 28 78 29,1 0 28 79 29,1 0 28 7a 29",
   "1 19 61,1 19 61,1 0 30,522 0 222b 222b 222b 222b,68 0 3a 3a 3d,1 0 3d 3d,1 0 3d 3d 3d",
   "206 0 6a,1 0 76,f2 0 2d61,130 0 6bcd,54 0 9f9f,d 0 4e00,1 0 4e28,1 0 4e36,1 0 4e3f,1 0 4e59",
   "1 0 4e85,1 0 4e8c,1 0 4ea0,1 0 4eba,1 0 513f,1 0 5165,1 0 516b,1 0 5182,1 0 5196,1 0 51ab",
   "1 0 51e0,1 0 51f5,1 0 5200,1 0 529b,1 0 52f9,1 0 5315,1 0 531a,1 0 5338,1 0 5341,1 0 535c",
   "1 0 5369,1 0 5382,1 0 53b6,1 0 53c8,1 0 53e3,1 0 56d7,1 0 571f,1 0 58eb,1 0 5902,1 0 590a",
   "1 0 5915,1 0 5927,1 0 5973,1 0 5b50,1 0 5b80,1 0 5bf8,1 0 5c0f,1 0 5c22,1 0 5c38,1 0 5c6e",
   "1 0 5c71,1 0 5ddb,1 0 5de5,1 0 5df1,1 0 5dfe,1 0 5e72,1 0 5e7a,1 0 5e7f,1 0 5ef4,1 0 5efe",
   "1 0 5f0b,1 0 5f13,1 0 5f50,1 0 5f61,1 0 5f73,1 0 5fc3,1 0 6208,1 0 6236,1 0 624b,1 0 652f",
   "1 0 6534,1 0 6587,1 0 6597,1 0 65a4,1 0 65b9,1 0 65e0,1 0 65e5,1 0 66f0,1 0 6708,1 0 6728",
   "1 0 6b20,1 0 6b62,1 0 6b79,1 0 6bb3,1 0 6bcb,1 0 6bd4,1 0 6bdb,1 0 6c0f,1 0 6c14,1 0 6c34",
   "1 0 706b,1 0 722a,1 0 7236,1 0 723b,1 0 723f,1 0 7247,1 0 7259,1 0 725b,1 0 72ac,1 0 7384",
   "1 0 7389,1 0 74dc,1 0 74e6,1 0 7518,1 0 751f,1 0 7528,1 0 7530,1 0 758b,1 0 7592,1 0 7676",
   "1 0 767d,1 0 76ae,1 0 76bf,1 0 76ee,1 0 77db,1 0 77e2,1 0 77f3,1 0 793a,1 0 79b8,1 0 79be",
   "1 0 7a74,1 0 7acb,1 0 7af9,1 0 7c73,1 0 7cf8,1 0 7f36,1 0 7f51,1 0 7f8a,1 0 7fbd,1 0 8001",
   "1 0 800c,1 0 8012,1 0 8033,1 0 807f,1 0 8089,1 0 81e3,1 0 81ea,1 0 81f3,1 0 81fc,1 0 820c",
   "1 0 821b,1 0 821f,1 0 826e,1 0 8272,1 0 8278,1 0 864d,1 0 866b,1 0 8840,1 0 884c,1 0 8863",
   "1 0 897e,1 0 898b,1 0 89d2,1 0 8a00,1 0 8c37,1 0 8c46,1 0 8c55,1 0 8c78,1 0 8c9d,1 0 8d64",
   "1 0 8d70,1 0 8db3,1 0 8eab,1 0 8eca,1 0 8f9b,1 0 8fb0,1 0 8fb5,1 0 9091,1 0 9149,1 0 91c6",
   "1 0 91cc,1 0 91d1,1 0 9577,1 0 9580,1 0 961c,1 0 96b6,1 0 96b9,1 0 96e8,1 0 9751,1 0 975e",
   "1 0 9762,1 0 9769,1 0 97cb,1 0 97ed,1 0 97f3,1 0 9801,1 0 98a8,1 0 98db,1 0 98df,1 0 9996",
   "1 0 9999,1 0 99ac,1 0 9aa8,1 0 9ad8,1 0 9adf,1 0 9b25,1 0 9b2f,1 0 9b32,1 0 9b3c,1 0 9b5a",
   "1 0 9ce5,1 0 9e75,1 0 9e7f,1 0 9ea5,1 0 9ebb,1 0 9ec3,1 0 9ecd,1 0 9ed1,1 0 9ef9,1 0 9efd",
   "1 0 9f0e,1 0 9f13,1 0 9f20,1 0 9f3b,1 0 9f4a,1 0 9f52,1 0 9f8d,1 0 9f9c,1 0 9fa0,2b 0 20",
   "2 0 2e,34 0 3012,2 0 5341,1 1 5344,61 0 20 3099,1 0 20 309a,3 0 3088 308a,60 0 30b3 30c8",
   "32 1 1100,1 0 11aa,1 0 1102,1 1 11ac,1 2 1103,1 5 11b0,1 0 111a,1 2 1106,1 0 1121,1 9 1109",
   "1 14 1161,2 1 1114,1 1 11c7,1 0 11cc,1 0 11ce,1 0 11d3,1 0 11d7,1 0 11d9,1 0 111c,1 0 11dd",
   "1 0 11df,1 1 111d,1 0 1120,1 1 1122,1 0 1127,1 0 1129,1 4 112b,1 0 1132,1 0 1136,1 0 1140",
   "1 0 1147,1 0 114c,1 1 11f1,1 2 1157,1 1 1184,1 0 1188,1 1 1191,1 0 1194,1 0 119e,1 0 11a1",
   "4 0 4e00,1 0 4e8c,1 0 4e09,1 0 56db,1 0 4e0a,1 0 4e2d,1 0 4e0b,1 0 7532,1 0 4e59,1 0 4e19",
   "1 0 4e01,1 0 5929,1 0 5730,1 0 4eba,61 0 28 1100 29,1 0 28 1102 29,1 0 28 1103 29",
   "1 0 28 1105 29,1 0 28 1106 29,1 0 28 1107 29,1 0 28 1109 29,1 0 28 110b 29,1 0 28 110c 29",
   "1 0 28 110e 29,1 0 28 110f 29,1 0 28 1110 29,1 0 28 1111 29,1 0 28 1112 29,1 0 28 ac00 29",
   "1 0 28 b098 29,1 0 28 b2e4 29,1 0 28 b77c 29,1 0 28 b9c8 29,1 0 28 bc14 29,1 0 28 c0ac 29",
   "1 0 28 c544 29,1 0 28 c790 29,1 0 28 cc28 29,1 0 28 ce74 29,1 0 28 d0c0 29,1 0 28 d30c 29",
   "1 0 28 d558 29,1 0 28 c8fc 29,1 0 28 c624 c804 29,1 0 28 c624 d6c4 29,2 0 28 4e00 29",
   "1 0 28 4e8c 29,1 0 28 4e09 29,1 0 28 56db 29,1 0 28 4e94 29,1 0 28 516d 29,1 0 28 4e03 29",
   "1 0 28 516b 29,1 0 28 4e5d 29,1 0 28 5341 29,1 0 28 6708 29,1 0 28 706b 29,1 0 28 6c34 29",
   "1 0 28 6728 29,1 0 28 91d1 29,1 0 28 571f 29,1 0 28 65e5 29,1 0 28 682a 29,1 0 28 6709 29",
   "1 0 28 793e 29,1 0 28 540d 29,1 0 28 7279 29,1 0 28 8ca1 29,1 0 28 795d 29,1 0 28 52b4 29",
   "1 0 28 4ee3 29,1 0 28 547c 29,1 0 28 5b66 29,1 0 28 76e3 29,1 0 28 4f01 29,1 0 28 8cc7 29",
   "1 0 28 5354 29,1 0 28 796d 29,1 0 28 4f11 29,1 0 28 81ea 29,1 0 28 81f3 29,1 0 554f,1 0 5e7c",
   "1 0 6587,1 0 7b8f,9 0 70 74 65,1 0 32 31,1 0 32 32,1 0 32 33,1 0 32 34,1 0 32 35,1 0 32 36",
   "1 0 32 37,1 0 32 38,1 0 32 39,1 0 33 30,1 0 33 31,1 0 33 32,1 0 33 33,1 0 33 34,1 0 33 35",
   "1 0 1100,1 1 1102,1 2 1105,1 0 1109,1 1 110b,1 4 110e,1 0 ac00,1 0 b098,1 0 b2e4,1 0 b77c",
   "1 0 b9c8,1 0 bc14,1 0 c0ac,1 0 c544,1 0 c790,1 0 cc28,1 0 ce74,1 0 d0c0,1 0 d30c,1 0 d558",
   "1 0 cc38 ace0,1 0 c8fc c758,1 0 c6b0,2 0 4e00,1 0 4e8c,1 0 4e09,1 0 56db,1 0 4e94,1 0 516d",
   "1 0 4e03,1 0 516b,1 0 4e5d,1 0 5341,1 0 6708,1 0 706b,1 0 6c34,1 0 6728,1 0 91d1,1 0 571f",
   "1 0 65e5,1 0 682a,1 0 6709,1 0 793e,1 0 540d,1 0 7279,1 0 8ca1,1 0 795d,1 0 52b4,1 0 79d8",
   "1 0 7537,1 0 5973,1 0 9069,1 0 512a,1 0 5370,1 0 6ce8,1 0 9805,1 0 4f11,1 0 5199,1 0 6b63",
   "1 0 4e0a,1 0 4e2d,1 0 4e0b,1 0 5de6,1 0 53f3,1 0 533b,1 0 5b97,1 0 5b66,1 0 76e3,1 0 4f01",
   "1 0 8cc7,1 0 5354,1 0 591c,1 0 33 36,1 0 33 37,1 0 33 38,1 0 33 39,1 0 34 30,1 0 34 31",
   "1 0 34 32,1 0 34 33,1 0 34 34,1 0 34 35,1 0 34 36,1 0 34 37,1 0 34 38,1 0 34 39,1 0 35 30",
   "1 0 31 6708,1 0 32 6708,1 0 33 6708,1 0 34 6708,1 0 35 6708,1 0 36 6708,1 0 37 6708",
   "1 0 38 6708,1 0 39 6708,1 0 31 30 6708,1 0 31 31 6708,1 0 31 32 6708,1 0 68 67,1 0 65 72 67",
   "1 0 65 76,1 0 6c 74 64,1 0 30a2,1 0 30a4,1 0 30a6,1 0 30a8,1 1 30aa,1 0 30ad,1 0 30af",
   "1 0 30b1,1 0 30b3,1 0 30b5,1 0 30b7,1 0 30b9,1 0 30bb,1 0 30bd,1 0 30bf,1 0 30c1,1 0 30c4",
   "1 0 30c6,1 0 30c8,1 5 30ca,1 0 30d2,1 0 30d5,1 0 30d8,1 0 30db,1 4 30de,1 0 30e4,1 0 30e6",
   "1 5 30e8,1 3 30ef,1 0 4ee4 548c,1 0 30a2 30d1 30fc 30c8,1 0 30a2 30eb 30d5 30a1",
   "1 0 30a2 30f3 30da 30a2,1 0 30a2 30fc 30eb,1 0 30a4 30cb 30f3 30b0,1 0 30a4 30f3 30c1",
   "1 0 30a6 30a9 30f3,1 0 30a8 30b9 30af 30fc 30c9,1 0 30a8 30fc 30ab 30fc,1 0 30aa 30f3 30b9",
   "1 0 30aa 30fc 30e0,1 0 30ab 30a4 30ea,1 0 30ab 30e9 30c3 30c8,1 0 30ab 30ed 30ea 30fc",
   "1 0 30ac 30ed 30f3,1 0 30ac 30f3 30de,1 0 30ae 30ac,1 0 30ae 30cb 30fc",
   "1 0 30ad 30e5 30ea 30fc,1 0 30ae 30eb 30c0 30fc,1 0 30ad 30ed,1 0 30ad 30ed 30b0 30e9 30e0",
   "1 0 30ad 30ed 30e1 30fc 30c8 30eb,1 0 30ad 30ed 30ef 30c3 30c8,1 0 30b0 30e9 30e0",
   "1 0 30b0 30e9 30e0 30c8 30f3,1 0 30af 30eb 30bc 30a4 30ed,1 0 30af 30ed 30fc 30cd",
   "1 0 30b1 30fc 30b9,1 0 30b3 30eb 30ca,1 0 30b3 30fc 30dd,1 0 30b5 30a4 30af 30eb",
   "1 0 30b5 30f3 30c1 30fc 30e0,1 0 30b7 30ea 30f3 30b0,1 0 30bb 30f3 30c1,1 0 30bb 30f3 30c8",
   "1 0 30c0 30fc 30b9,1 0 30c7 30b7,1 0 30c9 30eb,1 0 30c8 30f3,1 0 30ca 30ce",
   "1 0 30ce 30c3 30c8,1 0 30cf 30a4 30c4,1 0 30d1 30fc 30bb 30f3 30c8,1 0 30d1 30fc 30c4",
   "1 0 30d0 30fc 30ec 30eb,1 0 30d4 30a2 30b9 30c8 30eb,1 0 30d4 30af 30eb,1 0 30d4 30b3",
   "1 0 30d3 30eb,1 0 30d5 30a1 30e9 30c3 30c9,1 0 30d5 30a3 30fc 30c8",
   "1 0 30d6 30c3 30b7 30a7 30eb,1 0 30d5 30e9 30f3,1 0 30d8 30af 30bf 30fc 30eb,1 0 30da 30bd",
   "1 0 30da 30cb 30d2,1 0 30d8 30eb 30c4,1 0 30da 30f3 30b9,1 0 30da 30fc 30b8",
   "1 0 30d9 30fc 30bf,1 0 30dd 30a4 30f3 30c8,1 0 30dc 30eb 30c8,1 0 30db 30f3",
   "1 0 30dd 30f3 30c9,1 0 30db 30fc 30eb,1 0 30db 30fc 30f3,1 0 30de 30a4 30af 30ed",
   "1 0 30de 30a4 30eb,1 0 30de 30c3 30cf,1 0 30de 30eb 30af,1 0 30de 30f3 30b7 30e7 30f3",
   "1 0 30df 30af 30ed 30f3,1 0 30df 30ea,1 0 30df 30ea 30d0 30fc 30eb,1 0 30e1 30ac",
   "1 0 30e1 30ac 30c8 30f3,1 0 30e1 30fc 30c8 30eb,1 0 30e4 30fc 30c9,1 0 30e4 30fc 30eb",
   "1 0 30e6 30a2 30f3,1 0 30ea 30c3 30c8 30eb,1 0 30ea 30e9,1 0 30eb 30d4 30fc",
   "1 0 30eb 30fc 30d6 30eb,1 0 30ec 30e0,1 0 30ec 30f3 30c8 30b2 30f3,1 0 30ef 30c3 30c8",
   "1 0 30 70b9,1 0 31 70b9,1 0 32 70b9,1 0 33 70b9,1 0 34 70b9,1 0 35 70b9,1 0 36 70b9",
   "1 0 37 70b9,1 0 38 70b9,1 0 39 70b9,1 0 31 30 70b9,1 0 31 31 70b9,1 0 31 32 70b9",
   "1 0 31 33 70b9,1 0 31 34 70b9,1 0 31 35 70b9,1 0 31 36 70b9,1 0 31 37 70b9,1 0 31 38 70b9",
   "1 0 31 39 70b9,1 0 32 30 70b9,1 0 32 31 70b9,1 0 32 32 70b9,1 0 32 33 70b9,1 0 32 34 70b9",
   "1 0 68 70 61,1 0 64 61,1 0 61 75,1 0 62 61 72,1 0 6f 76,1 0 70 63,1 0 64 6d,1 0 64 6d 32",
   "1 0 64 6d 33,1 0 69 75,1 0 5e73 6210,1 0 662d 548c,1 0 5927 6b63,1 0 660e 6cbb",
   "1 0 682a 5f0f 4f1a 793e,1 0 70 61,1 0 6e 61,1 0 3bc 61,1 0 6d 61,1 0 6b 61,1 0 6b 62",
   "1 0 6d 62,1 0 67 62,1 0 63 61 6c,1 0 6b 63 61 6c,1 0 70 66,1 0 6e 66,1 0 3bc 66,1 0 3bc 67",
   "1 0 6d 67,1 0 6b 67,1 0 68 7a,1 0 6b 68 7a,1 0 6d 68 7a,1 0 67 68 7a,1 0 74 68 7a,1 0 3bc 6c",
   "1 0 6d 6c,1 0 64 6c,1 0 6b 6c,1 0 66 6d,1 0 6e 6d,1 0 3bc 6d,1 0 6d 6d,1 0 63 6d,1 0 6b 6d",
   "1 0 6d 6d 32,1 0 63 6d 32,1 0 6d 32,1 0 6b 6d 32,1 0 6d 6d 33,1 0 63 6d 33,1 0 6d 33",
   "1 0 6b 6d 33,1 0 6d 2215 73,1 0 6d 2215 73 32,1 0 70 61,1 0 6b 70 61,1 0 6d 70 61",
   "1 0 67 70 61,1 0 72 61 64,1 0 72 61 64 2215 73,1 0 72 61 64 2215 73 32,1 0 70 73,1 0 6e 73",
   "1 0 3bc 73,1 0 6d 73,1 0 70 76,1 0 6e 76,1 0 3bc 76,1 0 6d 76,1 0 6b 76,1 0 6d 76,1 0 70 77",
   "1 0 6e 77,1 0 3bc 77,1 0 6d 77,1 0 6b 77,1 0 6d 77,1 0 6b 3c9,1 0 6d 3c9,2 0 62 71,1 0 63 63",
   "1 0 63 64,1 0 63 2215 6b 67,2 0 64 62,1 0 67 79,1 0 68 61,1 0 68 70,1 0 69 6e,1 0 6b 6b",
   "1 0 6b 6d,1 0 6b 74,1 0 6c 6d,1 0 6c 6e,1 0 6c 6f 67,1 0 6c 78,1 0 6d 62,1 0 6d 69 6c",
   "1 0 6d 6f 6c,1 0 70 68,2 0 70 70 6d,1 0 70 72,1 0 73 72,1 0 73 76,1 0 77 62,1 0 76 2215 6d",
   "1 0 61 2215 6d,1 0 31 65e5,1 0 32 65e5,1 0 33 65e5,1 0 34 65e5,1 0 35 65e5,1 0 36 65e5",
   "1 0 37 65e5,1 0 38 65e5,1 0 39 65e5,1 0 31 30 65e5,1 0 31 31 65e5,1 0 31 32 65e5",
   "1 0 31 33 65e5,1 0 31 34 65e5,1 0 31 35 65e5,1 0 31 36 65e5,1 0 31 37 65e5,1 0 31 38 65e5",
   "1 0 31 39 65e5,1 0 32 30 65e5,1 0 32 31 65e5,1 0 32 32 65e5,1 0 32 33 65e5,1 0 32 34 65e5",
   "1 0 32 35 65e5,1 0 32 36 65e5,1 0 32 37 65e5,1 0 32 38 65e5,1 0 32 39 65e5,1 0 33 30 65e5",
   "1 0 33 31 65e5,1 0 67 61 6c,729d 0 44a,1 0 44c,d3 0 a76f,5b 0 264,1 0 a7cd,2 0 a7cf,4 0 a7d3",
   "2 0 a7d5,6 0 a7db,2 0 19b,15 0 73,1 0 63,1 0 66,1 0 71,4 0 127,1 0 153,363 0 a727,1 0 ab37",
   "1 0 26b,1 0 ab52,a 0 28d,7 4f 13a0,4f41 0 66 66,1 0 66 69,1 0 66 6c,1 0 66 66 69",
   "1 0 66 66 6c,1 1 73 74,d 0 574 576,1 0 574 565,1 0 574 56b,1 0 57e 576,1 0 574 56d,9 0 5e2",
   "1 0 5d0,1 1 5d3,1 2 5db,1 0 5e8,1 0 5ea,1 0 2b,26 0 5d0 5dc,1 0 671,1 0 671,1 0 67b,1 0 67b",
   "1 0 67b,1 0 67b,1 0 67e,1 0 67e,1 0 67e,1 0 67e,1 0 680,1 0 680,1 0 680,1 0 680,1 0 67a",
   "1 0 67a,1 0 67a,1 0 67a,1 0 67f,1 0 67f,1 0 67f,1 0 67f,1 0 679,1 0 679,1 0 679,1 0 679",
   "1 0 6a4,1 0 6a4,1 0 6a4,1 0 6a4,1 0 6a6,1 0 6a6,1 0 6a6,1 0 6a6,1 0 684,1 0 684,1 0 684",
   "1 0 684,1 0 683,1 0 683,1 0 683,1 0 683,1 0 686,1 0 686,1 0 686,1 1 686,1 0 687,1 0 687",
   "1 0 687,1 0 68d,1 0 68d,1 0 68c,1 0 68c,1 0 68e,1 0 68e,1 0 688,1 0 688,1 0 698,1 0 698",
   "1 0 691,1 0 691,1 0 6a9,1 0 6a9,1 0 6a9,1 0 6a9,1 0 6af,1 0 6af,1 0 6af,1 0 6af,1 0 6b3",
   "1 0 6b3,1 0 6b3,1 0 6b3,1 0 6b1,1 0 6b1,1 0 6b1,1 0 6b1,1 0 6ba,1 1 6ba,1 0 6bb,1 0 6bb",
   "1 0 6bb,1 0 6c0,1 1 6c0,1 0 6c1,1 0 6c1,1 0 6c1,1 0 6be,1 0 6be,1 0 6be,1 0 6be,1 0 6d2",
   "1 1 6d2,1 0 6d3,22 0 6ad,1 0 6ad,1 0 6ad,1 0 6ad,1 0 6c7,1 0 6c7,1 0 6c6,1 0 6c6,1 0 6c8",
   "1 0 6c8,1 0 6c7 674,1 0 6cb,1 0 6cb,1 0 6c5,1 0 6c5,1 0 6c9,1 0 6c9,1 0 6d0,1 0 6d0,1 0 6d0",
   "1 0 6d0,1 0 649,1 0 649,1 1 626 627,1 1 626 6d5,1 1 626 648,1 1 626 6c7,1 1 626 6c6",
   "1 1 626 6c8,1 2 626 6d0,1 2 626 649,1 0 6cc,1 0 6cc,1 0 6cc,1 0 6cc,1 0 626 62c,1 0 626 62d",
   "1 0 626 645,1 0 626 649,1 0 626 64a,1 0 628 62c,1 0 628 62d,1 0 628 62e,1 0 628 645",
   "1 0 628 649,1 0 628 64a,1 0 62a 62c,1 0 62a 62d,1 0 62a 62e,1 0 62a 645,1 0 62a 649",
   "1 0 62a 64a,1 0 62b 62c,1 0 62b 645,1 0 62b 649,1 0 62b 64a,1 0 62c 62d,1 0 62c 645",
   "1 0 62d 62c,1 0 62d 645,1 0 62e 62c,1 0 62e 62d,1 0 62e 645,1 0 633 62c,1 0 633 62d",
   "1 0 633 62e,1 0 633 645,1 0 635 62d,1 0 635 645,1 0 636 62c,1 0 636 62d,1 0 636 62e",
   "1 0 636 645,1 0 637 62d,1 0 637 645,1 0 638 645,1 0 639 62c,1 0 639 645,1 0 63a 62c",
   "1 0 63a 645,1 0 641 62c,1 0 641 62d,1 0 641 62e,1 0 641 645,1 0 641 649,1 0 641 64a",
   "1 0 642 62d,1 0 642 645,1 0 642 649,1 0 642 64a,1 0 643 627,1 0 643 62c,1 0 643 62d",
   "1 0 643 62e,1 0 643 644,1 0 643 645,1 0 643 649,1 0 643 64a,1 0 644 62c,1 0 644 62d",
   "1 0 644 62e,1 0 644 645,1 0 644 649,1 0 644 64a,1 0 645 62c,1 0 645 62d,1 0 645 62e",
   "1 0 645 645,1 0 645 649,1 0 645 64a,1 0 646 62c,1 0 646 62d,1 0 646 62e,1 0 646 645",
   "1 0 646 649,1 0 646 64a,1 0 647 62c,1 0 647 645,1 0 647 649,1 0 647 64a,1 0 64a 62c",
   "1 0 64a 62d,1 0 64a 62e,1 0 64a 645,1 0 64a 649,1 0 64a 64a,1 0 630 670,1 0 631 670",
   "1 0 649 670,1 0 20 64c 651,1 0 20 64d 651,1 0 20 64e 651,1 0 20 64f 651,1 0 20 650 651",
   "1 0 20 651 670,1 0 626 631,1 0 626 632,1 0 626 645,1 0 626 646,1 0 626 649,1 0 626 64a",
   "1 0 628 631,1 0 628 632,1 0 628 645,1 0 628 646,1 0 628 649,1 0 628 64a,1 0 62a 631",
   "1 0 62a 632,1 0 62a 645,1 0 62a 646,1 0 62a 649,1 0 62a 64a,1 0 62b 631,1 0 62b 632",
   "1 0 62b 645,1 0 62b 646,1 0 62b 649,1 0 62b 64a,1 0 641 649,1 0 641 64a,1 0 642 649",
   "1 0 642 64a,1 0 643 627,1 0 643 644,1 0 643 645,1 0 643 649,1 0 643 64a,1 0 644 645",
   "1 0 644 649,1 0 644 64a,1 0 645 627,1 0 645 645,1 0 646 631,1 0 646 632,1 0 646 645",
   "1 0 646 646,1 0 646 649,1 0 646 64a,1 0 649 670,1 0 64a 631,1 0 64a 632,1 0 64a 645",
   "1 0 64a 646,1 0 64a 649,1 0 64a 64a,1 0 626 62c,1 0 626 62d,1 0 626 62e,1 0 626 645",
   "1 0 626 647,1 0 628 62c,1 0 628 62d,1 0 628 62e,1 0 628 645,1 0 628 647,1 0 62a 62c",
   "1 0 62a 62d,1 0 62a 62e,1 0 62a 645,1 0 62a 647,1 0 62b 645,1 0 62c 62d,1 0 62c 645",
   "1 0 62d 62c,1 0 62d 645,1 0 62e 62c,1 0 62e 645,1 0 633 62c,1 0 633 62d,1 0 633 62e",
   "1 0 633 645,1 0 635 62d,1 0 635 62e,1 0 635 645,1 0 636 62c,1 0 636 62d,1 0 636 62e",
   "1 0 636 645,1 0 637 62d,1 0 638 645,1 0 639 62c,1 0 639 645,1 0 63a 62c,1 0 63a 645",
   "1 0 641 62c,1 0 641 62d,1 0 641 62e,1 0 641 645,1 0 642 62d,1 0 642 645,1 0 643 62c",
   "1 0 643 62d,1 0 643 62e,1 0 643 644,1 0 643 645,1 0 644 62c,1 0 644 62d,1 0 644 62e",
   "1 0 644 645,1 0 644 647,1 0 645 62c,1 0 645 62d,1 0 645 62e,1 0 645 645,1 0 646 62c",
   "1 0 646 62d,1 0 646 62e,1 0 646 645,1 0 646 647,1 0 647 62c,1 0 647 645,1 0 647 670",
   "1 0 64a 62c,1 0 64a 62d,1 0 64a 62e,1 0 64a 645,1 0 64a 647,1 0 626 645,1 0 626 647",
   "1 0 628 645,1 0 628 647,1 0 62a 645,1 0 62a 647,1 0 62b 645,1 0 62b 647,1 0 633 645",
   "1 0 633 647,1 0 634 645,1 0 634 647,1 0 643 644,1 0 643 645,1 0 644 645,1 0 646 645",
   "1 0 646 647,1 0 64a 645,1 0 64a 647,1 0 640 64e 651,1 0 640 64f 651,1 0 640 650 651",
   "1 0 637 649,1 0 637 64a,1 0 639 649,1 0 639 64a,1 0 63a 649,1 0 63a 64a,1 0 633 649",
   "1 0 633 64a,1 0 634 649,1 0 634 64a,1 0 62d 649,1 0 62d 64a,1 0 62c 649,1 0 62c 64a",
   "1 0 62e 649,1 0 62e 64a,1 0 635 649,1 0 635 64a,1 0 636 649,1 0 636 64a,1 0 634 62c",
   "1 0 634 62d,1 0 634 62e,1 0 634 645,1 0 634 631,1 0 633 631,1 0 635 631,1 0 636 631",
   "1 0 637 649,1 0 637 64a,1 0 639 649,1 0 639 64a,1 0 63a 649,1 0 63a 64a,1 0 633 649",
   "1 0 633 64a,1 0 634 649,1 0 634 64a,1 0 62d 649,1 0 62d 64a,1 0 62c 649,1 0 62c 64a",
   "1 0 62e 649,1 0 62e 64a,1 0 635 649,1 0 635 64a,1 0 636 649,1 0 636 64a,1 0 634 62c",
   "1 0 634 62d,1 0 634 62e,1 0 634 645,1 0 634 631,1 0 633 631,1 0 635 631,1 0 636 631",
   "1 0 634 62c,1 0 634 62d,1 0 634 62e,1 0 634 645,1 0 633 647,1 0 634 647,1 0 637 645",
   "1 0 633 62c,1 0 633 62d,1 0 633 62e,1 0 634 62c,1 0 634 62d,1 0 634 62e,1 0 637 645",
   "1 0 638 645,1 1 627 64b,13 0 62a 62c 645,1 1 62a 62d 62c,1 0 62a 62d 645,1 0 62a 62e 645",
   "1 0 62a 645 62c,1 0 62a 645 62d,1 0 62a 645 62e,1 1 62c 645 62d,1 0 62d 645 64a",
   "1 0 62d 645 649,1 0 633 62d 62c,1 0 633 62c 62d,1 0 633 62c 649,1 1 633 645 62d",
   "1 0 633 645 62c,1 1 633 645 645,1 1 635 62d 62d,1 0 635 645 645,1 1 634 62d 645",
   "1 0 634 62c 64a,1 1 634 645 62e,1 1 634 645 645,1 0 636 62d 649,1 1 636 62e 645",
   "1 1 637 645 62d,1 0 637 645 645,1 0 637 645 64a,1 0 639 62c 645,1 1 639 645 645",
   "1 0 639 645 649,1 0 63a 645 645,1 0 63a 645 64a,1 0 63a 645 649,1 1 641 62e 645",
   "1 0 642 645 62d,1 0 642 645 645,1 0 644 62d 645,1 0 644 62d 64a,1 0 644 62d 649",
   "1 1 644 62c 62c,1 1 644 62e 645,1 1 644 645 62d,1 0 645 62d 62c,1 0 645 62d 645",
   "1 0 645 62d 64a,1 0 645 62c 62d,1 0 645 62c 645,1 0 645 62e 62c,1 0 645 62e 645",
   "3 0 645 62c 62e,1 0 647 645 62c,1 0 647 645 645,1 0 646 62d 645,1 0 646 62d 649",
   "1 1 646 62c 645,1 0 646 62c 649,1 0 646 645 64a,1 0 646 645 649,1 1 64a 645 645",
   "1 0 628 62e 64a,1 0 62a 62c 64a,1 0 62a 62c 649,1 0 62a 62e 64a,1 0 62a 62e 649",
   "1 0 62a 645 64a,1 0 62a 645 649,1 0 62c 645 64a,1 0 62c 62d 649,1 0 62c 645 649",
   "1 0 633 62e 649,1 0 635 62d 64a,1 0 634 62d 64a,1 0 636 62d 64a,1 0 644 62c 64a",
   "1 0 644 645 64a,1 0 64a 62d 64a,1 0 64a 62c 64a,1 0 64a 645 64a,1 0 645 645 64a",
   "1 0 642 645 64a,1 0 646 62d 64a,1 0 642 645 62d,1 0 644 62d 645,1 0 639 645 64a",
   "1 0 643 645 64a,1 0 646 62c 62d,1 0 645 62e 64a,1 0 644 62c 645,1 0 643 645 645",
   "1 0 644 62c 645,1 0 646 62c 62d,1 0 62c 62d 64a,1 0 62d 62c 64a,1 0 645 62c 64a",
   "1 0 641 645 64a,1 0 628 62d 64a,1 0 643 645 645,1 0 639 62c 645,1 0 635 645 645",
   "1 0 633 62e 64a,1 0 646 62c 64a,29 0 635 644 6d2,1 0 642 644 6d2,1 0 627 644 644 647",
   "1 0 627 643 628 631,1 0 645 62d 645 62f,1 0 635 644 639 645,1 0 631 633 648 644",
   "1 0 639 644 64a 647,1 0 648 633 644 645,1 0 635 644 649",
   "1 0 635 644 649 20 627 644 644 647 20 639 644 64a 647 20 648 633 644 645",
   "1 0 62c 644 20 62c 644 627 644 647,1 0 631 6cc 627 644,14 0 2c,1 0 3001,2 1 3a,1 0 21,1 0 3f",
   "1 1 3016,19 0 2014,1 0 2013,1 0 5f,1 0 5f,1 1 28,1 0 7b,1 0 7d,1 1 3014,1 1 3010,1 1 300a",
   "1 1 3008,1 3 300c,3 0 5b,1 0 5d,1 3 20 305,1 0 5f,1 0 5f,1 0 5f,1 0 2c,1 0 3001,3 0 3b",
   "1 0 3a,1 0 3f,1 0 21,1 0 2014,1 1 28,1 0 7b,1 0 7d,1 1 3014,1 0 23,1 0 26,1 1 2a,1 0 2d",
   "1 0 3c,1 0 3e,1 0 3d,2 0 5c,1 1 24,1 0 40,5 0 20 64b,1 0 640 64b,1 0 20 64c,2 0 20 64d",
   "2 0 20 64e,1 0 640 64e,1 0 20 64f,1 0 640 64f,1 0 20 650,1 0 640 650,1 0 20 651,1 0 640 651",
   "1 0 20 652,1 0 640 652,1 1 621,1 1 622,1 1 623,1 1 624,1 1 625,1 0 626,1 0 626,1 1 626",
   "1 1 627,1 0 628,1 0 628,1 1 628,1 1 629,1 0 62a,1 0 62a,1 1 62a,1 0 62b,1 0 62b,1 1 62b",
   "1 0 62c,1 0 62c,1 1 62c,1 0 62d,1 0 62d,1 1 62d,1 0 62e,1 0 62e,1 1 62e,1 1 62f,1 1 630",
   "1 1 631,1 1 632,1 0 633,1 0 633,1 1 633,1 0 634,1 0 634,1 1 634,1 0 635,1 0 635,1 1 635",
   "1 0 636,1 0 636,1 1 636,1 0 637,1 0 637,1 1 637,1 0 638,1 0 638,1 1 638,1 0 639,1 0 639",
   "1 1 639,1 0 63a,1 0 63a,1 0 63a,1 0 641,1 0 641,1 0 641,1 1 641,1 0 642,1 0 642,1 1 642",
   "1 0 643,1 0 643,1 1 643,1 0 644,1 0 644,1 1 644,1 0 645,1 0 645,1 1 645,1 0 646,1 0 646",
   "1 1 646,1 0 647,1 0 647,1 1 647,1 1 648,1 1 649,1 0 64a,1 0 64a,1 0 64a,1 1 644 622",
   "1 1 644 623,1 1 644 625,1 1 644 627,5 1f 21,1 19 61,1 23 5b,1 1 2985,1 0 2e,1 1 300c",
   "1 0 3001,1 0 30fb,1 0 30f2,1 0 30a1,1 0 30a3,1 0 30a5,1 0 30a7,1 0 30a9,1 0 30e3,1 0 30e5",
   "1 0 30e7,1 0 30c3,1 0 30fc,1 0 30a2,1 0 30a4,1 0 30a6,1 0 30a8,1 1 30aa,1 0 30ad,1 0 30af",
   "1 0 30b1,1 0 30b3,1 0 30b5,1 0 30b7,1 0 30b9,1 0 30bb,1 0 30bd,1 0 30bf,1 0 30c1,1 0 30c4",
   "1 0 30c6,1 0 30c8,1 5 30ca,1 0 30d2,1 0 30d5,1 0 30d8,1 0 30db,1 4 30de,1 0 30e4,1 0 30e6",
   "1 5 30e8,1 0 30ef,1 0 30f3,1 1 3099,2 1 1100,1 0 11aa,1 0 1102,1 1 11ac,1 2 1103,1 5 11b0",
   "1 0 111a,1 2 1106,1 0 1121,1 9 1109,4 5 1161,3 5 1167,3 5 116d,3 2 1173,4 1 a2,1 0 ac",
   "1 0 20 304,1 0 a6,1 0 a5,1 0 20a9,2 0 2502,1 3 2190,1 0 25a0,1 0 25cb,793 1 2d0,1 0 e6",
   "1 0 299,1 0 253,2 0 2a3,1 0 ab66,1 0 2a5,1 0 2a4,1 1 256,1 0 1d91,1 0 258,1 0 25e,1 0 2a9",
   "1 0 264,1 0 262,1 0 260,1 0 29b,1 0 127,1 0 29c,1 0 267,1 0 284,1 1 2aa,1 0 26c,1 0 1df04",
   "1 0 a78e,1 0 26e,1 0 1df05,1 0 28e,1 0 1df06,1 0 f8,1 1 276,1 0 71,1 0 27a,1 0 1df08,1 1 27d",
   "1 0 280,1 0 2a8,1 0 2a6,1 0 ab67,1 0 2a7,1 0 288,1 0 2c71,2 0 28f,1 1 2a1,1 0 298,1 2 1c0",
   "1 0 1df0a,1 0 1df1e,596 15 10d70,613b 18 16ebb,5e1e 19 61,1 9 30,707 19 61,1 19 61,1 19 61",
   "1 6 61,2 11 69,1 19 61,1 19 61,1 0 61,2 1 63,3 0 67,3 1 6a,3 3 6e,2 7 73,1 3 61,2 0 66",
   "2 6 68,2 a 70,1 19 61,1 19 61,1 1 61,2 3 64,3 7 6a,2 6 73,2 19 61,1 1 61,2 3 64,2 4 69",
   "2 0 6f,4 6 73,2 19 61,1 19 61,1 19 61,1 19 61,1 19 61,1 19 61,1 19 61,1 19 61,1 19 61",
   "1 19 61,1 19 61,1 19 61,1 19 61,1 0 131,1 0 237,3 10 3b1,1 0 3b8,1 6 3c3,1 0 2207,1 10 3b1",
   "1 0 3c3,1 6 3c3,1 0 2202,1 0 3b5,1 0 3b8,1 0 3ba,1 0 3c6,1 0 3c1,1 0 3c0,1 10 3b1,1 0 3b8",
   "1 6 3c3,1 0 2207,1 10 3b1,1 0 3c3,1 6 3c3,1 0 2202,1 0 3b5,1 0 3b8,1 0 3ba,1 0 3c6,1 0 3c1",
   "1 0 3c0,1 10 3b1,1 0 3b8,1 6 3c3,1 0 2207,1 10 3b1,1 0 3c3,1 6 3c3,1 0 2202,1 0 3b5,1 0 3b8",
   "1 0 3ba,1 0 3c6,1 0 3c1,1 0 3c0,1 10 3b1,1 0 3b8,1 6 3c3,1 0 2207,1 10 3b1,1 0 3c3,1 6 3c3",
   "1 0 2202,1 0 3b5,1 0 3b8,1 0 3ba,1 0 3c6,1 0 3c1,1 0 3c0,1 10 3b1,1 0 3b8,1 6 3c3,1 0 2207",
   "1 10 3b1,1 0 3c3,1 6 3c3,1 0 2202,1 0 3b5,1 0 3b8,1 0 3ba,1 0 3c6,1 0 3c1,1 0 3c0,1 0 3dd",
   "1 0 3dd,3 9 30,1 9 30,1 9 30,1 9 30,1 9 30,831 8 430,1 2 43a,1 a 43e,1 0 44b,1 1 44d",
   "1 0 a689,1 0 4d9,1 0 456,1 0 458,1 0 4e9,1 0 4af,1 0 4cf,1 8 430,1 1 43a,1 1 43e,1 0 441",
   "1 5 443,1 1 44a,1 0 491,1 0 456,1 0 455,1 0 45f,1 0 4ab,1 0 a651,1 0 4b1,d93 1 627,1 0 62c",
   "1 0 62f,2 0 648,1 0 632,1 0 62d,1 0 637,1 0 64a,1 3 643,1 0 633,1 0 639,1 0 641,1 0 635",
   "1 0 642,1 0 631,1 0 634,1 1 62a,1 0 62e,1 0 630,1 0 636,1 0 638,1 0 63a,1 0 66e,1 0 6ba",
   "1 0 6a1,1 0 66f,2 0 628,1 0 62c,2 0 647,3 0 62d,2 0 64a,1 3 643,1 0 633,1 0 639,1 0 641",
   "1 0 635,1 0 642,2 0 634,1 1 62a,1 0 62e,2 0 636,2 0 63a,7 0 62c,5 0 62d,2 0 64a,2 0 644",
   "2 0 646,1 0 633,1 0 639,2 0 635,1 0 642,2 0 634,3 0 62e,2 0 636,2 0 63a,2 0 6ba,2 0 66f",
   "2 0 628,1 0 62c,2 0 647,3 0 62d,1 0 637,1 0 64a,1 0 643,2 1 645,1 0 633,1 0 639,1 0 641",
   "1 0 635,1 0 642,2 0 634,1 1 62a,1 0 62e,2 0 636,1 0 638,1 0 63a,1 0 66e,2 0 6a1,2 1 627",
   "1 0 62c,1 0 62f,1 1 647,1 0 632,1 0 62d,1 0 637,1 0 64a,2 2 644,1 0 633,1 0 639,1 0 641",
   "1 0 635,1 0 642,1 0 631,1 0 634,1 1 62a,1 0 62e,1 0 630,1 0 636,1 0 638,1 0 63a,6 0 628",
   "1 0 62c,1 0 62f,2 0 648,1 0 632,1 0 62d,1 0 637,1 0 64a,2 2 644,1 0 633,1 0 639,1 0 641",
   "1 0 635,1 0 642,1 0 631,1 0 634,1 1 62a,1 0 62e,1 0 630,1 0 636,1 0 638,1 0 63a,246 0 30 2c",
   "1 0 31 2c,1 0 32 2c,1 0 33 2c,1 0 34 2c,1 0 35 2c,1 0 36 2c,1 0 37 2c,1 0 38 2c,1 0 39 2c",
   "6 0 28 61 29,1 0 28 62 29,1 0 28 63 29,1 0 28 64 29,1 0 28 65 29,1 0 28 66 29,1 0 28 67 29",
   "1 0 28 68 29,1 0 28 69 29,1 0 28 6a 29,1 0 28 6b 29,1 0 28 6c 29,1 0 28 6d 29,1 0 28 6e 29",
   "1 0 28 6f 29,1 0 28 70 29,1 0 28 71 29,1 0 28 72 29,1 0 28 73 29,1 0 28 74 29,1 0 28 75 29",
   "1 0 28 76 29,1 0 28 77 29,1 0 28 78 29,1 0 28 79 29,1 0 28 7a 29,1 0 3014 73 3015,1 0 63",
   "1 0 72,1 0 63 64,1 0 77 7a,2 19 61,1 0 68 76,1 0 6d 76,1 0 73 64,1 0 73 73,1 0 70 70 76",
   "1 0 77 63,1b 0 6d 63,1 0 6d 64,1 0 6d 72,24 0 64 6a,70 0 307b 304b,1 0 30b3 30b3,1 0 30b5",
   "e 0 624b,1 0 5b57,1 0 53cc,1 0 30c7,1 0 4e8c,1 0 591a,1 0 89e3,1 0 5929,1 0 4ea4,1 0 6620",
   "1 0 7121,1 0 6599,1 0 524d,1 0 5f8c,1 0 518d,1 0 65b0,1 0 521d,1 0 7d42,1 0 751f,1 0 8ca9",
   "1 0 58f0,1 0 5439,1 0 6f14,1 0 6295,1 0 6355,1 0 4e00,1 0 4e09,1 0 904a,1 0 5de6,1 0 4e2d",
   "1 0 53f3,1 0 6307,1 0 8d70,1 0 6253,1 0 7981,1 0 7a7a,1 0 5408,1 0 6e80,1 0 6709,1 0 6708",
   "1 0 7533,1 0 5272,1 0 55b6,1 0 914d,5 0 3014 672c 3015,1 0 3014 4e09 3015,1 0 3014 4e8c 3015",
   "1 0 3014 5b89 3015,1 0 3014 70b9 3015,1 0 3014 6253 3015,1 0 3014 76d7 3015",
   "1 0 3014 52dd 3015,1 0 3014 6557 3015,8 0 5f97,1 0 53ef,99f 9 30"]

/-- The runs of characters that mean others. -/
def imageRuns : List Run := Run.readAll imageTable

/-- The characters that mean nothing. -/
def refusedTable : List String :=
  ["80 1f,2d9 1,7 3,8 0,2 0,15 0,18e 0,27 1,33 1,4 0,38 7,1c 3,7 10,17 0,c1 0,31 1,3c 1,66 d",
   "3c 1,32 1,10 0,1d 1,2 0,c 4,21 6,4c 0,a2 0,9 1,3 1,17 0,8 0,2 2,5 1,a 1,3 1,5 7,2 3,3 0,6 1",
   "1a 1,4 0,7 3,3 1,17 0,8 0,3 0,3 0,3 1,2 0,6 3,3 1,4 2,2 6,5 0,2 6,12 9,4 0,a 0,4 0,17 0,8 0",
   "3 0,6 1,b 0,4 0,4 1,2 e,5 1,d 6,8 0,4 0,9 1,3 1,17 0,8 0,3 0,6 1,a 1,3 1,4 6,4 3,3 0,6 1",
   "13 9,3 0,7 2,4 0,5 2,3 0,2 0,3 2,3 2,4 2,d 3,6 2,4 0,5 1,2 5,2 d,16 4,e 0,4 0,18 0,11 1,a 0",
   "4 0,5 6,3 0,4 0,3 1,5 1,b 6,17 0,4 0,18 0,b 0,6 1,a 0,4 0,5 6,3 4,4 0,5 1,b 0,4 b,e 0,4 0",
   "34 0,4 0,7 3,11 1,1b 0,4 0,13 2,19 0,a 0,2 1,8 2,2 3,7 0,2 0,9 5,b 1,4 b,3b 3,1e 24,3 0,2 0",
   "6 0,19 0,2 0,18 1,6 0,2 0,8 0,b 1,5 1f,49 0,25 3,28 0,25 0,10 0,e 24,c7 0,2 4,2 1,17a 0,5 1",
   "8 0,2 0,5 1,2a 0,5 1,22 0,5 1,8 0,2 0,5 1,10 0,3a 0,5 1,44 1,21 2,1b 5,57 1,7 1,281 0,1d 2",
   "5a 6,17 8,19 8,15 b,e 0,4 0,3 b,5f 1,b 5,b 5,1b 5,5a 6,2c 4,47 9,20 0,d 3,d 3,2 2,2b 1,6 a",
   "2d 3,1b 5,c 2,3f 1,42 0,1e 1,c 5,b 5,f 1,2f 1,d 13,4e 0,a7 7,3d 2,10 2,3f 4,2c 1,c 7,2c 4",
   "217 1,7 1,27 1,7 1,9 0,2 0,2 0,2 0,20 1,36 0,10 0,f 1,7 0,14 1,4 0,a 0,f 1,15 2,2 6,37 4,9 1",
   "1c 0,e 2,23 d,22 e,8d 3,29b 15,c 14,29 13,6d9 1,17f 4,2e 0,2 4,2 1,39 6,3 d,19 8,8 0,8 0,8 0",
   "8 0,8 0,8 0,8 0,8 0,7f 21,1b 0,5a b,d7 29,41 0,57 1,68 4,2c 0,5f 0,57 9,30 0,1a3 0,5 0,11 0",
   "70b5 2,38 8,15d 13,b9 7,de 13,3d 2,b 5,39 7,47 7,d 5,75 a,1f 2,4f 0,c 3,22 0,38 8,f 1,b 1",
   "68 17,1d 9,7 1,7 1,7 8,8 0,8 0,3d 3,7f 1,b 5,2ba5 b,18 3,32 3,801 18ff,16f 1,6b 25,8 b,6 4",
   "1b 0,6 0,2 0,3 0,3 0,28b 1f,23 0,7 6,11 0,22 1,14 0,5 3,6 0,88 1,2 0,bf 2,7 1,7 1,7 1,4 2",
   "8 0,8 10,d 0,1b 0,14 0,3 0,10 1,f 21,7c 4,4 3,2e 2,59 0,e 2,2 2e,2f 81,1e 2,32 e,1d 3,25 8",
   "1f 4,2c 4,1f 0,26 3,f 29,9f 1,b 5,25 3,25 3,29 7,35 a,d 0,10 0,8 0,3 0,c 0,10 0,8 0,3 2,35 b",
   "138 8,17 9,9 17,7 0,2b 0,a 44,7 1,2 0,2d 0,3 2,2 1,18 0,49 7,a 2f,14 0,3 4,22 2,1c 4,1c 25",
   "39 3,15 1,33 0,3 4,9 0,4 0,1e 1,4 3,b 6,a 6,41 1f,28 3,d 8,37 2,1e 1,1c 4,1b 6,5 b,8 4f",
   "4a 36,34 c,34 6,2f 7,b 5,27 2,1e 7,3 cf,20 0,2b 0,4 1,3 f,7 7,a 20,2f 7,2b 15,1b 25,1d 13",
   "18 8,4f 3,25 8,3f 0,6 c,1a 6,b 5,36 0,13 7,28 8,61 0,15 a,13 0,30 3d,8 0,2 0,5 0,10 0,c 5",
   "3c 4,b 5,5 0,9 1,3 1,17 0,8 0,3 0,6 0,b 1,3 1,4 1,2 5,2 4,8 1,8 2,6 a,b 0,2 1,2 0,27 0,b 0",
   "2 1,2 0,5 0,b 0,3 7,3 1c,5d 0,6 1d,49 7,b a5,37 1,27 21,46 a,b 5,e 12,3b 5,b 5,15 1b,1c 1",
   "10 3,18 b8,3d 63,54 b,9 1,2 1,9 0,3 0,1f 0,3 1,d 8,b 45,9 1,2f 1,c 1a,49 7,54 c,4a 6,b 55",
   "9 57,23 d,b 5,a 0,2e 0,f 9,1e 2,21 1,17 0,f 48,8 0,3 0,2d 2,2 0,3 0,a 7,b 5,7 0,3 0,26 0,3 0",
   "7 6,b 5,2d 3,b f5,1a 6,12 0,2a 2,1e 54,2 e,33 c,39c 65,70 0,6 a,c5 a4b,64 c,431 f,17 9,f9c 4",
   "248 1ab8,3b 6c5,23a 6,20 0,b 3,52 0,b 5,1f 1,7 9,47 9,b 0,8 0,16 4,14 1af,3b c5,5c 4,1a 1",
   "1a 2b,4c 3,3a 6,12 3f,6 a,8 8,1cd7 28,21 60,74 21fc,5 0,8 0,3 0,124 e,2 1c,4 1,2 d,5 7",
   "18d 903,6c 4,e 2,a 6,b 1,9 f5b,fe 2,1b5 5,18 e,12 e,2f 1,18 8,75 3b,f7 9,28 1,c3 14,47 79",
   "15 b,15 b,58 8,1a 86,56 0,48 0,3 1,2 1,3 1,5 0,d 0,2 0,8 0,42 0,5 1,9 0,8 0,1d 0,5 0,6 0,2 2",
   "8 0,155 1,125 1,2bf e,6 0,10 44f,20 5,7 d4,8 0,12 1,8 0,3 0,6 4,3f 20,2 6f,2e 2,f 1,b 3",
   "3 13f,20 10,3b 4,2 1cf,2b d5,2c 3,2 bf,20 0,17 7,3 df,8 0,5 0,3 0,10 0,c6 1,11 28,4d 3,b 3",
   "3 310,45 4b,3e c1,5 0,1c 0,3 0,2 1,2 0,b 0,5 0,2 0,2 5,2 3,2 0,2 0,2 0,4 0,3 0,2 1,2 0,2 0",
   "2 0,2 0,2 0,3 0,2 1,5 0,8 0,5 0,5 0,2 0,b 0,12 4,4 0,6 0,12 33,3 10d,2d 3,65 b,10 1,10 0",
   "10 0,26 a,ae 37,1e c,2d 3,a 6,3 d,7 99,3da 2,12 2,e 2,db 5,d 3,2 e,d 3,39 7,b 5,29 7,1f 1",
   "d 3,3 d,a 26,159 7,f 1,e 2,c 2,3a 0,2 3,11 1,d 3,b 6,94 0,68 404,a6e1 1f,111f 1,168f 1",
   "1d32 e,26f 9a1,21f 5e1,134c 4,212b acc85,f1 2fe0f"]

/-- The runs of characters that mean nothing. -/
def refusedRuns : List Run := Run.readAll refusedTable

/-- The characters that are left out. -/
def ignoredTable : List String :=
  ["ad 0,2a2 0,e10 1,654 1,56 4,7fc 0,55 4,6 5,10f5 0,cc9c f,f0 0,a1 0,bd00 3,14d0 7,c2f86 ef"]

/-- The runs of characters that are left out. -/
def ignoredRuns : List Run := Run.readAll ignoredTable

/-- The image of a code point in a run. -/
def imageIn (r : Run) (n : Nat) : List Char :=
  match r.said with
  | [m] => [Char.ofNat (m + (n - r.first))]
  | ms => ms.map Char.ofNat

/-- What a character outside ASCII means. -/
def foreignImage? (c : Char) : Option (List Char) :=
  match Run.find? imageRuns c.toNat with
  | some r => some (imageIn r c.toNat)
  | none =>
    if Run.holds refusedRuns c.toNat then none
    else if Run.holds ignoredRuns c.toNat then some []
    else some [Text.lowerChar c]

/-- What a character means, up to the composed form. -/
def image? (c : Char) : Option (List Char) :=
  if c.toNat < 128 then some [c.toLower] else foreignImage? c

/-- What the characters of a text mean; the first one stands at the position `i`.  A character that
means nothing is given with its position. -/
def images (i : Nat) : List Char → Except (Char × Nat) (List Char)
  | [] => .ok []
  | c :: s =>
    match image? c with
    | some cs => (images (i + 1) s).map (cs ++ ·)
    | none => .error (c, i)

/-- The one form of a text.  Positions count from one. -/
def apply (s : List Char) : Except (Char × Nat) (List Char) := (images 1 s).map Text.composed

end RuleSchema.Mapping
