import RuleSchema.Text.Packed

/-!
# Canonical decomposition

A letter with an accent may be one character, or a letter and a mark after it.  A mark has a
combining class, a number above zero; every other character has class zero.  Marks of different
classes do not touch each other, so their order does not matter.  Decomposing takes characters apart,
and puts marks in a row into the order of their combining classes.

* `combiningClass` is the class of a character.
* `decomposeChar` takes a character apart as far as possible.
* `ordered` orders marks, `decomposed` does both.
-/

namespace RuleSchema.Text

/-- The classes of marks. -/
def combiningTable : List String :=
  ["300 14 e6,1 0 e8,1 3 dc,1 0 e8,1 0 d8,1 4 dc,1 1 ca,1 3 dc,1 1 ca,1 a dc,1 4 1,1 3 dc,1 7 e6",
   "1 0 f0,1 0 e6,1 2 dc,1 2 e6,1 1 dc,2 2 e6,1 3 dc,1 0 e6,1 0 e8,1 1 dc,1 0 e6,1 0 e9,1 1 ea",
   "1 0 e9,1 1 ea,1 0 e9,1 c e6,114 4 e6,10a 0 dc,1 3 e6,1 0 dc,1 2 e6,1 0 de,1 0 dc,1 5 e6",
   "1 5 dc,1 1 e6,1 0 dc,1 1 e6,1 0 de,1 0 e4,1 0 e6,1 0 a,1 0 b,1 0 c,1 0 d,1 0 e,1 0 f,1 0 10",
   "1 0 11,1 0 12,1 1 13,1 0 14,1 0 15,1 0 16,2 0 17,2 0 18,1 0 19,2 0 e6,1 0 dc,2 0 12,49 7 e6",
   "1 0 1e,1 0 1f,1 0 20,31 0 1b,1 0 1c,1 0 1d,1 0 1e,1 0 1f,1 0 20,1 0 21,1 0 22,1 1 e6,1 1 dc",
   "1 4 e6,1 0 dc,1 1 e6,1 0 dc,11 0 23,66 6 e6,3 3 e6,1 0 dc,1 0 e6,3 1 e6,2 0 dc,1 1 e6,1 0 dc",
   "24 0 24,1f 0 e6,1 0 dc,1 1 e6,1 0 dc,1 1 e6,1 2 dc,1 0 e6,1 1 dc,1 0 e6,1 0 dc,1 2 e6,1 0 dc",
   "1 0 e6,1 0 dc,1 0 e6,1 0 dc,1 0 e6,1 0 dc,1 1 e6,a1 6 e6,1 0 dc,1 0 e6,a 0 dc,19 3 e6,2 8 e6",
   "2 2 e6,2 4 e6,2c 2 dc,3d 0 e6,1 2 dc,1 3 e6,2b 4 e6,1 4 dc,1 d e6,2 0 dc,1 1 e6,1 0 dc",
   "1 1 e6,1 0 dc,1 2 e6,1 2 dc,1 0 1b,1 0 1c,1 0 1d,1 2 e6,1 0 dc,1 1 e6,1 1 dc,1 4 e6,3d 0 7",
   "11 0 9,4 0 e6,1 0 dc,1 1 e6,68 0 7,11 0 9,31 0 e6,3e 0 7,11 0 9,6f 0 7,11 0 9,6f 0 7,11 0 9",
   "80 0 9,6f 0 7,11 0 9,8 0 54,1 0 5b,66 0 7,11 0 9,6e 1 9,11 0 9,7d 0 9,6e 1 67,1 0 9,e 3 6b",
   "6d 1 76,1 0 9,e 3 7a,4d 1 dc,1c 0 dc,2 0 dc,2 0 d8,38 0 81,1 0 82,2 0 84,6 3 82,3 0 82",
   "2 1 e6,1 0 9,2 1 e6,3f 0 dc,71 0 7,2 1 9,53 0 dc,2d0 2 e6,3b5 1 9,1f 0 9,9e 0 9,b 0 e6",
   "cc 0 e4,90 0 de,1 0 e6,1 0 dc,dc 0 e6,1 0 dc,48 0 9,15 7 e6,3 0 dc,31 4 e6,1 5 dc,1 1 e6",
   "1 0 dc,2 1 dc,1 1 e6,1 1 dc,1 4 e6,1 0 dc,1 3 e6,66 0 7,10 0 9,27 0 e6,1 0 dc,1 6 e6,37 1 9",
   "3b 0 7,c 1 9,44 0 7,99 2 e6,2 0 1,1 4 dc,1 1 e6,1 3 dc,1 0 e6,2 6 1,5 0 dc,7 0 e6,4 1 e6",
   "c7 1 e6,1 0 dc,1 6 e6,1 0 dc,1 1 e6,1 0 ea,1 0 d6,1 0 dc,1 0 ca,1 24 e6,1 0 e8,1 1 e4,1 0 dc",
   "1 0 da,1 0 e6,1 0 e9,1 0 dc,1 0 e6,1 0 dc,2d1 1 e6,1 1 1,1 3 e6,1 2 1,1 1 e6,5 0 e6,4 1 1",
   "1 0 e6,1 0 dc,1 0 e6,1 1 1,1 3 dc,1 0 e6,bff 2 e6,8e 0 9,61 1f e6,22b 0 da,1 0 e4,1 0 e8",
   "1 0 de,1 1 e0,6a 1 8,75d5 0 e6,5 9 e6,21 1 e6,51 1 e6,115 0 9,26 0 9,98 0 9,1c 11 e6,3a 2 dc",
   "26 0 9,60 0 7,d 0 9,f0 0 e6,2 1 e6,1 0 dc,3 1 e6,6 1 e6,2 0 e6,35 0 9,f7 0 9,4f31 0 1a",
   "302 6 e6,1 6 dc,1 1 e6,3ce 0 dc,e3 0 dc,96 4 e6,693 0 dc,2 0 e6,29 0 e6,1 0 1,1 0 dc,5 0 9",
   "a6 0 e6,1 0 dc,23e 3 e6,184 1 e6,9a 1 dc,1 2 e6,1 0 dc,1 0 e6,1 3 dc,32 0 e6,1 0 dc,1 0 e6",
   "1 0 dc,c1 0 9,2a 0 9,f 0 9,3a 0 9,1 0 7,46 2 e6,31 1 9,3f 0 7,4d 0 9,a 0 7,6b 0 9,1 0 7",
   "b3 0 7,1 0 9,51 1 7,11 0 9,19 6 e6,4 4 e6,ce 0 9,4 0 7,18 0 e6,64 0 9,1 0 7,fc 0 9,1 0 7",
   "7f 0 9,77 0 9,1 0 7,74 0 9,10e 0 9,1 0 7,103 1 9,5 0 7,9d 0 9,54 0 9,13 0 9,52 0 9,1a6 0 9",
   "103 0 7,2 1 9,52 0 9,4d59 4 1,3c 6 e6,4ba 1 6,4cad 0 1,14c7 1 d8,1 2 1,4 0 e2,1 4 d8,9 7 dc",
   "3 4 e6,1 1 dc,1f 3 e6,95 2 e6,dbc 6 e6,2 10 e6,3 6 e6,2 1 e6,2 4 e6,106 6 e6,178 0 e6",
   "3e 3 e6,5e1 6 dc,6e 5 e6,1 0 7"]

/-- The runs of marks of one class. -/
def combiningRuns : List Run := Run.readAll combiningTable

/-- The combining class of a character. -/
def combiningClass (c : Char) : Nat :=
  match Run.find? combiningRuns c.toNat with
  | some r => r.said.headD 0
  | none => 0

/-- The class of the marks that silence the vowel of a consonant. -/
def viramaClass : Nat := 9

/-! ## Decomposing -/

/-- What characters consist of. -/
def decompositionTable : List String :=
  ["c0 0 41 300,1 0 41 301,1 0 41 302,1 0 41 303,1 0 41 308,1 0 41 30a,2 0 43 327,1 0 45 300",
   "1 0 45 301,1 0 45 302,1 0 45 308,1 0 49 300,1 0 49 301,1 0 49 302,1 0 49 308,2 0 4e 303",
   "1 0 4f 300,1 0 4f 301,1 0 4f 302,1 0 4f 303,1 0 4f 308,3 0 55 300,1 0 55 301,1 0 55 302",
   "1 0 55 308,1 0 59 301,3 0 61 300,1 0 61 301,1 0 61 302,1 0 61 303,1 0 61 308,1 0 61 30a",
   "2 0 63 327,1 0 65 300,1 0 65 301,1 0 65 302,1 0 65 308,1 0 69 300,1 0 69 301,1 0 69 302",
   "1 0 69 308,2 0 6e 303,1 0 6f 300,1 0 6f 301,1 0 6f 302,1 0 6f 303,1 0 6f 308,3 0 75 300",
   "1 0 75 301,1 0 75 302,1 0 75 308,1 0 79 301,2 0 79 308,1 0 41 304,1 0 61 304,1 0 41 306",
   "1 0 61 306,1 0 41 328,1 0 61 328,1 0 43 301,1 0 63 301,1 0 43 302,1 0 63 302,1 0 43 307",
   "1 0 63 307,1 0 43 30c,1 0 63 30c,1 0 44 30c,1 0 64 30c,3 0 45 304,1 0 65 304,1 0 45 306",
   "1 0 65 306,1 0 45 307,1 0 65 307,1 0 45 328,1 0 65 328,1 0 45 30c,1 0 65 30c,1 0 47 302",
   "1 0 67 302,1 0 47 306,1 0 67 306,1 0 47 307,1 0 67 307,1 0 47 327,1 0 67 327,1 0 48 302",
   "1 0 68 302,3 0 49 303,1 0 69 303,1 0 49 304,1 0 69 304,1 0 49 306,1 0 69 306,1 0 49 328",
   "1 0 69 328,1 0 49 307,4 0 4a 302,1 0 6a 302,1 0 4b 327,1 0 6b 327,2 0 4c 301,1 0 6c 301",
   "1 0 4c 327,1 0 6c 327,1 0 4c 30c,1 0 6c 30c,5 0 4e 301,1 0 6e 301,1 0 4e 327,1 0 6e 327",
   "1 0 4e 30c,1 0 6e 30c,4 0 4f 304,1 0 6f 304,1 0 4f 306,1 0 6f 306,1 0 4f 30b,1 0 6f 30b",
   "3 0 52 301,1 0 72 301,1 0 52 327,1 0 72 327,1 0 52 30c,1 0 72 30c,1 0 53 301,1 0 73 301",
   "1 0 53 302,1 0 73 302,1 0 53 327,1 0 73 327,1 0 53 30c,1 0 73 30c,1 0 54 327,1 0 74 327",
   "1 0 54 30c,1 0 74 30c,3 0 55 303,1 0 75 303,1 0 55 304,1 0 75 304,1 0 55 306,1 0 75 306",
   "1 0 55 30a,1 0 75 30a,1 0 55 30b,1 0 75 30b,1 0 55 328,1 0 75 328,1 0 57 302,1 0 77 302",
   "1 0 59 302,1 0 79 302,1 0 59 308,1 0 5a 301,1 0 7a 301,1 0 5a 307,1 0 7a 307,1 0 5a 30c",
   "1 0 7a 30c,22 0 4f 31b,1 0 6f 31b,e 0 55 31b,1 0 75 31b,1d 0 41 30c,1 0 61 30c,1 0 49 30c",
   "1 0 69 30c,1 0 4f 30c,1 0 6f 30c,1 0 55 30c,1 0 75 30c,1 0 dc 304,1 0 fc 304,1 0 dc 301",
   "1 0 fc 301,1 0 dc 30c,1 0 fc 30c,1 0 dc 300,1 0 fc 300,2 0 c4 304,1 0 e4 304,1 0 226 304",
   "1 0 227 304,1 0 c6 304,1 0 e6 304,3 0 47 30c,1 0 67 30c,1 0 4b 30c,1 0 6b 30c,1 0 4f 328",
   "1 0 6f 328,1 0 1ea 304,1 0 1eb 304,1 0 1b7 30c,1 0 292 30c,1 0 6a 30c,4 0 47 301,1 0 67 301",
   "3 0 4e 300,1 0 6e 300,1 0 c5 301,1 0 e5 301,1 0 c6 301,1 0 e6 301,1 0 d8 301,1 0 f8 301",
   "1 0 41 30f,1 0 61 30f,1 0 41 311,1 0 61 311,1 0 45 30f,1 0 65 30f,1 0 45 311,1 0 65 311",
   "1 0 49 30f,1 0 69 30f,1 0 49 311,1 0 69 311,1 0 4f 30f,1 0 6f 30f,1 0 4f 311,1 0 6f 311",
   "1 0 52 30f,1 0 72 30f,1 0 52 311,1 0 72 311,1 0 55 30f,1 0 75 30f,1 0 55 311,1 0 75 311",
   "1 0 53 326,1 0 73 326,1 0 54 326,1 0 74 326,3 0 48 30c,1 0 68 30c,7 0 41 307,1 0 61 307",
   "1 0 45 327,1 0 65 327,1 0 d6 304,1 0 f6 304,1 0 d5 304,1 0 f5 304,1 0 4f 307,1 0 6f 307",
   "1 0 22e 304,1 0 22f 304,1 0 59 304,1 0 79 304,10d 0 300,1 0 301,2 0 313,1 0 308 301,30 0 2b9",
   "a 0 3b,7 0 a8 301,1 0 391 301,1 0 b7,1 0 395 301,1 0 397 301,1 0 399 301,2 0 39f 301",
   "2 0 3a5 301,1 0 3a9 301,1 0 3ca 301,1a 0 399 308,1 0 3a5 308,1 0 3b1 301,1 0 3b5 301",
   "1 0 3b7 301,1 0 3b9 301,1 0 3cb 301,1a 0 3b9 308,1 0 3c5 308,1 0 3bf 301,1 0 3c5 301",
   "1 0 3c9 301,5 0 3d2 301,1 0 3d2 308,2c 0 415 300,1 0 415 308,2 0 413 301,4 0 406 308",
   "5 0 41a 301,1 0 418 300,1 0 423 306,b 0 418 306,20 0 438 306,17 0 435 300,1 0 435 308",
   "2 0 433 301,4 0 456 308,5 0 43a 301,1 0 438 300,1 0 443 306,18 0 474 30f,1 0 475 30f",
   "4a 0 416 306,1 0 436 306,e 0 410 306,1 0 430 306,1 0 410 308,1 0 430 308,3 0 415 306",
   "1 0 435 306,3 0 4d8 308,1 0 4d9 308,1 0 416 308,1 0 436 308,1 0 417 308,1 0 437 308",
   "3 0 418 304,1 0 438 304,1 0 418 308,1 0 438 308,1 0 41e 308,1 0 43e 308,3 0 4e8 308",
   "1 0 4e9 308,1 0 42d 308,1 0 44d 308,1 0 423 304,1 0 443 304,1 0 423 308,1 0 443 308",
   "1 0 423 30b,1 0 443 30b,1 0 427 308,1 0 447 308,3 0 42b 308,1 0 44b 308,129 0 627 653",
   "1 0 627 654,1 0 648 654,1 0 627 655,1 0 64a 654,9a 0 6d5 654,2 0 6c1 654,11 0 6d2 654",
   "256 0 928 93c,8 0 930 93c,3 0 933 93c,24 0 915 93c,1 0 916 93c,1 0 917 93c,1 0 91c 93c",
   "1 0 921 93c,1 0 922 93c,1 0 92b 93c,1 0 92f 93c,6c 0 9c7 9be,1 0 9c7 9d7,10 0 9a1 9bc",
   "1 0 9a2 9bc,2 0 9af 9bc,54 0 a32 a3c,3 0 a38 a3c,23 0 a16 a3c,1 0 a17 a3c,1 0 a1c a3c",
   "3 0 a2b a3c,ea 0 b47 b56,3 0 b47 b3e,1 0 b47 b57,10 0 b21 b3c,1 0 b22 b3c,37 0 b92 bd7",
   "36 0 bc6 bbe,1 0 bc7 bbe,1 0 bc6 bd7,7c 0 c46 c56,78 0 cbf cd5,7 0 cc6 cd5,1 0 cc6 cd6",
   "2 0 cc6 cc2,1 0 cca cd5,7f 0 d46 d3e,1 0 d47 d3e,1 0 d46 d57,8e 0 dd9 dca,2 0 dd9 dcf",
   "1 0 ddc dca,1 0 dd9 ddf,165 0 f42 fb7,a 0 f4c fb7,5 0 f51 fb7,5 0 f56 fb7,5 0 f5b fb7",
   "d 0 f40 fb5,a 0 f71 f72,2 0 f71 f74,1 0 fb2 f80,2 0 fb3 f80,9 0 f71 f80,12 0 f92 fb7",
   "a 0 f9c fb7,5 0 fa1 fb7,5 0 fa6 fb7,5 0 fab fb7,d 0 f90 fb5,6d 0 1025 102e,ae0 0 1b05 1b35",
   "2 0 1b07 1b35,2 0 1b09 1b35,2 0 1b0b 1b35,2 0 1b0d 1b35,4 0 1b11 1b35,29 0 1b3a 1b35",
   "2 0 1b3c 1b35,3 0 1b3e 1b35,1 0 1b3f 1b35,2 0 1b42 1b35,2bd 0 41 325,1 0 61 325,1 0 42 307",
   "1 0 62 307,1 0 42 323,1 0 62 323,1 0 42 331,1 0 62 331,1 0 c7 301,1 0 e7 301,1 0 44 307",
   "1 0 64 307,1 0 44 323,1 0 64 323,1 0 44 331,1 0 64 331,1 0 44 327,1 0 64 327,1 0 44 32d",
   "1 0 64 32d,1 0 112 300,1 0 113 300,1 0 112 301,1 0 113 301,1 0 45 32d,1 0 65 32d,1 0 45 330",
   "1 0 65 330,1 0 228 306,1 0 229 306,1 0 46 307,1 0 66 307,1 0 47 304,1 0 67 304,1 0 48 307",
   "1 0 68 307,1 0 48 323,1 0 68 323,1 0 48 308,1 0 68 308,1 0 48 327,1 0 68 327,1 0 48 32e",
   "1 0 68 32e,1 0 49 330,1 0 69 330,1 0 cf 301,1 0 ef 301,1 0 4b 301,1 0 6b 301,1 0 4b 323",
   "1 0 6b 323,1 0 4b 331,1 0 6b 331,1 0 4c 323,1 0 6c 323,1 0 1e36 304,1 0 1e37 304,1 0 4c 331",
   "1 0 6c 331,1 0 4c 32d,1 0 6c 32d,1 0 4d 301,1 0 6d 301,1 0 4d 307,1 0 6d 307,1 0 4d 323",
   "1 0 6d 323,1 0 4e 307,1 0 6e 307,1 0 4e 323,1 0 6e 323,1 0 4e 331,1 0 6e 331,1 0 4e 32d",
   "1 0 6e 32d,1 0 d5 301,1 0 f5 301,1 0 d5 308,1 0 f5 308,1 0 14c 300,1 0 14d 300,1 0 14c 301",
   "1 0 14d 301,1 0 50 301,1 0 70 301,1 0 50 307,1 0 70 307,1 0 52 307,1 0 72 307,1 0 52 323",
   "1 0 72 323,1 0 1e5a 304,1 0 1e5b 304,1 0 52 331,1 0 72 331,1 0 53 307,1 0 73 307,1 0 53 323",
   "1 0 73 323,1 0 15a 307,1 0 15b 307,1 0 160 307,1 0 161 307,1 0 1e62 307,1 0 1e63 307",
   "1 0 54 307,1 0 74 307,1 0 54 323,1 0 74 323,1 0 54 331,1 0 74 331,1 0 54 32d,1 0 74 32d",
   "1 0 55 324,1 0 75 324,1 0 55 330,1 0 75 330,1 0 55 32d,1 0 75 32d,1 0 168 301,1 0 169 301",
   "1 0 16a 308,1 0 16b 308,1 0 56 303,1 0 76 303,1 0 56 323,1 0 76 323,1 0 57 300,1 0 77 300",
   "1 0 57 301,1 0 77 301,1 0 57 308,1 0 77 308,1 0 57 307,1 0 77 307,1 0 57 323,1 0 77 323",
   "1 0 58 307,1 0 78 307,1 0 58 308,1 0 78 308,1 0 59 307,1 0 79 307,1 0 5a 302,1 0 7a 302",
   "1 0 5a 323,1 0 7a 323,1 0 5a 331,1 0 7a 331,1 0 68 331,1 0 74 308,1 0 77 30a,1 0 79 30a",
   "2 0 17f 307,5 0 41 323,1 0 61 323,1 0 41 309,1 0 61 309,1 0 c2 301,1 0 e2 301,1 0 c2 300",
   "1 0 e2 300,1 0 c2 309,1 0 e2 309,1 0 c2 303,1 0 e2 303,1 0 1ea0 302,1 0 1ea1 302,1 0 102 301",
   "1 0 103 301,1 0 102 300,1 0 103 300,1 0 102 309,1 0 103 309,1 0 102 303,1 0 103 303",
   "1 0 1ea0 306,1 0 1ea1 306,1 0 45 323,1 0 65 323,1 0 45 309,1 0 65 309,1 0 45 303,1 0 65 303",
   "1 0 ca 301,1 0 ea 301,1 0 ca 300,1 0 ea 300,1 0 ca 309,1 0 ea 309,1 0 ca 303,1 0 ea 303",
   "1 0 1eb8 302,1 0 1eb9 302,1 0 49 309,1 0 69 309,1 0 49 323,1 0 69 323,1 0 4f 323,1 0 6f 323",
   "1 0 4f 309,1 0 6f 309,1 0 d4 301,1 0 f4 301,1 0 d4 300,1 0 f4 300,1 0 d4 309,1 0 f4 309",
   "1 0 d4 303,1 0 f4 303,1 0 1ecc 302,1 0 1ecd 302,1 0 1a0 301,1 0 1a1 301,1 0 1a0 300",
   "1 0 1a1 300,1 0 1a0 309,1 0 1a1 309,1 0 1a0 303,1 0 1a1 303,1 0 1a0 323,1 0 1a1 323",
   "1 0 55 323,1 0 75 323,1 0 55 309,1 0 75 309,1 0 1af 301,1 0 1b0 301,1 0 1af 300,1 0 1b0 300",
   "1 0 1af 309,1 0 1b0 309,1 0 1af 303,1 0 1b0 303,1 0 1af 323,1 0 1b0 323,1 0 59 300",
   "1 0 79 300,1 0 59 323,1 0 79 323,1 0 59 309,1 0 79 309,1 0 59 303,1 0 79 303,7 0 3b1 313",
   "1 0 3b1 314,1 0 1f00 300,1 0 1f01 300,1 0 1f00 301,1 0 1f01 301,1 0 1f00 342,1 0 1f01 342",
   "1 0 391 313,1 0 391 314,1 0 1f08 300,1 0 1f09 300,1 0 1f08 301,1 0 1f09 301,1 0 1f08 342",
   "1 0 1f09 342,1 0 3b5 313,1 0 3b5 314,1 0 1f10 300,1 0 1f11 300,1 0 1f10 301,1 0 1f11 301",
   "3 0 395 313,1 0 395 314,1 0 1f18 300,1 0 1f19 300,1 0 1f18 301,1 0 1f19 301,3 0 3b7 313",
   "1 0 3b7 314,1 0 1f20 300,1 0 1f21 300,1 0 1f20 301,1 0 1f21 301,1 0 1f20 342,1 0 1f21 342",
   "1 0 397 313,1 0 397 314,1 0 1f28 300,1 0 1f29 300,1 0 1f28 301,1 0 1f29 301,1 0 1f28 342",
   "1 0 1f29 342,1 0 3b9 313,1 0 3b9 314,1 0 1f30 300,1 0 1f31 300,1 0 1f30 301,1 0 1f31 301",
   "1 0 1f30 342,1 0 1f31 342,1 0 399 313,1 0 399 314,1 0 1f38 300,1 0 1f39 300,1 0 1f38 301",
   "1 0 1f39 301,1 0 1f38 342,1 0 1f39 342,1 0 3bf 313,1 0 3bf 314,1 0 1f40 300,1 0 1f41 300",
   "1 0 1f40 301,1 0 1f41 301,3 0 39f 313,1 0 39f 314,1 0 1f48 300,1 0 1f49 300,1 0 1f48 301",
   "1 0 1f49 301,3 0 3c5 313,1 0 3c5 314,1 0 1f50 300,1 0 1f51 300,1 0 1f50 301,1 0 1f51 301",
   "1 0 1f50 342,1 0 1f51 342,2 0 3a5 314,2 0 1f59 300,2 0 1f59 301,2 0 1f59 342,1 0 3c9 313",
   "1 0 3c9 314,1 0 1f60 300,1 0 1f61 300,1 0 1f60 301,1 0 1f61 301,1 0 1f60 342,1 0 1f61 342",
   "1 0 3a9 313,1 0 3a9 314,1 0 1f68 300,1 0 1f69 300,1 0 1f68 301,1 0 1f69 301,1 0 1f68 342",
   "1 0 1f69 342,1 0 3b1 300,1 0 3ac,1 0 3b5 300,1 0 3ad,1 0 3b7 300,1 0 3ae,1 0 3b9 300,1 0 3af",
   "1 0 3bf 300,1 0 3cc,1 0 3c5 300,1 0 3cd,1 0 3c9 300,1 0 3ce,3 0 1f00 345,1 0 1f01 345",
   "1 0 1f02 345,1 0 1f03 345,1 0 1f04 345,1 0 1f05 345,1 0 1f06 345,1 0 1f07 345,1 0 1f08 345",
   "1 0 1f09 345,1 0 1f0a 345,1 0 1f0b 345,1 0 1f0c 345,1 0 1f0d 345,1 0 1f0e 345,1 0 1f0f 345",
   "1 0 1f20 345,1 0 1f21 345,1 0 1f22 345,1 0 1f23 345,1 0 1f24 345,1 0 1f25 345,1 0 1f26 345",
   "1 0 1f27 345,1 0 1f28 345,1 0 1f29 345,1 0 1f2a 345,1 0 1f2b 345,1 0 1f2c 345,1 0 1f2d 345",
   "1 0 1f2e 345,1 0 1f2f 345,1 0 1f60 345,1 0 1f61 345,1 0 1f62 345,1 0 1f63 345,1 0 1f64 345",
   "1 0 1f65 345,1 0 1f66 345,1 0 1f67 345,1 0 1f68 345,1 0 1f69 345,1 0 1f6a 345,1 0 1f6b 345",
   "1 0 1f6c 345,1 0 1f6d 345,1 0 1f6e 345,1 0 1f6f 345,1 0 3b1 306,1 0 3b1 304,1 0 1f70 345",
   "1 0 3b1 345,1 0 3ac 345,2 0 3b1 342,1 0 1fb6 345,1 0 391 306,1 0 391 304,1 0 391 300,1 0 386",
   "1 0 391 345,2 0 3b9,3 0 a8 342,1 0 1f74 345,1 0 3b7 345,1 0 3ae 345,2 0 3b7 342,1 0 1fc6 345",
   "1 0 395 300,1 0 388,1 0 397 300,1 0 389,1 0 397 345,1 0 1fbf 300,1 0 1fbf 301,1 0 1fbf 342",
   "1 0 3b9 306,1 0 3b9 304,1 0 3ca 300,1 0 390,3 0 3b9 342,1 0 3ca 342,1 0 399 306,1 0 399 304",
   "1 0 399 300,1 0 38a,2 0 1ffe 300,1 0 1ffe 301,1 0 1ffe 342,1 0 3c5 306,1 0 3c5 304",
   "1 0 3cb 300,1 0 3b0,1 0 3c1 313,1 0 3c1 314,1 0 3c5 342,1 0 3cb 342,1 0 3a5 306,1 0 3a5 304",
   "1 0 3a5 300,1 0 38e,1 0 3a1 314,1 0 a8 300,1 0 385,1 0 60,3 0 1f7c 345,1 0 3c9 345",
   "1 0 3ce 345,2 0 3c9 342,1 0 1ff6 345,1 0 39f 300,1 0 38c,1 0 3a9 300,1 0 38f,1 0 3a9 345",
   "1 0 b4,3 0 2002,1 0 2003,125 0 3a9,4 0 4b,1 0 c5,6f 0 2190 338,1 0 2192 338,13 0 2194 338",
   "1f 0 21d0 338,1 0 21d4 338,1 0 21d2 338,35 0 2203 338,5 0 2208 338,3 0 220b 338",
   "18 0 2223 338,2 0 2225 338,1b 0 223c 338,3 0 2243 338,3 0 2245 338,2 0 2248 338,17 0 3d 338",
   "2 0 2261 338,b 0 224d 338,1 0 3c 338,1 0 3e 338,1 0 2264 338,1 0 2265 338,3 0 2272 338",
   "1 0 2273 338,3 0 2276 338,1 0 2277 338,7 0 227a 338,1 0 227b 338,3 0 2282 338,1 0 2283 338",
   "3 0 2286 338,1 0 2287 338,23 0 22a2 338,1 0 22a8 338,1 0 22a9 338,1 0 22ab 338,31 0 227c 338",
   "1 0 227d 338,1 0 2291 338,1 0 2292 338,7 0 22b2 338,1 0 22b3 338,1 0 22b4 338,1 0 22b5 338",
   "3c 0 3008,1 0 3009,7b2 0 2add 338,570 0 304b 3099,2 0 304d 3099,2 0 304f 3099,2 0 3051 3099",
   "2 0 3053 3099,2 0 3055 3099,2 0 3057 3099,2 0 3059 3099,2 0 305b 3099,2 0 305d 3099",
   "2 0 305f 3099,2 0 3061 3099,3 0 3064 3099,2 0 3066 3099,2 0 3068 3099,7 0 306f 3099",
   "1 0 306f 309a,2 0 3072 3099,1 0 3072 309a,2 0 3075 3099,1 0 3075 309a,2 0 3078 3099",
   "1 0 3078 309a,2 0 307b 3099,1 0 307b 309a,17 0 3046 3099,a 0 309d 3099,e 0 30ab 3099",
   "2 0 30ad 3099,2 0 30af 3099,2 0 30b1 3099,2 0 30b3 3099,2 0 30b5 3099,2 0 30b7 3099",
   "2 0 30b9 3099,2 0 30bb 3099,2 0 30bd 3099,2 0 30bf 3099,2 0 30c1 3099,3 0 30c4 3099",
   "2 0 30c6 3099,2 0 30c8 3099,7 0 30cf 3099,1 0 30cf 309a,2 0 30d2 3099,1 0 30d2 309a",
   "2 0 30d5 3099,1 0 30d5 309a,2 0 30d8 3099,1 0 30d8 309a,2 0 30db 3099,1 0 30db 309a",
   "17 0 30a6 3099,3 0 30ef 3099,1 0 30f0 3099,1 0 30f1 3099,1 0 30f2 3099,4 0 30fd 3099",
   "c802 0 8c48,1 0 66f4,1 0 8eca,1 0 8cc8,1 0 6ed1,1 0 4e32,1 0 53e5,1 0 9f9c,1 0 9f9c,1 0 5951",
   "1 0 91d1,1 0 5587,1 0 5948,1 0 61f6,1 0 7669,1 0 7f85,1 0 863f,1 0 87ba,1 0 88f8,1 0 908f",
   "1 0 6a02,1 0 6d1b,1 0 70d9,1 0 73de,1 0 843d,1 0 916a,1 0 99f1,1 0 4e82,1 0 5375,1 0 6b04",
   "1 0 721b,1 0 862d,1 0 9e1e,1 0 5d50,1 0 6feb,1 0 85cd,1 0 8964,1 0 62c9,1 0 81d8,1 0 881f",
   "1 0 5eca,1 0 6717,1 0 6d6a,1 0 72fc,1 0 90ce,1 0 4f86,1 0 51b7,1 0 52de,1 0 64c4,1 0 6ad3",
   "1 0 7210,1 0 76e7,1 0 8001,1 0 8606,1 0 865c,1 0 8def,1 0 9732,1 0 9b6f,1 0 9dfa,1 0 788c",
   "1 0 797f,1 0 7da0,1 0 83c9,1 0 9304,1 0 9e7f,1 0 8ad6,1 0 58df,1 0 5f04,1 0 7c60,1 0 807e",
   "1 0 7262,1 0 78ca,1 0 8cc2,1 0 96f7,1 0 58d8,1 0 5c62,1 0 6a13,1 0 6dda,1 0 6f0f,1 0 7d2f",
   "1 0 7e37,1 0 964b,1 0 52d2,1 0 808b,1 0 51dc,1 0 51cc,1 0 7a1c,1 0 7dbe,1 0 83f1,1 0 9675",
   "1 0 8b80,1 0 62cf,1 0 6a02,1 0 8afe,1 0 4e39,1 0 5be7,1 0 6012,1 0 7387,1 0 7570,1 0 5317",
   "1 0 78fb,1 0 4fbf,1 0 5fa9,1 0 4e0d,1 0 6ccc,1 0 6578,1 0 7d22,1 0 53c3,1 0 585e,1 0 7701",
   "1 0 8449,1 0 8aaa,1 0 6bba,1 0 8fb0,1 0 6c88,1 0 62fe,1 0 82e5,1 0 63a0,1 0 7565,1 0 4eae",
   "1 0 5169,1 0 51c9,1 0 6881,1 0 7ce7,1 0 826f,1 0 8ad2,1 0 91cf,1 0 52f5,1 0 5442,1 0 5973",
   "1 0 5eec,1 0 65c5,1 0 6ffe,1 0 792a,1 0 95ad,1 0 9a6a,1 0 9e97,1 0 9ece,1 0 529b,1 0 66c6",
   "1 0 6b77,1 0 8f62,1 0 5e74,1 0 6190,1 0 6200,1 0 649a,1 0 6f23,1 0 7149,1 0 7489,1 0 79ca",
   "1 0 7df4,1 0 806f,1 0 8f26,1 0 84ee,1 0 9023,1 0 934a,1 0 5217,1 0 52a3,1 0 54bd,1 0 70c8",
   "1 0 88c2,1 0 8aaa,1 0 5ec9,1 0 5ff5,1 0 637b,1 0 6bae,1 0 7c3e,1 0 7375,1 0 4ee4,1 0 56f9",
   "1 0 5be7,1 0 5dba,1 0 601c,1 0 73b2,1 0 7469,1 0 7f9a,1 0 8046,1 0 9234,1 0 96f6,1 0 9748",
   "1 0 9818,1 0 4f8b,1 0 79ae,1 0 91b4,1 0 96b8,1 0 60e1,1 0 4e86,1 0 50da,1 0 5bee,1 0 5c3f",
   "1 0 6599,1 0 6a02,1 0 71ce,1 0 7642,1 0 84fc,1 0 907c,1 0 9f8d,1 0 6688,1 0 962e,1 0 5289",
   "1 0 677b,1 0 67f3,1 0 6d41,1 0 6e9c,1 0 7409,1 0 7559,1 0 786b,1 0 7d10,1 0 985e,1 0 516d",
   "1 0 622e,1 0 9678,1 0 502b,1 0 5d19,1 0 6dea,1 0 8f2a,1 0 5f8b,1 0 6144,1 0 6817,1 0 7387",
   "1 0 9686,1 0 5229,1 0 540f,1 0 5c65,1 0 6613,1 0 674e,1 0 68a8,1 0 6ce5,1 0 7406,1 0 75e2",
   "1 0 7f79,1 0 88cf,1 0 88e1,1 0 91cc,1 0 96e2,1 0 533f,1 0 6eba,1 0 541d,1 0 71d0,1 0 7498",
   "1 0 85fa,1 0 96a3,1 0 9c57,1 0 9e9f,1 0 6797,1 0 6dcb,1 0 81e8,1 0 7acb,1 0 7b20,1 0 7c92",
   "1 0 72c0,1 0 7099,1 0 8b58,1 0 4ec0,1 0 8336,1 0 523a,1 0 5207,1 0 5ea6,1 0 62d3,1 0 7cd6",
   "1 0 5b85,1 0 6d1e,1 0 66b4,1 0 8f3b,1 0 884c,1 0 964d,1 0 898b,1 0 5ed3,1 0 5140,1 0 55c0",
   "3 0 585a,2 0 6674,3 0 51de,1 0 732a,1 0 76ca,1 0 793c,1 0 795e,1 0 7965,1 0 798f,1 0 9756",
   "1 0 7cbe,1 0 7fbd,2 0 8612,2 0 8af8,3 0 9038,1 0 90fd,4 0 98ef,1 0 98fc,1 0 9928,1 0 9db4",
   "1 0 90de,1 0 96b7,1 0 4fae,1 0 50e7,1 0 514d,1 0 52c9,1 0 52e4,1 0 5351,1 0 559d,1 0 5606",
   "1 0 5668,1 0 5840,1 0 58a8,1 0 5c64,1 0 5c6e,1 0 6094,1 0 6168,1 0 618e,1 0 61f2,1 0 654f",
   "1 0 65e2,1 0 6691,1 0 6885,1 0 6d77,1 0 6e1a,1 0 6f22,1 0 716e,1 0 722b,1 0 7422,1 0 7891",
   "1 0 793e,1 0 7949,1 0 7948,1 0 7950,1 0 7956,1 0 795d,1 0 798d,1 0 798e,1 0 7a40,1 0 7a81",
   "1 0 7bc0,1 0 7df4,1 0 7e09,1 0 7e41,1 0 7f72,1 0 8005,1 0 81ed,1 0 8279,1 0 8279,1 0 8457",
   "1 0 8910,1 0 8996,1 0 8b01,1 0 8b39,1 0 8cd3,1 0 8d08,1 0 8fb6,1 0 9038,1 0 96e3,1 0 97ff",
   "1 0 983b,1 0 6075,1 0 242ee,1 0 8218,3 0 4e26,1 0 51b5,1 0 5168,1 0 4f80,1 0 5145,1 0 5180",
   "1 0 52c7,1 0 52fa,1 0 559d,1 0 5555,1 0 5599,1 0 55e2,1 0 585a,1 0 58b3,1 0 5944,1 0 5954",
   "1 0 5a62,1 0 5b28,1 0 5ed2,1 0 5ed9,1 0 5f69,1 0 5fad,1 0 60d8,1 0 614e,1 0 6108,1 0 618e",
   "1 0 6160,1 0 61f2,1 0 6234,1 0 63c4,1 0 641c,1 0 6452,1 0 6556,1 0 6674,1 0 6717,1 0 671b",
   "1 0 6756,1 0 6b79,1 0 6bba,1 0 6d41,1 0 6edb,1 0 6ecb,1 0 6f22,1 0 701e,1 0 716e,1 0 77a7",
   "1 0 7235,1 0 72af,1 0 732a,1 0 7471,1 0 7506,1 0 753b,1 0 761d,1 0 761f,1 0 76ca,1 0 76db",
   "1 0 76f4,1 0 774a,1 0 7740,1 0 78cc,1 0 7ab1,1 0 7bc0,1 0 7c7b,1 0 7d5b,1 0 7df4,1 0 7f3e",
   "1 0 8005,1 0 8352,1 0 83ef,1 0 8779,1 0 8941,1 0 8986,1 0 8996,1 0 8abf,1 0 8af8,1 0 8acb",
   "1 0 8b01,1 0 8afe,1 0 8aed,1 0 8b39,1 0 8b8a,1 0 8d08,1 0 8f38,1 0 9072,1 0 9199,1 0 9276",
   "1 0 967c,1 0 96e3,1 0 9756,1 0 97db,1 0 97ff,1 0 980b,1 0 983b,1 0 9b12,1 0 9f9c,1 0 2284a",
   "1 0 22844,1 0 233d5,1 0 3b9d,1 0 4018,1 0 4039,1 0 25249,1 0 25cd0,1 0 27ed3,1 0 9f43",
   "1 0 9f8e,44 0 5d9 5b4,2 0 5f2 5b7,b 0 5e9 5c1,1 0 5e9 5c2,1 0 fb49 5c1,1 0 fb49 5c2",
   "1 0 5d0 5b7,1 0 5d0 5b8,1 0 5d0 5bc,1 0 5d1 5bc,1 0 5d2 5bc,1 0 5d3 5bc,1 0 5d4 5bc",
   "1 0 5d5 5bc,1 0 5d6 5bc,2 0 5d8 5bc,1 0 5d9 5bc,1 0 5da 5bc,1 0 5db 5bc,1 0 5dc 5bc",
   "2 0 5de 5bc,2 0 5e0 5bc,1 0 5e1 5bc,2 0 5e3 5bc,1 0 5e4 5bc,2 0 5e6 5bc,1 0 5e7 5bc",
   "1 0 5e8 5bc,1 0 5e9 5bc,1 0 5ea 5bc,1 0 5d5 5b9,1 0 5d1 5bf,1 0 5db 5bf,1 0 5e4 5bf",
   "154c 0 11099 110ba,2 0 1109b 110ba,f 0 110a5 110ba,83 0 11131 11127,1 0 11132 11127",
   "21c 0 11347 1133e,1 0 11347 11357,16f 0 114b9 114ba,1 0 114b9 114b0,2 0 114b9 114bd",
   "fc 0 115b8 115af,1 0 115b9 115af,37d 0 11935 11930,b826 0 1d157 1d165,1 0 1d158 1d165",
   "1 0 1d15f 1d16e,1 0 1d15f 1d16f,1 0 1d15f 1d170,1 0 1d15f 1d171,1 0 1d15f 1d172",
   "57 0 1d1b9 1d165,1 0 1d1ba 1d165,1 0 1d1bb 1d16e,1 0 1d1bc 1d16e,1 0 1d1bb 1d16f",
   "1 0 1d1bc 1d16f,12640 0 4e3d,1 0 4e38,1 0 4e41,1 0 20122,1 0 4f60,1 0 4fae,1 0 4fbb,1 0 5002",
   "1 0 507a,1 0 5099,1 0 50e7,1 0 50cf,1 0 349e,1 0 2063a,1 0 514d,1 0 5154,1 0 5164,1 0 5177",
   "1 0 2051c,1 0 34b9,1 0 5167,1 0 518d,1 0 2054b,1 0 5197,1 0 51a4,1 0 4ecc,1 0 51ac,1 0 51b5",
   "1 0 291df,1 0 51f5,1 0 5203,1 0 34df,1 0 523b,1 0 5246,1 0 5272,1 0 5277,1 0 3515,1 0 52c7",
   "1 0 52c9,1 0 52e4,1 0 52fa,1 0 5305,1 0 5306,1 0 5317,1 0 5349,1 0 5351,1 0 535a,1 0 5373",
   "1 0 537d,1 0 537f,1 0 537f,1 0 537f,1 0 20a2c,1 0 7070,1 0 53ca,1 0 53df,1 0 20b63,1 0 53eb",
   "1 0 53f1,1 0 5406,1 0 549e,1 0 5438,1 0 5448,1 0 5468,1 0 54a2,1 0 54f6,1 0 5510,1 0 5553",
   "1 0 5563,1 0 5584,1 0 5584,1 0 5599,1 0 55ab,1 0 55b3,1 0 55c2,1 0 5716,1 0 5606,1 0 5717",
   "1 0 5651,1 0 5674,1 0 5207,1 0 58ee,1 0 57ce,1 0 57f4,1 0 580d,1 0 578b,1 0 5832,1 0 5831",
   "1 0 58ac,1 0 214e4,1 0 58f2,1 0 58f7,1 0 5906,1 0 591a,1 0 5922,1 0 5962,1 0 216a8,1 0 216ea",
   "1 0 59ec,1 0 5a1b,1 0 5a27,1 0 59d8,1 0 5a66,1 0 36ee,1 0 36fc,1 0 5b08,1 0 5b3e,1 0 5b3e",
   "1 0 219c8,1 0 5bc3,1 0 5bd8,1 0 5be7,1 0 5bf3,1 0 21b18,1 0 5bff,1 0 5c06,1 0 5f53,1 0 5c22",
   "1 0 3781,1 0 5c60,1 0 5c6e,1 0 5cc0,1 0 5c8d,1 0 21de4,1 0 5d43,1 0 21de6,1 0 5d6e,1 0 5d6b",
   "1 0 5d7c,1 0 5de1,1 0 5de2,1 0 382f,1 0 5dfd,1 0 5e28,1 0 5e3d,1 0 5e69,1 0 3862,1 0 22183",
   "1 0 387c,1 0 5eb0,1 0 5eb3,1 0 5eb6,1 0 5eca,1 0 2a392,1 0 5efe,1 0 22331,1 0 22331,1 0 8201",
   "1 0 5f22,1 0 5f22,1 0 38c7,1 0 232b8,1 0 261da,1 0 5f62,1 0 5f6b,1 0 38e3,1 0 5f9a,1 0 5fcd",
   "1 0 5fd7,1 0 5ff9,1 0 6081,1 0 393a,1 0 391c,1 0 6094,1 0 226d4,1 0 60c7,1 0 6148,1 0 614c",
   "1 0 614e,1 0 614c,1 0 617a,1 0 618e,1 0 61b2,1 0 61a4,1 0 61af,1 0 61de,1 0 61f2,1 0 61f6",
   "1 0 6210,1 0 621b,1 0 625d,1 0 62b1,1 0 62d4,1 0 6350,1 0 22b0c,1 0 633d,1 0 62fc,1 0 6368",
   "1 0 6383,1 0 63e4,1 0 22bf1,1 0 6422,1 0 63c5,1 0 63a9,1 0 3a2e,1 0 6469,1 0 647e,1 0 649d",
   "1 0 6477,1 0 3a6c,1 0 654f,1 0 656c,1 0 2300a,1 0 65e3,1 0 66f8,1 0 6649,1 0 3b19,1 0 6691",
   "1 0 3b08,1 0 3ae4,1 0 5192,1 0 5195,1 0 6700,1 0 669c,1 0 80ad,1 0 43d9,1 0 6717,1 0 671b",
   "1 0 6721,1 0 675e,1 0 6753,1 0 233c3,1 0 3b49,1 0 67fa,1 0 6785,1 0 6852,1 0 6885,1 0 2346d",
   "1 0 688e,1 0 681f,1 0 6914,1 0 3b9d,1 0 6942,1 0 69a3,1 0 69ea,1 0 6aa8,1 0 236a3,1 0 6adb",
   "1 0 3c18,1 0 6b21,1 0 238a7,1 0 6b54,1 0 3c4e,1 0 6b72,1 0 6b9f,1 0 6bba,1 0 6bbb,1 0 23a8d",
   "1 0 21d0b,1 0 23afa,1 0 6c4e,1 0 23cbc,1 0 6cbf,1 0 6ccd,1 0 6c67,1 0 6d16,1 0 6d3e,1 0 6d77",
   "1 0 6d41,1 0 6d69,1 0 6d78,1 0 6d85,1 0 23d1e,1 0 6d34,1 0 6e2f,1 0 6e6e,1 0 3d33,1 0 6ecb",
   "1 0 6ec7,1 0 23ed1,1 0 6df9,1 0 6f6e,1 0 23f5e,1 0 23f8e,1 0 6fc6,1 0 7039,1 0 701e,1 0 701b",
   "1 0 3d96,1 0 704a,1 0 707d,1 0 7077,1 0 70ad,1 0 20525,1 0 7145,1 0 24263,1 0 719c,1 0 243ab",
   "1 0 7228,1 0 7235,1 0 7250,1 0 24608,1 0 7280,1 0 7295,1 0 24735,1 0 24814,1 0 737a,1 0 738b",
   "1 0 3eac,1 0 73a5,1 0 3eb8,1 0 3eb8,1 0 7447,1 0 745c,1 0 7471,1 0 7485,1 0 74ca,1 0 3f1b",
   "1 0 7524,1 0 24c36,1 0 753e,1 0 24c92,1 0 7570,1 0 2219f,1 0 7610,1 0 24fa1,1 0 24fb8",
   "1 0 25044,1 0 3ffc,1 0 4008,1 0 76f4,1 0 250f3,1 0 250f2,1 0 25119,1 0 25133,1 0 771e",
   "1 0 771f,1 0 771f,1 0 774a,1 0 4039,1 0 778b,1 0 4046,1 0 4096,1 0 2541d,1 0 784e,1 0 788c",
   "1 0 78cc,1 0 40e3,1 0 25626,1 0 7956,1 0 2569a,1 0 256c5,1 0 798f,1 0 79eb,1 0 412f,1 0 7a40",
   "1 0 7a4a,1 0 7a4f,1 0 2597c,1 0 25aa7,1 0 25aa7,1 0 7aee,1 0 4202,1 0 25bab,1 0 7bc6",
   "1 0 7bc9,1 0 4227,1 0 25c80,1 0 7cd2,1 0 42a0,1 0 7ce8,1 0 7ce3,1 0 7d00,1 0 25f86,1 0 7d63",
   "1 0 4301,1 0 7dc7,1 0 7e02,1 0 7e45,1 0 4334,1 0 26228,1 0 26247,1 0 4359,1 0 262d9,1 0 7f7a",
   "1 0 2633e,1 0 7f95,1 0 7ffa,1 0 8005,1 0 264da,1 0 26523,1 0 8060,1 0 265a8,1 0 8070",
   "1 0 2335f,1 0 43d5,1 0 80b2,1 0 8103,1 0 440b,1 0 813e,1 0 5ab5,1 0 267a7,1 0 267b5",
   "1 0 23393,1 0 2339c,1 0 8201,1 0 8204,1 0 8f9e,1 0 446b,1 0 8291,1 0 828b,1 0 829d,1 0 52b3",
   "1 0 82b1,1 0 82b3,1 0 82bd,1 0 82e6,1 0 26b3c,1 0 82e5,1 0 831d,1 0 8363,1 0 83ad,1 0 8323",
   "1 0 83bd,1 0 83e7,1 0 8457,1 0 8353,1 0 83ca,1 0 83cc,1 0 83dc,1 0 26c36,1 0 26d6b,1 0 26cd5",
   "1 0 452b,1 0 84f1,1 0 84f3,1 0 8516,1 0 273ca,1 0 8564,1 0 26f2c,1 0 455d,1 0 4561,1 0 26fb1",
   "1 0 270d2,1 0 456b,1 0 8650,1 0 865c,1 0 8667,1 0 8669,1 0 86a9,1 0 8688,1 0 870e,1 0 86e2",
   "1 0 8779,1 0 8728,1 0 876b,1 0 8786,1 0 45d7,1 0 87e1,1 0 8801,1 0 45f9,1 0 8860,1 0 8863",
   "1 0 27667,1 0 88d7,1 0 88de,1 0 4635,1 0 88fa,1 0 34bb,1 0 278ae,1 0 27966,1 0 46be,1 0 46c7",
   "1 0 8aa0,1 0 8aed,1 0 8b8a,1 0 8c55,1 0 27ca8,1 0 8cab,1 0 8cc1,1 0 8d1b,1 0 8d77,1 0 27f2f",
   "1 0 20804,1 0 8dcb,1 0 8dbc,1 0 8df0,1 0 208de,1 0 8ed4,1 0 8f38,1 0 285d2,1 0 285ed",
   "1 0 9094,1 0 90f1,1 0 9111,1 0 2872e,1 0 911b,1 0 9238,1 0 92d7,1 0 92d8,1 0 927c,1 0 93f9",
   "1 0 9415,1 0 28bfa,1 0 958b,1 0 4995,1 0 95b7,1 0 28d77,1 0 49e6,1 0 96c3,1 0 5db2,1 0 9723",
   "1 0 29145,1 0 2921a,1 0 4a6e,1 0 4a76,1 0 97e0,1 0 2940a,1 0 4ab2,1 0 29496,1 0 980b",
   "1 0 980b,1 0 9829,1 0 295b6,1 0 98e2,1 0 4b33,1 0 9929,1 0 99a7,1 0 99c2,1 0 99fe,1 0 4bce",
   "1 0 29b30,1 0 9b12,1 0 9c40,1 0 9cfd,1 0 4cce,1 0 4ced,1 0 9d67,1 0 2a0ce,1 0 4cf8,1 0 2a105",
   "1 0 2a20e,1 0 2a291,1 0 9ebb,1 0 4d56,1 0 9ef9,1 0 9efe,1 0 9f05,1 0 9f0f,1 0 9f16,1 0 9f3b",
   "1 0 2a600"]

/-- The characters that consist of others. -/
def decompositions : List Run := Run.readAll decompositionTable

/-! ## Syllables of Hangul -/

/-- The first syllable. -/
def syllableBase : Nat := 0xAC00

/-- The code point before the first final consonant. -/
def finalBase : Nat := 0x11A7

/-- The number of syllables. -/
def syllableCount : Nat := 11172

/-- The letters of a syllable. -/
def syllableLetters (n : Nat) : List Nat :=
  let i := n - syllableBase
  [0x1100 + i / 588, 0x1161 + i % 588 / 28] ++ if i % 28 = 0 then [] else [finalBase + i % 28]

/-- Whether a code point is a syllable. -/
def isSyllable (n : Nat) : Bool := syllableBase ≤ n && n < syllableBase + syllableCount

/-! ## Decomposing -/

/-- What a code point consists of; each step takes the first part further apart. -/
def takeApart : Nat → Nat → List Nat
  | 0, n => [n]
  | fuel + 1, n =>
    if isSyllable n then syllableLetters n
    else
      match (Run.find? decompositions n).map Run.said with
      | some (first :: others) => takeApart fuel first ++ others
      | _ => [n]

/-- How often the first part of a character may be taken apart. -/
def decompositionDepth : Nat := 4

/-- The characters that a character consists of. -/
def decomposeChar (c : Char) : List Char :=
  (takeApart decompositionDepth c.toNat).map Char.ofNat

/-- Puts a character before a text, past the marks that have to stand before it. -/
def insertMark (c : Char) : List Char → List Char
  | [] => [c]
  | d :: s =>
    if 0 < combiningClass d && combiningClass d < combiningClass c then d :: insertMark c s
    else c :: d :: s

/-- A text with the marks in each row in order. -/
def ordered (s : List Char) : List Char := s.foldr insertMark []

/-- A text whose characters are taken apart. -/
def decomposed (s : List Char) : List Char := ordered (s.flatMap decomposeChar)

theorem insertMark_perm (c : Char) (s : List Char) : (insertMark c s).Perm (c :: s) := by
  induction s with
  | nil => exact .refl _
  | cons d s ih =>
    unfold insertMark
    split
    · exact (ih.cons d).trans (.swap c d s)
    · exact .refl _

/-- Ordering moves marks, and neither adds nor drops any. -/
theorem ordered_perm (s : List Char) : (ordered s).Perm s := by
  induction s with
  | nil => exact .refl _
  | cons c s ih => exact (insertMark_perm c _).trans (ih.cons c)

end RuleSchema.Text
