import RuleSchema.Text.Packed

/-!
# The characters of labels

The name of a host consists of labels between points.  A label is written in letters, digits and
marks of any script.  A few other characters may stand in it at certain places only.

* `isLabelChar` recognises the characters that may stand anywhere, `isJoiner` and `isContextual`
  those that may stand at certain places.
-/

namespace RuleSchema

open Text (Run)

/-- The characters that may stand anywhere in a label. -/
def labelTable : List String :=
  ["2d 0,3 9,28 19,65 17,2 7,2 0,2 0,2 0,2 0,2 0,2 0,2 0,2 0,2 0,2 0,2 0,2 0,2 0,2 0,2 0,2 0,2 0",
   "2 0,2 0,2 0,2 0,2 0,2 0,2 0,2 0,4 0,2 1,2 0,2 0,2 0,4 0,2 0,2 0,2 0,3 0,2 0,2 0,2 0,2 0,2 0",
   "2 0,2 0,2 0,2 0,2 0,2 0,2 0,2 0,2 0,2 0,2 0,2 0,2 0,2 0,2 0,2 0,2 0,3 0,2 0,2 0,2 0,3 0,2 0",
   "3 0,4 1,5 0,3 0,4 2,3 0,3 0,2 0,2 0,3 0,2 1,2 0,3 0,4 0,2 0,3 2,2 6,b 0,2 0,2 0,2 0,2 0,2 0",
   "2 0,2 1,2 0,2 0,2 0,2 0,2 0,2 0,2 0,2 0,2 1,5 0,4 0,2 0,2 0,2 0,2 0,2 0,2 0,2 0,2 0,2 0,2 0",
   "2 0,2 0,2 0,2 0,2 0,2 0,2 0,2 0,2 0,2 0,2 0,2 0,2 0,2 0,2 0,2 0,2 0,2 0,2 6,3 0,3 1,2 0,5 0",
   "2 0,2 0,2 0,2 60,a 8,5 b,1b 0,2 0,12 3f,3 0,4 8,2 1f,2 0,2 0,4 0,4 2,13 0,1c 22,9 0,2 0,2 0",
   "2 0,2 0,2 0,2 0,2 0,2 0,2 0,2 0,2 0,2 0,4 0,5 0,3 1,34 2f,2 0,2 0,2 0,2 0,2 0,2 0,2 0,2 0",
   "2 0,2 0,2 0,2 0,2 0,2 0,2 0,2 0,2 0,2 4,4 0,2 0,2 0,2 0,2 0,2 0,2 0,2 0,2 0,2 0,2 0,2 0,2 0",
   "2 0,2 0,2 0,2 0,2 0,2 0,2 0,2 0,2 0,2 0,2 0,2 0,2 0,2 0,3 0,2 0,2 0,2 0,2 0,2 0,2 1,2 0,2 0",
   "2 0,2 0,2 0,2 0,2 0,2 0,2 0,2 0,2 0,2 0,2 0,2 0,2 0,2 0,2 0,2 0,2 0,2 0,2 0,2 0,2 0,2 0,2 0",
   "2 0,2 0,2 0,2 0,2 0,2 0,2 0,2 0,2 0,2 0,2 0,2 0,2 0,2 0,2 0,2 0,2 0,2 0,2 0,2 0,2 0,2 0,2 0",
   "2a 0,7 26,2 0,9 2c,2 0,2 1,2 1,2 0,9 1a,5 3,1e a,6 1f,2 1e,f 6,5 5a,2 7,3 9,2 5,b 5,11 3a",
   "3 64,f 35,8 0,3 2d,13 1b,5 a,6 17,2 6,8 4a,2 74,9 3,3 9,2 12,2 7,3 1,3 15,2 6,2 0,4 3,3 8",
   "3 1,3 3,9 0,9 3,3 b,b 0,2 0,3 2,2 5,5 1,3 15,2 6,2 0,3 0,3 1,3 0,2 4,5 1,3 2,4 0,b 0,a f,c 2",
   "2 8,2 2,2 15,2 6,2 1,2 4,3 9,2 2,2 2,3 0,10 3,3 9,a 6,2 2,2 7,3 1,3 15,2 6,2 1,2 4,3 8,3 1",
   "3 2,8 2,8 4,3 9,2 0,11 1,2 5,4 2,2 3,4 1,2 0,2 1,4 1,4 2,4 b,5 4,4 2,2 3,3 0,7 0,f 9,11 c",
   "2 2,2 16,2 f,3 8,2 2,2 3,8 1,2 2,2 1,3 3,3 9,11 3,2 7,2 2,2 16,2 9,2 4,3 8,2 2,2 3,8 1,6 2",
   "2 3,3 9,2 2,d c,2 2,2 32,2 2,2 4,6 3,8 4,3 9,b 5,2 2,2 11,4 17,2 8,2 0,3 6,4 0,5 5,2 0,2 7",
   "7 9,3 1,e 31,2 6,6 e,2 9,28 1,2 0,2 4,2 17,2 0,2 b,2 9,3 4,2 0,2 6,2 9,5 1,21 0,b 0,d 1,7 9",
   "c 0,2 0,2 0,5 4,2 3,2 3,2 3,2 3,2 3,2 b,2 2,5 1,2 0,6 6,2 2,2 c,2 3,2 3,2 3,2 3,2 3,2 b,2 2",
   "a 0,3a 49,7 4d,33 2a,3 2,101 48,2 3,3 6,2 0,2 3,3 28,2 3,3 20,2 3,3 6,2 0,2 3,3 e,2 38,2 3",
   "3 42,3 2,21 f,11 55,c 26b,3 10,2 19,6 4a,7 7,8 15,a 15,c 13,d c,2 2,2 1,d 33,3 1d,4 0,5 1",
   "3 9,27 9,7 58,8 2a,6 45,b 1e,2 b,5 b,b 27,3 4,c 2b,5 19,7 9,27 1b,5 3e,2 1c,3 a,7 9,e 0,9 d",
   "2 1e,3 b,15 4c,4 9,12 8,d 73,d 37,9 9,4 30,d 0,46 2,2 26,6 2b,4 0,c 0,13 0,1d c,2 21,26 3f",
   "2 0,2 0,2 0,2 0,2 0,2 0,2 0,2 0,2 0,2 0,2 0,2 0,2 0,2 0,2 0,2 0,2 0,2 0,2 0,2 0,2 0,2 0,2 0",
   "2 0,2 0,2 0,2 0,2 0,2 0,2 0,2 0,2 0,2 0,2 0,2 0,2 0,2 0,2 0,2 0,2 0,2 0,2 0,2 0,2 0,2 0,2 0",
   "2 0,2 0,2 0,2 0,2 0,2 0,2 0,2 0,2 0,2 0,2 0,2 0,2 0,2 0,2 0,2 0,2 0,2 0,2 0,2 0,2 0,2 0,2 0",
   "2 0,2 0,2 0,2 0,2 0,2 4,3 1,2 0,2 0,2 0,2 0,2 0,2 0,2 0,2 0,2 0,2 0,2 0,2 0,2 0,2 0,2 0,2 0",
   "2 0,2 0,2 0,2 0,2 0,2 0,2 0,2 0,2 0,2 0,2 0,2 0,2 0,2 0,2 0,2 0,2 0,2 0,2 0,2 0,2 0,2 0,2 0",
   "2 0,2 0,2 0,2 0,2 0,2 0,2 0,2 0,2 0,2 8,9 5,b 7,9 7,9 5,b 7,9 7,9 0,2 0,2 0,2 0,2 0,2 0,2 0",
   "34 1,5 0,10 0,a 2,4 1,9 2,2 3,f 0,158 0,36 0,aac 2f,2 0,4 1,2 0,2 0,2 0,5 0,2 1,2 5,6 0,2 0",
   "2 0,2 0,2 0,2 0,2 0,2 0,2 0,2 0,2 0,2 0,2 0,2 0,2 0,2 0,2 0,2 0,2 0,2 0,2 0,2 0,2 0,2 0,2 0",
   "2 0,2 0,2 0,2 0,2 0,2 0,2 0,2 0,2 0,2 0,2 0,2 0,2 0,2 0,2 0,2 0,2 0,2 0,2 0,2 0,2 0,2 0,2 0",
   "2 0,2 1,8 0,2 3,2 0,d 25,2 0,6 0,3 37,18 17,a 6,2 6,2 6,2 6,2 6,2 6,2 6,2 6,2 1f,30 0,1d6 2",
   "23 3,f 0,5 55,3 1,3 1,3 59,2 2,7 2a,71 1f,31 f,201 19bf,41 568c,44 2d,3 10c,4 1b,16 0,2 0",
   "2 0,2 0,2 0,2 0,2 0,2 0,2 0,2 0,2 0,2 0,2 0,2 0,2 0,2 0,2 0,2 0,2 0,2 0,2 0,2 0,2 2,5 9,2 0",
   "2 0,2 0,2 0,2 0,2 0,2 0,2 0,2 0,2 0,2 0,2 0,2 0,2 0,2 0,3 47,b 1,26 8,4 0,2 0,2 0,2 0,2 0",
   "2 0,2 2,2 0,2 0,2 0,2 0,2 0,2 0,2 0,2 0,2 0,2 0,2 0,2 0,2 0,2 0,2 0,2 0,2 0,2 0,2 0,2 0,2 0",
   "2 0,2 0,2 0,2 0,2 0,2 0,2 0,2 0,2 0,2 0,2 7,2 0,2 0,3 0,2 0,2 0,2 0,2 1,4 0,2 1,2 0,2 2,2 0",
   "2 0,2 0,2 0,2 0,2 0,2 0,2 0,2 0,2 0,6 0,6 0,2 0,2 0,2 0,2 0,2 0,2 0,2 0,5 0,2 0,3 0,2 0,2 0",
   "2 0,2 0,2 0,2 0,2 0,1b 1,3 2d,5 0,14 33,d 45,b 9,7 17,4 0,2 30,3 23,2d 40,f a,7 1e,2 36,a d",
   "3 9,7 16,4 48,19 2,3 f,3 4,b 5,3 5,3 5,a 6,2 6,2 2a,6 8,58 2a,2 1,3 9,7 2ba3,226b 1,2 0,2 1",
   "b 0,2 0,2 1,3 2,f5 0,302 f,44 0,18d b,2 19,2 12,2 1,2 e,3 d,23 7a,103 0,83 1c,4 30,10 0",
   "20 1f,e 13,2 7,7 2a,6 1d,3 23,5 7,59 75,3 9,2f 23,5 27,9 33,34 a,2 e,2 6,2 1,4 33,d 136,a 15",
   "b 7,19 0,80 5,3 0,2 2b,2 1,4 0,3 16,b 16,a 1e,42 12,2 1,b 15,b 19,7 19,27 37,7 1,41 3,2 1",
   "6 7,2 2,2 1c,3 2,5 0,21 1c,4 1c,24 7,2 1d,1a 35,b 15,b 12,e 11,6f 48,78 32,e 27,9 9,7 f,1a 4",
   "2 16,fb 29,2 1,4 1,11 5,33 22,b 0,9 20,20 15,2b 14,1c 16,a 46,20 f,a 3b,8 0,e 18,8 9,7 34",
   "2 9,5 3,9 23,3 0,a 44,5 3,2 c,2 0,24 11,2 24,7 3,3f 6,2 0,2 3,2 e,2 9,8 3a,6 9,7 3,2 7,3 1",
   "3 15,2 6,2 1,2 4,2 9,3 1,3 2,3 0,7 0,6 6,3 6,4 4,c 9,2 0,3 0,2 25,2 9,2 0,3 0,2 3,2 7,e 1",
   "1e 4a,6 9,5 3,1f 45,2 0,9 9,a7 35,3 8,18 5,23 40,4 0,c 9,27 38,8 9,7 13,1d 1a,3 e,5 9,7 6",
   "ba 3a,86 29,16 7,3 0,3 7,2 1,2 1d,2 1,3 8,d 9,47 7,3 2d,3 7,2 1,1c 3e,9 0,9 49,4 0,13 48",
   "68 7,59 20,10 9,7 8,2 2c,2 8,10 9,19 1d,3 15,2 d,4a 6,2 1,2 2b,4 0,2 1,2 8,9 9,7 5,2 1,2 24",
   "2 1,2 5,8 9,7 2b,5 9,f7 16,a 10,2 28,4 4,e a,56 0,50 399,e7 c3,a4d 60,10 42f,11 15,b f9a",
   "6 246,1aba 39,6c7 238,8 1e,2 9,7 4e,2 9,7 1d,3 4,c 36,a 3,d 9,a 14,6 12,1b1 2c,4 9,e7 1f",
   "3c 18,2d 4a,5 38,8 10,41 1,2 1,c 3,d 1cd5,2a 1f,62 72,21fe 3,2 6,2 1,2 122,10 0,1e 2,3 0,f 3",
   "9 18b,905 6a,6 c,4 8,8 9,4 1,1262 2d,3 16,aba 36,5 31,9 0,f 0,17 4,2 e,451 1e,7 5,d6 6,2 10",
   "3 6,2 1,2 4,65 0,71 2c,4 d,3 9,5 0,142 1e,12 39,1d7 29,d7 2a,c6 1e,2 15,9 1,e1 6,2 3,2 1,2 e",
   "2 c4,c 6,4c 29,5 9,16a7 a6df,21 111d,3 168d,3 1d30,10 26d,11a3 134a,6 2129"]

/-- The runs of characters that may stand anywhere in a label. -/
def labelRuns : List Run := Run.readAll labelTable

/-- Whether a character may stand anywhere in a label. -/
def isLabelChar (c : Char) : Bool := Run.holds labelRuns c.toNat

/-- Whether a character joins its neighbours or keeps them apart. -/
def isJoiner (c : Char) : Bool := c = '\u200C' || c = '\u200D'

/-- Whether a character is a digit of the Arabic script. -/
def isArabicDigit (c : Char) : Bool := 0x660 ≤ c.toNat && c.toNat ≤ 0x669

/-- Whether a character is a digit of the Arabic script as it is written in the east. -/
def isEasternDigit (c : Char) : Bool := 0x6F0 ≤ c.toNat && c.toNat ≤ 0x6F9

/-- Whether a character may stand at certain places only. -/
def isContextual (c : Char) : Bool :=
  [0xB7, 0x375, 0x5F3, 0x5F4, 0x30FB].contains c.toNat || isArabicDigit c || isEasternDigit c

end RuleSchema
