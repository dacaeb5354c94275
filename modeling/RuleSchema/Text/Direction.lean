import RuleSchema.Text.Packed
import RuleSchema.Text.Printable

/-!
# Directions of writing

Some scripts run from left to right and others from right to left, and digits, marks and
punctuation take part in both in their own ways.

* `Direction` has the ways that matter to names, `directionOf` is the one of a character.
-/

namespace RuleSchema.Text

/-- How a character takes part in the direction of a line. -/
inductive Direction where
  /-- A letter of a script that runs from left to right. -/
  | left
  /-- A letter of a script that runs from right to left. -/
  | right
  | arabicNumber
  | europeanNumber
  /-- A character that follows its neighbours. -/
  | neutral
  /-- A mark on the character before. -/
  | mark
  /-- A character that breaks a line or sets its direction. -/
  | control
  /-- No character is assigned to the code point. -/
  | unassigned
deriving DecidableEq

/-- The characters that are not letters from left to right. -/
def directionTable : List String :=
  ["0 8 4,1 4 6,1 d 4,1 4 6,1 e 4,1 9 3,1 6 4,1b 5 4,1b 9 4,1 0 6,1 23 4,2 6 4,1 1 3,1 0 4,2 2 4",
   "1 0 3,2 4 4,18 0 4,20 0 4,1c2 1 4,8 d 4,3 d 4,6 8 4,2 10 4,1 6f 5,5 1 4,9 0 4,6 1 4,2 0 4",
   "6f 0 4,8d 6 5,101 0 4,3 2 4,2 2c 5,1 0 1,1 0 5,1 0 1,1 1 5,1 0 1,1 1 5,1 0 1,1 0 5,9 1a 1",
   "5 5 1,c 5 2,1 1 4,1 0 1,1 1 4,1 0 1,1 0 4,1 0 1,1 1 4,1 a 5,1 2f 1,1 14 5,1 9 2,1 0 4,1 1 2",
   "1 2 1,1 0 5,1 64 1,1 6 5,1 0 2,1 0 4,1 5 5,1 1 1,1 1 5,1 0 4,1 3 5,1 1 1,1 9 3,1 13 1,2 1 1",
   "1 0 5,1 1d 1,1 1a 5,3 58 1,1 a 5,1 0 1,f 2a 1,1 8 5,1 1 1,1 3 4,1 0 1,3 0 5,1 17 1,1 3 5",
   "1 0 1,1 8 5,1 0 1,1 2 5,1 0 1,1 4 5,3 e 1,2 18 1,1 2 5,3 0 1,2 a 1,6 1e 1,2 1 2,7 7 5,1 29 1",
   "1 17 5,1 0 2,1 1f 5,38 0 5,2 0 5,5 7 5,5 0 5,4 6 5,b 1 5,1e 0 5,3b 0 5,5 3 5,9 0 5,15 1 5",
   "f 1 4,8 0 4,3 0 5,3 1 5,3a 0 5,5 1 5,5 1 5,3 2 5,4 0 5,1f 1 5,4 0 5,c 1 5,3a 0 5,5 4 5,2 1 5",
   "5 0 5,15 1 5,e 0 4,9 5 5,2 0 5,3b 0 5,3 0 5,2 3 5,9 0 5,8 1 5,c 1 5,1f 0 5,3e 0 5,d 0 5",
   "26 7 4,6 0 5,4 0 5,38 0 5,2 2 5,6 2 5,2 3 5,8 1 5,c 1 5,15 6 4,3 0 5,3b 0 5,10 1 5,15 1 5",
   "1d 1 5,3a 1 5,5 3 5,9 0 5,15 1 5,1e 0 5,49 0 5,8 2 5,2 0 5,5b 0 5,3 6 5,5 0 4,8 7 5,63 0 5",
   "3 8 5,c 5 5,4b 1 5,1c 0 5,2 0 5,2 0 5,1 3 4,34 d 5,2 4 5,2 1 5,6 a 5,2 23 5,a 0 5,67 3 5",
   "2 5 5,2 1 5,3 1 5,1a 1 5,5 2 5,11 3 5,e 0 5,3 1 5,7 0 5,10 0 5,2c0 2 5,31 9 4,67 0 4,280 0 6",
   "1b 1 4,76 2 5,1e 1 5,1f 1 5,1f 1 5,41 1 5,2 6 5,9 0 5,3 a 5,8 0 4,2 0 5,13 9 4,7 a 4,1 2 5",
   "1 0 4,1 0 5,76 1 5,23 0 5,77 2 5,5 1 5,a 0 5,7 2 5,5 0 4,4 1 4,99 21 4,18 1 5,3 0 5,3b 0 5",
   "2 6 5,2 0 5,2 0 5,3 7 5,7 9 5,3 0 5,31 1e 5,32 3 5,31 0 5,2 4 5,2 0 5,6 0 5,29 8 5,d 1 5",
   "21 3 5,3 1 5,2 2 5,39 0 5,2 1 5,4 0 5,2 2 5,3b 7 5,3 1 5,99 2 5,2 c 5,2 6 5,5 0 5,7 0 5",
   "4 1 5,c7 3f 5,1be 0 4,2 2 4,c 2 4,e 2 4,e 2 4,e 1 4,2 a 6,1 2 4,2 0 1,1 17 4,1 6 6,1 2f 4",
   "1 0 6,1 4 4,2 3 6,1 5 4,1 0 3,4 5 3,1 4 4,2 9 3,1 4 4,12 20 4,10 20 5,10 1 4,2 3 4,2 1 4",
   "b 0 4,2 2 4,6 5 4,2 0 4,2 0 4,2 0 4,5 0 4,c 1 4,5 4 4,6 3 4,3 f 4,2a 2 4,5 1a5 4,46 19 4",
   "2 90 4,1a a 4,16 27 4,1 13 3,4f 1c1 4,2 152 4,101 273 4,3 1f 4,2 68 4,e6 5 4,5 2 5,8 6 4",
   "80 0 5,61 1f 5,1 5d 4,23 19 4,2 58 4,d d5 4,1b b 4,5 0 6,1 3 4,4 18 4,a 3 5,3 0 4,6 1 4",
   "6 2 4,5a 1 5,1 1 4,4 0 4,5b 0 4,c5 23 4,3a 1 4,32 f 4,1d 2 4,33 e 4,d 3 4,a8 3 4,64 1 4",
   "20 0 4,19c1 3f 4,5691 36 4,147 2 4,60 3 5,1 0 4,1 9 5,1 1 4,1f 1 5,51 1 5,f 21 4,67 0 4",
   "7a 0 5,4 0 5,5 0 5,1a 1 5,2 3 4,1 0 5,c 1 4,3b 3 4,4d 1 5,1b 11 5,e 0 5,27 7 5,1a a 5,2f 2 5",
   "31 0 5,3 3 5,3 1 5,28 0 5,44 5 5,3 1 5,3 1 5,d 0 5,9 0 5,30 0 5,34 0 5,2 2 5,3 1 5,6 1 5",
   "2 0 5,2b 1 5,9 0 5,74 1 4,7a 0 5,3 0 5,5 0 5,4f30 0 1,1 0 5,1 9 1,1 0 4,1 c 1,2 4 1,2 0 1",
   "2 1 1,2 1 1,2 7c 1,11 16a 1,1 11 4,1 3f 1,3 35 1,8 0 4,21 c 1,1 2 4,1 f 5,1 9 4,7 f 5,1 22 4",
   "2 12 4,2 3 4,5 4 1,2 86 1,3 0 4,2 e 4,1 9 3,1 6 4,1b 5 4,1b a 4,7b 6 4,2 6 4,b 4 4,104 0 4",
   "3f 4c 4,4 c 4,4 0 4,5d 0 5,e3 0 5,1 1a 3,7b 4 5,486 5 1,3 0 1,2 2b 1,2 1 1,4 0 1,3 16 1",
   "2 47 1,9 8 1,31 12 1,2 1 1,6 20 1,4 0 4,1 19 1,6 0 1,41 37 1,5 13 1,3 2e 1,1 2 5,2 1 5,6 3 5",
   "1 3 1,2 2 1,2 1c 1,3 2 5,5 0 5,1 8 1,8 8 1,8 3f 1,21 24 1,1 1 5,5 b 1,a 35 1,4 6 4,1 15 1",
   "3 1a 1,6 19 1,8 3 1,d 6 1,51 48 1,38 32 1,e 32 1,8 29 1,1 3 5,9 9 2,127 1e 2,2 29 1,2 1 5",
   "1 0 1,3 1 1,4f 27 1,9 15 1,1 a 5,1 8 1,17 11 1,1 3 5,1 3 1,27 1b 1,15 16 1,b 0 5,37 e 5",
   "c 13 4,b 0 5,3 1 5,b 2 5,32 3 5,3 1 5,8 0 5,3e 2 5,25 4 5,2 7 5,3f 0 5,d 1 5,35 8 5,b 3 5",
   "3 0 5,60 2 5,3 0 5,2 1 5,7 0 5,a1 0 5,4 7 5,16 1 5,3a 1 5,4 0 5,26 6 5,4 4 5,c4 7 5,3 2 5",
   "2 0 5,18 0 5,55 5 5,2 0 5,5 1 5,2 1 5,ef 3 5,7 1 5,2 1 5,1c 1 5,56 7 5,3 0 5,2 1 5,20 c 4",
   "3f 0 5,2 0 5,3 5 5,2 0 5,66 2 5,3 3 5,2 4 5,104 8 5,2 1 5,101 1 5,2 0 5,5 0 5,91 3 5,3 1 5",
   "5 0 5,21 5 5,3 1 5,29 5 5,3 3 5,9 0 5,a 5 5,3 2 5,2f c 5,2 1 5,197 6 5,2 5 5,55 15 5,3 6 5",
   "2 1 5,2 1 5,7b 5 5,4 0 5,2 1 5,2 6 5,2 0 5,49 1 5,4 0 5,2 0 5,15c 1 5,e1 1c 4,4aff 4 5",
   "3c 6 5,419 0 5,40 3 5,50 0 4,2 0 5,4cb9 1 5,2 3 4,125d 2d 5,3 16 5,221 2 5,a 7 4,1 7 5,3 6 5",
   "1f 3 5,3c 1 4,16 41 4,1 2 5,1 0 4,bb 56 4,385 0 4,3a 0 4,3a 0 4,3a 0 4,3a 0 4,b 31 3",
   "201 36 5,5 31 5,9 0 5,f 0 5,17 4 5,2 e 5,551 6 5,2 10 5,3 6 5,2 1 5,2 4 5,106 6 5,178 0 5",
   "3e 3 5,10 0 4,501 c4 1,3 8 1,1 6 5,2a 43 1,1 6 5,1 0 1,5 9 1,5 1 1,312 43 1,4d 3c 1,c3 3 1",
   "2 1a 1,2 1 1,2 0 1,3 0 1,2 9 1,2 3 1,2 0 1,2 0 1,7 0 1,5 0 1,2 0 1,2 0 1,2 2 1,2 1 1,2 0 1",
   "3 0 1,2 0 1,2 0 1,2 0 1,2 0 1,2 1 1,2 0 1,3 3 1,2 6 1,2 3 1,2 3 1,2 0 1,2 9 1,2 10 1,6 2 1",
   "2 4 1,2 10 1,35 1 4,10f 2b 4,5 63 4,d e 4,3 e 4,2 e 4,2 24 4,b a 3,1 4 4,20 0 4,3b 5 4",
   "3e 0 4,b3 5 4,9b 3d7 4,6 f 4,4 c 4,4 73 4,d 58 4,8 b 4,5 0 4,10 b 4,5 37 4,9 9 4,7 27 4",
   "9 1d 4,3 1 4,4f 153 4,d d 4,3 4 4,4 4 4,4 6 4,a 1c 4,4 a 4,6 5 4,b 9 4,7 7 4,9 6 4,a 92 4",
   "2 36 4,26 9 3,c0408 0 4,1f 5f 4,81 ef 5"]

/-- The runs of characters of one direction. -/
def directionRuns : List Run := Run.readAll directionTable

/-- The direction that a number of the table stands for. -/
def Direction.ofNumber : Nat → Direction
  | 1 => .right
  | 2 => .arabicNumber
  | 3 => .europeanNumber
  | 4 => .neutral
  | 5 => .mark
  | _ => .control

/-- The direction of a character. -/
def directionOf (c : Char) : Direction :=
  match Run.find? directionRuns c.toNat with
  | some r => .ofNumber (r.said.headD 0)
  | none => if isPrintable c then .left else .unassigned

end RuleSchema.Text
