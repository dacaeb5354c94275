import RuleSchema.Text.Packed

/-!
# Letters and their neighbours

A few characters may only stand beside letters of one script, and the letters of some scripts change
their shapes where they join their neighbours.

* `scriptOf?` is the script of a character, among the scripts to which the first applies.
* `joiningOf` says on which sides a character joins.
-/

namespace RuleSchema.Text

/-- The scripts that have characters of their own which look like punctuation. -/
inductive Script where
  | greek
  | hebrew
  /-- The two syllabaries and the ideographs that are written with them. -/
  | japanese
deriving DecidableEq

/-- The characters of the scripts. -/
def scriptTable : List String :=
  ["370 3 1,2 2 1,3 3 1,2 0 1,5 0 1,2 0 1,2 2 1,2 0 1,2 13 1,2 3e 1,f f 1,192 36 2,9 1a 2,5 5 2",
   "1732 4 1,33 4 1,5 4 1,55 0 1,141 15 1,3 5 1,3 25 1,3 5 1,3 7 1,2 0 1,2 0 1,2 0 1,2 1e 1",
   "3 34 1,2 e 1,2 d 1,3 5 1,2 12 1,3 2 1,2 8 1,128 0 1,d5a 19 3,2 58 3,d d5 3,30 0 3,2 0 3",
   "1a 8 3,f 3 3,6 55 3,7 2 3,2 59 3,3 2 3,f1 f 3,d1 2e 3,2 57 3,a9 19bf 3,41 51ff 3,b66 0 1",
   "4d9b 16d 3,3 69 3,44 19 2,2 4 2,2 0 2,2 1 2,2 1 2,2 9 2,417 9 3,2 2c 3,1a3 4e 1,12 0 1",
   "6e42 1 3,d 6 3,3ffa 3 3,2 6 3,2 1 3,2 122 3,10 0 3,1e 2 3,3 0 3,f 3 3,2099 45 1,1fbb 0 3",
   "e00 a6df 3,21 111d 3,3 168d 3,3 1d30 3,10 26d 3,9a3 21d 3,5e3 134a 3,6 2129 3"]

/-- The runs of characters of one script. -/
def scriptRuns : List Run := Run.readAll scriptTable

/-- The script of a character. -/
def scriptOf? (c : Char) : Option Script :=
  match (Run.find? scriptRuns c.toNat).map Run.said with
  | some [1] => some .greek
  | some [2] => some .hebrew
  | some _ => some .japanese
  | none => none

/-! ## Joining letters -/

/-- On which sides a character joins others. -/
inductive Joining where
  | none
  /-- It joins what comes after it. -/
  | following
  /-- It joins what comes before it. -/
  | preceding
  | both
  /-- It is looked through. -/
  | transparent
deriving DecidableEq

/-- The characters that join others or are looked through. -/
def joiningTable : List String :=
  ["ad 0 4,253 6f 4,114 6 4,108 2c 4,2 0 4,2 1 4,2 1 4,2 0 4,49 a 4,2 0 4,4 0 3,2 3 2,1 0 3",
   "1 0 2,1 0 3,1 0 2,1 4 3,1 3 2,1 c 3,2 6 3,1 0 2,1 1 3,1 14 4,f 1 3,1 0 4,1 2 2,2 2 2,1 f 3",
   "1 11 2,1 25 3,1 0 2,1 1 3,1 8 2,1 0 3,1 0 2,1 0 3,1 0 2,1 1 3,1 1 2,2 0 2,1 6 4,3 5 4,3 1 4",
   "2 3 4,1 1 2,b 2 3,3 0 3,10 0 4,1 0 2,1 0 4,1 2 3,1 4 2,1 3 3,1 0 2,1 8 3,1 0 2,1 0 3,1 0 2",
   "1 0 3,1 0 2,1 1 3,1 0 2,1 1a 4,3 0 2,1 a 3,1 2 2,1 e 3,1 1 2,1 3 3,1 0 2,1 0 3,1 1 2,1 2 3",
   "1 1 2,1 5 3,27 a 4,1a 20 3,1 8 4,a 0 4,19 3 4,2 8 4,2 2 4,2 4 4,13 0 2,1 4 3,1 1 2,1 0 3",
   "1 0 2,1 9 3,1 0 2,1 0 3,1 2 2,1 2 4,5 0 3,2 3 3,2 0 2,1 0 3,1 1 2,6 12 2,4 0 3,3 4 3,1 0 2",
   "1 0 3,8 8 4,1 9 3,1 2 2,2 0 2,1 1 3,1 1 2,1 5 3,1 0 2,1 e 3,2 17 4,2 1f 4,38 0 4,2 0 4,5 7 4",
   "5 0 4,4 6 4,b 1 4,1e 0 4,3b 0 4,5 3 4,9 0 4,15 1 4,1b 0 4,3 1 4,3a 0 4,5 1 4,5 1 4,3 2 4",
   "4 0 4,1f 1 4,4 0 4,c 1 4,3a 0 4,5 4 4,2 1 4,5 0 4,15 1 4,17 5 4,2 0 4,3b 0 4,3 0 4,2 3 4",
   "9 0 4,8 1 4,c 1 4,1f 0 4,3e 0 4,d 0 4,33 0 4,4 0 4,38 0 4,2 2 4,6 2 4,2 3 4,8 1 4,c 1 4",
   "1e 0 4,3b 0 4,3 0 4,7 0 4,6 1 4,15 1 4,1d 1 4,3a 1 4,5 3 4,9 0 4,15 1 4,1e 0 4,49 0 4,8 2 4",
   "2 0 4,5b 0 4,3 6 4,d 7 4,63 0 4,3 8 4,c 6 4,4a 1 4,1c 0 4,2 0 4,2 0 4,38 d 4,2 4 4,2 1 4",
   "6 a 4,2 23 4,a 0 4,67 3 4,2 5 4,2 1 4,3 1 4,1a 1 4,5 2 4,11 3 4,e 0 4,3 1 4,7 0 4,10 0 4",
   "2c0 2 4,3b3 2 4,1e 1 4,1f 1 4,1f 1 4,41 1 4,2 6 4,9 0 4,3 a 4,a 0 4,2a 0 3,4 2 4,2 0 4",
   "11 58 3,d 1 4,1 21 3,1 0 4,1 0 3,76 2 4,5 1 4,a 0 4,7 2 4,dc 1 4,3 0 4,3b 0 4,2 6 4,2 0 4",
   "2 0 4,3 7 4,7 9 4,3 0 4,31 2d 4,3 b 4,15 3 4,31 0 4,2 4 4,2 0 4,6 0 4,29 8 4,d 1 4,21 3 4",
   "3 1 4,2 2 4,39 0 4,2 1 4,4 0 4,2 2 4,3b 7 4,3 1 4,99 2 4,2 c 4,2 6 4,5 0 4,7 0 4,4 1 4",
   "c7 3f 4,20c 0 4,3 1 4,1b 4 4,32 4 4,6 5 4,61 20 4,bff 2 4,8e 0 4,61 1f 4,22b 3 4,6c 1 4",
   "75d5 3 4,2 9 4,21 1 4,51 1 4,111 0 4,4 0 4,5 0 4,1a 1 4,6 0 4,14 31 3,1 0 1,52 1 4,1b 11 4",
   "e 0 4,27 7 4,1a a 4,2f 2 4,31 0 4,3 3 4,3 1 4,28 0 4,44 5 4,3 1 4,3 1 4,d 0 4,9 0 4,30 0 4",
   "34 0 4,2 2 4,3 1 4,6 1 4,2 0 4,2b 1 4,9 0 4,ef 0 4,3 0 4,5 0 4,4f31 0 4,2e2 f 4,11 f 4",
   "d0 0 4,fa 2 4,202 0 4,e3 0 4,96 4 4,687 2 4,2 1 4,6 3 4,29 2 4,5 0 4,81 4 3,1 0 2,2 0 2",
   "2 1 2,3 0 1,1 4 2,1 3 3,1 0 1,1 4 3,1 0 2,1 2 3,1 0 2,3 0 2,1 1 4,5 3 3,1 0 2,91 0 3,1 0 2",
   "1 0 3,1 2 2,1 2 3,1 0 2,1 1 3,1 0 2,1 0 3,1 1 2,1 0 3,1 0 2,18 3 2,1 1 3,152 0 1,1 20 3",
   "1 0 2,1 0 3,1 3 4,42 4 4,13e 1 4,16 0 2,1 1 3,2 1 3,33 5 4,31 2 3,1 0 2,1 10 3,2 a 4,1 2 3",
   "1 0 2,1c 3 3,1 1 2,1 b 3,1 3 4,2b 0 3,2 1 3,1 2 2,2 0 3,1 1 2,1 1 3,1 0 2,1 1 3,2 0 3,1 1 2",
   "1 0 3,5 0 2,1 0 3,1 0 1,36 0 4,37 e 4,2a 0 4,3 1 4,b 2 4,32 3 4,3 1 4,8 0 4,3e 2 4,25 4 4",
   "2 7 4,3f 0 4,d 1 4,35 8 4,b 3 4,3 0 4,60 2 4,3 0 4,2 1 4,7 0 4,3 0 4,9e 0 4,4 7 4,16 1 4",
   "3a 1 4,4 0 4,26 6 4,4 4 4,47 5 4,e 0 4,2 0 4,2 0 4,f 1 4,56 7 4,3 2 4,2 0 4,18 0 4,55 5 4",
   "2 0 4,5 1 4,2 1 4,ef 3 4,7 1 4,2 1 4,1c 1 4,56 7 4,3 0 4,2 1 4,6b 0 4,2 0 4,3 5 4,2 0 4",
   "66 0 4,2 0 4,3 3 4,2 4 4,104 8 4,2 1 4,101 1 4,2 0 4,5 0 4,91 3 4,3 1 4,5 0 4,21 9 4,29 5 4",
   "3 3 4,9 0 4,a 5 4,3 2 4,2f c 4,2 1 4,c7 0 4,2 2 4,2 0 4,ca 6 4,2 5 4,2 0 4,53 15 4,3 6 4",
   "2 1 4,2 1 4,7b 5 4,4 0 4,2 1 4,2 6 4,2 0 4,49 1 4,4 0 4,2 0 4,15c 1 4,c 1 4,35 4 4,6 0 4",
   "2 0 4,18 0 4,14d6 10 4,7 e 4,2cc9 b 4,4 2 4,9c1 4 4,3c 6 4,419 0 4,40 3 4,52 0 4,4cb9 1 4",
   "2 3 4,125d 2d 4,3 16 4,221 2 4,a f 4,3 6 4,1f 3 4,95 2 4,7bc 36 4,5 31 4,9 0 4,f 0 4,17 4 4",
   "2 e 4,551 6 4,2 10 4,3 6 4,2 1 4,2 4 4,65 0 4,a1 6 4,178 0 4,3e 3 4,1fd 3 4,ff 1 4,f4 0 4",
   "3 0 4,8 1 4,6 0 4,1db 6 4,2a 43 3,1 7 4,c16b6 0 4,1f 5f 4,81 ef 4"]

/-- The runs of characters that join in one way. -/
def joiningRuns : List Run := Run.readAll joiningTable

/-- On which sides a character joins others. -/
def joiningOf (c : Char) : Joining :=
  match (Run.find? joiningRuns c.toNat).map Run.said with
  | some [1] => .following
  | some [2] => .preceding
  | some [3] => .both
  | some _ => .transparent
  | none => .none

/-- Whether a character joins what comes after it. -/
def Joining.joinsNext (j : Joining) : Bool := j = .following || j = .both

/-- Whether a character joins what comes before it. -/
def Joining.joinsPrevious (j : Joining) : Bool := j = .preceding || j = .both

end RuleSchema.Text
