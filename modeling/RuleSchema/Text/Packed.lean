/-!
# Packed tables

A long table of code points is stored as lines of text.  The rows of a line stand between commas,
and each row is a list of hexadecimal numbers between blanks.  A row describes a run of code points: how far the run
starts after the end of the one before, how far it extends, and what is said of its members.

* `Run.readAll` reads such lines, and `Run.find?` finds the run that holds a code point.
* `Run.holds` says whether some run does.
-/

namespace RuleSchema.Text

/-- The code points from `first` to `last`, and what is said of them. -/
structure Run where
  first : Nat
  last : Nat
  said : List Nat
deriving DecidableEq

namespace Run

/-- The value of a hexadecimal digit in lower case. -/
def digit (c : Char) : Nat := if c.isDigit then c.toNat - 48 else c.toNat - 87

/-- Reads rows; `n` is the number and `row` the row that is being read, its numbers reversed. -/
def readRows (n : Nat) (row : List Nat) : List Char → List (List Nat)
  | [] => [(n :: row).reverse]
  | ',' :: s => (n :: row).reverse :: readRows 0 [] s
  | ' ' :: s => readRows 0 (n :: row) s
  | c :: s => readRows (n * 16 + digit c) row s

/-- The runs that rows describe, the one before them ending at `last`. -/
def ofRows (last : Nat) : List (List Nat) → List Run
  | (gap :: extent :: said) :: rows =>
    ⟨last + gap, last + gap + extent, said⟩ :: ofRows (last + gap + extent) rows
  | _ => []

/-- Reads a packed table. -/
def readAll (lines : List String) : List Run :=
  ofRows 0 (lines.flatMap fun s => readRows 0 [] s.toList)

/-- The run that holds a code point; the runs are ascending. -/
def find? : List Run → Nat → Option Run
  | [], _ => none
  | r :: rs, n => if n < r.first then none else if n ≤ r.last then some r else find? rs n

/-- Whether some run holds a code point. -/
def holds (rs : List Run) (n : Nat) : Bool := (find? rs n).isSome

/-- The run that is found holds the code point. -/
theorem mem_of_find? {rs : List Run} {n : Nat} {r : Run} (h : find? rs n = some r) :
    r ∈ rs ∧ r.first ≤ n ∧ n ≤ r.last := by
  induction rs with
  | nil => simp [find?] at h
  | cons r' rs ih =>
    unfold find? at h
    split at h
    · simp at h
    · split at h
      · obtain rfl := Option.some.inj h
        exact ⟨by simp, by omega, by assumption⟩
      · exact ⟨by simp [(ih h).1], (ih h).2⟩

example : ofRows 0 (readRows 0 [] "41 19 2,7 0".toList) =
    [⟨0x41, 0x5A, [2]⟩, ⟨0x61, 0x61, []⟩] := by decide

end Run

end RuleSchema.Text
