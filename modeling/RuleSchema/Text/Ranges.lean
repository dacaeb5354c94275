/-!
# Sets of code points

A class of characters is stored as ascending, disjoint ranges of code points.  Membership walks
the ranges and stops at the first one that starts above the code point.
-/

namespace RuleSchema.Text

/-- Whether `n` lies in one of the ranges, which are ascending. -/
def inRanges : List (Nat × Nat) → Nat → Bool
  | [], _ => false
  | (lo, hi) :: rest, n => if n < lo then false else n ≤ hi || inRanges rest n

theorem inRanges_nil (n : Nat) : inRanges [] n = false := rfl

/-- A code point that the walk finds lies in some range. -/
theorem exists_of_inRanges {rs : List (Nat × Nat)} {n : Nat} (h : inRanges rs n = true) :
    ∃ r ∈ rs, r.1 ≤ n ∧ n ≤ r.2 := by
  induction rs with
  | nil => simp [inRanges] at h
  | cons r rest ih =>
    obtain ⟨lo, hi⟩ := r
    unfold inRanges at h
    split at h
    · simp at h
    · by_cases hn : n ≤ hi
      · exact ⟨(lo, hi), by simp, by simp; omega⟩
      · obtain ⟨r, hr, hb⟩ := ih (by simpa [hn] using h)
        exact ⟨r, by simp [hr], hb⟩

end RuleSchema.Text
