/-!
# Searching texts

Finding, cutting and replacing a text inside another, over lists of characters.
-/

namespace RuleSchema.Text

/-- What follows `p` in a text that starts with it. -/
def after? : List Char → List Char → Option (List Char)
  | [], s => some s
  | _ :: _, [] => none
  | p :: ps, c :: s => if p = c then after? ps s else none

/-- Whether `p` occurs in a text. -/
def occursIn (p : List Char) : List Char → Bool
  | [] => p.isEmpty
  | c :: s => (after? p (c :: s)).isSome || occursIn p s

/-- The pieces of a text between the characters `sep`. -/
def splitOn (sep : Char) : List Char → List (List Char)
  | [] => [[]]
  | c :: s =>
    if c = sep then [] :: splitOn sep s
    else match splitOn sep s with
      | [] => [[c]]
      | piece :: pieces => (c :: piece) :: pieces

/-- A text cut at the first `sep`: what stands before it and, if it occurs, what follows. -/
def cutAt (sep : Char) : List Char → List Char × Option (List Char)
  | [] => ([], none)
  | c :: s =>
    if c = sep then ([], some s)
    else
      let (before, rest) := cutAt sep s
      (c :: before, rest)

/-- A text with every occurrence of the non-empty `p`, from the left, replaced by `r`. -/
def replaceAll (p r : List Char) : List Char → List Char := go 0
where
  /-- Copies the text, leaving out the next `skip` characters. -/
  go : Nat → List Char → List Char
    | _, [] => []
    | skip + 1, _ :: s => go skip s
    | 0, c :: s => if (after? p (c :: s)).isSome then r ++ go (p.length - 1) s else c :: go 0 s

/-- Texts joined by a separator. -/
def joinWith (sep : String) (parts : List String) : String := sep.intercalate parts

theorem after?_append (p s : List Char) : after? p (p ++ s) = some s := by
  induction p with
  | nil => rfl
  | cons c p ih => simp [after?, ih]

theorem append_of_after? {p s r : List Char} (h : after? p s = some r) : s = p ++ r := by
  induction p generalizing s with
  | nil => simpa [after?] using h
  | cons c p ih =>
    cases s with
    | nil => simp [after?] at h
    | cons d s =>
      simp only [after?] at h
      split at h
      · next hcd => subst hcd; simp [ih h]
      · simp at h

theorem splitOn_ne_nil (sep : Char) (s : List Char) : splitOn sep s ≠ [] := by
  induction s with
  | nil => simp [splitOn]
  | cons c s ih =>
    simp only [splitOn]
    split
    · simp
    · split <;> simp

end RuleSchema.Text
