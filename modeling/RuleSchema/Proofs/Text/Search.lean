import Mathlib.Data.List.Chain
import RuleSchema.Text.Search

/-!
# Occurrences in texts

Where a text of two different characters does not occur, it is not replaced; and occurrences of it
do not overlap.  So a text is put together again from what stands between them, each replaced.

* `occursIn_iff`: a text is found in another just if it is a part of it.
* `Lacks x y s`: no `y` follows an `x` in `s`.
* `replaceAll_pair`: **the first occurrence is replaced**.
* `replaceAll_lacks`: without one nothing is.
-/

namespace RuleSchema.Text

/-- A text stands at the start of another. -/
theorem after?_isSome {p s : List Char} : (after? p s).isSome = true ↔ p <+: s := by
  rw [Option.isSome_iff_exists]
  constructor
  · rintro ⟨r, h⟩
    exact ⟨r, (append_of_after? h).symm⟩
  · rintro ⟨r, rfl⟩
    exact ⟨r, after?_append p r⟩

/-- **A text is found in another** just if it is a part of it. -/
theorem occursIn_iff {p : List Char} : ∀ {s : List Char}, occursIn p s = true ↔ p <:+: s := by
  intro s
  induction s with
  | nil => rw [occursIn, List.isEmpty_iff, List.infix_nil]
  | cons c s ih => rw [occursIn, Bool.or_eq_true, after?_isSome, ih, List.infix_cons_iff]

/-! ### Pairs of characters -/

/-- Nowhere in a text does `y` follow `x`. -/
def Lacks (x y : Char) (s : List Char) : Prop := s.IsChain fun c e => ¬ (c = x ∧ e = y)

instance (x y : Char) (s : List Char) : Decidable (Lacks x y s) :=
  inferInstanceAs (Decidable (s.IsChain _))

section

variable {x y : Char} {r s u v : List Char}

theorem lacks_of_not_infix (h : ¬ [x, y] <:+: s) : Lacks x y s := by
  induction s with
  | nil => exact .nil
  | cons c s ih =>
    have hs : Lacks x y s := ih fun hs => h (hs.trans (List.suffix_cons c s).isInfix)
    cases s with
    | nil => exact .singleton c
    | cons e s =>
      refine List.isChain_cons_cons.mpr ⟨?_, hs⟩
      rintro ⟨rfl, rfl⟩
      exact h (List.prefix_append [c, e] s).isInfix

/-- The pair is not made up where two texts meet if the first one does not end with `x`, or the
second one does not start with `y`. -/
theorem Lacks.append (hu : Lacks x y u) (hv : Lacks x y v)
    (h : u.getLast? ≠ some x ∨ v.head? ≠ some y) : Lacks x y (u ++ v) := by
  refine List.isChain_append.mpr ⟨hu, hv, fun c hc e he hpair => ?_⟩
  rcases h with h | h
  · exact h (hpair.1 ▸ hc)
  · exact h (hpair.2 ▸ he)

/-- Where the pair does not stand, a character is copied. -/
theorem go_cons {c : Char} (h : ¬ [x, y] <+: c :: s) :
    replaceAll.go [x, y] r 0 (c :: s) = c :: replaceAll.go [x, y] r 0 s := by
  rw [replaceAll.go, if_neg (mt after?_isSome.mp h)]

/-- **The first occurrence is replaced**, and what stands before it is kept. -/
theorem replaceAll_pair (hxy : x ≠ y) (hu : Lacks x y u) :
    replaceAll [x, y] r (u ++ x :: y :: v) = u ++ (r ++ replaceAll [x, y] r v) := by
  rw [replaceAll]
  induction u with
  | nil =>
    have hpair : [x, y] <+: x :: y :: v := List.prefix_append [x, y] v
    rw [List.nil_append, replaceAll.go, if_pos (after?_isSome.mpr hpair)]
    rfl
  | cons c u ih =>
    have hnot : ¬ [x, y] <+: c :: (u ++ x :: y :: v) := by
      intro h
      cases u with
      | nil =>
        obtain ⟨-, h⟩ := List.cons_prefix_cons.mp h
        exact hxy (List.cons_prefix_cons.mp h).1.symm
      | cons e u =>
        obtain ⟨hx, h⟩ := List.cons_prefix_cons.mp h
        exact (List.isChain_cons_cons.mp hu).1 ⟨hx.symm, (List.cons_prefix_cons.mp h).1.symm⟩
    rw [List.cons_append, go_cons hnot, ih hu.tail]
    rfl

/-- **Without an occurrence** nothing is replaced. -/
theorem replaceAll_lacks (hs : Lacks x y s) : replaceAll [x, y] r s = s := by
  rw [replaceAll]
  induction s with
  | nil => rfl
  | cons c s ih =>
    have hnot : ¬ [x, y] <+: c :: s := by
      intro h
      obtain ⟨hx, h⟩ := List.cons_prefix_cons.mp h
      obtain ⟨s, rfl⟩ := h
      exact (List.isChain_cons_cons.mp hs).1 ⟨hx.symm, rfl⟩
    rw [go_cons hnot, ih hs.tail]

end

end RuleSchema.Text
