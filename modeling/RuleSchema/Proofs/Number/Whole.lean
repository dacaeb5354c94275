import Mathlib.Algebra.Group.Nat.Defs
import RuleSchema.Compile.Scalar
import RuleSchema.Proofs.Number.Exact

/-!
# Whole numbers and the doubles next to them

Whether a number is whole is judged by the double nearest to it.  A whole number of a
document has one: rounding `n * 2 ^ 1074` units to 53 bits stays below the largest double
as long as `n` does, with some room for a carry.

The double nearest to a whole number is a whole number too: the number itself if it has at most 53
significant bits, and otherwise the nearest of those that have, the one with an even significand of
two nearest ones.  It is infinite from `2 ^ 1024` on.

* `ofInt?_isSome`: whole numbers up to `10 ^ 308` have a double.
* `isWhole_eq`: the judgement is that on the exact value.
* `roundedTo` is the nearest whole number of so many bits, and `roundedTo_nearest` says that none is
  nearer.
* `ofFraction_units`: **the value of the double nearest to a whole number.**
* `nearestDouble?` and `IsDouble`: the doubles among the whole numbers are those that are nearest to
  themselves.
-/

namespace RuleSchema

namespace Binary64

theorem roundQuotient_le (num den : Nat) : roundQuotient num den ≤ num / den + 1 := by
  unfold roundQuotient
  dsimp only
  repeat' split
  all_goals omega

theorem le_roundQuotient (num den : Nat) : num / den ≤ roundQuotient num den := by
  unfold roundQuotient
  dsimp only
  repeat' split
  all_goals omega

theorem pack_isFinite {negative : Bool} {s e : Nat} (hs : s < 1 <<< 53) (he : e ≤ 2045)
    (hnormal : e = 0 ∨ 1 <<< 52 ≤ s) : (pack negative s e).isFinite = true := by
  rw [pack, dif_pos ⟨hs, he, hnormal⟩]
  rfl

/-- The significand before rounding has 53 bits. -/
theorem quotient_bounds {scaled : Nat} (h : 1 <<< 52 ≤ scaled) :
    1 <<< 52 ≤ scaled / 1 <<< (scaled.log2 - 52) ∧
      scaled / 1 <<< (scaled.log2 - 52) < 1 <<< 53 := by
  simp only [Nat.one_shiftLeft] at h ⊢
  have hne : scaled ≠ 0 := by
    rintro rfl
    exact absurd h (by decide)
  have hlog : 52 ≤ scaled.log2 := (Nat.le_log2 hne).mpr h
  constructor
  · rw [Nat.le_div_iff_mul_le (Nat.two_pow_pos _), ← Nat.pow_add, Nat.add_sub_cancel' hlog]
    exact Nat.log2_self_le hne
  · rw [Nat.div_lt_iff_lt_mul (Nat.two_pow_pos _), ← Nat.pow_add]
    have hexp : 53 + (scaled.log2 - 52) = scaled.log2 + 1 := by omega
    rw [hexp]
    exact Nat.lt_log2_self

/-- What is below `3 * 2 ^ k` stays below that when both are scaled. -/
theorem scaled_lt {n k : Nat} (h : n < 3 <<< k) (j : Nat) : n <<< j < 3 <<< (k + j) := by
  rw [Nat.shiftLeft_add, Nat.shiftLeft_eq n, Nat.shiftLeft_eq (3 <<< k)]
  exact Nat.mul_lt_mul_of_pos_right h (Nat.two_pow_pos j)

theorem div_lt_of_scaled {n k c : Nat} (j : Nat) (h : n < c <<< (k + j)) :
    n / 1 <<< j < c <<< k := by
  rw [Nat.one_shiftLeft, Nat.div_lt_iff_lt_mul (Nat.two_pow_pos _), ← Nat.shiftLeft_eq,
    ← Nat.shiftLeft_add]
  exact h

theorem unitsPerOne_eq {k : Nat} (h : k = 1074) : unitsPerOne = 2 ^ k := by
  rw [← Nat.one_shiftLeft, h]
  rfl

/-- At least one is so many units that the quotient has all its bits. -/
theorem normal_of_pos {n : Nat} (hn : 0 < n) : 1 <<< 52 ≤ n * unitsPerOne := by
  have hone : 1 <<< 52 ≤ unitsPerOne := by
    obtain ⟨k, hk⟩ : ∃ k, k = 1074 := ⟨_, rfl⟩
    rw [Nat.one_shiftLeft, unitsPerOne_eq hk]
    exact Nat.pow_le_pow_right (by decide) (by omega)
  exact Nat.le_trans hone (Nat.le_mul_of_pos_left _ hn)

/-- **Whole numbers below `3 * 2 ^ 1022`** are rounded to a finite double. -/
theorem ofFraction_isFinite {negative : Bool} {n : Nat} (h : n < 3 <<< 1022) :
    (ofFraction negative n 1).isFinite = true := by
  rw [ofFraction, Nat.div_one]
  rcases Nat.eq_zero_or_pos n with rfl | hn
  · rw [Nat.zero_mul]
    rfl
  have hunits : n * unitsPerOne = n <<< 1074 := by
    rw [unitsPerOne, Nat.one_shiftLeft, Nat.shiftLeft_eq]
  have hlarge : n * unitsPerOne < 3 <<< 2096 := by
    rw [hunits]
    exact scaled_lt h 1074
  have hscaled := normal_of_pos hn
  generalize n * unitsPerOne = scaled at hlarge hscaled
  obtain ⟨hlow, hhigh⟩ := quotient_bounds hscaled
  have hpower : scaled < 1 <<< 2098 := Nat.lt_of_lt_of_le hlarge (by decide +kernel)
  have hne : scaled ≠ 0 := Nat.ne_of_gt (Nat.lt_of_lt_of_le (by decide) hscaled)
  have hlog : scaled.log2 < 2098 := (Nat.log2_lt hne).mpr (Nat.one_shiftLeft 2098 ▸ hpower)
  have hround := roundQuotient_le scaled (1 <<< (scaled.log2 - 52))
  have hround' := le_roundQuotient scaled (1 <<< (scaled.log2 - 52))
  split
  · next hcarry =>
    -- the greatest exponent leaves no carry, because the number is small enough there
    refine pack_isFinite (by decide) (Nat.not_lt.mp fun hmax => ?_) (.inr (Nat.le_refl _))
    have hexp : scaled.log2 - 52 = 2045 := by omega
    have hsmall : scaled / 1 <<< 2045 < 3 <<< 51 := div_lt_of_scaled 2045 hlarge
    rw [hcarry, hexp] at hround
    exact absurd (Nat.le_trans hround (Nat.succ_le_of_lt hsmall)) (by decide)
  · next hcarry => exact pack_isFinite (by omega) (by omega) (.inr (Nat.le_trans hlow hround'))

theorem readable_lt : Nat.pow 10 308 < 3 <<< 1022 := by decide +kernel

theorem unlessInfinite_isSome {x : Binary64} (h : x.isFinite = true) :
    (unlessInfinite x).isSome = true := by
  cases x with
  | infinite negative => cases h
  | nan => rfl
  | finite negative m => rfl

theorem ofInt?_isSome {n : Int} (h : n.natAbs ≤ Nat.pow 10 308) : (ofInt? n).isSome = true := by
  rw [ofInt?]
  exact unlessInfinite_isSome (ofFraction_isFinite (Nat.lt_of_le_of_lt h readable_lt))

end Binary64

/-- **A number is whole** if its exact value is integral, provided that a double lies next to it. -/
theorem isWhole_eq_of_double {n : Number}
    (hn : ∀ i, n = .int i → (Binary64.ofInt? i).isSome = true) : isWhole n = .ok n.isIntegral := by
  cases n with
  | int i => rw [isWhole, if_pos (hn i rfl), Number.int_isIntegral]
  | float x =>
    rw [isWhole, Binary64.wholeValue?, Number.isIntegral, Number.units?]
    cases x.units? with
    | none => rfl
    | some u =>
      by_cases h : u % unitsPerOne = 0
      · simp only [h]; rfl
      · simp only [if_neg h, beq_eq_false_iff_ne.mpr h]; rfl

/-- A number of a document is whole if its exact value is integral. -/
theorem isWhole_eq {n : Number} (hn : ∀ i, n = .int i → i.natAbs ≤ Nat.pow 10 308) :
    isWhole n = .ok n.isIntegral :=
  isWhole_eq_of_double fun i hi => Binary64.ofInt?_isSome (hn i hi)

/-! ### Rounding to a multiple -/

/-- The whole number with so many significant bits that is nearest to `n`. -/
def roundedTo (bits n : Nat) : Nat :=
  let unit := 2 ^ (n.log2 + 1 - bits)
  roundQuotient n unit * unit

section

variable {bits n s k num den : Nat}

/-- No multiple of the denominator is nearer than the one to which a quotient is rounded. -/
theorem roundQuotient_nearest (hden : 0 < den) (k : Nat) :
    ((num : Int) - (roundQuotient num den * den : Nat)).natAbs ≤
      ((num : Int) - (k * den : Nat)).natAbs := by
  have hsplit : num / den * den + num % den = num := Nat.div_add_mod' num den
  have hrest : num % den < den := Nat.mod_lt num hden
  have hnext : (num / den + 1) * den = num / den * den + den := Nat.succ_mul _ _
  have hk : k * den ≤ num / den * den ∨ (num / den + 1) * den ≤ k * den := by
    rcases Nat.lt_or_ge (num / den) k with h | h
    · exact .inr (Nat.mul_le_mul_right den h)
    · exact .inl (Nat.mul_le_mul_right den h)
  unfold roundQuotient
  dsimp only
  split
  · omega
  · split
    · omega
    · split <;> omega

/-- A quotient is rounded by its value alone. -/
theorem roundQuotient_scaled (num : Nat) {den k : Nat} (hk : 0 < k) :
    roundQuotient (num * k) (den * k) = roundQuotient num den := by
  have hless : 2 * (num % den * k) < den * k ↔ 2 * (num % den) < den := by
    rw [← Nat.mul_assoc, Nat.mul_lt_mul_right hk]
  have hgreater : den * k < 2 * (num % den * k) ↔ den < 2 * (num % den) := by
    rw [← Nat.mul_assoc, Nat.mul_lt_mul_right hk]
  rw [roundQuotient, roundQuotient, Nat.mul_div_mul_right _ _ hk, Nat.mul_mod_mul_right]
  simp only [hless, hgreater]

theorem roundQuotient_mul (q : Nat) (hden : 0 < den) : roundQuotient (q * den) den = q := by
  have hrest : 2 * (q * den % den) < den := by simpa using hden
  rw [roundQuotient, if_pos hrest, Nat.mul_div_cancel q hden]

/-- A number of few enough bits stays as it is. -/
theorem roundedTo_of_log2 (h : n.log2 < bits) : roundedTo bits n = n := by
  have hunit : n.log2 + 1 - bits = 0 := by omega
  rw [roundedTo, hunit]
  have hn : roundQuotient (n * 1) 1 = n := roundQuotient_mul n Nat.one_pos
  simpa using hn

/-- **No number of so many bits is nearer.** -/
theorem roundedTo_nearest (hbits : 0 < bits) (hs : s < 2 ^ bits) (k : Nat) :
    ((n : Int) - roundedTo bits n).natAbs ≤ ((n : Int) - (s * 2 ^ k : Nat)).natAbs := by
  rcases Nat.lt_or_ge n.log2 bits with hlog | hlog
  · rw [roundedTo_of_log2 hlog]
    simp
  · have hne : n ≠ 0 := by
      rintro rfl
      simp at hlog
      omega
    rw [roundedTo]
    generalize hu : n.log2 + 1 - bits = u
    have hpos : 0 < 2 ^ u := Nat.two_pow_pos u
    rcases Nat.lt_or_ge k u with hk | hk
    · -- such a number lies below the multiple of the unit next below, which is not nearer
      have hbelow : s * 2 ^ k ≤ n / 2 ^ u * 2 ^ u := by
        have hleast : 2 ^ (bits - 1) ≤ n / 2 ^ u := by
          rw [Nat.le_div_iff_mul_le hpos, ← Nat.pow_add]
          have hexp : bits - 1 + u = n.log2 := by omega
          rw [hexp]
          exact Nat.log2_self_le hne
        calc s * 2 ^ k ≤ 2 ^ bits * 2 ^ k := Nat.mul_le_mul_right _ (Nat.le_of_lt hs)
          _ = 2 ^ (bits + k) := (Nat.pow_add 2 bits k).symm
          _ ≤ 2 ^ (bits - 1 + u) := Nat.pow_le_pow_right (by omega) (by omega)
          _ = 2 ^ (bits - 1) * 2 ^ u := Nat.pow_add 2 (bits - 1) u
          _ ≤ n / 2 ^ u * 2 ^ u := Nat.mul_le_mul_right _ hleast
      have hself : n / 2 ^ u * 2 ^ u ≤ n := Nat.div_mul_le_self n _
      have hnearest : ((n : Int) - (roundQuotient n (2 ^ u) * 2 ^ u : Nat)).natAbs ≤
          ((n : Int) - (n / 2 ^ u * 2 ^ u : Nat)).natAbs := roundQuotient_nearest hpos _
      omega
    · have hmultiple : s * 2 ^ k = s * 2 ^ (k - u) * 2 ^ u := by
        rw [Nat.mul_assoc, ← Nat.pow_add, Nat.sub_add_cancel hk]
      rw [hmultiple]
      exact roundQuotient_nearest hpos _

/-- A number of so many bits is rounded to itself. -/
theorem roundedTo_eq_self (hbits : 0 < bits) (hs : s < 2 ^ bits) (hn : n = s * 2 ^ k) :
    roundedTo bits n = n := by
  have hnearest := roundedTo_nearest (n := n) hbits hs k
  rw [← hn] at hnearest
  omega

/-- Rounding does not fall below a power of two. -/
theorem le_roundedTo (hbits : 0 < bits) (h : 2 ^ k ≤ n) : 2 ^ k ≤ roundedTo bits n := by
  have hnearest := roundedTo_nearest (n := n) hbits (Nat.one_lt_two_pow (Nat.ne_of_gt hbits)) k
  omega

end

/-! ### The nearest double -/

namespace Binary64

/-- The least power of two that is greater than every double. -/
def overflowBound : Nat := 1 <<< 1024

theorem overflowBound_eq {k : Nat} (h : k = 1024) : overflowBound = 2 ^ k := by
  rw [← Nat.one_shiftLeft, h]
  rfl

theorem two_pow_lt_overflowBound {j : Nat} (h : j < 1024) : 2 ^ j < overflowBound := by
  obtain ⟨k, hk⟩ : ∃ k, k = 1024 := ⟨_, rfl⟩
  rw [overflowBound_eq hk]
  exact Nat.pow_lt_pow_right (by decide) (by omega)

theorem overflowBound_units {j k : Nat} (h : j + k = 2098) :
    overflowBound * unitsPerOne = 2 ^ j * 2 ^ k := by
  have hbound : overflowBound = 2 ^ (j + k - 1074) := overflowBound_eq (by omega)
  rw [hbound, unitsPerOne_eq rfl, ← pow_add, ← pow_add, Nat.sub_add_cancel (by omega)]

/-- The least value with an exponent that is too large. -/
theorem overflowBound_le_units {s e : Nat} (hs : 2 ^ 52 ≤ s) (he : 2045 < e) :
    overflowBound * unitsPerOne ≤ s * 2 ^ e := by
  obtain ⟨k, hk⟩ : ∃ k, 52 + k = 2098 := ⟨2046, rfl⟩
  rw [overflowBound_units hk]
  exact Nat.mul_le_mul hs (Nat.pow_le_pow_right (by omega) (by omega))

/-- Every value with an exponent that is not. -/
theorem units_lt_overflowBound {s e : Nat} (hs : s < 2 ^ 53) (he : e ≤ 2045) :
    s * 2 ^ e < overflowBound * unitsPerOne := by
  obtain ⟨k, hk⟩ : ∃ k, 53 + k = 2098 := ⟨2045, rfl⟩
  rw [overflowBound_units hk]
  calc s * 2 ^ e < 2 ^ 53 * 2 ^ e := Nat.mul_lt_mul_of_pos_right hs (Nat.two_pow_pos e)
    _ ≤ 2 ^ 53 * 2 ^ k := Nat.mul_le_mul_left _ (Nat.pow_le_pow_right (by omega) (by omega))

theorem overflowBound_le {n : Nat} (h : overflowBound ≤ n) : overflowBound ≤ roundedTo 53 n := by
  have hround : ∀ k, 1 <<< k ≤ n → 1 <<< k ≤ roundedTo 53 n := fun k hk => by
    rw [Nat.one_shiftLeft] at hk ⊢
    exact le_roundedTo (by omega) hk
  exact hround 1024 h

/-- A whole number with a sign. -/
def signed (negative : Bool) (n : Nat) : Int := if negative then -n else n

/-- What is packed has that value, unless the exponent is too large. -/
theorem pack_units {negative : Bool} {s e : Nat} (hs : s < 1 <<< 53) (he : e ≤ 2045)
    (hnormal : e = 0 ∨ 1 <<< 52 ≤ s) :
    (pack negative s e).units? = some (signed negative (s <<< e)) := by
  rw [pack, dif_pos ⟨hs, he, hnormal⟩]
  cases negative <;> rfl

theorem pack_infinite {negative : Bool} {s e : Nat} (he : 2045 < e) :
    pack negative s e = .infinite negative := by
  rw [pack, dif_neg fun h => Nat.not_lt.mpr h.2.1 he]

theorem log2_scaled {n : Nat} (hn : n ≠ 0) (k : Nat) : (n * 2 ^ k).log2 = n.log2 + k := by
  have hne : n * 2 ^ k ≠ 0 := Nat.mul_ne_zero hn (Nat.ne_of_gt (Nat.two_pow_pos k))
  rw [Nat.log2_eq_iff hne]
  constructor
  · rw [Nat.pow_add]
    exact Nat.mul_le_mul_right _ (Nat.log2_self_le hn)
  · rw [Nat.add_right_comm, Nat.pow_add]
    exact Nat.mul_lt_mul_of_pos_right Nat.lt_log2_self (Nat.two_pow_pos k)

theorem two_pow_units {j k : Nat} (h : j + 1074 = k) : 2 ^ k = 2 ^ j * unitsPerOne := by
  have hexp : k - j = 1074 := by omega
  rw [unitsPerOne_eq hexp, ← pow_add, Nat.add_sub_cancel' (by omega)]

theorem unitsPerOne_split {j k : Nat} (h : j + k = 1074) : unitsPerOne = 2 ^ j * 2 ^ k := by
  rw [unitsPerOne_eq h, pow_add]

/-- The significand to which a whole number of ones is rounded. -/
theorem roundQuotient_units {n : Nat} (hn : n ≠ 0) :
    roundQuotient (n * unitsPerOne) (1 <<< ((n * unitsPerOne).log2 - 52)) *
      2 ^ ((n * unitsPerOne).log2 - 52) = roundedTo 53 n * unitsPerOne := by
  have hlog : (n * unitsPerOne).log2 = n.log2 + 1074 := by
    rw [unitsPerOne_eq rfl]
    exact log2_scaled hn 1074
  rw [hlog, Nat.one_shiftLeft]
  rcases Nat.lt_or_ge n.log2 53 with hsmall | hlarge
  · -- the quotient is exact
    have hexp : n * unitsPerOne = n * 2 ^ (52 - n.log2) * 2 ^ (n.log2 + 1074 - 52) := by
      rw [unitsPerOne_split (j := 52 - n.log2) (k := n.log2 + 1074 - 52) (by omega), Nat.mul_assoc]
    rw [hexp, roundQuotient_mul _ (Nat.two_pow_pos _), roundedTo_of_log2 hsmall, ← hexp]
  · have hunit : 2 ^ (n.log2 + 1074 - 52) = 2 ^ (n.log2 + 1 - 53) * unitsPerOne :=
      two_pow_units (by omega)
    rw [hunit, roundQuotient_scaled n unitsPerOne_pos, roundedTo, Nat.mul_assoc]

/-- The significand and the exponent to which a whole number is rounded. -/
theorem ofFraction_eq_pack (negative : Bool) {n : Nat} (hn : n ≠ 0) :
    ∃ s e, ofFraction negative n 1 = pack negative s e ∧ 2 ^ 52 ≤ s ∧ s < 2 ^ 53 ∧
      s * 2 ^ e = roundedTo 53 n * unitsPerOne := by
  have hvalue := roundQuotient_units hn
  have hscaled := normal_of_pos (Nat.pos_of_ne_zero hn)
  rw [ofFraction, Nat.div_one]
  generalize n * unitsPerOne = scaled at hvalue hscaled ⊢
  obtain ⟨hlow, hhigh⟩ := quotient_bounds hscaled
  have hfloor := le_roundQuotient scaled (1 <<< (scaled.log2 - 52))
  have hceiling := roundQuotient_le scaled (1 <<< (scaled.log2 - 52))
  generalize roundQuotient scaled (1 <<< (scaled.log2 - 52)) = s at hvalue hfloor hceiling ⊢
  by_cases hcarry : s = 1 <<< 53
  · refine ⟨1 <<< 52, scaled.log2 - 52 + 1, if_pos hcarry, by simp, by simp, ?_⟩
    rw [← hvalue, hcarry, Nat.pow_succ, Nat.mul_comm _ 2, ← Nat.mul_assoc]
    rfl
  · exact ⟨s, scaled.log2 - 52, if_neg hcarry, by omega, by omega, hvalue⟩

/-- **The double nearest to a whole number** has its rounded value, if that is small enough. -/
theorem ofFraction_units (negative : Bool) {n : Nat} (h : roundedTo 53 n < overflowBound) :
    (ofFraction negative n 1).units? = some (signed negative (roundedTo 53 n) * unitsPerOne) := by
  rcases Nat.eq_zero_or_pos n with rfl | hn
  · rw [ofFraction, Nat.zero_mul, roundedTo_of_log2 (by decide)]
    cases negative <;> exact congrArg some (Int.zero_mul _).symm
  · obtain ⟨s, e, hpack, hlow, hhigh, hvalue⟩ := ofFraction_eq_pack negative (Nat.ne_of_gt hn)
    have hexp : e ≤ 2045 := by
      refine Nat.not_lt.mp fun hlarge => ?_
      have hleast := overflowBound_le_units hlow hlarge
      rw [hvalue] at hleast
      exact absurd h (Nat.not_lt.mpr (Nat.le_of_mul_le_mul_right hleast unitsPerOne_pos))
    rw [hpack, pack_units (by simpa using hhigh) hexp (.inr (by simpa using hlow)),
      Nat.shiftLeft_eq, hvalue]
    cases negative
    · rfl
    · simp only [signed, if_true]
      push_cast
      rw [Int.neg_mul]

/-- It is infinite if the rounded value is too large. -/
theorem ofFraction_infinite (negative : Bool) {n : Nat} (h : overflowBound ≤ roundedTo 53 n) :
    ofFraction negative n 1 = .infinite negative := by
  have hn : n ≠ 0 := by
    rintro rfl
    rw [roundedTo_of_log2 (by decide)] at h
    exact absurd (two_pow_lt_overflowBound (j := 0) (by decide)) (by omega)
  obtain ⟨s, e, hpack, hlow, hhigh, hvalue⟩ := ofFraction_eq_pack negative hn
  rw [hpack]
  refine pack_infinite (Nat.not_le.mp fun hexp => ?_)
  have hmost := units_lt_overflowBound hhigh hexp
  rw [hvalue] at hmost
  exact absurd (Nat.lt_of_mul_lt_mul_right hmost) (Nat.not_lt.mpr h)

/-! ### Whole numbers that are doubles -/

/-- The whole number that is the double nearest to `m`, unless that double is infinite. -/
def nearestDouble? (m : Int) : Option Int :=
  if roundedTo 53 m.natAbs < overflowBound then some (signed (m < 0) (roundedTo 53 m.natAbs))
  else none

/-- A whole number that is the exact value of some double. -/
def IsDouble (m : Int) : Prop := ∃ x : Binary64, x.units? = some (m * unitsPerOne)

variable {m n : Int}

/-- **Which whole numbers equal the nearest double.** -/
theorem ofFraction_equals (m n : Int) :
    (Number.float (ofFraction (m < 0) m.natAbs 1)).equals (.int n) = true ↔
      nearestDouble? m = some n := by
  rw [nearestDouble?]
  by_cases h : roundedTo 53 m.natAbs < overflowBound
  · have hone : (unitsPerOne : Int) ≠ 0 := Int.natCast_ne_zero.mpr (Nat.ne_of_gt unitsPerOne_pos)
    have hunits := ofFraction_units (m < 0) h
    rw [if_pos h, Number.equals_eq (a := .float _) hunits rfl, decide_eq_true_eq, Option.some_inj]
    exact Int.mul_eq_mul_right_iff hone
  · rw [if_neg h, ofFraction_infinite (m < 0) (Nat.not_lt.mp h)]
    refine iff_of_false ?_ (by simp)
    cases decide (m < 0) <;> exact Bool.false_ne_true

/-- The magnitude of a double that is a whole number. -/
theorem IsDouble.magnitude (h : IsDouble m) :
    ∃ d : Magnitude, d.significand * 2 ^ d.exponent = m.natAbs * unitsPerOne := by
  obtain ⟨x, hx⟩ := h
  cases x with
  | nan => cases hx
  | infinite negative => cases hx
  | finite negative d =>
    refine ⟨d, ?_⟩
    have hunits : d.units = (m * unitsPerOne).natAbs := by
      cases negative
      · have hpos := Option.some.inj hx
        omega
      · have hneg := Option.some.inj hx
        omega
    rw [← Nat.shiftLeft_eq, ← Int.natAbs_natCast unitsPerOne, ← Int.natAbs_mul]
    exact hunits

/-- Its value has at most 53 significant bits. -/
theorem IsDouble.bits (h : IsDouble m) : ∃ s k, s < 2 ^ 53 ∧ m.natAbs = s * 2 ^ k := by
  obtain ⟨d, hd⟩ := h.magnitude
  have hsignificand : d.significand < 2 ^ 53 := d.significand_lt
  rcases Nat.lt_or_ge d.exponent 1074 with hsmall | hlarge
  · -- the significand is a multiple of the number
    have hsplit : unitsPerOne = 2 ^ (1074 - d.exponent) * 2 ^ d.exponent :=
      unitsPerOne_split (Nat.sub_add_cancel (Nat.le_of_lt hsmall))
    rw [hsplit, ← Nat.mul_assoc] at hd
    have hmultiple : d.significand = m.natAbs * 2 ^ (1074 - d.exponent) :=
      Nat.eq_of_mul_eq_mul_right (Nat.two_pow_pos d.exponent) hd
    have hle : m.natAbs ≤ d.significand :=
      hmultiple ▸ Nat.le_mul_of_pos_right _ (Nat.two_pow_pos _)
    exact ⟨m.natAbs, 0, Nat.lt_of_le_of_lt hle hsignificand, (Nat.mul_one _).symm⟩
  · have hsplit : 2 ^ d.exponent = 2 ^ (d.exponent - 1074) * unitsPerOne :=
      two_pow_units (Nat.sub_add_cancel hlarge)
    rw [hsplit, ← Nat.mul_assoc] at hd
    exact ⟨d.significand, d.exponent - 1074, hsignificand,
      (Nat.eq_of_mul_eq_mul_right unitsPerOne_pos hd).symm⟩

theorem IsDouble.lt (h : IsDouble m) : m.natAbs < overflowBound := by
  obtain ⟨d, hd⟩ := h.magnitude
  have hmost := units_lt_overflowBound d.significand_lt d.exponent_le
  rw [hd] at hmost
  exact Nat.lt_of_mul_lt_mul_right hmost

theorem isDouble_of_nearest (h : nearestDouble? m = some n) : IsDouble n := by
  rw [nearestDouble?] at h
  split at h
  · next hsmall =>
    cases h
    exact ⟨_, ofFraction_units _ hsmall⟩
  · cases h

/-- **No double is nearer** than the one to which a whole number is rounded. -/
theorem nearestDouble?_nearest (h : nearestDouble? m = some n) {k : Int} (hk : IsDouble k) :
    (m - n).natAbs ≤ (m - k).natAbs := by
  obtain ⟨s, j, hs, hkbits⟩ := hk.bits
  have hnearest := roundedTo_nearest (n := m.natAbs) (by decide) hs j
  rw [← hkbits] at hnearest
  rw [nearestDouble?] at h
  split at h
  · cases h
    by_cases hm : m < 0
    · rw [decide_eq_true hm, signed, if_pos rfl]
      omega
    · rw [decide_eq_false hm, signed, if_neg Bool.false_ne_true]
      omega
  · cases h

theorem signed_natAbs (m : Int) : signed (m < 0) m.natAbs = m := by
  by_cases hm : m < 0
  · rw [decide_eq_true hm, signed, if_pos rfl]
    omega
  · rw [decide_eq_false hm, signed, if_neg Bool.false_ne_true]
    omega

theorem nearestDouble?_of_bits {s k : Nat} (hs : s < 2 ^ 53) (hm : m.natAbs = s * 2 ^ k)
    (h : m.natAbs < overflowBound) : nearestDouble? m = some m := by
  rw [nearestDouble?, roundedTo_eq_self (by decide) hs hm, if_pos h, signed_natAbs]

/-- A whole number is a double just if it is the double nearest to itself. -/
theorem isDouble_iff : IsDouble m ↔ nearestDouble? m = some m := by
  constructor
  · intro h
    obtain ⟨s, k, hs, hm⟩ := h.bits
    exact nearestDouble?_of_bits hs hm h.lt
  · exact isDouble_of_nearest

/-- Whole numbers up to `2 ^ 53` are doubles. -/
theorem isDouble_of_le (h : m.natAbs ≤ 2 ^ 53) : IsDouble m := by
  refine isDouble_iff.mpr ?_
  have hbound : m.natAbs < overflowBound :=
    Nat.lt_of_le_of_lt h (two_pow_lt_overflowBound (by decide))
  rcases Nat.lt_or_eq_of_le h with h | h
  · exact nearestDouble?_of_bits (k := 0) h (Nat.mul_one _).symm hbound
  · exact nearestDouble?_of_bits (s := 1) (k := 53) (by decide) h hbound

end Binary64

end RuleSchema
