import RuleSchema.Number.Numeral
import RuleSchema.Proofs.Number.Whole
import RuleSchema.Proofs.Pattern.Languages

/-!
# Digits and numerals

Every digit has a value below ten.  The digits of ASCII are the first ones in the table of digits,
and no two of them have the same value.  The decimal numeral of a whole number is made of them, and
is read as the double nearest to the number, however many digits it has.

* `digitValue?_lt` and `digitValue?_ascii`: the values of digits.
* `trim_padded`: blanks around a text.
* `ofUnsigned?_digits`: a text of digits is a numeral without point and exponent.
* `ofDecimal_whole`: the answer from the size alone, for too many digits, is the right one.
* `readFloat?_numeral`: **what the numeral of a whole number is read as.**
-/

namespace RuleSchema

namespace Text

/-! ### Digits -/

section

open Pattern

variable {c d : Char} {n : Nat}

theorem digitValue?_lt (h : digitValue? c = some n) : n < 10 := by
  obtain ⟨z, hz, rfl⟩ := Option.map_eq_some_iff.mp h
  have hc := List.find?_some hz
  simp only [Bool.and_eq_true, decide_eq_true_eq] at hc
  omega

/-- The value of a digit of ASCII is its distance from zero. -/
theorem digitValue?_ascii (h : c.isDigit = true) : digitValue? c = some (c.toNat - 48) := by
  obtain ⟨hfirst, hlast⟩ := isDigit_iff.mp h
  have hzero : (48 ≤ c.toNat && c.toNat < 48 + 10) = true := by simp; omega
  rw [digitValue?, zeroDigits, List.find?_cons, hzero]
  rfl

theorem isDigit_of_ascii (h : c.isDigit = true) : isDigit c = true := by
  rw [isDigit, digitValue?_ascii h]
  rfl

/-- Different digits of ASCII have different values. -/
theorem ascii_value_ne (hc : c.isDigit = true) (hd : d.isDigit = true) (h : c ≠ d) :
    c.toNat - 48 ≠ d.toNat - 48 := by
  obtain ⟨hc, -⟩ := isDigit_iff.mp hc
  obtain ⟨hd, -⟩ := isDigit_iff.mp hd
  have hne : c.toNat ≠ d.toNat := fun heq => h (Char.toNat_inj.mp heq)
  omega

/-- Which digit of ASCII has a value. -/
theorem ascii_value_eq_iff (hc : c.isDigit = true) (hd : d.isDigit = true) :
    c.toNat - 48 = d.toNat - 48 ↔ c = d :=
  ⟨fun h => by_contra fun hne => ascii_value_ne hc hd hne h, fun h => h ▸ rfl⟩

end

/-! ### Blanks around a text -/

section

variable {p q s : List Char}

/-- Trimming takes the blanks around a text away, and nothing else. -/
theorem trim_padded (hp : ∀ c ∈ p, isBlank c = true) (hq : ∀ c ∈ q, isBlank c = true)
    (hs : ∀ c ∈ s, isBlank c = false) : (trim (String.ofList (p ++ s ++ q))).toList = s := by
  have hself : ∀ {t : List Char}, (∀ c ∈ t, isBlank c = false) → t.dropWhile isBlank = t := by
    intro t ht
    cases t with
    | nil => rfl
    | cons c t => exact List.dropWhile_cons_of_neg (by simp [ht c List.mem_cons_self])
  rw [trim, trimEnd_toList, trimStart_toList, String.toList_ofList, List.append_assoc,
    List.dropWhile_append_of_pos hp]
  cases s with
  | nil =>
    have hnone : (q ++ []).dropWhile isBlank = [].dropWhile isBlank :=
      List.dropWhile_append_of_pos hq
    rw [List.append_nil] at hnone
    rw [List.nil_append, hnone]
    rfl
  | cons c s =>
    have hfirst : ((c :: s) ++ q).dropWhile isBlank = (c :: s) ++ q :=
      List.dropWhile_cons_of_neg (by simp [hs c List.mem_cons_self])
    have hrest : ((c :: s).reverse).dropWhile isBlank = (c :: s).reverse :=
      hself fun d hd => hs d (List.mem_reverse.mp hd)
    rw [hfirst, List.reverse_append, List.dropWhile_append_of_pos, hrest, List.reverse_reverse]
    exact fun d hd => hq d (List.mem_reverse.mp hd)

theorem trim_eq_self {s : String} (hs : ∀ c ∈ s.toList, isBlank c = false) : trim s = s := by
  have hpadded := trim_padded (p := []) (q := []) (by simp) (by simp) hs
  rw [List.nil_append, List.append_nil, String.ofList_toList] at hpadded
  exact String.toList_inj.mp hpadded

theorem not_blank_of_digit {c : Char} (h : c.isDigit = true) : isBlank c = false := by
  obtain ⟨hfirst, hlast⟩ := Pattern.isDigit_iff.mp h
  simp [isBlank]
  omega

end

end Text

namespace Numeral

section

variable {s : List Char} {negative : Bool}

/-- The digits that write a number. -/
theorem digitsValue_toDigits (n : Nat) :
    digitsValue ((Nat.toDigits 10 n).map fun c => c.toNat - 48) = n := by
  rw [digitsValue, List.foldl_map]
  exact Nat.ofDigitChars_eq_foldl.symm.trans Nat.ofDigitChars_ten_toDigits

theorem takeDigits_all {value? : Char → Option Nat} {value : Char → Nat}
    (h : ∀ c ∈ s, value? c = some (value c)) : takeDigits value? s = (s.map value, []) := by
  induction s with
  | nil => rfl
  | cons c s ih =>
    rw [takeDigits, h c List.mem_cons_self, ih fun d hd => h d (List.mem_cons_of_mem c hd)]
    rfl

/-- A text of digits is a numeral without point and exponent. -/
theorem ofUnsigned?_digits (hs : ∀ c ∈ s, c.isDigit = true) (hne : s ≠ []) :
    ofUnsigned? Text.digitValue? negative s =
      some ⟨negative, s.map fun c => c.toNat - 48, [], 0⟩ := by
  have hall : takeDigits Text.digitValue? s = (s.map fun c => c.toNat - 48, []) :=
    takeDigits_all fun c hc => Text.digitValue?_ascii (hs c hc)
  rw [ofUnsigned?, hall]
  cases s with
  | nil => exact absurd rfl hne
  | cons c s => rfl

/-- A text without underscores is grouped properly. -/
theorem groupedProperly_of_not_mem {digit : Char → Bool} {before : Bool} (h : '_' ∉ s) :
    groupedProperly digit before s = true := by
  fun_induction groupedProperly digit before s with
  | case1 => rfl
  | case2 => exact absurd List.mem_cons_self h
  | case3 => exact absurd List.mem_cons_self h
  | case4 _ c s _ _ ih => exact ih fun hmem => h (List.mem_cons_of_mem c hmem)

/-- A text of digits names no special value. -/
theorem special?_digits (hs : ∀ c ∈ s, c.isDigit = true) :
    special? negative (asciiLower s) = none := by
  have hlower : asciiLower s = String.ofList s := by
    have hself : ∀ c ∈ s, c.toLower = id c := by
      intro c hc
      obtain ⟨hfirst, hlast⟩ := Pattern.isDigit_iff.mp (hs c hc)
      refine dif_neg fun hupper => ?_
      have hletter : 65 ≤ c.toNat := hupper.1
      omega
    rw [asciiLower, List.map_congr_left hself, List.map_id]
  have hne : ∀ t : String, (∃ c ∈ t.toList, c.isDigit = false) → asciiLower s ≠ t := by
    rintro t ⟨c, hc, hdigit⟩ rfl
    rw [hlower, String.toList_ofList] at hc
    exact absurd (hs c hc) (by simp [hdigit])
  have hinf := hne "inf" ⟨'i', by decide⟩
  have hinfinity := hne "infinity" ⟨'i', by decide⟩
  have hnan := hne "nan" ⟨'n', by decide⟩
  simp [special?, hinf, hinfinity, hnan]

theorem takeSign_digits (hs : ∀ c ∈ s, c.isDigit = true) : takeSign s = (false, s) := by
  unfold takeSign
  split
  · exact absurd (hs _ List.mem_cons_self) (by decide)
  · exact absurd (hs _ List.mem_cons_self) (by decide)
  · rfl

end

/-! ### Numerals of whole numbers -/

/-- The numeral of a whole number: its digits, after a sign if it is negative. -/
theorem int_toList (m : Int) : (toString m).toList =
    if m < 0 then '-' :: Nat.toDigits 10 m.natAbs else Nat.toDigits 10 m.natAbs := by
  rw [Int.toString_eq_repr, Int.repr_eq_if]
  by_cases hm : m < 0
  · have habs : (-m).toNat = m.natAbs := by omega
    rw [if_neg (by omega), if_pos hm, habs, Nat.repr_eq_ofList_toDigits, String.toList_append,
      String.toList_ofList, String.toList_ofList]
    rfl
  · have habs : m.toNat = m.natAbs := by omega
    rw [if_pos (by omega), if_neg hm, habs, Nat.repr_eq_ofList_toDigits, String.toList_ofList]

theorem toDigits_digit (n : Nat) : ∀ c ∈ Nat.toDigits 10 n, c.isDigit = true :=
  fun _ hc => Nat.isDigit_of_mem_toDigits (by omega) (by omega) hc

/-- With too many digits a number is past every double. -/
theorem ofDecimal_whole (negative : Bool) (n : Nat) :
    Binary64.ofDecimal negative n 0 = Binary64.ofFraction negative n 1 := by
  rw [Binary64.ofDecimal]
  by_cases hzero : n = 0
  · rw [if_pos hzero, hzero]
    rfl
  · rw [if_neg hzero]
    by_cases hlarge : (0 : Int) + Binary64.digitCount n > 310
    · have hdigits : ¬ (Nat.toDigits 10 n).length ≤ 310 := by
        rw [Binary64.digitCount] at hlarge
        omega
      rw [Nat.length_toDigits_le_iff (by omega) (by omega)] at hdigits
      have hbound : Binary64.overflowBound ≤ n :=
        Nat.le_trans (by decide +kernel) (Nat.not_lt.mp hdigits)
      rw [if_pos hlarge, Binary64.ofFraction_infinite _ (Binary64.overflowBound_le hbound)]
    · rw [if_neg hlarge, if_neg (by omega), if_pos (Int.le_refl 0)]
      exact congrArg (Binary64.ofFraction negative · 1) (Nat.mul_one n)

/-- The digits of a number, after a sign. -/
theorem read_toDigits (negative : Bool) (n : Nat) :
    (ofUnsigned? Text.digitValue? negative (Nat.toDigits 10 n)).map toBinary64 =
      some (Binary64.ofFraction negative n 1) := by
  rw [ofUnsigned?_digits (toDigits_digit n) Nat.toDigits_ne_nil, Option.map_some, toBinary64,
    List.append_nil, digitsValue_toDigits]
  exact congrArg some (ofDecimal_whole negative n)

theorem int_chars (m : Int) : ∀ c ∈ (toString m).toList, c = '-' ∨ c.isDigit = true := by
  rw [int_toList]
  split
  · exact List.forall_mem_cons.mpr ⟨.inl rfl, fun c hc => .inr (toDigits_digit _ c hc)⟩
  · exact fun c hc => .inr (toDigits_digit _ c hc)

theorem int_not_blank (m : Int) : ∀ c ∈ (toString m).toList, Text.isBlank c = false := by
  intro c hc
  rcases int_chars m c hc with rfl | hc
  · decide
  · exact Text.not_blank_of_digit hc

/-- **The numeral of a whole number** is read as the double nearest to the number. -/
theorem readFloat?_numeral (m : Int) :
    readFloat? (toString m) = some (Binary64.ofFraction (m < 0) m.natAbs 1) := by
  have hdigits := toDigits_digit m.natAbs
  have hunderscore : ∀ c ∈ (toString m).toList, c ≠ '_' := by
    intro c hc
    rcases int_chars m c hc with rfl | hc
    · decide
    · rintro rfl
      cases hc
  have hgrouped : groupedProperly Text.isDigit false (toString m).toList = true :=
    groupedProperly_of_not_mem fun hmem => hunderscore _ hmem rfl
  have hfilter : (toString m).toList.filter (· ≠ '_') = (toString m).toList :=
    List.filter_eq_self.mpr fun c hc => by simpa using hunderscore c hc
  have hsign : takeSign (toString m).toList = (decide (m < 0), Nat.toDigits 10 m.natAbs) := by
    rw [int_toList]
    by_cases hm : m < 0
    · rw [if_pos hm, decide_eq_true hm]
      rfl
    · rw [if_neg hm, decide_eq_false hm, takeSign_digits hdigits]
  simp only [readFloat?, Text.trim_eq_self (int_not_blank m), hgrouped, hfilter, hsign,
    special?_digits hdigits, read_toDigits]
  rfl

end Numeral

end RuleSchema
