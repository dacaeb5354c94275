import Mathlib.Data.Nat.Bits
import RuleSchema.Proofs.Number.Numerals
import RuleSchema.Proofs.Validator.Texts

/-!
# What the checksum detects

The digits of a numeral are weighed from the right, and what a digit adds to the sum depends on the
number of digits after it and on nothing else.  Doubling permutes the ten digits, so a digit that is
mistaken for another one changes the sum by less than ten, and not by nothing.  Two neighbours that
change places change it by a multiple of ten only if they are equal, or 0 and 9, which doubling
leaves alone.

* `luhnSum_append`: digits and more digits to the left of them.
* `luhnTotal_digit`: what one digit adds to the sum of a text.
* `luhn_mistaken` and `luhn_swapped`: a mistaken digit, and two that change places.
* `luhn_detects`: **what the checksum detects.**
-/

namespace RuleSchema

namespace Text

/-! ### Weights -/

/-- What a digit adds to the sum. -/
def luhnWeight (doubled : Bool) (d : Nat) : Nat := if doubled then doubledDigit d else d

section

variable {b : Bool} {m n : Nat}

theorem luhnWeight_lt (hn : n < 10) : luhnWeight b n < 10 := by
  cases b
  · exact hn
  · change doubledDigit n < 10
    unfold doubledDigit
    split <;> omega

/-- Doubling permutes the digits. -/
theorem luhnWeight_ne (hm : m < 10) (hn : n < 10) (h : m ≠ n) :
    luhnWeight b m ≠ luhnWeight b n := by
  cases b
  · exact h
  · change doubledDigit m ≠ doubledDigit n
    unfold doubledDigit
    split <;> split <;> omega

/-- Two digits weigh the same in either order, up to tens, only if they are equal, or 0 and 9. -/
theorem luhnWeight_swap (hm : m < 10) (hn : n < 10) :
    (luhnWeight b m + luhnWeight (!b) n) % 10 = (luhnWeight b n + luhnWeight (!b) m) % 10 ↔
      m = n ∨ m = 0 ∧ n = 9 ∨ m = 9 ∧ n = 0 := by
  have hdouble : ∀ k : Nat,
      k < 5 ∧ doubledDigit k = 2 * k ∨ 5 ≤ k ∧ doubledDigit k = 2 * k - 9 := by
    intro k
    unfold doubledDigit
    split <;> omega
  have hfirst := hdouble m
  have hsecond := hdouble n
  cases b
  · change (m + doubledDigit n) % 10 = (n + doubledDigit m) % 10 ↔ _
    omega
  · change (doubledDigit m + n) % 10 = (doubledDigit n + m) % 10 ↔ _
    omega

end

/-! ### Sums -/

section

variable {b : Bool} {u v : List Char} {c d : Char} {m n : Nat}

theorem luhnSum_cons (n : Nat) (ds : List Nat) :
    luhnSum b (n :: ds) = luhnWeight b n + luhnSum (!b) ds := rfl

/-- **Digits to the left** of others are weighed according to the number of those. -/
theorem luhnSum_append (ds es : List Nat) :
    luhnSum b (ds ++ es) = luhnSum b ds + luhnSum (b ^^ ds.length.bodd) es := by
  induction ds generalizing b with
  | nil => simp [luhnSum]
  | cons n ds ih =>
    rw [List.cons_append, luhnSum_cons, luhnSum_cons, ih, List.length_cons, Nat.bodd_succ,
      Nat.add_assoc]
    congr 2
    cases b <;> cases ds.length.bodd <;> rfl

/-- Zeros add nothing. -/
theorem luhnSum_zeros (k : Nat) : luhnSum b (List.replicate k 0) = 0 := by
  induction k generalizing b with
  | zero => rfl
  | succ k ih =>
    have hzero : luhnWeight b 0 = 0 := by cases b <;> rfl
    rw [List.replicate_succ, luhnSum_cons, ih, hzero]

/-- The sum of the digits of a text. -/
def luhnTotal (s : List Char) : Nat := luhnSum false (digitsOf s).reverse

theorem luhnValid_iff {s : String} :
    luhnValid s = true ↔ luhnTotal s.toList % 10 = 0 ∧ 0 < luhnTotal s.toList := by
  change (luhnTotal s.toList % 10 == 0 && decide (0 < luhnTotal s.toList)) = true ↔ _
  simp

theorem digitsOf_cons (hc : digitValue? c = some n) : digitsOf (c :: v) = n :: digitsOf v :=
  List.filterMap_cons_some hc

theorem digitsOf_append (u v : List Char) : digitsOf (u ++ v) = digitsOf u ++ digitsOf v :=
  List.filterMap_append

/-- The digits of a text are those of its digits alone. -/
theorem digitsOf_filter (s : List Char) : digitsOf (s.filter isDigit) = digitsOf s := by
  induction s with
  | nil => rfl
  | cons c s ih =>
    rw [List.filter_cons, isDigit]
    cases hc : digitValue? c with
    | none =>
      rw [Option.isSome_none, if_neg Bool.false_ne_true, ih]
      exact (List.filterMap_cons_none hc).symm
    | some n =>
      rw [Option.isSome_some, if_pos rfl, digitsOf_cons hc, digitsOf_cons hc, ih]

/-- Whether the digit before a text is doubled. -/
def doublesBefore (v : List Char) : Bool := (digitsOf v).length.bodd

/-- **What one digit adds.**  Neither what is before it nor what is after it depends on it. -/
theorem luhnTotal_digit (u : List Char) (hc : digitValue? c = some n) :
    luhnTotal (u ++ c :: v) = luhnTotal v + luhnWeight (doublesBefore v) n +
      luhnSum (!doublesBefore v) (digitsOf u).reverse := by
  have hdigits : (digitsOf (u ++ c :: v)).reverse
      = (digitsOf v).reverse ++ n :: (digitsOf u).reverse := by
    rw [digitsOf_append, digitsOf_cons hc]
    simp
  rw [luhnTotal, hdigits, luhnSum_append, luhnSum_cons, List.length_reverse, Bool.false_xor,
    ← Nat.add_assoc]
  rfl

/-- What two digits that are neighbours add. -/
theorem luhnTotal_digits (u : List Char) (hc : digitValue? c = some m)
    (hd : digitValue? d = some n) :
    luhnTotal (u ++ c :: d :: v) = luhnTotal v + luhnWeight (doublesBefore v) n +
      luhnWeight (!doublesBefore v) m + luhnSum (doublesBefore v) (digitsOf u).reverse := by
  have hbefore : doublesBefore (d :: v) = !doublesBefore v := by
    rw [doublesBefore, digitsOf_cons hd, List.length_cons, Nat.bodd_succ]
    rfl
  have hlast : luhnTotal (d :: v) = luhnTotal v + luhnWeight (doublesBefore v) n :=
    luhnTotal_digit [] hd
  rw [luhnTotal_digit u hc, hbefore, hlast, Bool.not_not]

/-! ### Mistakes -/

/-- **A mistaken digit**: no two texts that differ in the value of one digit are both accepted. -/
theorem luhn_mistaken {s t : String} (hs : s.toList = u ++ c :: v) (ht : t.toList = u ++ d :: v)
    (hc : digitValue? c = some m) (hd : digitValue? d = some n) (hne : m ≠ n)
    (h : luhnValid s = true) : luhnValid t = false := by
  have hm := luhnWeight_lt (b := doublesBefore v) (digitValue?_lt hc)
  have hn := luhnWeight_lt (b := doublesBefore v) (digitValue?_lt hd)
  have hweight := luhnWeight_ne (b := doublesBefore v) (digitValue?_lt hc) (digitValue?_lt hd) hne
  rw [← Bool.not_eq_true]
  intro h'
  rw [luhnValid_iff, hs, luhnTotal_digit u hc] at h
  rw [luhnValid_iff, ht, luhnTotal_digit u hd] at h'
  omega

/-- **Two neighbours that change places**: both texts are accepted only if the digits have one
value, or are 0 and 9. -/
theorem luhn_swapped {s t : String} (hs : s.toList = u ++ c :: d :: v)
    (ht : t.toList = u ++ d :: c :: v) (hc : digitValue? c = some m) (hd : digitValue? d = some n)
    (h : luhnValid s = true) :
    luhnValid t = true ↔ m = n ∨ m = 0 ∧ n = 9 ∨ m = 9 ∧ n = 0 := by
  have hswap := luhnWeight_swap (b := doublesBefore v) (digitValue?_lt hc) (digitValue?_lt hd)
  rw [luhnValid_iff, hs, luhnTotal_digits u hc hd] at h
  rw [luhnValid_iff, ht, luhnTotal_digits u hd hc, ← hswap]
  constructor
  · intro h'
    omega
  · intro heq
    -- a sum of nothing would have to come from zeros alone, and these weigh nothing anywhere
    have hzero : ∀ k : Nat, k < 10 → ∀ b, luhnWeight b k = 0 → k = 0 := by
      intro k hk b hweight
      by_contra hne
      refine luhnWeight_ne (b := b) hk (by omega) hne (hweight.trans ?_)
      cases b <;> rfl
    have hm := hzero m (digitValue?_lt hc) (doublesBefore v)
    have hn := hzero n (digitValue?_lt hd) (!doublesBefore v)
    have hnothing : ∀ b, luhnWeight b 0 = 0 := fun b => by cases b <;> rfl
    refine ⟨by omega, Nat.pos_of_ne_zero fun hsum => ?_⟩
    have hm := hm (by omega)
    have hn := hn (by omega)
    subst hm hn
    rw [hnothing, hnothing] at h
    omega

/-- Zeros in front change nothing. -/
theorem luhnTotal_zeros (k : Nat) (s : List Char) :
    luhnTotal (List.replicate k '0' ++ s) = luhnTotal s := by
  have hzeros : digitsOf (List.replicate k '0') = List.replicate k 0 := by
    induction k with
    | zero => rfl
    | succ k ih => rw [List.replicate_succ, List.replicate_succ, digitsOf_cons (n := 0) rfl, ih]
  rw [luhnTotal, digitsOf_append, hzeros, List.reverse_append, List.reverse_replicate,
    luhnSum_append, luhnSum_zeros]
  rfl

end

end Text

/-! ### The rule -/

/-- The check of a numeral with a checksum. -/
def luhnCheck : Check where
  name := "luhn.checksum"
  test := onText Text.luhnValid
  message := "Value fails the Luhn checksum"

open Text

/-- **What the checksum detects.**  It depends on the digits of a text alone.  In an accepted
numeral of digits of ASCII no single digit can be mistaken for another one, and no two different
neighbours can change places but 0 and 9; zeros in front change nothing.  A rule for such numerals
accepts the texts that pass, and rejects all others. -/
theorem luhn_detects :
    (∀ s : String, luhnValid s = luhnValid (String.ofList (s.toList.filter isDigit))) ∧
    (∀ s t : String, s.toList.filter isDigit = t.toList.filter isDigit →
      luhnValid s = luhnValid t) ∧
    (∀ s : String, (∀ c ∈ s.toList, c.isDigit = true) → luhnValid s = true →
      (∀ (u v : List Char) (c d : Char), s.toList = u ++ c :: v → d.isDigit = true → d ≠ c →
        luhnValid (String.ofList (u ++ d :: v)) = false) ∧
      (∀ (u v : List Char) (c d : Char), s.toList = u ++ c :: d :: v → c ≠ d →
        (luhnValid (String.ofList (u ++ d :: c :: v)) = false ↔
          ¬ (c = '0' ∧ d = '9' ∨ c = '9' ∧ d = '0'))) ∧
      ∀ k : Nat, luhnValid (String.ofList (List.replicate k '0' ++ s.toList)) = true) ∧
    ∀ (c : CommonOptions) (ctx : Strictness) (d : Validator), (Rule.luhn c).CompilesTo ctx d →
      ∀ s : String, (d.validate (.text s)).GivesIf (.text s) (luhnValid s = true) := by
  have hdigits : ∀ s t : String, digitsOf s.toList = digitsOf t.toList →
      luhnValid s = luhnValid t := fun s t h => by rw [luhnValid, luhnValid, h]
  refine ⟨fun s => hdigits _ _ ?alone, fun s t h => hdigits _ _ ?same,
    fun s hs hvalid => ⟨?mistaken, ?swapped, ?zeros⟩, fun c ctx d hd s => ?rule⟩
  case alone => rw [String.toList_ofList, digitsOf_filter]
  case same => rw [← digitsOf_filter, h, digitsOf_filter]
  case mistaken =>
    intro u v c d hsplit hd hne
    have hc : c.isDigit = true := hs c (by simp [hsplit])
    exact luhn_mistaken hsplit String.toList_ofList (digitValue?_ascii hc) (digitValue?_ascii hd)
      (ascii_value_ne hc hd hne.symm) hvalid
  case swapped =>
    intro u v c d hsplit hne
    have hc : c.isDigit = true := hs c (by simp [hsplit])
    have hd : d.isDigit = true := hs d (by simp [hsplit])
    have hvalue := luhn_swapped hsplit String.toList_ofList (digitValue?_ascii hc)
      (digitValue?_ascii hd) hvalid
    have hzero : ∀ e : Char, e.isDigit = true → (e.toNat - 48 = 0 ↔ e = '0') :=
      fun e he => ascii_value_eq_iff (d := '0') he rfl
    have hnine : ∀ e : Char, e.isDigit = true → (e.toNat - 48 = 9 ↔ e = '9') :=
      fun e he => ascii_value_eq_iff (d := '9') he rfl
    rw [ascii_value_eq_iff hc hd, hzero c hc, hzero d hd, hnine c hc, hnine d hd, or_iff_right hne]
      at hvalue
    rw [← Bool.not_eq_true, hvalue]
  case zeros =>
    intro k
    rw [luhnValid_iff, String.toList_ofList, luhnTotal_zeros]
    exact luhnValid_iff.mp hvalid
  case rule =>
    have hstages (path) : scalarStages (.luhn c) path =
        checkedStages (.luhn c) .refine "luhn.refine" luhnCheck path := rfl
    exact validate_checked rfl hstages hd (asks_one rfl)

/-- The number of a card, with and without blanks, with one digit mistaken, with two that have
changed places, and with zeros in front; 0 and 9 may change places. -/
theorem luhn_detects_card :
    luhnValid "4539 1488 0343 6467" = true ∧ luhnValid "4539148803436461" = false ∧
      luhnValid "5439148803436467" = false ∧ luhnValid "004539148803436467" = true ∧
      luhnValid "0091" = true ∧ luhnValid "0901" = true := by
  have hcard : luhnValid "4539148803436467" = true := by decide +kernel
  obtain ⟨-, hsame, hall, -⟩ := luhn_detects
  obtain ⟨hmistaken, hswapped, hzeros⟩ :=
    hall "4539148803436467" (List.all_eq_true.mp (by decide)) hcard
  obtain ⟨-, hninety, -⟩ := hall "0091" (List.all_eq_true.mp (by decide)) (by decide +kernel)
  refine ⟨?_, ?_, ?_, hzeros 2, by decide +kernel, ?_⟩
  · exact (hsame _ "4539148803436467" (by decide +kernel)).trans hcard
  · exact hmistaken "453914880343646".toList [] '7' '1' rfl rfl (by decide)
  · exact (hswapped [] "39148803436467".toList '4' '5' rfl (by decide)).mpr (by decide)
  · have hnot := (hninety ['0'] ['1'] '0' '9' rfl (by decide)).not
    exact (Bool.not_eq_false _).mp (hnot.mpr (by decide))

end RuleSchema
