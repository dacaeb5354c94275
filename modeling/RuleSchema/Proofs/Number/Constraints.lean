import Mathlib.Algebra.Order.Field.Basic
import Mathlib.Algebra.Order.Ring.Rat
import Mathlib.Tactic.Linarith
import Mathlib.Tactic.NormNum
import RuleSchema.Proofs.Agreement.Checks
import RuleSchema.Proofs.Faults.Rules
import RuleSchema.Proofs.Number.Whole
import RuleSchema.Proofs.Validator.Decisions
import RuleSchema.Proofs.Validator.Presence

/-!
# The constraints on a number

A number is a whole number of any size or a double, and constraints compare them as the rational
numbers that they are: no side is rounded to the kind of the other.  A rule for numbers accepts
those that satisfy all its constraints, except that bounds are not looked at next to the one value
that is admitted.

* `Number.value?` is the rational number that a number is.
* `equals_value`, `less_value` and `atMost_value` are the comparisons of these.
* `NumberOptions.Admits`: the constraints of a rule on a rational number.
* `numberChecks_iff`: the checks on a number are the constraints.
* `number_constraints_exact`: **a rule for numbers accepts just what it admits**.
-/

namespace RuleSchema

open Eval

/-! ### Rational numbers -/

namespace Number

/-- The rational number that a number is.  The doubles that are not finite are none. -/
def value? : Number → Option ℚ
  | .int n => some n
  | .float x => x.units?.map fun u : Int => (u : ℚ) / unitsPerOne

variable {a b n : Number} {x y : ℚ}

theorem unitsPerOne_pos_rat : (0 : ℚ) < unitsPerOne := Nat.cast_pos.mpr unitsPerOne_pos

/-- A rational number in units. -/
theorem units_of_value (h : n.value? = some x) :
    ∃ u : Int, n.units? = some u ∧ x = u / unitsPerOne := by
  cases n with
  | int k =>
    refine ⟨k * unitsPerOne, rfl, ?_⟩
    rw [← Option.some.inj h, Int.cast_mul, Int.cast_natCast,
      mul_div_cancel_right₀ _ unitsPerOne_pos_rat.ne']
  | float f =>
    obtain ⟨u, hu, hx⟩ := Option.map_eq_some_iff.mp h
    exact ⟨u, hu, hx.symm⟩

theorem equals_value (ha : a.value? = some x) (hb : b.value? = some y) :
    a.equals b = decide (x = y) := by
  obtain ⟨u, hu, rfl⟩ := units_of_value ha
  obtain ⟨w, hw, rfl⟩ := units_of_value hb
  rw [equals_eq hu hw]
  refine decide_eq_decide.mpr ?_
  rw [div_left_inj' unitsPerOne_pos_rat.ne', Int.cast_inj]

theorem less_value (ha : a.value? = some x) (hb : b.value? = some y) :
    a.less b = decide (x < y) := by
  obtain ⟨u, hu, rfl⟩ := units_of_value ha
  obtain ⟨w, hw, rfl⟩ := units_of_value hb
  rw [less_eq hu hw]
  refine decide_eq_decide.mpr ?_
  rw [div_lt_div_iff_of_pos_right unitsPerOne_pos_rat, Int.cast_lt]

theorem atMost_value (ha : a.value? = some x) (hb : b.value? = some y) :
    a.atMost b = decide (x ≤ y) := by
  obtain ⟨u, hu, rfl⟩ := units_of_value ha
  obtain ⟨w, hw, rfl⟩ := units_of_value hb
  rw [atMost_eq hu hw]
  refine decide_eq_decide.mpr ?_
  rw [div_le_div_iff_of_pos_right unitsPerOne_pos_rat, Int.cast_le]

/-- A whole number of ones is an integer. -/
theorem isIntegral_value (h : n.value? = some x) : n.isIntegral = true ↔ ∃ k : ℤ, x = k := by
  obtain ⟨u, hu, rfl⟩ := units_of_value h
  rw [isIntegral, hu]
  change (u % (unitsPerOne : ℤ) == 0) = true ↔ _
  rw [beq_iff_eq, ← Int.dvd_iff_emod_eq_zero]
  constructor
  · rintro ⟨k, rfl⟩
    refine ⟨k, ?_⟩
    rw [Int.cast_mul, Int.cast_natCast, mul_div_cancel_left₀ _ unitsPerOne_pos_rat.ne']
  · rintro ⟨k, hk⟩
    rw [div_eq_iff unitsPerOne_pos_rat.ne'] at hk
    exact ⟨k, by rw [mul_comm]; exact_mod_cast hk⟩

/-- A rational number is read as it is. -/
theorem strict_step (hn : n.value? = some x) : numberStep false (.number n) = pure (.number n) := by
  cases n with
  | int k => rfl
  | float f =>
    cases f with
    | nan => cases hn
    | infinite negative => cases hn
    | finite negative m => rfl

end Number

/-! ### Constraints -/

/-- A rational number satisfies the constraints of a rule.  Bounds count only where no value is
required to be equalled. -/
structure NumberOptions.Admits (o : NumberOptions) (x : ℚ) : Prop where
  equal : ∀ n, o.equal? = some n → n.value? = some x
  min : o.equal? = none → ∀ n q, o.min? = some n → n.value? = some q → q ≤ x
  max : o.equal? = none → ∀ n q, o.max? = some n → n.value? = some q → x ≤ q
  notEqual : ∀ n, o.notEqual? = some n → n.value? ≠ some x
  integer : o.integer = true → ∃ k : ℤ, x = k
  positive : o.positive = true → 0 < x
  negative : o.negative = true → x < 0

/-- The numbers that a rule compares with are rational numbers. -/
structure NumberOptions.IsFinite (o : NumberOptions) : Prop where
  equal : ∀ n, o.equal? = some n → n.value?.isSome
  min : ∀ n, o.min? = some n → n.value?.isSome
  max : ∀ n, o.max? = some n → n.value?.isSome
  notEqual : ∀ n, o.notEqual? = some n → n.value?.isSome

/-- All checks on a number, in order. -/
def NumberOptions.allChecks (o : NumberOptions) : List Check :=
  o.checks ++ (o.notEqual?.map differentFromNumber).toList

/-- A whole number can be judged for being whole only if there is a double next to it. -/
def NumberOptions.Judges (o : NumberOptions) (v : Number) : Prop :=
  o.integer = true → ∀ n, v = .int n → (Binary64.ofInt? n).isSome = true

section

variable {o : NumberOptions} {n v : Number} {x y : ℚ}

theorem equalTo_iff (hv : v.value? = some x) (hn : n.value?.isSome) :
    (equalTo n).test (.number v) = .ok true ↔ n.value? = some x := by
  obtain ⟨q, hq⟩ := Option.isSome_iff_exists.mp hn
  change Except.ok (v.equals n) = .ok true ↔ _
  rw [Number.equals_value hv hq, hq, Except.ok.injEq, decide_eq_true_iff, Option.some.injEq,
    eq_comm]

theorem differentFromNumber_iff (hv : v.value? = some x) (hn : n.value?.isSome) :
    (differentFromNumber n).test (.number v) = .ok true ↔ n.value? ≠ some x := by
  obtain ⟨q, hq⟩ := Option.isSome_iff_exists.mp hn
  change Except.ok (!v.equals n) = .ok true ↔ _
  rw [Number.equals_value hv hq, hq, Except.ok.injEq, Bool.not_eq_true', decide_eq_false_iff_not,
    ne_eq, Option.some.injEq, eq_comm]

theorem atLeast_iff (hv : v.value? = some x) (hn : n.value?.isSome) :
    (atLeast n).test (.number v) = .ok true ↔ ∀ q, n.value? = some q → q ≤ x := by
  obtain ⟨q, hq⟩ := Option.isSome_iff_exists.mp hn
  change Except.ok (n.atMost v) = .ok true ↔ _
  rw [Number.atMost_value hq hv, Except.ok.injEq, decide_eq_true_iff, hq]
  exact ⟨fun h p hp => Option.some.inj hp ▸ h, fun h => h q rfl⟩

theorem noMoreThan_iff (hv : v.value? = some x) (hn : n.value?.isSome) :
    (noMoreThan n).test (.number v) = .ok true ↔ ∀ q, n.value? = some q → x ≤ q := by
  obtain ⟨q, hq⟩ := Option.isSome_iff_exists.mp hn
  change Except.ok (v.atMost n) = .ok true ↔ _
  rw [Number.atMost_value hv hq, Except.ok.injEq, decide_eq_true_iff, hq]
  exact ⟨fun h p hp => Option.some.inj hp ▸ h, fun h => h q rfl⟩

theorem value_zero : (Number.int 0).value? = some 0 := congrArg some Int.cast_zero

theorem aboveZero_iff (hv : v.value? = some x) :
    aboveZero.test (.number v) = .ok true ↔ 0 < x := by
  change Except.ok ((Number.int 0).less v) = .ok true ↔ _
  rw [Number.less_value value_zero hv, Except.ok.injEq, decide_eq_true_iff]

theorem belowZero_iff (hv : v.value? = some x) :
    belowZero.test (.number v) = .ok true ↔ x < 0 := by
  change Except.ok (v.less (.int 0)) = .ok true ↔ _
  rw [Number.less_value hv value_zero, Except.ok.injEq, decide_eq_true_iff]

theorem wholeNumber_iff (hv : v.value? = some x)
    (h : ∀ n, v = .int n → (Binary64.ofInt? n).isSome = true) :
    wholeNumber.test (.number v) = .ok true ↔ ∃ k : ℤ, x = k := by
  change isWhole v = .ok true ↔ _
  rw [isWhole_eq_of_double h, Except.ok.injEq, Number.isIntegral_value hv]

/-- A number that passes as a whole one is an integer. -/
theorem integer_of_wholeNumber (hv : v.value? = some x)
    (h : wholeNumber.test (.number v) = .ok true) : ∃ k : ℤ, x = k := by
  cases v with
  | int n => exact ⟨n, (Option.some.inj hv).symm⟩
  | float f => exact (wholeNumber_iff hv fun n hn => by cases hn).mp h

theorem forall_mem_toList_map {α β : Type} {P : β → Prop} {f : α → β} {a? : Option α} :
    (∀ b ∈ (a?.map f).toList, P b) ↔ ∀ a, a? = some a → P (f a) := by
  cases a? <;> simp

theorem forall_mem_ite_singleton {α : Type} {P : α → Prop} {b : Bool} {a : α} :
    (∀ c ∈ (if b then [a] else []), P c) ↔ (b = true → P a) := by
  cases b <;> simp

theorem forall_mem_comparisons {P : Check → Prop} :
    (∀ c ∈ o.comparisons, P c) ↔
      (∀ n, o.equal? = some n → P (equalTo n)) ∧
      (o.equal? = none → (∀ n, o.min? = some n → P (atLeast n)) ∧
        ∀ n, o.max? = some n → P (noMoreThan n)) := by
  rw [NumberOptions.comparisons]
  cases o.equal? with
  | some n => simp
  | none =>
    rw [List.forall_mem_append, forall_mem_toList_map, forall_mem_toList_map]
    simp

/-- What all checks on a number have in common. -/
theorem forall_mem_allChecks {P : Check → Prop} :
    (∀ c ∈ o.allChecks, P c) ↔
      (∀ n, o.equal? = some n → P (equalTo n)) ∧
      (o.equal? = none → (∀ n, o.min? = some n → P (atLeast n)) ∧
        ∀ n, o.max? = some n → P (noMoreThan n)) ∧
      (o.integer = true → P wholeNumber) ∧ (o.positive = true → P aboveZero) ∧
      (o.negative = true → P belowZero) ∧
      ∀ n, o.notEqual? = some n → P (differentFromNumber n) := by
  change (∀ c ∈ o.comparisons ++ (if o.integer then [wholeNumber] else []) ++
    (if o.positive then [aboveZero] else []) ++ (if o.negative then [belowZero] else []) ++
    (o.notEqual?.map differentFromNumber).toList, P c) ↔ _
  rw [List.forall_mem_append, List.forall_mem_append, List.forall_mem_append,
    List.forall_mem_append, forall_mem_comparisons, forall_mem_ite_singleton,
    forall_mem_ite_singleton, forall_mem_ite_singleton, forall_mem_toList_map]
  simp only [and_assoc]

/-- A number that passes all checks satisfies the constraints. -/
theorem admits_of_passed (ho : o.IsFinite) (hv : v.value? = some x)
    (h : ∀ c ∈ o.allChecks, c.test (.number v) = .ok true) : o.Admits x := by
  obtain ⟨hequal, hbounds, hinteger, hpositive, hnegative, hnotEqual⟩ := forall_mem_allChecks.mp h
  exact {
    equal := fun n hn => (equalTo_iff hv (ho.equal n hn)).mp (hequal n hn)
    min := fun hnone n q hn hq => (atLeast_iff hv (ho.min n hn)).mp ((hbounds hnone).1 n hn) q hq
    max := fun hnone n q hn hq => (noMoreThan_iff hv (ho.max n hn)).mp ((hbounds hnone).2 n hn) q hq
    notEqual := fun n hn => (differentFromNumber_iff hv (ho.notEqual n hn)).mp (hnotEqual n hn)
    integer := fun h => integer_of_wholeNumber hv (hinteger h)
    positive := fun h => (aboveZero_iff hv).mp (hpositive h)
    negative := fun h => (belowZero_iff hv).mp (hnegative h) }

/-- **The checks on a number** let it through just if it satisfies the constraints. -/
theorem numberChecks_iff (ho : o.IsFinite) (hv : v.value? = some x) (hjudges : o.Judges v) :
    (∀ c ∈ o.allChecks, c.test (.number v) = .ok true) ↔ o.Admits x := by
  refine ⟨admits_of_passed ho hv, fun h => forall_mem_allChecks.mpr ⟨?_, ?_, ?_, ?_, ?_, ?_⟩⟩
  · exact fun n hn => (equalTo_iff hv (ho.equal n hn)).mpr (h.equal n hn)
  · exact fun hnone => ⟨fun n hn => (atLeast_iff hv (ho.min n hn)).mpr (h.min hnone n · hn),
      fun n hn => (noMoreThan_iff hv (ho.max n hn)).mpr (h.max hnone n · hn)⟩
  · exact fun hinteger => (wholeNumber_iff hv (hjudges hinteger)).mpr (h.integer hinteger)
  · exact fun hpositive => (aboveZero_iff hv).mpr (h.positive hpositive)
  · exact fun hnegative => (belowZero_iff hv).mpr (h.negative hnegative)
  · exact fun n hn => (differentFromNumber_iff hv (ho.notEqual n hn)).mpr (h.notEqual n hn)

/-- Every check on a number comes to a result, where the number can be judged for being whole. -/
theorem numberChecks_test (hjudges : o.Judges v) :
    ∀ c ∈ o.allChecks, c.test (.number v) = .ok (c.passes (.number v)) := by
  have hresult : ∀ {c : Check} {b : Bool}, c.test (.number v) = .ok b →
      c.test (.number v) = .ok (c.passes (.number v)) := fun h => by
    rw [Check.passes_of_test h, h]
  exact forall_mem_allChecks.mpr ⟨fun n _ => rfl, fun _ => ⟨fun n _ => rfl, fun n _ => rfl⟩,
    fun hinteger => hresult (isWhole_eq_of_double (hjudges hinteger)), fun _ => rfl, fun _ => rfl,
    fun n _ => rfl⟩

end

/-! ### Rules for numbers -/

section

variable {c : CommonOptions} {o : NumberOptions} {ctx : Strictness} {d : Validator} {v : Number}
  {x : ℚ}

/-- A run through a stage of checks has passed them. -/
theorem runStages_passed {tag : Tag} {kind : StageKind} {checks : List Check}
    {stages more : List Stage} {v w : Value} {t u : Tally} (h : ChecksOf kind checks stages)
    (hv : v.IsGiven) (hrun : Validator.runStages tag (stages ++ more) v t = (.ok w, u)) :
    (∀ c ∈ checks, c.test v = .ok true) ∧ ∃ s, Validator.runStages tag more v s = (.ok w, u) := by
  cases h with
  | none hnil =>
    rw [hnil]
    exact ⟨fun c hc => absurd hc List.not_mem_nil, t, hrun⟩
  | one _ hs _ =>
    obtain ⟨a, t', ha, hrest⟩ := bind_ok hrun
    have ha := mapReason_ok ha
    rw [hs] at ha
    obtain ⟨rfl, -, hpassed⟩ := runChecks_ok ha
    rw [hv.not_settled] at hrest
    exact ⟨hpassed, t', hrest⟩

/-- A rule for numbers runs its checks on a number, and nothing else. -/
theorem Rule.CompilesTo.numeral_runs (h : (Rule.number c o).CompilesTo ctx d) (hc : c.isBare = true)
    (hv : v.value? = some x) :
    ∃ checks others, ChecksOf .validate o.checks checks ∧
      ChecksOf .refine (o.notEqual?.map differentFromNumber).toList others ∧
      d.validate (.number v) = Validator.runStages d.tag (checks ++ others) (.number v) := by
  simp only [CommonOptions.isBare, Bool.and_eq_true, Bool.not_eq_true'] at hc
  obtain ⟨⟨hnullable, hconvert⟩, -⟩ := hc
  obtain ⟨s, checks, others, hs, hchecks, hothers, hd⟩ := h.number
  have hrun : s.run (.number v) = pure (.number v) := by
    rw [hs.run, runShape_eq (r := .number c o) hnullable rfl]
    change numberStep c.convert (.number v) = _
    rw [hconvert, Number.strict_step hv]
  refine ⟨checks, others, hchecks, hothers, ?_⟩
  rw [Validator.validate, hd.stages, Validator.runStages, hrun, hs.kind]
  rfl

/-- What a rule for numbers accepts has passed all its checks. -/
theorem passed_of_gives {w : Value} (h : (Rule.number c o).CompilesTo ctx d) (hc : c.isBare = true)
    (hv : v.value? = some x) (hw : d.Gives (.number v) w) :
    w = .number v ∧ ∀ c ∈ o.allChecks, c.test (.number v) = .ok true := by
  obtain ⟨checks, others, hchecks, hothers, hvalidate⟩ := h.numeral_runs hc hv
  obtain ⟨t, u, hw⟩ := hw
  rw [hvalidate] at hw
  obtain ⟨hpassed, s, hw⟩ := runStages_passed hchecks ⟨rfl, rfl⟩ hw
  rw [← List.append_nil others] at hw
  obtain ⟨hpassed', s', hw⟩ := runStages_passed hothers ⟨rfl, rfl⟩ hw
  exact ⟨(pure_ok hw).1, List.forall_mem_append.mpr ⟨hpassed, hpassed'⟩⟩

/-- The checks of a rule for numbers decide. -/
theorem number_decides (h : (Rule.number c o).CompilesTo ctx d) (hc : c.isBare = true)
    (hv : v.value? = some x) (hjudges : o.Judges v) :
    (d.validate (.number v)).Decides (fun w => w = .number v)
      (o.allChecks.all fun c => c.passes (.number v)) := by
  obtain ⟨checks, others, hchecks, hothers, hvalidate⟩ := h.numeral_runs hc hv
  obtain ⟨htest, htest'⟩ := List.forall_mem_append.mp (numberChecks_test hjudges)
  have hdone : (Validator.runStages d.tag [] (.number v)).Decides (fun w => w = .number v) true :=
    .accepted rfl rfl
  have hrest := runStages_decides (by decide) hothers htest' hdone
  rw [List.append_nil, Bool.and_true] at hrest
  rw [hvalidate, NumberOptions.allChecks, List.all_append]
  exact runStages_decides (by decide) hchecks htest hrest

end

/-- **A rule for numbers accepts just what it admits**, and it gives that back.  Values and
constraints are compared as rational numbers, whatever their kinds and however large they are.
That a number satisfies the constraints is necessary in any case; it is sufficient, and every other
number is rejected, if the number can be judged for being whole where the rule asks that. -/
theorem number_constraints_exact {c : CommonOptions} {o : NumberOptions} {ctx : Strictness}
    {d : Validator} {v : Number} {x : ℚ} (h : (Rule.number c o).CompilesTo ctx d)
    (hc : c.isBare = true) (ho : o.IsFinite) (hv : v.value? = some x) :
    (∀ w, d.Gives (.number v) w → w = .number v ∧ o.Admits x) ∧
    (o.Judges v →
      (o.Admits x → d.validate (.number v) = pure (.number v)) ∧
      (¬ o.Admits x → ∃ e, d.validate (.number v) = .reject e)) := by
  refine ⟨fun w hw => ?_, fun hjudges => ?_⟩
  · obtain ⟨hw, hpassed⟩ := passed_of_gives h hc hv hw
    exact ⟨hw, admits_of_passed ho hv hpassed⟩
  · have hpasses : (o.allChecks.all fun c => c.passes (.number v)) = true ↔ o.Admits x := by
      rw [← numberChecks_iff ho hv hjudges, List.all_eq_true]
      refine forall₂_congr fun c hc => ?_
      rw [numberChecks_test hjudges c hc, Except.ok.injEq]
    have hdecides := number_decides h hc hv hjudges
    rw [← hpasses]
    generalize (o.allChecks.all fun c => c.passes (.number v)) = b at hdecides
    cases hdecides with
    | accepted hx hw => exact ⟨fun _ => hw ▸ hx, fun hn => absurd rfl hn⟩
    | rejected hx => exact ⟨fun hn => absurd hn Bool.false_ne_true, fun _ => ⟨_, hx⟩⟩

/-- A double between two whole numbers is accepted, and the value that is left out is rejected. -/
theorem number_constraints_exact_between :
    let half : Number := .float (.ofDecimal false 25 (-1))
    let o : NumberOptions :=
      { min? := some (.int 2), max? := some (.int 3), notEqual? := some (.int 3) }
    ∃ d, (Rule.number {} o).CompilesTo {} d ∧ half.value? = some (5 / 2) ∧
      d.validate (.number half) = pure (.number half) ∧ ∃ e, d.validate (.int 3) = .reject e := by
  intro half o
  obtain ⟨d, hd⟩ : ∃ d, (Rule.number {} o).CompilesTo {} d := ⟨_, "$", [], [], rfl⟩
  have hfinite : o.IsFinite := ⟨by simp [o], by simp [o, Number.value?], by simp [o, Number.value?],
    by simp [o, Number.value?]⟩
  have hjudges : ∀ v, o.Judges v := fun v h => absurd h Bool.false_ne_true
  have hhalf : half.value? = some (5 / 2) := by
    have hunits : (Binary64.ofDecimal false 25 (-1)).units?.map (2 * ·)
        = some (5 * unitsPerOne : Int) := by decide +kernel
    obtain ⟨u, hu, hdouble⟩ := Option.map_eq_some_iff.mp hunits
    have hcast : (2 : ℚ) * u = 5 * unitsPerOne := by exact_mod_cast hdouble
    simp only [half, Number.value?, hu, Option.map_some, Option.some.injEq]
    rw [div_eq_iff Number.unitsPerOne_pos_rat.ne']
    linarith
  have hadmits : o.Admits (5 / 2) := {
    equal := fun n hn => by cases hn
    min := fun _ n q hn hq => by cases hn; cases hq; norm_num
    max := fun _ n q hn hq => by cases hn; cases hq; norm_num
    notEqual := fun n hn hx => by cases hn; norm_num [Number.value?] at hx
    integer := fun h => absurd h Bool.false_ne_true
    positive := fun h => absurd h Bool.false_ne_true
    negative := fun h => absurd h Bool.false_ne_true }
  exact ⟨d, hd, hhalf, ((number_constraints_exact hd rfl hfinite hhalf).2 (hjudges _)).1 hadmits,
    ((number_constraints_exact hd rfl hfinite (v := .int 3) rfl).2 (hjudges _)).2 fun h =>
      h.notEqual _ rfl rfl⟩

/-- Next to a value that is required to be equalled, bounds are not looked at. -/
theorem bounds_unseen_beside_equal :
    let o : NumberOptions := { equal? := some (.int 5), min? := some (.int 10) }
    ∃ d, (Rule.number {} o).CompilesTo {} d ∧ d.validate (.int 5) = pure (.int 5) ∧
      (Number.int 5).value? = some 5 ∧ (Number.int 10).value? = some 10 ∧ ¬ (10 : ℚ) ≤ 5 :=
  ⟨_, ⟨"$", [], [], rfl⟩, rfl, rfl, rfl, by norm_num⟩

end RuleSchema
