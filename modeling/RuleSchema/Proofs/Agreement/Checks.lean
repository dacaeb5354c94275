import RuleSchema.Proofs.Compile.Stages
import RuleSchema.Proofs.Number.Whole
import RuleSchema.Proofs.Pattern.Texts
import RuleSchema.Proofs.Schema.Conjunction

/-!
# Checks and their keywords

A check tests a value, and it has keywords that say what it asks.  A check on the size of a
text or an array, the choice between texts and every check on a number but one ask just what
their keywords mean.  That a number is whole has no keyword: it is said by the type.

* `Check.Faithful` says that a check tests what its keywords mean.
* `stringChecks_joinable` and `sizeChecks_joinable`: the checks on texts and on arrays, whose
  keywords may clash.
* `numberChecks_pass`: what the checks on a number ask, with what is said by its type.
-/

namespace RuleSchema

open Eval Value

/-- Whether a value passes a check. -/
def Check.passes (c : Check) (v : Value) : Bool := (c.test v).toOption.getD false

/-- A check tests what its keywords ask. -/
def Check.Faithful (c : Check) (v : Value) : Prop := c.test v = .ok (meets c.schema [] v)

section

variable {c : Check} {checks : List Check} {v : Value}

theorem Check.passes_of_test {b : Bool} (h : c.test v = .ok b) : c.passes v = b := by
  rw [passes, h]
  rfl

theorem Check.Faithful.test (h : c.Faithful v) : c.test v = .ok (c.passes v) := by
  rw [passes_of_test h]
  exact h

/-- Faithful checks let through what their keywords admit. -/
theorem all_passes (h : ∀ c ∈ checks, c.Faithful v) :
    (checks.all fun c => c.passes v) = checks.all fun c => meets c.schema [] v := by
  induction checks with
  | nil => rfl
  | cons c checks ih =>
    rw [List.all_cons, List.all_cons, Check.passes_of_test (h c List.mem_cons_self),
      ih fun c' hc' => h c' (List.mem_cons_of_mem _ hc')]

theorem meets_flatten :
    meets (checks.map Check.schema).flatten [] v = checks.all fun c => meets c.schema [] v := by
  induction checks with
  | nil => rfl
  | cons c checks ih => rw [List.map_cons, List.flatten_cons, meets_append, ih, List.all_cons]

end

/-! ### Sizes -/

section

variable {n : Nat} {s : String} {xs ys : List Value} {siblings : Schema}

theorem units_atMost (m n : Nat) :
    decide ((m : Int) * unitsPerOne ≤ n * unitsPerOne) = decide (m ≤ n) := by
  refine decide_eq_decide.mpr ⟨fun h => ?_, fun h => ?_⟩
  · exact Int.ofNat_le.mp (Int.le_of_mul_le_mul_right h (Int.natCast_pos.mpr unitsPerOne_pos))
  · exact Int.mul_le_mul_of_nonneg_right (Int.ofNat_le.mpr h) (Int.natCast_nonneg _)

theorem meets_minLength :
    meets (keyword "minLength" (bound n)) siblings (.text s) = decide (n ≤ s.length) :=
  (meets_plain (w := .minLength) rfl).trans (units_atMost n s.length)

theorem meets_maxLength :
    meets (keyword "maxLength" (bound n)) siblings (.text s) = decide (s.length ≤ n) :=
  (meets_plain (w := .maxLength) rfl).trans (units_atMost s.length n)

theorem meets_minItems :
    meets (keyword "minItems" (bound n)) siblings (.list xs) = decide (n ≤ xs.length) :=
  (meets_plain (w := .minItems) rfl).trans (units_atMost n xs.length)

theorem meets_maxItems :
    meets (keyword "maxItems" (bound n)) siblings (.list xs) = decide (xs.length ≤ n) :=
  (meets_plain (w := .maxItems) rfl).trans (units_atMost xs.length n)

/-- Two bounds are an equation. -/
theorem decide_le_and_le (m n : Nat) : (decide (n ≤ m) && decide (m ≤ n)) = decide (m = n) := by
  rw [← Bool.decide_and]
  exact decide_eq_decide.mpr ⟨fun h => Nat.le_antisymm h.2 h.1, fun h => ⟨h ▸ Nat.le_refl _,
    h ▸ Nat.le_refl _⟩⟩

theorem minLength_faithful (tag : Tag) : (minLength tag n).Faithful (.text s) :=
  congrArg Except.ok meets_minLength.symm

theorem maxLength_faithful (tag : Tag) : (maxLength tag n).Faithful (.text s) :=
  congrArg Except.ok meets_maxLength.symm

theorem exactLength_faithful : (exactLength n).Faithful (.text s) := by
  refine congrArg Except.ok ?_
  change decide (s.length = n) = meets (keyword "minLength" _ ++ keyword "maxLength" _) [] _
  rw [meets_append, meets_minLength, meets_maxLength, decide_le_and_le]

theorem hasItems_faithful : hasItems.Faithful (.list xs) := by
  refine congrArg Except.ok ?_
  change (!xs.isEmpty) = meets (keyword "minItems" (bound 1)) [] _
  rw [meets_minItems]
  cases xs <;> rfl

theorem minItems_faithful : (minItems n).Faithful (.list xs) :=
  congrArg Except.ok meets_minItems.symm

theorem maxItems_faithful : (maxItems n).Faithful (.list xs) :=
  congrArg Except.ok meets_maxItems.symm

theorem exactItems_faithful : (exactItems n).Faithful (.list xs) := by
  refine congrArg Except.ok ?_
  change decide (xs.length = n) = meets (keyword "minItems" _ ++ keyword "maxItems" _) [] _
  rw [meets_append, meets_minItems, meets_maxItems, decide_le_and_le]

/-- A keyword on a size asks the same of arrays of one length. -/
theorem Bounding.meets_congr {e : Value × Value} (he : Bounding e)
    (hlength : ys.length = xs.length) : meets [e] [] (.list ys) = meets [e] [] (.list xs) := by
  cases he with
  | choice texts =>
    refine congrArg (· && _) ?_
    change (texts.map Value.text).any _ = (texts.map Value.text).any _
    induction texts with
    | nil => rfl
    | cons t texts ih => exact ih
  | size k hn =>
    simp only [List.mem_cons, List.not_mem_nil, or_false] at hn
    rcases hn with rfl | rfl | rfl | rfl
    · rfl
    · rfl
    · exact meets_minItems.trans (hlength ▸ meets_minItems.symm)
    · exact meets_maxItems.trans (hlength ▸ meets_maxItems.symm)

end

/-! ### Checks whose keywords may clash -/

/-- The keywords of a check can be joined, and it tests what they ask of the values of a kind. -/
structure Check.Joinable (c : Check) (kind : Value → Prop) : Prop where
  bounding : ∀ e ∈ c.schema, Bounding e
  faithful : ∀ v, kind v → c.Faithful v

/-- Such a check asks the same of arrays of one length. -/
theorem Check.Joinable.meets_congr {c : Check} {kind : Value → Prop} (h : c.Joinable kind)
    {xs ys : List Value} (hlength : ys.length = xs.length) :
    meets c.schema [] (.list ys) = meets c.schema [] (.list xs) := by
  rw [meets_eq_all, meets_eq_all (v := .list xs), Bool.eq_iff_iff, List.all_eq_true,
    List.all_eq_true]
  refine forall₂_congr fun e he => ?_
  rw [(h.bounding e he).meets_congr hlength]

theorem bounding_keyword {n : String} (k : Nat)
    (hn : n ∈ ["minLength", "maxLength", "minItems", "maxItems"]) :
    ∀ e ∈ keyword n (bound k), Bounding e :=
  fun _ he => List.mem_singleton.mp he ▸ .size k hn

theorem bounding_append {s t : Schema} (hs : ∀ e ∈ s, Bounding e) (ht : ∀ e ∈ t, Bounding e) :
    ∀ e ∈ s ++ t, Bounding e :=
  fun e he => (List.mem_append.mp he).elim (hs e) (ht e)

/-- The checks on the length of a text, if blank ones are not excluded. -/
theorem lengthChecks_joinable {tag : Tag} {empty? : Option Bool} {min? max? : Option Nat}
    (hempty : empty? ≠ some false) : ∀ c ∈ lengthChecks tag empty? min? max?,
      c.Joinable fun v => ∃ s, v = .text s := by
  intro c hc
  rw [lengthChecks, if_neg hempty, List.nil_append, List.mem_append] at hc
  rcases hc with hc | hc
  · obtain ⟨n, -, rfl⟩ := Option.map_eq_some_iff.mp (Option.mem_toList.mp hc)
    refine ⟨bounding_keyword n (by decide), ?_⟩
    rintro _ ⟨s, rfl⟩
    exact minLength_faithful tag
  · obtain ⟨n, -, rfl⟩ := Option.map_eq_some_iff.mp (Option.mem_toList.mp hc)
    refine ⟨bounding_keyword n (by decide), ?_⟩
    rintro _ ⟨s, rfl⟩
    exact maxLength_faithful tag

theorem exactLength_joinable (n : Nat) : (exactLength n).Joinable fun v => ∃ s, v = .text s := by
  refine ⟨bounding_append (bounding_keyword n (by decide)) (bounding_keyword n (by decide)), ?_⟩
  rintro _ ⟨s, rfl⟩
  exact exactLength_faithful

/-- **A choice between texts** is the keyword of a choice. -/
theorem oneOfTexts_joinable {path : String} {a : String} {as : List String} {c : Check}
    {t u : Tally} (h : oneOfTexts path (a :: as) t = (.ok c, u)) :
    c.Joinable fun v => ∃ s, v = .text s := by
  obtain ⟨p, _, hp, h⟩ := bind_ok h
  rw [compilePattern, Pattern.compile_of_parse (Pattern.parse_enumSource a as)] at hp
  obtain ⟨rfl, _⟩ := pure_ok hp
  rw [(pure_ok h).1]
  refine ⟨fun e he => List.mem_singleton.mp he ▸ .choice (a :: as), ?_⟩
  rintro _ ⟨s, rfl⟩
  refine congrArg Except.ok ((Pattern.fullMatch_choice a as s).trans ?_)
  refine Eq.trans ?_ (meets_plain (w := .enum) rfl).symm
  change _ = ((a :: as).map Value.text).any fun y => y.alike (.text s)
  rw [List.any_map, List.contains_eq_any_beq]
  exact congrArg (List.any (a :: as)) (funext fun w => Bool.beq_comm)

/-- The checks on the size of an array. -/
theorem sizeChecks_joinable (o : ArrayOptions) : ∀ c ∈ o.sizeChecks,
    c.Joinable fun v => ∃ xs, v = .list xs := by
  intro c hc
  simp only [ArrayOptions.sizeChecks, List.mem_append] at hc
  rcases hc with ((hc | hc) | hc) | hc
  · split at hc
    · exact absurd hc List.not_mem_nil
    · rw [List.mem_singleton.mp hc]
      refine ⟨bounding_keyword 1 (by decide), ?_⟩
      rintro _ ⟨xs, rfl⟩
      exact hasItems_faithful
  · obtain ⟨n, -, rfl⟩ := Option.map_eq_some_iff.mp (Option.mem_toList.mp hc)
    refine ⟨bounding_append (bounding_keyword n (by decide)) (bounding_keyword n (by decide)), ?_⟩
    rintro _ ⟨xs, rfl⟩
    exact exactItems_faithful
  · obtain ⟨n, -, rfl⟩ := Option.map_eq_some_iff.mp (Option.mem_toList.mp hc)
    refine ⟨bounding_keyword n (by decide), ?_⟩
    rintro _ ⟨xs, rfl⟩
    exact minItems_faithful
  · obtain ⟨n, -, rfl⟩ := Option.map_eq_some_iff.mp (Option.mem_toList.mp hc)
    refine ⟨bounding_keyword n (by decide), ?_⟩
    rintro _ ⟨xs, rfl⟩
    exact maxItems_faithful

/-- Whether keywords say all that the options of a text ask. -/
def StringOptions.isExpressible (o : StringOptions) : Bool :=
  o.empty? != some false && o.pattern?.isNone && o.contains?.isNone && o.charsets.isEmpty &&
    o.preparation.isEmpty && o.padding.isEmpty

/-- **The checks on a text** whose options have keywords. -/
theorem stringChecks_joinable {o : StringOptions} {path : String} {t u : Tally}
    {checks : List Check} (ho : o.isExpressible = true) (h : o.checks path t = (.ok checks, u)) :
    ∀ c ∈ checks, c.Joinable fun v => ∃ s, v = .text s := by
  simp only [StringOptions.isExpressible, Bool.and_eq_true, bne_iff_ne, Option.isNone_iff_eq_none,
    List.isEmpty_iff] at ho
  obtain ⟨⟨⟨⟨⟨hempty, hnone⟩, hcontains⟩, hcharsets⟩, -⟩, -⟩ := ho
  obtain ⟨pattern, classes, choices, hpattern, hclasses, hchoices, rfl⟩ := stringChecks_ok h
  obtain rfl : pattern = [] := by
    cases hpattern with
    | none _ => rfl
    | some hsome _ => cases hnone.symm.trans hsome
  rw [hcharsets] at hclasses
  cases hclasses
  rw [hcontains]
  intro c hc
  simp only [Option.map_none, Option.toList_none, List.append_nil, List.mem_append] at hc
  rcases hc with (hc | hc) | hc
  · exact lengthChecks_joinable hempty c hc
  · obtain ⟨n, -, rfl⟩ := Option.map_eq_some_iff.mp (Option.mem_toList.mp hc)
    exact exactLength_joinable n
  · cases hchoices with
    | none _ => exact absurd hc List.not_mem_nil
    | some _ hc' =>
      rw [List.mem_singleton.mp hc]
      exact oneOfTexts_joinable hc'

/-- The joint schema of such checks asks what all of them ask. -/
theorem ChecksOf.meets_schemas {kind : StageKind} {checks : List Check} {stages : List Stage}
    (h : ChecksOf kind checks stages) (hbounding : ∀ c ∈ checks, ∀ e ∈ c.schema, Bounding e)
    (v : Value) : meets (stages.map Stage.schema).flatten [] v
      = checks.all fun c => meets c.schema [] v := by
  cases h with
  | none hnil => rw [hnil]; rfl
  | one _ _ hschema =>
    rw [List.map_singleton, List.flatten_singleton]
    exact (checksSchema_meets hschema hbounding).2 v

/-! ### Numbers -/

section

variable {m n : Number} {x y : Int}

theorem meets_const (hm : m.units? = some y) (hn : n.units? = some x) :
    meets (keyword "const" (.number m)) [] (.number n) = decide (x = y) := by
  refine (meets_plain (w := .const) rfl).trans ?_
  change (m.units?.isSome && m.units? == n.units?) = _
  rw [hm, hn]
  by_cases h : x = y
  · rw [h, decide_eq_true rfl]
    exact beq_self_eq_true _
  · rw [decide_eq_false h]
    exact beq_eq_false_iff_ne.mpr fun heq => h (Option.some.inj heq).symm

theorem bounds_exact {ok : Int → Int → Bool} {v : Value} (hv : v.exactly? = some y) :
    Keyword.bounds ok v (some x) = ok y x := by
  unfold Keyword.bounds
  rw [hv]

/-- A bound on a number compares exact values. -/
theorem meets_bound {w : Keyword} {ok : Int → Int → Bool}
    (hw : ∀ b v : Value, w.holds b v = Keyword.bounds ok b v.exactly?) (hplain : w.isPlain = true)
    (hm : m.units? = some y) (hn : n.units? = some x) :
    meets (keyword w.name (.number m)) [] (.number n) = ok y x := by
  rw [meets_plain hplain, hw, show (Value.number n).exactly? = some x from hn]
  exact bounds_exact hm

theorem equalTo_faithful (hm : m.units? = some y) (hn : n.units? = some x) :
    (equalTo m).Faithful (.number n) :=
  congrArg Except.ok ((Number.equals_eq hn hm).trans (meets_const hm hn).symm)

theorem differentFromNumber_faithful (hm : m.units? = some y) (hn : n.units? = some x) :
    (differentFromNumber m).Faithful (.number n) := by
  refine congrArg Except.ok ?_
  change (!n.equals m) = meets (keyword "not" (.mapping (keyword "const" (.number m)))) [] _
  rw [meets_not, Number.equals_eq hn hm]
  exact congrArg _ (meets_const hm hn).symm

theorem atLeast_faithful (hm : m.units? = some y) (hn : n.units? = some x) :
    (atLeast m).Faithful (.number n) :=
  congrArg Except.ok ((Number.atMost_eq hm hn).trans
    (meets_bound (w := .minimum) (fun _ _ => rfl) rfl hm hn).symm)

theorem noMoreThan_faithful (hm : m.units? = some y) (hn : n.units? = some x) :
    (noMoreThan m).Faithful (.number n) :=
  congrArg Except.ok ((Number.atMost_eq hn hm).trans
    (meets_bound (w := .maximum) (fun _ _ => rfl) rfl hm hn).symm)

theorem aboveZero_faithful (hn : n.units? = some x) : aboveZero.Faithful (.number n) :=
  congrArg Except.ok ((Number.less_eq (a := .int 0) rfl hn).trans
    (meets_bound (m := .int 0) (w := .exclusiveMinimum) (fun _ _ => rfl) rfl rfl hn).symm)

theorem belowZero_faithful (hn : n.units? = some x) : belowZero.Faithful (.number n) :=
  congrArg Except.ok ((Number.less_eq (b := .int 0) hn rfl).trans
    (meets_bound (m := .int 0) (w := .exclusiveMaximum) (fun _ _ => rfl) rfl rfl hn).symm)

/-- Whether keywords say all that the options of a number ask: its bounds have exact values. -/
def NumberOptions.isExpressible (o : NumberOptions) : Bool :=
  [o.min?, o.max?, o.equal?, o.notEqual?].all fun n? => n?.all fun n => n.units?.isSome

/-- A number of a document has an exact value. -/
theorem units_of_isReadable (hn : n.isReadable = true) : ∃ x, n.units? = some x := by
  cases n with
  | int i => exact ⟨_, rfl⟩
  | float b =>
    cases b with
    | finite negative m => cases negative <;> exact ⟨_, rfl⟩
    | _ => cases hn

theorem units_of_all {n? : Option Number} (h : (n?.all fun n => n.units?.isSome) = true) :
    ∀ n ∈ n?, ∃ y, n.units? = some y := by
  intro n hn
  rw [Option.mem_def.mp hn] at h
  exact Option.isSome_iff_exists.mp h

/-- The checks on a number begin with some that are faithful. -/
theorem numberChecks_eq {o : NumberOptions} (ho : o.isExpressible = true)
    (hn : n.units? = some x) :
    ∃ bounds, o.checks = bounds ++ (if o.integer then [wholeNumber] else []) ++
      (if o.positive then [aboveZero] else []) ++ (if o.negative then [belowZero] else []) ∧
      ∀ c ∈ bounds, c.Faithful (.number n) := by
  simp only [NumberOptions.isExpressible, List.all_cons, List.all_nil, Bool.and_eq_true] at ho
  obtain ⟨hmin, hmax, hequal, -, -⟩ := ho
  refine ⟨_, rfl, fun c hc => ?_⟩
  split at hc
  · next m hm =>
    obtain ⟨y, hy⟩ := units_of_all hequal m hm
    rw [List.mem_singleton.mp hc]
    exact equalTo_faithful hy hn
  · rcases List.mem_append.mp hc with hc | hc
    · obtain ⟨m, hm, rfl⟩ := Option.map_eq_some_iff.mp (Option.mem_toList.mp hc)
      obtain ⟨y, hy⟩ := units_of_all hmin m hm
      exact atLeast_faithful hy hn
    · obtain ⟨m, hm, rfl⟩ := Option.map_eq_some_iff.mp (Option.mem_toList.mp hc)
      obtain ⟨y, hy⟩ := units_of_all hmax m hm
      exact noMoreThan_faithful hy hn

/-- A check that is made or not. -/
theorem faithful_ite {b : Bool} {c : Check} {v : Value} (h : c.Faithful v) :
    ∀ c' ∈ (if b then [c] else []), c'.Faithful v := by
  intro c' hc'
  cases b with
  | false => exact absurd hc' List.not_mem_nil
  | true => rw [List.mem_singleton.mp hc']; exact h

/-- **The checks on a number** let a number of a document through if it meets their keywords, and
is whole where that is asked. -/
theorem numberChecks_pass {o : NumberOptions} (ho : o.isExpressible = true)
    (hn : n.isReadable = true) :
    (∀ c ∈ o.checks, c.test (.number n) = .ok (c.passes (.number n))) ∧
      (o.checks.all fun c => c.passes (.number n))
        = ((!o.integer || n.isIntegral) &&
          meets (o.checks.map Check.schema).flatten [] (.number n)) := by
  obtain ⟨x, hx⟩ := units_of_isReadable hn
  have hwhole : wholeNumber.test (.number n) = .ok n.isIntegral := by
    refine isWhole_eq fun i hi => ?_
    rw [hi] at hn
    exact of_decide_eq_true hn
  obtain ⟨bounds, hchecks, hbounds⟩ := numberChecks_eq ho hx
  have habove := faithful_ite (b := o.positive) (aboveZero_faithful hx)
  have hbelow := faithful_ite (b := o.negative) (belowZero_faithful hx)
  have hinteger : (if o.integer then [wholeNumber] else []).all
      (fun c => c.passes (.number n)) = (!o.integer || n.isIntegral) := by
    cases o.integer with
    | false => rfl
    | true =>
      rw [if_pos rfl, List.all_cons, List.all_nil, Check.passes_of_test hwhole, Bool.and_true]
      rfl
  have hnothing : (if o.integer then [wholeNumber] else []).all
      (fun c => meets c.schema [] (.number n)) = true := by
    cases o.integer <;> rfl
  constructor
  · intro c hc
    simp only [hchecks, List.mem_append] at hc
    rcases hc with ((hc | hc) | hc) | hc
    · exact (hbounds c hc).test
    · split at hc
      · rw [List.mem_singleton.mp hc, Check.passes_of_test hwhole, hwhole]
      · exact absurd hc List.not_mem_nil
    · exact (habove c hc).test
    · exact (hbelow c hc).test
  · rw [meets_flatten, hchecks]
    simp only [List.all_append]
    rw [all_passes hbounds, all_passes habove, all_passes hbelow, hinteger, hnothing]
    rw [Bool.and_true]
    ac_rfl

/-- The check that a number differs from another, if there is one. -/
theorem differentChecks_faithful {o : NumberOptions} (ho : o.isExpressible = true)
    (hn : n.isReadable = true) :
    ∀ c ∈ (o.notEqual?.map differentFromNumber).toList, c.Faithful (.number n) := by
  simp only [NumberOptions.isExpressible, List.all_cons, List.all_nil, Bool.and_eq_true] at ho
  obtain ⟨x, hx⟩ := units_of_isReadable hn
  intro c hc
  obtain ⟨m, hm, rfl⟩ := Option.map_eq_some_iff.mp (Option.mem_toList.mp hc)
  obtain ⟨y, hy⟩ := units_of_all ho.2.2.2.1 m hm
  exact differentFromNumber_faithful hy hx

end

end RuleSchema
