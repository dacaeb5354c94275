import RuleSchema.Proofs.Export.Keywords
import RuleSchema.Proofs.Number.Numerals
import RuleSchema.Proofs.Validator.Decisions
import RuleSchema.Proofs.Validator.Texts
import RuleSchema.Value.Sameness

/-!
# Rules that compare with given values

A choice between values and a rule for a single value let every value through their shape stage, and
compare it afterwards.  So the comparison alone decides on a value that is there and not null.

A number is compared loosely with a text by way of the double that the text is read as, but stays
itself.  So the numeral of a whole number `m` is loosely the same as the whole number that is the
double nearest to `m`, and as no other.  This is `m` itself as long as `m` is a double, which every
whole number up to `2 ^ 53` is; the numeral of any other whole number is not the same as the number,
but as one next to it, or as none past the greatest double.

* `validate_given`: a validator that makes one comparison.
* `Rule.CompilesTo.given`: the stages of a rule that makes one.
* `readsAs_numeral`: which whole numbers a numeral reads as.
* `numerals_mean_nearest_double`: **what a numeral is loosely the same as**, and what a rule for one
  number makes of it.
-/

namespace RuleSchema

open Eval

theorem Eval.Decides.givesIf {ρ α : Type} {x : Eval ρ α} {a : α} {b : Bool}
    (h : x.Decides (fun w => w = a) b) : x.GivesIf a (b = true) := by
  cases h with
  | accepted hx ha => exact ⟨fun _ => ha ▸ hx, fun hne => absurd rfl hne⟩
  | rejected hx => exact ⟨fun hb => absurd hb Bool.false_ne_true, fun _ => ⟨_, hx⟩⟩

section

variable {r : Rule} {c : Check} {d : Validator} {s : Stage} {tests : List Stage} {v : Value}
  {b : Bool}

/-- What a shape stage that asks for no type does with a value. -/
theorem runShape_any (hv : v.isAbsent = false) (hnull : v.isNull = false) :
    runShape r anyStep v = pure v := by
  have hpresent : (r.present v : Eval StageRejection Value) = pure v := by
    rw [Rule.present, hv]
    rfl
  rw [runShape, hpresent, pure_bind, hv, if_neg Bool.false_ne_true, hnull,
    if_neg Bool.false_ne_true]
  rfl

/-- **A validator that makes one comparison** decides what that does. -/
theorem validate_given (hstages : d.stages = s :: tests) (hs : ShapeOf r ⟨anyStep, []⟩ s)
    (htests : ChecksOf .refine [c] tests) (hc : c.test v = .ok b) (hv : v.isAbsent = false)
    (hnull : v.isNull = false) : (d.validate v).GivesIf v (b = true) := by
  have hsettled : Validator.isSettled s.kind v = false := by
    rw [Validator.isSettled, hv, hnull, Bool.or_false, Bool.and_false]
  have hrun : (Validator.runStages d.tag (tests ++ []) v).Decides (fun w => w = v)
      ([c].all (fun _ => b) && true) :=
    runStages_decides (by decide) htests (fun c' hc' => List.mem_singleton.mp hc' ▸ hc)
      (.accepted rfl rfl)
  rw [List.append_nil, List.all_cons, List.all_nil, Bool.and_true, Bool.and_true] at hrun
  rw [Validator.validate, hstages, Validator.runStages, hs.run, runShape_any hv hnull,
    mapReason_pure, pure_bind, hsettled, if_neg Bool.false_ne_true]
  exact hrun.givesIf

end

/-- The check that a value is one of some. -/
def choiceCheck (values : List Value) (schema : Schema) : Check where
  name := "enum.values"
  test := fun v => .ok (Value.isAmong values v)
  message := "Value must be one of: " ++ Value.displayList values
  schema := schema

/-- The check that a value is another one. -/
def singleCheck (value : Value) (strict : Bool) (schema : Schema) : Check where
  name := "equal.value"
  test := fun v => .ok (if strict then v.same value else v.looselySame value)
  message := "Value must be equal to " ++ value.display
  schema := schema

/-- The stages of a rule that compares with a value which its keyword shows. -/
def givenStages (r : Rule) (key : String) (value : Value) (name : String) (check : Schema → Check)
    (path : String) : Eval RuleError (List Stage) := do
  let schema ← Eval.ofFault (shownKeyword key value)
  return (← anyShape r path) :: (← checkStages .refine name [check schema])

namespace Rule.CompilesTo

variable {r : Rule} {key name : String} {value : Value} {check : Schema → Check}
  {c : CommonOptions} {ctx : Strictness} {d : Validator}

/-- **A rule that compares with a given value** has a shape stage and the comparison. -/
theorem given (hr : r.tag.isComposite = false)
    (hrule : ∀ path, scalarStages r path = givenStages r key value name check path)
    (h : r.CompilesTo ctx d) :
    ∃ (s : Stage) (tests : List Stage) (schema : Schema),
      shownKeyword key value = .ok schema ∧ d.stages = s :: tests ∧
      ShapeOf r ⟨anyStep, []⟩ s ∧ ChecksOf .refine [check schema] tests := by
  obtain ⟨path, t, u, stages, hstages, hmade⟩ := h.simple hr
  rw [hrule, givenStages] at hstages
  obtain ⟨schema, _, hschema, hstages⟩ := bind_ok hstages
  obtain ⟨s, _, hs, hstages⟩ := bind_ok hstages
  obtain ⟨tests, _, htests, hstages⟩ := bind_ok hstages
  exact ⟨s, tests, schema, (ofFault_ok hschema).1, hmade.stages.trans (pure_ok hstages).1,
    shapeStage_ok hs, checkStages_ok htests⟩

/-- A choice between values. -/
theorem choice {values : List Value} (h : (Rule.enum c values).CompilesTo ctx d) :
    ∃ (s : Stage) (tests : List Stage) (schema : Schema),
      shownKeyword "enum" (.list values) = .ok schema ∧ d.stages = s :: tests ∧
      ShapeOf (.enum c values) ⟨anyStep, []⟩ s ∧
      ChecksOf .refine [choiceCheck values schema] tests :=
  h.given rfl fun _ => rfl

/-- A single value. -/
theorem single {strict : Bool} (h : (Rule.equal c value strict).CompilesTo ctx d) :
    ∃ (s : Stage) (tests : List Stage) (schema : Schema),
      shownKeyword "const" value = .ok schema ∧ d.stages = s :: tests ∧
      ShapeOf (.equal c value strict) ⟨anyStep, []⟩ s ∧
      ChecksOf .refine [singleCheck value strict schema] tests :=
  h.given rfl fun _ => rfl

end Rule.CompilesTo

/-! ### Numerals -/

open Binary64

/-- The text of a whole number between blanks. -/
def paddedNumeral (p q : List Char) (m : Int) : String :=
  String.ofList (p ++ (toString m).toList ++ q)

namespace Value

variable {m n : Int} {p q : List Char}

/-- **Which whole numbers a numeral reads as.** -/
theorem readsAs_numeral (hp : ∀ c ∈ p, Text.isBlank c = true)
    (hq : ∀ c ∈ q, Text.isBlank c = true) :
    readsAs (paddedNumeral p q m) (.int n) = true ↔ nearestDouble? m = some n := by
  have htrim : Text.trim (paddedNumeral p q m) = toString m :=
    String.toList_inj.mp (Text.trim_padded hp hq (Numeral.int_not_blank m))
  unfold readsAs
  rw [htrim, Numeral.readFloat?_numeral]
  exact ofFraction_equals m n

theorem looselySame_int_text (n : Int) (s : String) :
    looselySame (.int n) (.text s) = readsAs s (.int n) := by
  have hsame : (Value.int n).same (.text s) = false := by simp [same, kindName]
  simp only [looselySame, hsame, number?, text?, Bool.false_or]

theorem looselySame_text_int (n : Int) (s : String) :
    looselySame (.text s) (.int n) = readsAs s (.int n) := by
  have hsame : (Value.text s).same (.int n) = false := by simp [same, kindName]
  simp only [looselySame, hsame, number?, text?, Bool.false_or]

end Value

open Value

/-- **What a numeral is loosely the same as.**  The numeral of a whole number `m`, between any
blanks, is the same as a whole number just if that is the double nearest to `m`, on either side of
the comparison; and no double is nearer.  It is the same as `m` alone just if `m` is a double, and a
rule for one whole number accepts the numerals that are the same as that number. -/
theorem numerals_mean_nearest_double (m : Int) (p q : List Char)
    (hp : ∀ c ∈ p, Text.isBlank c = true) (hq : ∀ c ∈ q, Text.isBlank c = true) :
    (∀ n : Int, (looselySame (.int n) (.text (paddedNumeral p q m)) = true ↔
        nearestDouble? m = some n) ∧
      (looselySame (.text (paddedNumeral p q m)) (.int n) = true ↔ nearestDouble? m = some n)) ∧
    (∀ n k : Int, nearestDouble? m = some n → IsDouble k →
      IsDouble n ∧ (m - n).natAbs ≤ (m - k).natAbs) ∧
    ((∀ n : Int, looselySame (.int n) (.text (paddedNumeral p q m)) = true ↔ n = m) ↔
      IsDouble m) ∧
    (m.natAbs ≤ 2 ^ 53 → IsDouble m) ∧
    ∀ (c : CommonOptions) (ctx : Strictness) (n : Int) (d : Validator),
      (Rule.equal c (.int n) false).CompilesTo ctx d →
        (d.validate (.text (paddedNumeral p q m))).GivesIf (.text (paddedNumeral p q m))
          (nearestDouble? m = some n) := by
  refine ⟨fun n => ⟨?left, ?right⟩, fun n k hn hk => ⟨isDouble_of_nearest hn,
    nearestDouble?_nearest hn hk⟩, ?exact, isDouble_of_le, fun c ctx n d hd => ?rule⟩
  case left =>
    rw [looselySame_int_text]
    exact readsAs_numeral hp hq
  case right =>
    rw [looselySame_text_int]
    exact readsAs_numeral hp hq
  case exact =>
    simp only [looselySame_int_text, readsAs_numeral hp hq, isDouble_iff]
    constructor
    · intro h
      exact (h m).mpr rfl
    · intro h n
      rw [h, Option.some_inj, eq_comm]
  case rule =>
    obtain ⟨s, tests, schema, -, hstages, hs, htests⟩ := hd.single
    have htest : (if false = true then (Value.text (paddedNumeral p q m)).same (.int n)
        else looselySame (.text (paddedNumeral p q m)) (.int n))
          = readsAs (paddedNumeral p q m) (.int n) := by
      rw [if_neg Bool.false_ne_true, looselySame_text_int]
    refine (validate_given hstages hs htests (congrArg Except.ok htest) rfl rfl).congr ?_
    exact (readsAs_numeral hp hq).symm

/-- The first whole number that is no double: its numeral is not the same as the number, but as the
even one before it, and a rule for that one accepts the numeral. -/
theorem numerals_mean_nearest_double_odd :
    let s := " 9007199254740993\n"
    looselySame (.int 9007199254740993) (.text s) = false ∧
      looselySame (.text s) (.int 9007199254740992) = true ∧
      ¬ IsDouble 9007199254740993 ∧ IsDouble 9007199254740992 ∧
      ∃ d, (Rule.equal {} (.int 9007199254740992) false).CompilesTo {} d ∧
        d.validate (.text s) = pure (.text s) := by
  intro s
  have hs : paddedNumeral [' '] ['\n'] 9007199254740993 = s := by decide +kernel
  have hnearest : nearestDouble? 9007199254740993 = some 9007199254740992 := by decide +kernel
  obtain ⟨hsame, -, hexact, -, hrule⟩ := numerals_mean_nearest_double 9007199254740993 [' '] ['\n']
    (List.forall_mem_singleton.mpr rfl) (List.forall_mem_singleton.mpr rfl)
  obtain ⟨-, -, -, hsmall, -⟩ := numerals_mean_nearest_double 9007199254740992 [] [] (by simp)
    (by simp)
  obtain ⟨d, hd⟩ : ∃ d, (Rule.equal {} (.int 9007199254740992) false).CompilesTo {} d :=
    ⟨_, "$", [], [], rfl⟩
  rw [hs] at hsame hexact hrule
  have hnot : looselySame (.int 9007199254740993) (.text s) = false := by
    rw [← Bool.not_eq_true, (hsame _).1, hnearest]
    decide
  refine ⟨hnot, (hsame _).2.mpr hnearest, fun h => ?_, hsmall (by decide), d, hd,
    (hrule {} {} _ d hd).accepts hnearest⟩
  rw [(hexact.mpr h _).mpr rfl] at hnot
  cases hnot

end RuleSchema
