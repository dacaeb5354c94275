import Mathlib.Data.List.Chain
import RuleSchema.Proofs.Compile.Stages
import RuleSchema.Proofs.Rule.Blame

/-!
# Stages in order

A validator can be made of stages if the first one checks the shape and none stands right after one
of a later kind.  Then none stands anywhere after one of a later kind.

The stages that are put together for a rule are more than that: the shape stage is followed by
stages of ever later kinds.  Most of them are left out when they have nothing to do, so each list is
made of parts of one kind that have a stage or none.  So a validator can be made of them, and if a
rule is rejected nevertheless, the reason lies in the rule: a pattern that cannot be compiled, a
default that does not pass, a class without identities.

* `misplaced?_eq_none` and `compose_iff`: **of which stages a validator can be made.**
* `AtMostOne` and `Ranked`: at most one stage of a kind, and stages of ever later kinds.
* `WellStaged`: a shape stage and stages of ever later kinds after it.
* `ruleStages`: the stages that are put together for a rule.
* `ruleStages_wellStaged`: **they are well staged**, and so `WellStaged.compose` makes a validator
  of them.
* `compileRule_blamesRule`: **a rule that cannot be compiled is to blame for it.**
* `usual_stages_are_ordered`: **the usual stages are in order, and are never the reason of a
  rejection.**
-/

namespace RuleSchema

open Eval

section

variable {stages : List Stage} {tag : Tag} {description? : Option String} {isRequired : Bool}
  {d : Validator}

/-! ### Composition -/

theorem misplaced?_eq_none : Validator.misplaced? stages = none ↔
    stages.IsChain fun a b => a.kind.rank ≤ b.kind.rank := by
  induction stages with
  | nil => simp [Validator.misplaced?]
  | cons a stages ih =>
    cases stages with
    | nil => simp [Validator.misplaced?]
    | cons b stages =>
      rw [Validator.misplaced?, List.isChain_cons_cons, ← ih]
      by_cases h : b.kind.rank < a.kind.rank
      · simp [h]
      · simp [h, Nat.le_of_not_lt h]

/-- **No stage stands anywhere after one of a later kind** if none stands right after one. -/
theorem misplaced?_iff : Validator.misplaced? stages = none ↔
    stages.Pairwise fun a b => a.kind.rank ≤ b.kind.rank := by
  have : IsTrans Stage fun a b => a.kind.rank ≤ b.kind.rank := ⟨fun _ _ _ => Nat.le_trans⟩
  rw [misplaced?_eq_none, List.isChain_iff_pairwise]

/-- **Of which stages a validator can be made**, and what it is then. -/
theorem compose_iff : Validator.compose stages tag description? isRequired = .ok d ↔
    (∃ first rest, stages = first :: rest ∧ first.kind = .shape) ∧
      stages.Pairwise (fun a b => a.kind.rank ≤ b.kind.rank) ∧
      d = { tag, stages, description?, required := isRequired } := by
  rw [← misplaced?_iff]
  constructor
  · intro h
    refine ⟨?_, ?_, compose_ok h⟩
    · cases stages with
      | nil => cases h
      | cons first rest =>
        refine ⟨first, rest, rfl, by_contra fun hfirst => ?_⟩
        rw [Validator.compose, if_pos hfirst] at h
        cases h
    · cases stages with
      | nil => cases h
      | cons first rest =>
        by_contra hmisplaced
        obtain ⟨pair, hpair⟩ := Option.ne_none_iff_exists'.mp hmisplaced
        rw [Validator.compose, hpair] at h
        split at h <;> cases h
  · rintro ⟨⟨first, rest, rfl, hfirst⟩, hordered, rfl⟩
    rw [Validator.compose, if_neg (not_not.mpr hfirst), hordered]

end

/-! ### Stages of ever later kinds -/

/-- At most one stage, of this kind. -/
inductive AtMostOne (kind : StageKind) : List Stage → Prop
  | none : AtMostOne kind []
  | one {s : Stage} : s.kind = kind → AtMostOne kind [s]

/-- Stages of ever later kinds, all of them later than `kind`. -/
structure Ranked (kind : StageKind) (stages : List Stage) : Prop where
  above : ∀ s ∈ stages, kind.rank < s.kind.rank
  increasing : stages.Pairwise fun a b => a.kind.rank < b.kind.rank

/-- A shape stage, and stages of ever later kinds after it. -/
def WellStaged (stages : List Stage) : Prop :=
  ∃ shape rest, stages = shape :: rest ∧ shape.kind = .shape ∧ Ranked .shape rest

section

variable {kind low : StageKind} {s : Stage} {part stages rest more : List Stage} {tag : Tag}
  {name : String} {checks : List Check} {transforms : List Transform} {r : Rule} {path : String}
  {shape : Shape} {t u : Tally}

theorem ranked_nil : Ranked low [] := ⟨fun _ hs => absurd hs List.not_mem_nil, .nil⟩

/-- Stages of later kinds after at most one stage. -/
theorem AtMostOne.append (h : AtMostOne kind part) (hkind : low.rank < kind.rank)
    (hmore : Ranked kind more) : Ranked low (part ++ more) := by
  cases h with
  | none => exact ⟨fun s hs => hkind.trans (hmore.above s hs), hmore.increasing⟩
  | one hs =>
    subst hs
    refine ⟨List.forall_mem_cons.mpr ⟨hkind, fun s hs => hkind.trans (hmore.above s hs)⟩, ?_⟩
    exact List.pairwise_cons.mpr ⟨hmore.above, hmore.increasing⟩

theorem AtMostOne.ranked (h : AtMostOne kind part) (hkind : low.rank < kind.rank) :
    Ranked low part := by
  have hpart := h.append hkind ranked_nil
  rwa [List.append_nil] at hpart

theorem ChecksOf.atMostOne (h : ChecksOf kind checks part) : AtMostOne kind part := by
  cases h with
  | none => exact .none
  | one hkind _ _ => exact .one hkind

theorem ChangesOf.atMostOne (h : ChangesOf kind transforms part) : AtMostOne kind part := by
  obtain ⟨name, rfl⟩ := h
  rw [transformStages]
  split
  · exact .none
  · exact .one rfl

/-- The stages after the shape stage of a rule. -/
theorem wellStaged_shape (h : shapeStage r path shape t = (.ok s, u)) (hrest : Ranked .shape rest) :
    WellStaged (s :: rest) :=
  ⟨s, rest, rfl, (shapeStage_ok h).kind, hrest⟩

namespace WellStaged

theorem increasing (h : WellStaged stages) :
    stages.Pairwise fun a b => a.kind.rank < b.kind.rank := by
  obtain ⟨shape, rest, rfl, hshape, hrest⟩ := h
  exact List.pairwise_cons.mpr ⟨fun s hs => hshape ▸ hrest.above s hs, hrest.increasing⟩

/-- **A validator can be made** of such stages. -/
theorem compose (h : WellStaged stages) (tag : Tag) (description? : Option String)
    (isRequired : Bool) : Validator.compose stages tag description? isRequired
      = .ok { tag, stages, description?, required := isRequired } := by
  refine compose_iff.mpr ⟨?_, h.increasing.imp Nat.le_of_lt, rfl⟩
  obtain ⟨shape, rest, hstages, hshape, -⟩ := h
  exact ⟨shape, rest, hstages, hshape⟩

/-- In reverse, a validator can be made of such stages only if the shape stage is alone. -/
theorem reverse_eq (h : WellStaged stages) {description? : Option String} {isRequired : Bool}
    {d : Validator}
    (hd : Validator.compose stages.reverse tag description? isRequired = .ok d) :
    stages.reverse = stages := by
  have hordered := List.pairwise_reverse.mp (compose_iff.mp hd).2.1
  have hincreasing := h.increasing
  obtain ⟨shape, rest, rfl, -, -⟩ := h
  cases rest with
  | nil => rfl
  | cons s rest =>
    have hlater := (List.pairwise_cons.mp hincreasing).1 s List.mem_cons_self
    have hsooner := (List.pairwise_cons.mp hordered).1 s List.mem_cons_self
    exact absurd hlater (Nat.not_lt.mpr hsooner)

end WellStaged

/-! ### The stages of rules -/

/-- A shape stage alone. -/
theorem shape_wellStaged
    (h : (do return [← shapeStage r path shape] : Eval RuleError (List Stage)) t
      = (.ok stages, u)) : WellStaged stages := by
  obtain ⟨s, _, hs, h⟩ := bind_ok h
  rw [(pure_ok h).1]
  exact wellStaged_shape hs ranked_nil

/-- A shape stage, and a stage of checks after it. -/
theorem shape_checks_wellStaged (hkind : StageKind.shape.rank < kind.rank)
    (h : (do return (← shapeStage r path shape) :: (← checkStages kind name checks) :
      Eval RuleError (List Stage)) t = (.ok stages, u)) : WellStaged stages := by
  obtain ⟨s, _, hs, h⟩ := bind_ok h
  obtain ⟨part, _, hpart, h⟩ := bind_ok h
  rw [(pure_ok h).1]
  exact wellStaged_shape hs ((checkStages_ok hpart).atMostOne.ranked hkind)

/-- The stages that are made by a plan are of ever later kinds. -/
theorem StagePlan.Makes.wellStaged {plan : StagePlan} (h : plan.Makes r s rest) :
    WellStaged (s :: rest) := by
  obtain ⟨before, checks, others, after, rfl, hbefore, hchecks, hothers, hafter⟩ := h.rest
  refine ⟨s, _, rfl, h.shape.kind, hbefore.atMostOne.append (by decide) ?_⟩
  refine hchecks.atMostOne.append (by decide) (hothers.atMostOne.append (by decide) ?_)
  exact hafter.atMostOne.ranked (by decide)

/-- **The stages of a rule without rules inside.** -/
theorem scalarStages_wellStaged (hr : r.tag.isComposite = false)
    (h : scalarStages r path t = (.ok stages, u)) : WellStaged stages := by
  cases r with
  | forbidden c remove =>
    cases remove with
    | true =>
      rw [(pure_ok h).1]
      have hremove : AtMostOne .manipulate
          [Stage.ofTransforms .manipulate "forbidden.remove" [fun _ => .ok .absent]] := .one rfl
      exact ⟨_, _, rfl, rfl, hremove.ranked (by decide)⟩
    | false =>
      obtain ⟨tests, _, htests, h⟩ := bind_ok h
      rw [(pure_ok h).1]
      exact ⟨_, _, rfl, rfl, (checkStages_ok htests).atMostOne.ranked (by decide)⟩
  | _ =>
    obtain ⟨_, _, _, -, rfl, hmade⟩ := scalarStages_planned hr (by rintro ⟨⟩) h
    exact hmade.wellStaged

/-- The stages that are put together for the rule at `path`, under an inherited policy for unknown
keys. -/
def ruleStages (ts : Treatments) (r : Rule) (ctx : Strictness) (path : String) :
    Eval RuleError (List Stage) :=
  match r with
  | .array _ items o => do
    arrayStages r o (← compileRule ts items ctx (path ++ "[]")) path
  | .object _ props o => do
    let ctx := ctx.override o.strict?
    objectStages r o (← compileProps ts props ctx path) ctx.mode path
  | .multi _ branches => do unionStages r (← compileBranches ts 0 branches ctx path) path
  | .tuple _ slots => do tupleStages r (← compileSlots ts 0 slots ctx path) path
  | .record _ key value => do
    let keys ← compileRule ts key ctx (path ++ "<key>")
    let values ← compileRule ts value ctx (path ++ "<value>")
    recordStages r keys values path
  | r => scalarStages r path

/-- **A rule is compiled** from these stages, as its type is treated. -/
theorem compileRule_eq_treat (ts : Treatments) (r : Rule) (ctx : Strictness) (path : String) :
    compileRule ts r ctx path = treat (ts r.tag) r path (ruleStages ts r ctx path) := by
  cases r <;> rfl

theorem ruleStages_scalar (hr : r.tag.isComposite = false) (ts : Treatments) (ctx : Strictness)
    (path : String) : ruleStages ts r ctx path = scalarStages r path := by
  cases r <;> first | rfl | cases hr

/-- **The stages of a rule are well staged**, whatever the rules inside it have become. -/
theorem ruleStages_wellStaged {ts : Treatments} {ctx : Strictness}
    (h : ruleStages ts r ctx path t = (.ok stages, u)) : WellStaged stages := by
  by_cases hr : r.tag.isComposite = false
  · rw [ruleStages_scalar hr] at h
    exact scalarStages_wellStaged hr h
  cases r with
  | array c items o =>
    obtain ⟨d, _, -, h⟩ := bind_ok h
    obtain ⟨schema, _, -, h⟩ := bind_ok h
    obtain ⟨s, _, hs, h⟩ := bind_ok h
    obtain ⟨sizes, _, hsizes, h⟩ := bind_ok h
    obtain ⟨checks, _, -, h⟩ := bind_ok h
    obtain ⟨contents, _, hcontents, h⟩ := bind_ok h
    rw [(pure_ok h).1, List.cons_append]
    refine wellStaged_shape hs ((checkStages_ok hsizes).atMostOne.append (by decide) ?_)
    exact (checkStages_ok hcontents).atMostOne.ranked (by decide)
  | object c props o =>
    obtain ⟨ds, _, -, h⟩ := bind_ok h
    obtain ⟨schema, _, -, h⟩ := bind_ok h
    exact shape_checks_wellStaged (by decide) h
  | multi c branches =>
    obtain ⟨ds, _, -, h⟩ := bind_ok h
    obtain ⟨schemas, _, -, h⟩ := bind_ok h
    exact shape_wellStaged h
  | tuple c slots =>
    obtain ⟨ds, _, -, h⟩ := bind_ok h
    obtain ⟨schemas, _, -, h⟩ := bind_ok h
    exact shape_wellStaged h
  | record c key value =>
    obtain ⟨keys, _, -, h⟩ := bind_ok h
    obtain ⟨values, _, -, h⟩ := bind_ok h
    obtain ⟨valueSchema, _, -, h⟩ := bind_ok h
    obtain ⟨keySchema, _, -, h⟩ := bind_ok h
    exact shape_wellStaged h
  | _ => exact absurd rfl hr

end

/-! ### Rejections of patterns -/

section

variable {r : Rule} {path : String}

theorem compile_blamesRule (source letters path : String) (flags : PatternFlags) :
    BlamesRule (Pattern.compile source flags letters path) := by
  rw [Pattern.compile]
  split
  · exact .rejected rfl
  · split
    · exact .result
    · exact .rejected rfl
    · exact .fault

theorem compilePattern_blamesRule (source path : String) :
    (compilePattern source path).AlwaysBlamesRule :=
  .ofStop (compile_blamesRule source "" path {})

theorem patternSpec_blamesRule (spec : PatternSpec) (letters? : Option String) (path : String) :
    (spec.compile letters? path).AlwaysBlamesRule := by
  cases spec <;> exact .ofStop (compile_blamesRule _ _ _ _)

theorem stringChecks_blameRule (o : StringOptions) (path : String) :
    (o.checks path).AlwaysBlamesRule := by
  have hclass : ∀ c : Charset, (charsetCheck path c).AlwaysBlamesRule := fun c =>
    (compilePattern_blamesRule c.source path).bind fun _ => .pure
  have hclasses := AlwaysBlamesRule.mapM hclass o.charsets
  have hchoices : ∀ allowed, (oneOfTexts path allowed).AlwaysBlamesRule := fun allowed =>
    (compilePattern_blamesRule _ path).bind fun _ => .pure
  unfold StringOptions.checks
  cases o.pattern? with
  | none =>
    refine hclasses.bind fun _ => ?_
    split
    · exact (hchoices _).bind fun _ => .pure
    · exact .pure
  | some spec =>
    refine (patternSpec_blamesRule spec _ path).bind fun _ => hclasses.bind fun _ => ?_
    split
    · exact (hchoices _).bind fun _ => .pure
    · exact .pure

theorem currencyPattern_blamesRule (o : CurrencyOptions) (path : String) :
    (o.pattern path).AlwaysBlamesRule := by
  rw [CurrencyOptions.pattern]
  split
  · exact (patternSpec_blamesRule _ _ _).bind fun _ => .pure
  · exact (compilePattern_blamesRule _ path).bind fun _ => .pure

/-! ### Rejections of stages -/

theorem shapeStage_blamesRule (shape : Shape) : (shapeStage r path shape).AlwaysBlamesRule := by
  refine AlwaysBlamesRule.bind ?_ fun _ => AlwaysBlamesRule.ofFault.bind fun _ => .pure
  rw [checkDefault]
  split
  · exact (AlwaysBlamesRule.mapReason fun _ => rfl).bind fun _ => .pure
  · exact .pure

theorem checkStages_blameRule (kind : StageKind) (name : String) (checks : List Check) :
    (checkStages kind name checks).AlwaysBlamesRule := by
  rw [checkStages]
  split
  · exact .pure
  · exact AlwaysBlamesRule.ofFault.bind fun _ => .pure

theorem shape_blamesRule (shape : Shape) :
    (do return [← shapeStage r path shape] :
      Eval RuleError (List Stage)).AlwaysBlamesRule :=
  (shapeStage_blamesRule shape).bind fun _ => .pure

theorem shape_checks_blameRule (shape : Shape) (kind : StageKind) (name : String)
    (checks : List Check) :
    (do return (← shapeStage r path shape) :: (← checkStages kind name checks) :
      Eval RuleError (List Stage)).AlwaysBlamesRule :=
  (shapeStage_blamesRule shape).bind fun _ => (checkStages_blameRule kind name checks).bind
    fun _ => .pure

theorem scalarStages_blameRule (r : Rule) (path : String) :
    (scalarStages r path).AlwaysBlamesRule := by
  cases r with
  | string c o =>
    refine (shapeStage_blamesRule _).bind fun _ => (stringChecks_blameRule o path).bind fun _ => ?_
    exact (checkStages_blameRule _ _ _).bind fun _ => .pure
  | number c o =>
    refine (shapeStage_blamesRule _).bind fun _ => (checkStages_blameRule _ _ _).bind fun _ => ?_
    exact (checkStages_blameRule _ _ _).bind fun _ => .pure
  | boolean c => exact shape_blamesRule _
  | date c => exact shape_blamesRule _
  | any c => exact shape_blamesRule _
  | email c o =>
    exact (shapeStage_blamesRule _).bind fun _ => (checkStages_blameRule _ _ _).bind fun _ => .pure
  | currency c o =>
    refine (shapeStage_blamesRule _).bind fun _ => ?_
    refine (currencyPattern_blamesRule o path).bind fun _ => ?_
    exact (checkStages_blameRule _ _ _).bind fun _ => .pure
  | «class» c k => exact shape_blamesRule _
  | enum c values => exact AlwaysBlamesRule.ofFault.bind fun _ => shape_checks_blameRule _ _ _ _
  | equal c value strict =>
    exact AlwaysBlamesRule.ofFault.bind fun _ => shape_checks_blameRule _ _ _ _
  | forbidden c remove =>
    cases remove with
    | true => exact .pure
    | false => exact (checkStages_blameRule _ _ _).bind fun _ => .pure
  | function c => exact shape_blamesRule _
  | luhn c => exact shape_checks_blameRule _ _ _ _
  | mac c =>
    exact (compilePattern_blamesRule _ path).bind fun _ => shape_checks_blameRule _ _ _ _
  | url c empty? => exact shape_checks_blameRule _ _ _ _
  | uuid c empty? => exact shape_checks_blameRule _ _ _ _
  | objectId c identity conversion =>
    change (identityStages _ identity conversion path).AlwaysBlamesRule
    rw [identityStages]
    split
    · exact .reject rfl
    · exact (shapeStage_blamesRule _).bind fun _ =>
        (checkStages_blameRule _ _ _).bind fun _ => .pure
  | array | object | multi | tuple | record => exact .pure

theorem schemaValue_blamesRule (d : Validator) : d.schemaValue.AlwaysBlamesRule :=
  AlwaysBlamesRule.ofFault.bind fun _ => .pure

theorem arrayStages_blameRule (o : ArrayOptions) (d : Validator) :
    (arrayStages r o d path).AlwaysBlamesRule := by
  refine (schemaValue_blamesRule d).bind fun _ => (shapeStage_blamesRule _).bind fun _ => ?_
  refine (checkStages_blameRule _ _ _).bind fun _ => AlwaysBlamesRule.ofFault.bind fun _ => ?_
  exact (checkStages_blameRule _ _ _).bind fun _ => .pure

theorem objectStages_blameRule (o : ObjectOptions) (ds : List (String × Validator))
    (mode : UnknownKeys) : (objectStages r o ds mode path).AlwaysBlamesRule := by
  have hentry : ∀ e : String × Validator, (do return (Value.text e.1, ← e.2.schemaValue) :
      Eval RuleError (Value × Value)).AlwaysBlamesRule := fun e =>
    (schemaValue_blamesRule e.2).bind fun _ => .pure
  have hschema : (objectSchema ds mode).AlwaysBlamesRule :=
    (AlwaysBlamesRule.mapM hentry ds).bind fun _ => .pure
  exact hschema.bind fun _ => shape_checks_blameRule _ _ _ _

theorem unionStages_blameRule (ds : List Validator) :
    (unionStages r ds path).AlwaysBlamesRule :=
  (AlwaysBlamesRule.mapM schemaValue_blamesRule ds).bind fun _ => shape_blamesRule _

theorem tupleStages_blameRule (ds : List Validator) :
    (tupleStages r ds path).AlwaysBlamesRule :=
  (AlwaysBlamesRule.mapM schemaValue_blamesRule ds).bind fun _ => shape_blamesRule _

theorem recordStages_blameRule (keys values : Validator) :
    (recordStages r keys values path).AlwaysBlamesRule :=
  (schemaValue_blamesRule values).bind fun _ => (schemaValue_blamesRule keys).bind fun _ =>
    shape_blamesRule _

end

/-! ### Rejections of validators -/

section

variable {r : Rule} {ctx : Strictness} {path : String}

theorem finishValidator_blamesRule {stages : List Stage} (h : WellStaged stages) :
    (finishValidator r path stages).AlwaysBlamesRule := by
  rw [finishValidator, h.compose]
  refine AlwaysBlamesRule.pure.bind fun d => AlwaysBlamesRule.bind ?_ fun _ => .pure
  rw [checkWholeDefault]
  split
  · exact (AlwaysBlamesRule.mapReason fun _ => rfl).bind fun _ => .pure
  · exact .pure

/-- **The usual stages** give no reason to blame them. -/
theorem compileRule_blamesRule_of_stages
    (h : (ruleStages Treatments.usual r ctx path).AlwaysBlamesRule) :
    (compileRule Treatments.usual r ctx path).AlwaysBlamesRule := by
  rw [compileRule_eq_treat]
  exact h.bind_run fun stages t u hstages =>
    finishValidator_blamesRule (ruleStages_wellStaged hstages)

theorem compileProps_blameRule {props : List (String × Rule)}
    (h : ∀ e ∈ props, ∀ path, (compileRule Treatments.usual e.2 ctx path).AlwaysBlamesRule) :
    (compileProps Treatments.usual props ctx path).AlwaysBlamesRule := by
  induction props with
  | nil => exact .pure
  | cons e props ih =>
    obtain ⟨he, hprops⟩ := List.forall_mem_cons.mp h
    exact (he _).bind fun _ => (ih hprops).bind fun _ => .pure

theorem compileBranches_blameRule {rules : List Rule}
    (h : ∀ r ∈ rules, ∀ path, (compileRule Treatments.usual r ctx path).AlwaysBlamesRule)
    (i : Nat) : (compileBranches Treatments.usual i rules ctx path).AlwaysBlamesRule := by
  induction rules generalizing i with
  | nil => exact .pure
  | cons r rules ih =>
    obtain ⟨hr, hrules⟩ := List.forall_mem_cons.mp h
    exact (hr _).bind fun _ => (ih hrules (i + 1)).bind fun _ => .pure

theorem compileSlots_blameRule {rules : List Rule}
    (h : ∀ r ∈ rules, ∀ path, (compileRule Treatments.usual r ctx path).AlwaysBlamesRule)
    (i : Nat) : (compileSlots Treatments.usual i rules ctx path).AlwaysBlamesRule := by
  induction rules generalizing i with
  | nil => exact .pure
  | cons r rules ih =>
    obtain ⟨hr, hrules⟩ := List.forall_mem_cons.mp h
    exact (hr _).bind fun _ => (ih hrules (i + 1)).bind fun _ => .pure

end

/-- **A rule that cannot be compiled** is to blame for it, under every policy and at every place. -/
theorem compileRule_blamesRule : ∀ (r : Rule) (ctx : Strictness) (path : String),
    (compileRule Treatments.usual r ctx path).AlwaysBlamesRule := by
  apply Rule.induct
  refine ⟨?simple, ?array, ?object, ?multi, ?tuple, ?record⟩
  case simple =>
    intro r hr ctx path
    apply compileRule_blamesRule_of_stages
    rw [ruleStages_scalar hr]
    exact scalarStages_blameRule r path
  case array =>
    intro c items o h ctx path
    exact compileRule_blamesRule_of_stages <|
      (h ctx _).bind fun d => arrayStages_blameRule o d
  case object =>
    intro c props o h ctx path
    exact compileRule_blamesRule_of_stages <|
      (compileProps_blameRule fun e he path => h e he _ path).bind fun ds =>
        objectStages_blameRule o ds _
  case multi =>
    intro c branches h ctx path
    exact compileRule_blamesRule_of_stages <|
      (compileBranches_blameRule (fun r hr path => h r hr ctx path) 0).bind fun ds =>
        unionStages_blameRule ds
  case tuple =>
    intro c slots h ctx path
    exact compileRule_blamesRule_of_stages <|
      (compileSlots_blameRule (fun r hr path => h r hr ctx path) 0).bind fun ds =>
        tupleStages_blameRule ds
  case record =>
    intro c key value hkey hvalue ctx path
    exact compileRule_blamesRule_of_stages <|
      (hkey ctx _).bind fun keys => (hvalue ctx _).bind fun values =>
        recordStages_blameRule keys values

/-- The same for the rule that is read from a source. -/
theorem compileSource_blamesRule (source : RuleSource) (ctx : Strictness) (path : String) :
    (compileSource Treatments.usual source ctx path).AlwaysBlamesRule :=
  (AlwaysBlamesRule.ofStop (normalize_blamesRule source path)).bind fun r =>
    compileRule_blamesRule r ctx path

/-- **The usual stages are in order.**  A rule is compiled from its stages.  They are a shape stage
and stages of ever later kinds after it, none of them another shape stage; so no rejection of a
compilation blames them.  A validator can be made of other stages too, if the first one checks the
shape and none stands after one of a later kind, and it keeps them as they are. -/
theorem usual_stages_are_ordered :
    (∀ (r : Rule) (ctx : Strictness) (path : String), compileRule Treatments.usual r ctx path
      = do finishValidator r path (← ruleStages Treatments.usual r ctx path)) ∧
    (∀ (ts : Treatments) (r : Rule) (ctx : Strictness) (path : String) (t u : Tally)
        (stages : List Stage), ruleStages ts r ctx path t = (.ok stages, u) →
      ∃ first rest, stages = first :: rest ∧ first.kind = .shape ∧ (∀ s ∈ rest, s.kind ≠ .shape) ∧
        stages.Pairwise fun a b => a.kind.rank < b.kind.rank) ∧
    (∀ (source : RuleSource) (ctx : Strictness) (path : String) (t u : Tally) (e : RuleError),
      compileSource Treatments.usual source ctx path t = (.error (.rejected e), u) →
        e.kind ≠ "EmptyPipelineError" ∧ e.kind ≠ "PipelineOrderError") ∧
    ∀ (stages : List Stage) (tag : Tag) (description? : Option String) (isRequired : Bool),
      ((∃ d, Validator.compose stages tag description? isRequired = .ok d) ↔
        (∃ first rest, stages = first :: rest ∧ first.kind = .shape) ∧
          stages.Pairwise fun a b => a.kind.rank ≤ b.kind.rank) ∧
      ∀ d, Validator.compose stages tag description? isRequired = .ok d → d.stages = stages := by
  refine ⟨compileRule_eq_treat Treatments.usual, ?ordered, ?blame, ?compose⟩
  case ordered =>
    intro ts r ctx path t u stages h
    have hincreasing := (ruleStages_wellStaged h).increasing
    obtain ⟨first, rest, rfl, hfirst, hrest⟩ := ruleStages_wellStaged h
    refine ⟨first, rest, rfl, hfirst, fun s hs heq => ?_, hincreasing⟩
    exact Nat.lt_irrefl _ (heq ▸ hrest.above s hs)
  case blame =>
    intro source ctx path t u e h
    have hblame := compileSource_blamesRule source ctx path t
    rw [outcome, h] at hblame
    cases hblame with
    | rejected he =>
      rw [← Bool.not_eq_true, RuleError.isAboutStages_iff, not_or] at he
      exact he
  case compose =>
    intro stages tag description? isRequired
    refine ⟨⟨?_, ?_⟩, fun d hd => ?_⟩
    · rintro ⟨d, hd⟩
      obtain ⟨hfirst, hordered, -⟩ := compose_iff.mp hd
      exact ⟨hfirst, hordered⟩
    · rintro ⟨hfirst, hordered⟩
      exact ⟨_, compose_iff.mpr ⟨hfirst, hordered, rfl⟩⟩
    · obtain ⟨-, -, rfl⟩ := compose_iff.mp hd
      rfl

/-- The stages of a text rule, of four kinds, and a value that is no rule. -/
theorem usual_stages_are_ordered_text :
    (∃ stages u, ruleStages Treatments.usual
        (.string {} { trim := true, min? := some 1, padEnd? := some 4 }) {} "$" []
          = (.ok stages, u) ∧
      stages.map Stage.kind = [.shape, .preProcess, .validate, .manipulate] ∧
      (∃ first rest, stages = first :: rest ∧ first.kind = .shape ∧
        (∀ s ∈ rest, s.kind ≠ .shape) ∧
          stages.Pairwise fun a b => a.kind.rank < b.kind.rank) ∧
      ∃ d, Validator.compose stages .string none true = .ok d ∧ d.stages = stages) ∧
    ∃ e u, compileSource Treatments.usual (.other .null) {} "$" [] = (.error (.rejected e), u) ∧
      e.kind ≠ "EmptyPipelineError" ∧ e.kind ≠ "PipelineOrderError" := by
  obtain ⟨-, hordered, hblame, hcompose⟩ := usual_stages_are_ordered
  constructor
  · obtain ⟨stages, u, hrun, hkinds⟩ : ∃ stages u, ruleStages Treatments.usual
        (.string {} { trim := true, min? := some 1, padEnd? := some 4 }) {} "$" []
          = (.ok stages, u) ∧
        stages.map Stage.kind = [.shape, .preProcess, .validate, .manipulate] := ⟨_, _, rfl, rfl⟩
    obtain ⟨first, rest, hfirst, hshape, -, hincreasing⟩ := hordered _ _ _ _ _ _ _ hrun
    obtain ⟨hmade, hkept⟩ := hcompose stages .string none true
    obtain ⟨d, hd⟩ := hmade.mpr ⟨⟨first, rest, hfirst, hshape⟩, hincreasing.imp Nat.le_of_lt⟩
    exact ⟨stages, u, hrun, hkinds, hordered _ _ _ _ _ _ _ hrun, d, hd, hkept d hd⟩
  · exact ⟨_, _, rfl, hblame (.other .null) {} "$" [] _ _ rfl⟩

end RuleSchema
