import RuleSchema.Proofs.Order.Compile
import RuleSchema.Proofs.Rule.Induction

/-!
# One validator for one rule

Where a rule stands shows in the errors of its compilation and nowhere else, and what has been
called before shows nowhere at all.  So a rule has at most one validator under a policy for unknown
keys, and two compilations of it can be exchanged.

* `Eval.Single`: two evaluations that give the same result, if both give one.
* `scalarStages_single`: the stages of a rule without rules inside.
* `compileRule_single`: the validator of a rule at two places.
* `CompilesTo.unique`: **a rule has one validator**.
-/

namespace RuleSchema

open Eval

/-! ### Equal results -/

/-- Two evaluations that give the same result, if both give one. -/
abbrev Eval.Single {ρ σ α : Type} (x : Eval ρ α) (y : Eval σ α) : Prop := Agree Eq x y

namespace Eval.Single

variable {ρ σ α β : Type} {x : Eval ρ α} {y : Eval σ α}

theorem pure {a : α} : Single (Pure.pure a : Eval ρ α) (Pure.pure a : Eval σ α) := Agree.pure rfl

theorem ofFault {z : Except Fault α} :
    Single (Eval.ofFault z : Eval ρ α) (Eval.ofFault z : Eval σ α) :=
  Agree.ofFault (.refl z)

theorem unit (x : Eval ρ Unit) (y : Eval σ Unit) : Single x y := fun _ _ _ _ _ _ _ _ => rfl

theorem bind {f : α → Eval ρ β} {g : α → Eval σ β} (h : Single x y)
    (hfg : ∀ a, Single (f a) (g a)) : Single (x >>= f) (y >>= g) :=
  Agree.bind h fun {a b} hab => by
    subst hab
    exact hfg a

theorem mapM {f : β → Eval ρ α} {g : β → Eval σ α} (h : ∀ b, Single (f b) (g b)) :
    ∀ bs : List β, Single (bs.mapM f) (bs.mapM g) := by
  intro bs
  induction bs with
  | nil => exact pure
  | cons b bs ih =>
    rw [List.mapM_cons, List.mapM_cons]
    exact (h b).bind fun _ => ih.bind fun _ => pure

end Eval.Single

section

variable {r : Rule} {path path' : String} {kind : StageKind} {name : String}

/-! ### Stages -/

theorem shapeStage_single (shape : Shape) :
    Single (shapeStage r path shape) (shapeStage r path' shape) :=
  (Single.unit _ _).bind fun _ => Single.ofFault.bind fun _ => .pure

theorem checkStages_single (checks : List Check) :
    Single (checkStages kind name checks) (checkStages kind name checks) := by
  unfold checkStages
  split
  · exact .pure
  · exact Single.ofFault.bind fun _ => .pure

theorem schemaValue_single (d : Validator) : Single d.schemaValue d.schemaValue :=
  Single.ofFault.bind fun _ => .pure

/-- A shape stage and stages of checks after it. -/
theorem shape_checks_single (shape : Shape) (checks : List Check) :
    Single (do return (← shapeStage r path shape) :: (← checkStages kind name checks) :
        Eval RuleError (List Stage))
      (do return (← shapeStage r path' shape) :: (← checkStages kind name checks) :
        Eval RuleError (List Stage)) :=
  (shapeStage_single shape).bind fun _ => (checkStages_single checks).bind fun _ => .pure

theorem shape_single (shape : Shape) :
    Single (do return [← shapeStage r path shape] : Eval RuleError (List Stage))
      (do return [← shapeStage r path' shape] : Eval RuleError (List Stage)) :=
  (shapeStage_single shape).bind fun _ => .pure

/-! ### Patterns -/

/-- A pattern is compiled no differently at another place. -/
theorem compile_single {source letters : String} {flags : PatternFlags} :
    Single (Eval.ofStop (Pattern.compile source flags letters path) : Eval RuleError Pattern)
      (Eval.ofStop (Pattern.compile source flags letters path') : Eval RuleError Pattern) := by
  refine .intro fun hp hp' => ?_
  have hp := (ofStop_ok hp).1
  have hp' := (ofStop_ok hp').1
  rw [Pattern.compile] at hp hp'
  cases hletters : Pattern.letterFlags letters.toList with
  | error c => rw [hletters] at hp; cases hp
  | ok more =>
    rw [hletters] at hp hp'
    dsimp only at hp hp'
    cases hsource : Pattern.ofSource source (flags.union more) with
    | error e => rw [hsource] at hp; cases e <;> cases hp
    | ok p =>
      rw [hsource] at hp hp'
      cases hp
      cases hp'
      rfl

theorem patternSpec_single (spec : PatternSpec) (letters? : Option String) :
    Single (spec.compile letters? path) (spec.compile letters? path') := by
  cases spec <;> exact compile_single

theorem stringChecks_single (o : StringOptions) : Single (o.checks path) (o.checks path') := by
  have hclass : ∀ c : Charset, Single (charsetCheck path c) (charsetCheck path' c) :=
    fun c => compile_single.bind fun _ => .pure
  have hchoices : ∀ allowed, Single (oneOfTexts path allowed) (oneOfTexts path' allowed) :=
    fun allowed => compile_single.bind fun _ => .pure
  have hclasses := Single.mapM hclass o.charsets
  unfold StringOptions.checks
  cases o.pattern? with
  | none =>
    refine hclasses.bind fun _ => ?_
    split
    · exact (hchoices _).bind fun _ => .pure
    · exact .pure
  | some spec =>
    refine (patternSpec_single spec _).bind fun _ => hclasses.bind fun _ => ?_
    split
    · exact (hchoices _).bind fun _ => .pure
    · exact .pure

theorem currencyPattern_single (o : CurrencyOptions) :
    Single (o.pattern path) (o.pattern path') := by
  unfold CurrencyOptions.pattern
  cases o.customRegex? with
  | some spec => exact (patternSpec_single spec none).bind fun _ => .pure
  | none => exact compile_single.bind fun _ => .pure

/-! ### Rules -/

/-- **The stages of a rule without rules inside** do not depend on its place. -/
theorem scalarStages_single (r : Rule) : Single (scalarStages r path) (scalarStages r path') := by
  cases r with
  | string c o =>
    refine (shapeStage_single _).bind fun _ => (stringChecks_single o).bind fun _ => ?_
    exact (checkStages_single _).bind fun _ => .pure
  | number c o =>
    refine (shapeStage_single _).bind fun _ => (checkStages_single _).bind fun _ => ?_
    exact (checkStages_single _).bind fun _ => .pure
  | boolean c => exact shape_single _
  | date c => exact shape_single _
  | any c => exact shape_single _
  | email c o =>
    exact (shapeStage_single _).bind fun _ => (checkStages_single _).bind fun _ => .pure
  | currency c o =>
    refine (shapeStage_single _).bind fun _ => (currencyPattern_single o).bind fun _ => ?_
    exact (checkStages_single _).bind fun _ => .pure
  | «class» c k => exact shape_single _
  | enum c values => exact Single.ofFault.bind fun _ => shape_checks_single _ _
  | equal c value strict => exact Single.ofFault.bind fun _ => shape_checks_single _ _
  | forbidden c remove =>
    cases remove with
    | true => exact .pure
    | false => exact (checkStages_single _).bind fun _ => .pure
  | function c => exact shape_single _
  | luhn c => exact shape_checks_single _ _
  | mac c => exact compile_single.bind fun _ => shape_checks_single _ _
  | url c empty? => exact shape_checks_single _ _
  | uuid c empty? => exact shape_checks_single _ _
  | objectId c identity conversion =>
    change Single (identityStages _ identity conversion path)
      (identityStages _ identity conversion path')
    unfold identityStages
    cases identity.identities? with
    | none => exact .intro fun hs => (reject_ok hs).elim
    | some k =>
      exact (shapeStage_single _).bind fun _ => (checkStages_single _).bind fun _ => .pure
  | array | object | multi | tuple | record => exact .pure

theorem treat_single {x y : Eval RuleError (List Stage)} (h : Single x y) :
    Single (treat .standard r path x) (treat .standard r path' y) := by
  refine h.bind fun stages => ?_
  refine Single.bind ?_ fun d => (Single.unit _ _).bind fun _ => .pure
  exact .intro fun hd he => Except.ok.inj ((ofExcept_ok hd).1.symm.trans (ofExcept_ok he).1)

/-- The validator of a rule is the same at every place. -/
def Rule.IsSingle (r : Rule) : Prop :=
  ∀ (ctx : Strictness) (path path' : String), Single (compileRule Treatments.usual r ctx path)
    (compileRule Treatments.usual r ctx path')

end

section

variable {ctx : Strictness}

theorem compileProps_single : ∀ {props : List (String × Rule)}, (∀ e ∈ props, e.2.IsSingle) →
    ∀ path path' : String, Single (compileProps Treatments.usual props ctx path)
      (compileProps Treatments.usual props ctx path') := by
  intro props
  induction props with
  | nil => exact fun _ _ _ => .pure
  | cons e props ih =>
    intro h path path'
    have hrest := ih fun e he => h e (List.mem_cons_of_mem _ he)
    exact (h e List.mem_cons_self ctx _ _).bind fun _ => (hrest path path').bind fun _ => .pure

theorem compileBranches_single : ∀ {rules : List Rule}, (∀ r ∈ rules, r.IsSingle) →
    ∀ (i : Nat) (path path' : String), Single (compileBranches Treatments.usual i rules ctx path)
      (compileBranches Treatments.usual i rules ctx path') := by
  intro rules
  induction rules with
  | nil => exact fun _ _ _ _ => .pure
  | cons r rules ih =>
    intro h i path path'
    have hrest := ih fun r hr => h r (List.mem_cons_of_mem _ hr)
    exact (h r List.mem_cons_self ctx _ _).bind fun _ =>
      (hrest (i + 1) path path').bind fun _ => .pure

theorem compileSlots_single : ∀ {rules : List Rule}, (∀ r ∈ rules, r.IsSingle) →
    ∀ (i : Nat) (path path' : String), Single (compileSlots Treatments.usual i rules ctx path)
      (compileSlots Treatments.usual i rules ctx path') := by
  intro rules
  induction rules with
  | nil => exact fun _ _ _ _ => .pure
  | cons r rules ih =>
    intro h i path path'
    have hrest := ih fun r hr => h r (List.mem_cons_of_mem _ hr)
    exact (h r List.mem_cons_self ctx _ _).bind fun _ =>
      (hrest (i + 1) path path').bind fun _ => .pure

end

section

variable {r : Rule} {path path' : String}

theorem schemas_single (ds : List Validator) :
    Single (ds.mapM Validator.schemaValue) (ds.mapM Validator.schemaValue) :=
  Single.mapM schemaValue_single ds

theorem arrayStages_single (o : ArrayOptions) (d : Validator) :
    Single (arrayStages r o d path) (arrayStages r o d path') := by
  refine (schemaValue_single d).bind fun _ => (shapeStage_single _).bind fun _ => ?_
  refine (checkStages_single _).bind fun _ => Single.ofFault.bind fun _ => ?_
  exact (checkStages_single _).bind fun _ => .pure

theorem objectStages_single (o : ObjectOptions) (ds : List (String × Validator))
    (mode : UnknownKeys) :
    Single (objectStages r o ds mode path) (objectStages r o ds mode path') := by
  have hentry : ∀ e : String × Validator,
      Single (do return (Value.text e.1, ← e.2.schemaValue) : Eval RuleError (Value × Value))
        (do return (Value.text e.1, ← e.2.schemaValue) : Eval RuleError (Value × Value)) :=
    fun e => (schemaValue_single e.2).bind fun _ => .pure
  have hschema : Single (objectSchema ds mode) (objectSchema ds mode) := by
    unfold objectSchema
    exact (Single.mapM hentry ds).bind fun _ => .pure
  refine hschema.bind fun _ => (shapeStage_single _).bind fun _ => ?_
  exact (checkStages_single _).bind fun _ => .pure

theorem unionStages_single (ds : List Validator) :
    Single (unionStages r ds path) (unionStages r ds path') :=
  (schemas_single ds).bind fun _ => (shapeStage_single _).bind fun _ => .pure

theorem tupleStages_single (ds : List Validator) :
    Single (tupleStages r ds path) (tupleStages r ds path') :=
  (schemas_single ds).bind fun _ => (shapeStage_single _).bind fun _ => .pure

theorem recordStages_single (keys values : Validator) :
    Single (recordStages r keys values path) (recordStages r keys values path') :=
  (schemaValue_single values).bind fun _ => (schemaValue_single keys).bind fun _ =>
    (shapeStage_single _).bind fun _ => .pure

end

/-- **The validator of a rule** is the same at every place. -/
theorem compileRule_single : ∀ r : Rule, r.IsSingle := by
  apply Rule.induct
  refine ⟨?simple, ?array, ?object, ?multi, ?tuple, ?record⟩
  case simple =>
    intro r hr ctx path path'
    have hcompile : ∀ path, compileRule Treatments.usual r ctx path
        = treat .standard r path (scalarStages r path) := fun path => by
      cases r <;> first | rfl | cases hr
    rw [hcompile, hcompile]
    exact treat_single (scalarStages_single r)
  case array =>
    intro c items o h ctx path path'
    exact treat_single ((h ctx _ _).bind fun _ => arrayStages_single o _)
  case object =>
    intro c props o h ctx path path'
    exact treat_single ((compileProps_single h path path').bind fun _ => objectStages_single o _ _)
  case multi =>
    intro c branches h ctx path path'
    exact treat_single ((compileBranches_single h 0 path path').bind fun _ => unionStages_single _)
  case tuple =>
    intro c slots h ctx path path'
    exact treat_single ((compileSlots_single h 0 path path').bind fun _ => tupleStages_single _)
  case record =>
    intro c key value hkey hvalue ctx path path'
    have hkeys := hkey ctx (path ++ "<key>") (path' ++ "<key>")
    have hvalues := hvalue ctx (path ++ "<value>") (path' ++ "<value>")
    exact treat_single (hkeys.bind fun keys => hvalues.bind fun values =>
      recordStages_single keys values)

/-- **A rule has one validator** under a policy for unknown keys, wherever it stands and whatever
has been called before. -/
theorem Rule.CompilesTo.unique {r : Rule} {ctx : Strictness} {d e : Validator}
    (hd : r.CompilesTo ctx d) (he : r.CompilesTo ctx e) : d = e := by
  obtain ⟨path, t, u, hd⟩ := hd
  obtain ⟨path', t', u', he⟩ := he
  exact compileRule_single r ctx path path' hd he

/-- Some rules have one list of validators. -/
theorem compilesTo_unique {rules : List Rule} {ctx : Strictness} {ds es : List Validator}
    (hds : List.Forall₂ (fun r d => r.CompilesTo ctx d) rules ds)
    (hes : List.Forall₂ (fun r d => r.CompilesTo ctx d) rules es) : ds = es := by
  induction hds generalizing es with
  | nil => cases hes; rfl
  | cons hd _ ih =>
    cases hes with
    | cons he hes => rw [hd.unique he, ih hes]

end RuleSchema
