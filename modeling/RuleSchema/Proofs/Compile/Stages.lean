import Mathlib.Data.List.Forall2
import RuleSchema.Proofs.Evaluation
import RuleSchema.Compile.Basic

/-!
# What a compilation has put together

A rule that compiles has a validator whose stages are known: the shape stage of its
type, and after it stages of checks and of changes.  The lemmas of this file read them
off a successful compilation, one for each function that makes stages, and nothing
later opens those functions again.

* `ShapeOf`, `ChecksOf` and `MadeOf` say what a shape stage, a stage of checks and a
  whole validator are made of.
* `Rule.CompilesTo` is the relation between a rule and its validators, wherever the
  rule stands and whatever has been called before.
* `CompilesTo.array`, `CompilesTo.object` and so on go from a rule to the rules inside
  it, `CompilesTo.simple` to the stages of a rule without any.
-/

namespace RuleSchema

open Eval

/-! ### Stages -/

/-- The shape stage of a rule, with the check of its type. -/
structure ShapeOf (r : Rule) (shape : Shape) (s : Stage) : Prop where
  kind : s.kind = .shape
  run : s.run = runShape r shape.check
  schema : shapeSchema r shape.schema = .ok s.schema

/-- At most one stage, that of some checks. -/
inductive ChecksOf (kind : StageKind) (checks : List Check) : List Stage → Prop
  | none : checks = [] → ChecksOf kind checks []
  | one {s : Stage} : s.kind = kind → s.run = Stage.runChecks checks →
      Stage.checksSchema checks = .ok s.schema → ChecksOf kind checks [s]

/-- At most one stage, that of some changes. -/
def ChangesOf (kind : StageKind) (changes : List Transform) (stages : List Stage) : Prop :=
  ∃ name, stages = transformStages kind name changes

theorem ChangesOf.nil {kind : StageKind} : ChangesOf kind [] [] := ⟨"", rfl⟩

theorem ChangesOf.eq_nil {kind : StageKind} {stages : List Stage} (h : ChangesOf kind [] stages) :
    stages = [] :=
  h.choose_spec

theorem shapeStage_ok {r : Rule} {path : String} {shape : Shape} {t u : Tally} {s : Stage}
    (h : shapeStage r path shape t = (.ok s, u)) : ShapeOf r shape s := by
  obtain ⟨_, _, _, h⟩ := bind_ok h
  obtain ⟨schema, _, hs, h⟩ := bind_ok h
  obtain ⟨hs, _⟩ := ofFault_ok hs
  obtain ⟨rfl, _⟩ := pure_ok h
  exact ⟨rfl, rfl, hs⟩

theorem ofChecks_ok {kind : StageKind} {name : String} {checks : List Check} {s : Stage}
    (h : Stage.ofChecks kind name checks = .ok s) :
    s.kind = kind ∧ s.run = Stage.runChecks checks ∧
      Stage.checksSchema checks = .ok s.schema := by
  unfold Stage.ofChecks at h
  cases hs : Stage.checksSchema checks with
  | error f => rw [hs] at h; cases h
  | ok schema => rw [hs] at h; cases h; exact ⟨rfl, rfl, rfl⟩

theorem checkStages_ok {kind : StageKind} {name : String} {checks : List Check} {t u : Tally}
    {stages : List Stage} (h : checkStages kind name checks t = (.ok stages, u)) :
    ChecksOf kind checks stages := by
  unfold checkStages at h
  split at h
  · next he =>
    obtain ⟨rfl, _⟩ := pure_ok h
    exact .none (List.isEmpty_iff.mp he)
  · obtain ⟨s, _, hs, h⟩ := bind_ok h
    obtain ⟨rfl, _⟩ := pure_ok h
    obtain ⟨hkind, hrun, hschema⟩ := ofChecks_ok (ofFault_ok hs).1
    exact .one hkind hrun hschema

theorem ChecksOf.kind {kind : StageKind} {checks : List Check} {stages : List Stage}
    (h : ChecksOf kind checks stages) : ∀ s ∈ stages, s.kind = kind := by
  intro s hs
  cases h with
  | none => exact absurd hs List.not_mem_nil
  | one hk _ _ => rw [List.mem_singleton.mp hs, hk]

theorem schemaValue_ok {d : Validator} {t u : Tally} {v : Value}
    (h : d.schemaValue t = (.ok v, u)) : ∃ schema, v = .mapping schema ∧ d.schema = .ok schema := by
  obtain ⟨schema, _, hs, h⟩ := bind_ok h
  obtain ⟨rfl, _⟩ := pure_ok h
  exact ⟨schema, rfl, (ofFault_ok hs).1⟩

/-- A list computed item by item, from the runs of its items. -/
theorem mapM_ok {ρ α β : Type} {f : α → Eval ρ β} : ∀ {xs : List α} {ys : List β} {t u : Tally},
    xs.mapM f t = (.ok ys, u) →
      List.Forall₂ (fun x y => ∃ s s', f x s = (.ok y, s')) xs ys := by
  intro xs
  induction xs with
  | nil =>
    intro ys t u h
    obtain ⟨rfl, _⟩ := pure_ok h
    exact .nil
  | cons x xs ih =>
    intro ys t u h
    rw [List.mapM_cons] at h
    obtain ⟨y, s, hy, h⟩ := bind_ok h
    obtain ⟨ys', s', hys, h⟩ := bind_ok h
    obtain ⟨rfl, _⟩ := pure_ok h
    exact .cons ⟨t, s, hy⟩ (ih hys)

theorem option_mapM_ok {α β : Type} {f : α → Except Fault β} {x? : Option α} {ys : List β}
    (h : x?.toList.mapM f = .ok ys) :
    x? = none ∧ ys = [] ∨ ∃ x y, x? = some x ∧ f x = .ok y ∧ ys = [y] := by
  cases x? with
  | none => cases h; exact .inl ⟨rfl, rfl⟩
  | some x =>
    rw [Option.toList_some, List.mapM_cons] at h
    cases hy : f x with
    | error e => rw [hy] at h; cases h
    | ok y => rw [hy] at h; cases h; exact .inr ⟨x, y, rfl, hy, rfl⟩

theorem exists_of_mem_right {α β : Type} {R : α → β → Prop} {xs : List α} {ys : List β}
    (h : List.Forall₂ R xs ys) {y : β} (hy : y ∈ ys) : ∃ x ∈ xs, R x y := by
  induction h with
  | nil => exact absurd hy List.not_mem_nil
  | cons hab _ ih =>
    rcases List.mem_cons.mp hy with rfl | hy
    · exact ⟨_, List.mem_cons_self, hab⟩
    · obtain ⟨x, hx, h⟩ := ih hy
      exact ⟨x, List.mem_cons_of_mem _ hx, h⟩

theorem exists_of_mem_left {α β : Type} {R : α → β → Prop} {xs : List α} {ys : List β}
    (h : List.Forall₂ R xs ys) {x : α} (hx : x ∈ xs) : ∃ y ∈ ys, R x y := by
  obtain ⟨y, hy, h⟩ := exists_of_mem_right h.flip hx
  exact ⟨y, hy, h⟩

/-! ### Validators -/

/-- The validator that a rule makes of its stages. -/
structure Validator.MadeOf (d : Validator) (r : Rule) (stages : List Stage) : Prop where
  tag : d.tag = r.tag
  stages : d.stages = stages
  description : d.description? = r.common.description?
  required : d.required = r.isRequired

theorem compose_ok {stages : List Stage} {tag : Tag} {description? : Option String}
    {required : Bool} {d : Validator}
    (h : Validator.compose stages tag description? required = .ok d) :
    d = { tag, stages, description?, required } := by
  unfold Validator.compose at h
  split at h
  · cases h
  · dsimp only at h
    split at h
    · cases h
    · split at h
      · cases h
      · cases h; rfl

theorem finishValidator_ok {r : Rule} {path : String} {stages : List Stage} {t u : Tally}
    {d : Validator} (h : finishValidator r path stages t = (.ok d, u)) : d.MadeOf r stages := by
  obtain ⟨d', _, hd, h⟩ := bind_ok h
  obtain ⟨_, _, _, h⟩ := bind_ok h
  obtain ⟨rfl, _⟩ := pure_ok h
  rw [compose_ok (ofExcept_ok hd).1]
  exact ⟨rfl, rfl, rfl, rfl⟩

/-- The validators of a rule under a policy for unknown keys, wherever it stands. -/
def Rule.CompilesTo (r : Rule) (ctx : Strictness) (d : Validator) : Prop :=
  ∃ path t u, compileRule Treatments.usual r ctx path t = (.ok d, u)

theorem treat_ok {r : Rule} {path : String} {x : Eval RuleError (List Stage)} {t u : Tally}
    {d : Validator} (h : treat .standard r path x t = (.ok d, u)) :
    ∃ stages s, x t = (.ok stages, s) ∧ d.MadeOf r stages := by
  obtain ⟨stages, s, hx, h⟩ := bind_ok h
  exact ⟨stages, s, hx, finishValidator_ok h⟩

/-! ### Lists of rules -/

theorem compileProps_ok : ∀ {props : List (String × Rule)} {ctx : Strictness} {path : String}
    {t u : Tally} {ds : List (String × Validator)},
    compileProps Treatments.usual props ctx path t = (.ok ds, u) →
      List.Forall₂ (fun p e => e.1 = p.1 ∧ p.2.CompilesTo ctx e.2) props ds := by
  intro props
  induction props with
  | nil =>
    intro ctx path t u ds h
    obtain ⟨rfl, _⟩ := pure_ok h
    exact .nil
  | cons p props ih =>
    intro ctx path t u ds h
    obtain ⟨d, s, hd, h⟩ := bind_ok h
    obtain ⟨ds', s', hds, h⟩ := bind_ok h
    obtain ⟨rfl, _⟩ := pure_ok h
    exact .cons ⟨rfl, _, t, s, hd⟩ (ih hds)

theorem compileBranches_ok : ∀ {rules : List Rule} {i : Nat} {ctx : Strictness} {path : String}
    {t u : Tally} {ds : List Validator},
    compileBranches Treatments.usual i rules ctx path t = (.ok ds, u) →
      List.Forall₂ (fun r d => r.CompilesTo ctx d) rules ds := by
  intro rules
  induction rules with
  | nil =>
    intro i ctx path t u ds h
    obtain ⟨rfl, _⟩ := pure_ok h
    exact .nil
  | cons r rules ih =>
    intro i ctx path t u ds h
    obtain ⟨d, s, hd, h⟩ := bind_ok h
    obtain ⟨ds', s', hds, h⟩ := bind_ok h
    obtain ⟨rfl, _⟩ := pure_ok h
    exact .cons ⟨_, t, s, hd⟩ (ih hds)

theorem compileSlots_ok : ∀ {rules : List Rule} {i : Nat} {ctx : Strictness} {path : String}
    {t u : Tally} {ds : List Validator},
    compileSlots Treatments.usual i rules ctx path t = (.ok ds, u) →
      List.Forall₂ (fun r d => r.CompilesTo ctx d) rules ds := by
  intro rules
  induction rules with
  | nil =>
    intro i ctx path t u ds h
    obtain ⟨rfl, _⟩ := pure_ok h
    exact .nil
  | cons r rules ih =>
    intro i ctx path t u ds h
    obtain ⟨d, s, hd, h⟩ := bind_ok h
    obtain ⟨ds', s', hds, h⟩ := bind_ok h
    obtain ⟨rfl, _⟩ := pure_ok h
    exact .cons ⟨_, t, s, hd⟩ (ih hds)

theorem schemaValues_ok {ds : List Validator} {t u : Tally} {vs : List Value}
    (h : ds.mapM Validator.schemaValue t = (.ok vs, u)) :
    List.Forall₂ (fun d v => ∃ schema, v = .mapping schema ∧ d.schema = .ok schema) ds vs :=
  (mapM_ok h).imp fun _ _ ⟨_, _, h⟩ => schemaValue_ok h

/-- The schema of an object with these properties. -/
def propertiesSchema (validators : List (String × Validator)) (properties : Entries Value)
    (mode : UnknownKeys) : Schema :=
  typeSchema "object" ++ keyword "properties" (.mapping properties) ++
    (if (requiredNames validators).isEmpty then []
      else keyword "required" (.list ((requiredNames validators).map .text))) ++
    (if mode = .reject then keyword "additionalProperties" (.bool false) else [])

theorem objectSchema_ok {ds : List (String × Validator)} {mode : UnknownKeys} {t u : Tally}
    {schema : Schema} (h : objectSchema ds mode t = (.ok schema, u)) :
    ∃ properties, List.Forall₂ (fun e p => p.1 = Value.text e.1 ∧
        ∃ schema, p.2 = .mapping schema ∧ e.2.schema = .ok schema) ds properties ∧
      schema = propertiesSchema ds properties mode := by
  obtain ⟨properties, s, hproperties, h⟩ := bind_ok h
  refine ⟨properties, (mapM_ok hproperties).imp fun e p ⟨_, _, hp⟩ => ?_, (pure_ok h).1⟩
  obtain ⟨v, _, hv, hp⟩ := bind_ok hp
  rw [(pure_ok hp).1]
  exact ⟨rfl, schemaValue_ok hv⟩

/-! ### The checks on a text -/

/-- The check on the pattern of a text, if there is one. -/
inductive PatternOf (o : StringOptions) (path : String) : List Check → Prop
  | none : o.pattern? = .none → PatternOf o path []
  | some {spec : PatternSpec} {p : Pattern} {t u : Tally} : o.pattern? = .some spec →
      spec.compile o.patternFlags? path t = (.ok p, u) → PatternOf o path [matchesSomewhere p]

/-- The check that a text is one of a list, if there is one. -/
inductive ChoicesOf (o : StringOptions) (path : String) : List Check → Prop
  | none : o.enum? = .none ∨ o.enum? = some [] → ChoicesOf o path []
  | some {a : String} {as : List String} {c : Check} {t u : Tally} : o.enum? = .some (a :: as) →
      oneOfTexts path (a :: as) t = (.ok c, u) → ChoicesOf o path [c]

/-- What follows the pattern among the checks of a text. -/
theorem choiceChecks_ok {o : StringOptions} {path : String} (pattern : List Check)
    {checks : List Check} {t u : Tally}
    (h : (do
      let classes ← o.charsets.mapM (charsetCheck path)
      match o.enum? with
      | some (a :: as) => do
        let choices ← do pure [← oneOfTexts path (a :: as)]
        pure (lengthChecks .string o.empty? o.min? o.max? ++ (o.length?.map exactLength).toList ++
          pattern ++ (o.contains?.map containsText).toList ++ classes ++ choices)
      | _ => do
        let choices ← pure []
        pure (lengthChecks .string o.empty? o.min? o.max? ++ (o.length?.map exactLength).toList ++
          pattern ++ (o.contains?.map containsText).toList ++ classes ++ choices)
      : Eval RuleError (List Check)) t = (.ok checks, u)) :
    ∃ classes choices,
      List.Forall₂ (fun k c => ∃ s s', charsetCheck path k s = (.ok c, s')) o.charsets classes ∧
      ChoicesOf o path choices ∧
      checks = lengthChecks .string o.empty? o.min? o.max? ++ (o.length?.map exactLength).toList ++
        pattern ++ (o.contains?.map containsText).toList ++ classes ++ choices := by
  obtain ⟨classes, s, hclasses, h⟩ := bind_ok h
  cases henum : o.enum? with
  | none =>
    rw [henum] at h
    exact ⟨classes, [], mapM_ok hclasses, .none (.inl henum), (pure_ok h).1⟩
  | some values =>
    rw [henum] at h
    cases values with
    | nil => exact ⟨classes, [], mapM_ok hclasses, .none (.inr henum), (pure_ok h).1⟩
    | cons a as =>
      obtain ⟨c, s', hc, h⟩ := bind_ok h
      exact ⟨classes, [c], mapM_ok hclasses, .some henum hc, (pure_ok h).1⟩

/-- The checks on a text, in order. -/
theorem stringChecks_ok {o : StringOptions} {path : String} {t u : Tally} {checks : List Check}
    (h : o.checks path t = (.ok checks, u)) :
    ∃ pattern classes choices, PatternOf o path pattern ∧
      List.Forall₂ (fun k c => ∃ s s', charsetCheck path k s = (.ok c, s')) o.charsets classes ∧
      ChoicesOf o path choices ∧
      checks = lengthChecks .string o.empty? o.min? o.max? ++ (o.length?.map exactLength).toList ++
        pattern ++ (o.contains?.map containsText).toList ++ classes ++ choices := by
  cases hp : o.pattern? with
  | none =>
    unfold StringOptions.checks at h
    rw [hp] at h
    obtain ⟨classes, choices, hclasses, hchoices, hchecks⟩ := choiceChecks_ok [] h
    exact ⟨[], classes, choices, .none hp, hclasses, hchoices, hchecks⟩
  | some spec =>
    unfold StringOptions.checks at h
    rw [hp] at h
    obtain ⟨p, s, hpattern, h⟩ := bind_ok h
    obtain ⟨classes, choices, hclasses, hchoices, hchecks⟩ :=
      choiceChecks_ok [matchesSomewhere p] h
    exact ⟨[matchesSomewhere p], classes, choices, .some hp hpattern, hclasses, hchoices, hchecks⟩

/-! ### Rules without rules inside -/

/-- What the shape stage of a rule without rules inside does with a present value. -/
def Rule.scalarStep : Rule → Step
  | .string c _ => textStep .string c.convert
  | .number c _ => numberStep c.convert
  | .boolean c => readStep "boolean.type" (if c.convert then readBool else strictBool) .bool
  | .date c => instantStep c.convert
  | .email c o => emailStep c.convert o.normalize
  | .currency c _ => textStep .currency c.convert
  | .class _ k => fun v =>
    if v.isInstanceOf k then pure v
    else failCheck "class.instance" ("Input should be an instance of " ++ k.name)
  | .function _ => fun v =>
    if v.isCallable then pure v else failCheck "function.type" "Input should be callable"
  | .luhn c => textStep .luhn c.convert
  | .mac c => textStep .mac c.convert
  | .url c empty? => formattedStep (.url c empty?) empty? fun s =>
    problemText Url.Problem.message (Url.check s)
  | .uuid c empty? => formattedStep (.uuid c empty?) empty? fun s =>
    problemText Uuid.Problem.message (Uuid.check s)
  | .objectId _ identity _ =>
    match identity.identities? with
    | some k => fun v =>
      if v.text?.isSome || v.isInstanceOf (.objects k) then pure v
      else failCheck "objectID.type" ("Value must be a string or a " ++ k.name ++ " instance")
    | none => anyStep
  | _ => anyStep

/-- What stands in the stages of a rule without rules inside: the schema of its shape, the changes
before the checks, the checks of two stages, and the changes after them. -/
structure StagePlan where
  schema : Schema
  prepared : List Transform := []
  checks : List Check := []
  others : List Check := []
  finished : List Transform := []

/-- The plans of the rules without rules inside, unless they forbid values. -/
inductive Rule.PlannedAs : Rule → StagePlan → Prop
  | string {c : CommonOptions} {o : StringOptions} {checks : List Check} {path : String}
      {t u : Tally} : o.checks path t = (.ok checks, u) →
      PlannedAs (.string c o)
        { schema := typeSchema "string", prepared := o.preparation.map mapText, checks
          finished := o.padding.map mapText }
  | number {c : CommonOptions} {o : NumberOptions} :
      PlannedAs (.number c o)
        { schema := typeSchema (if o.integer then "integer" else "number"), checks := o.checks
          others := (o.notEqual?.map differentFromNumber).toList }
  | boolean {c : CommonOptions} : PlannedAs (.boolean c) { schema := typeSchema "boolean" }
  | date {c : CommonOptions} : PlannedAs (.date c) { schema := instantSchema c.convert }
  | any {c : CommonOptions} : PlannedAs (.any c) { schema := [] }
  | email {c : CommonOptions} {o : EmailOptions} :
      PlannedAs (.email c o)
        { schema := formatSchema "email"
          prepared := (if o.normalize then [Text.trim, Text.lower] else []).map mapText
          checks := lengthChecks .email o.empty? o.min? o.max? }
  | currency {c : CommonOptions} {o : CurrencyOptions} {p : Pattern} {message : String} :
      PlannedAs (.currency c o)
        { schema := typeSchema "string"
          checks := [{ name := "currency.pattern", test := onText p.searches, message
                       schema := patternSchema p.source }] }
  | «class» {c : CommonOptions} {k : ClassRef} : PlannedAs (.class c k) { schema := [] }
  | enum {c : CommonOptions} {values : List Value} {schema : Schema} :
      shownKeyword "enum" (.list values) = .ok schema →
      PlannedAs (.enum c values)
        { schema := []
          others := [{ name := "enum.values", test := fun v => .ok (Value.isAmong values v)
                       message := "Value must be one of: " ++ Value.displayList values
                       schema }] }
  | equal {c : CommonOptions} {value : Value} {strict : Bool} {schema : Schema} :
      shownKeyword "const" value = .ok schema →
      PlannedAs (.equal c value strict)
        { schema := []
          others := [{ name := "equal.value"
                       test := fun v => .ok (if strict then v.same value else v.looselySame value)
                       message := "Value must be equal to " ++ value.display, schema }] }
  | function {c : CommonOptions} : PlannedAs (.function c) { schema := [] }
  | luhn {c : CommonOptions} :
      PlannedAs (.luhn c)
        { schema := typeSchema "string"
          others := [{ name := "luhn.checksum", test := onText Text.luhnValid
                       message := "Value fails the Luhn checksum" }] }
  | mac {c : CommonOptions} {p : Pattern} :
      PlannedAs (.mac c)
        { schema := typeSchema "string"
          checks := [{ name := "mac.pattern", test := onText p.matchesStart
                       message := "Invalid MAC address provided"
                       schema := patternSchema macSource }] }
  | url {c : CommonOptions} {empty? : Option Bool} :
      PlannedAs (.url c empty?)
        { schema := formatSchema "uri"
          checks := if empty? = some false then [notBlank .url] else [] }
  | uuid {c : CommonOptions} {empty? : Option Bool} :
      PlannedAs (.uuid c empty?)
        { schema := formatSchema "uuid"
          checks := if empty? = some false then [notBlank .uuid] else [] }
  | objectId {c : CommonOptions} {identity : ClassRef} {conversion : IdentityConversion}
      {k : ObjectClass} : identity.identities? = some k →
      PlannedAs (.objectId c identity conversion)
        { schema := typeSchema "string"
          others := [{ name := "objectID.valid"
                       test := fun v => .ok ((k.recognises? v).getD false)
                       message := "Value is not a valid ObjectID" }]
          finished := conversion.transforms k }

/-- The stages that are made by a plan. -/
structure StagePlan.Makes (r : Rule) (plan : StagePlan) (shape : Stage) (rest : List Stage) :
    Prop where
  shape : ShapeOf r ⟨r.scalarStep, plan.schema⟩ shape
  rest : ∃ before checks others after, rest = before ++ (checks ++ (others ++ after)) ∧
    ChangesOf .preProcess plan.prepared before ∧ ChecksOf .validate plan.checks checks ∧
    ChecksOf .refine plan.others others ∧ ChangesOf .manipulate plan.finished after

section

variable {r : Rule} {path name : String} {schema : Schema} {stages : List Stage} {t u : Tally}

/-- A shape stage alone. -/
theorem shape_made
    (h : (do return [← shapeStage r path ⟨r.scalarStep, schema⟩] : Eval RuleError (List Stage)) t
      = (.ok stages, u)) :
    ∃ shape rest, stages = shape :: rest ∧ StagePlan.Makes r { schema } shape rest := by
  obtain ⟨shape, _, hshape, h⟩ := bind_ok h
  exact ⟨shape, [], (pure_ok h).1, shapeStage_ok hshape, [], [], [], [], rfl, ChangesOf.nil,
    .none rfl, .none rfl, ChangesOf.nil⟩

/-- A shape stage, and checks that are its first ones. -/
theorem shape_checks_made {checks : List Check}
    (h : (do return (← shapeStage r path ⟨r.scalarStep, schema⟩) ::
      (← checkStages .validate name checks) : Eval RuleError (List Stage)) t = (.ok stages, u)) :
    ∃ shape rest, stages = shape :: rest ∧ StagePlan.Makes r { schema, checks } shape rest := by
  obtain ⟨shape, _, hshape, h⟩ := bind_ok h
  obtain ⟨tests, _, htests, h⟩ := bind_ok h
  exact ⟨shape, tests, (pure_ok h).1, shapeStage_ok hshape, [], tests, [], [],
    (List.append_nil _).symm, ChangesOf.nil, checkStages_ok htests, .none rfl, ChangesOf.nil⟩

/-- A shape stage, and checks for which there are no others before them. -/
theorem shape_others_made {others : List Check}
    (h : (do return (← shapeStage r path ⟨r.scalarStep, schema⟩) ::
      (← checkStages .refine name others) : Eval RuleError (List Stage)) t = (.ok stages, u)) :
    ∃ shape rest, stages = shape :: rest ∧ StagePlan.Makes r { schema, others } shape rest := by
  obtain ⟨shape, _, hshape, h⟩ := bind_ok h
  obtain ⟨tests, _, htests, h⟩ := bind_ok h
  exact ⟨shape, tests, (pure_ok h).1, shapeStage_ok hshape, [], [], tests, [],
    (List.append_nil _).symm, ChangesOf.nil, .none rfl, checkStages_ok htests, ChangesOf.nil⟩

/-- The stages of a rule for texts. -/
theorem stringStages_ok {o : StringOptions} (h : stringStages r o path t = (.ok stages, u)) :
    ∃ (shape : Stage) (checks : List Check) (tests : List Stage),
      ShapeOf r (textShape r) shape ∧ (∃ s s', o.checks path s = (.ok checks, s')) ∧
      ChecksOf .validate checks tests ∧
      stages = shape :: (transformStages .preProcess "string.normalize" (o.preparation.map mapText)
        ++ (tests ++ transformStages .manipulate "string.pad" (o.padding.map mapText))) := by
  obtain ⟨shape, _, hshape, h⟩ := bind_ok h
  obtain ⟨checks, _, hchecks, h⟩ := bind_ok h
  obtain ⟨tests, _, htests, h⟩ := bind_ok h
  exact ⟨shape, checks, tests, shapeStage_ok hshape, ⟨_, _, hchecks⟩, checkStages_ok htests,
    (pure_ok h).1.trans (List.append_assoc ..)⟩

/-- The stages of a rule for numbers. -/
theorem numberStages_ok {o : NumberOptions} (h : numberStages r o path t = (.ok stages, u)) :
    ∃ (shape : Stage) (tests others : List Stage),
      ShapeOf r ⟨numberStep r.common.convert,
        typeSchema (if o.integer then "integer" else "number")⟩ shape ∧
      ChecksOf .validate o.checks tests ∧
      ChecksOf .refine (o.notEqual?.map differentFromNumber).toList others ∧
      stages = shape :: (tests ++ others) := by
  obtain ⟨shape, _, hshape, h⟩ := bind_ok h
  obtain ⟨tests, _, htests, h⟩ := bind_ok h
  obtain ⟨others, _, hothers, h⟩ := bind_ok h
  exact ⟨shape, tests, others, shapeStage_ok hshape, checkStages_ok htests,
    checkStages_ok hothers, (pure_ok h).1⟩

/-- **The stages of a rule without rules inside** are made by one of its plans, unless the rule
forbids values. -/
theorem scalarStages_planned (hcomposite : r.tag.isComposite = false)
    (hforbidden : r.tag ≠ .forbidden) (h : scalarStages r path t = (.ok stages, u)) :
    ∃ plan shape rest, r.PlannedAs plan ∧ stages = shape :: rest ∧ plan.Makes r shape rest := by
  cases r with
  | string c o =>
    obtain ⟨shape, checks, tests, hshape, ⟨_, _, hchecks⟩, htests, hstages⟩ := stringStages_ok h
    exact ⟨_, shape, _, .string hchecks, hstages, hshape, _, tests, [], _, rfl, ⟨_, rfl⟩, htests,
      .none rfl, ⟨_, rfl⟩⟩
  | number c o =>
    obtain ⟨shape, tests, others, hshape, htests, hothers, hstages⟩ := numberStages_ok h
    exact ⟨_, shape, _, .number, hstages, hshape, [], tests, others, [],
      congrArg _ (List.append_nil _).symm, ChangesOf.nil, htests, hothers, ChangesOf.nil⟩
  | boolean c =>
    obtain ⟨shape, rest, hstages, hmade⟩ := shape_made h
    exact ⟨_, shape, rest, .boolean, hstages, hmade⟩
  | date c =>
    obtain ⟨shape, rest, hstages, hmade⟩ := shape_made h
    exact ⟨_, shape, rest, .date, hstages, hmade⟩
  | any c =>
    obtain ⟨shape, rest, hstages, hmade⟩ := shape_made h
    exact ⟨_, shape, rest, .any, hstages, hmade⟩
  | email c o =>
    obtain ⟨shape, _, hshape, h⟩ := bind_ok h
    obtain ⟨tests, _, htests, h⟩ := bind_ok h
    exact ⟨_, shape, _, .email, (pure_ok h).1, shapeStage_ok hshape, _, tests, [], [],
      congrArg _ (List.append_nil _).symm, ⟨_, rfl⟩, checkStages_ok htests, .none rfl,
      ChangesOf.nil⟩
  | currency c o =>
    obtain ⟨shape, _, hshape, h⟩ := bind_ok h
    obtain ⟨⟨p, message⟩, _, -, h⟩ := bind_ok h
    obtain ⟨tests, _, htests, h⟩ := bind_ok h
    exact ⟨_, shape, tests, .currency, (pure_ok h).1, shapeStage_ok hshape, [], tests, [], [],
      (List.append_nil _).symm, ChangesOf.nil, checkStages_ok htests, .none rfl, ChangesOf.nil⟩
  | «class» c k =>
    obtain ⟨shape, rest, hstages, hmade⟩ := shape_made h
    exact ⟨_, shape, rest, .class, hstages, hmade⟩
  | enum c values =>
    obtain ⟨_, _, hschema, h⟩ := bind_ok h
    obtain ⟨shape, rest, hstages, hmade⟩ := shape_others_made h
    exact ⟨_, shape, rest, .enum (ofFault_ok hschema).1, hstages, hmade⟩
  | equal c value strict =>
    obtain ⟨_, _, hschema, h⟩ := bind_ok h
    obtain ⟨shape, rest, hstages, hmade⟩ := shape_others_made h
    exact ⟨_, shape, rest, .equal (ofFault_ok hschema).1, hstages, hmade⟩
  | forbidden c remove => exact absurd rfl hforbidden
  | function c =>
    obtain ⟨shape, rest, hstages, hmade⟩ := shape_made h
    exact ⟨_, shape, rest, .function, hstages, hmade⟩
  | luhn c =>
    obtain ⟨shape, rest, hstages, hmade⟩ := shape_others_made h
    exact ⟨_, shape, rest, .luhn, hstages, hmade⟩
  | mac c =>
    obtain ⟨p, _, -, h⟩ := bind_ok h
    obtain ⟨shape, rest, hstages, hmade⟩ := shape_checks_made h
    exact ⟨_, shape, rest, .mac, hstages, hmade⟩
  | url c empty? =>
    obtain ⟨shape, rest, hstages, hmade⟩ := shape_checks_made h
    exact ⟨_, shape, rest, .url, hstages, hmade⟩
  | uuid c empty? =>
    obtain ⟨shape, rest, hstages, hmade⟩ := shape_checks_made h
    exact ⟨_, shape, rest, .uuid, hstages, hmade⟩
  | objectId c identity conversion =>
    change identityStages (.objectId c identity conversion) identity conversion path t = _ at h
    rw [identityStages] at h
    cases hk : identity.identities? with
    | none => rw [hk] at h; exact absurd h reject_ok
    | some k =>
      rw [hk] at h
      obtain ⟨shape, _, hshape, h⟩ := bind_ok h
      obtain ⟨tests, _, htests, h⟩ := bind_ok h
      have hstep : (Rule.objectId c identity conversion).scalarStep = fun v =>
          if v.text?.isSome || v.isInstanceOf (.objects k) then pure v
          else failCheck "objectID.type"
            ("Value must be a string or a " ++ k.name ++ " instance") := by
        simp only [Rule.scalarStep, hk]
      exact ⟨_, shape, _, .objectId hk, (pure_ok h).1, hstep ▸ shapeStage_ok hshape, [], [],
        tests, _, rfl, ChangesOf.nil, .none rfl, checkStages_ok htests, ⟨_, rfl⟩⟩
  | array | object | multi | tuple | record => cases hcomposite

end

/-! ### From a rule to the rules inside it -/

theorem compileRule_scalar {r : Rule} (hr : r.tag.isComposite = false) (ctx : Strictness)
    (path : String) : compileRule Treatments.usual r ctx path
      = treat .standard r path (scalarStages r path) := by
  cases r <;> first | rfl | cases hr

namespace Rule.CompilesTo

variable {c : CommonOptions} {ctx : Strictness} {d : Validator}

/-- A rule without rules inside. -/
theorem simple {r : Rule} (hr : r.tag.isComposite = false) (h : r.CompilesTo ctx d) :
    ∃ path t u stages, scalarStages r path t = (.ok stages, u) ∧ d.MadeOf r stages := by
  obtain ⟨path, t, u, h⟩ := h
  rw [compileRule_scalar hr] at h
  obtain ⟨stages, s, hs, hd⟩ := treat_ok h
  exact ⟨path, t, s, stages, hs, hd⟩

/-- The plan that the stages of a rule without rules inside are made by. -/
theorem planned {r : Rule} (hr : r.tag.isComposite = false) (hforbidden : r.tag ≠ .forbidden)
    (h : r.CompilesTo ctx d) :
    ∃ plan shape rest, r.PlannedAs plan ∧ d.MadeOf r (shape :: rest) ∧
      plan.Makes r shape rest := by
  obtain ⟨path, t, u, stages, hstages, hd⟩ := h.simple hr
  obtain ⟨plan, shape, rest, hplan, rfl, hmade⟩ := scalarStages_planned hr hforbidden hstages
  exact ⟨plan, shape, rest, hplan, hd, hmade⟩

theorem string {o : StringOptions} (h : (Rule.string c o).CompilesTo ctx d) :
    ∃ (shape : Stage) (checks : List Check) (tests : List Stage),
      ShapeOf (.string c o) (textShape (.string c o)) shape ∧
      (∃ path t u, o.checks path t = (.ok checks, u)) ∧ ChecksOf .validate checks tests ∧
      d.MadeOf (.string c o)
        (shape :: (transformStages .preProcess "string.normalize" (o.preparation.map mapText)
          ++ (tests ++ transformStages .manipulate "string.pad" (o.padding.map mapText)))) := by
  obtain ⟨path, t, u, stages, hstages, hd⟩ := h.simple rfl
  obtain ⟨shape, checks, tests, hshape, hchecks, htests, rfl⟩ := stringStages_ok hstages
  exact ⟨shape, checks, tests, hshape, ⟨path, hchecks⟩, htests, hd⟩

theorem number {o : NumberOptions} (h : (Rule.number c o).CompilesTo ctx d) :
    ∃ (shape : Stage) (tests others : List Stage),
      ShapeOf (.number c o) ⟨numberStep c.convert,
        typeSchema (if o.integer then "integer" else "number")⟩ shape ∧
      ChecksOf .validate o.checks tests ∧
      ChecksOf .refine (o.notEqual?.map differentFromNumber).toList others ∧
      d.MadeOf (.number c o) (shape :: (tests ++ others)) := by
  obtain ⟨path, t, u, stages, hstages, hd⟩ := h.simple rfl
  obtain ⟨shape, tests, others, hshape, htests, hothers, rfl⟩ := numberStages_ok hstages
  exact ⟨shape, tests, others, hshape, htests, hothers, hd⟩

theorem array {items : Rule} {o : ArrayOptions} (h : (Rule.array c items o).CompilesTo ctx d) :
    ∃ (di : Validator) (schema : Schema) (shape : Stage) (sizes contents : List Stage)
      (checks : List Check),
      items.CompilesTo ctx di ∧ di.schema = .ok schema ∧
      ShapeOf (.array c items o)
        ⟨arrayStep c.convert di, typeSchema "array" ++ keyword "items" (.mapping schema)⟩ shape ∧
      ChecksOf .validate o.sizeChecks sizes ∧ o.contentChecks = .ok checks ∧
      ChecksOf .refine checks contents ∧
      d.MadeOf (.array c items o) (shape :: sizes ++ contents) := by
  obtain ⟨path, t, u, h⟩ := h
  obtain ⟨stages, s, hs, hd⟩ := treat_ok h
  obtain ⟨di, s', hdi, hs⟩ := bind_ok hs
  obtain ⟨v, _, hv, hs⟩ := bind_ok hs
  obtain ⟨schema, rfl, hschema⟩ := schemaValue_ok hv
  obtain ⟨shape, _, hshape, hs⟩ := bind_ok hs
  obtain ⟨sizes, _, hsizes, hs⟩ := bind_ok hs
  obtain ⟨checks, _, hchecks, hs⟩ := bind_ok hs
  obtain ⟨contents, _, hcontents, hs⟩ := bind_ok hs
  obtain ⟨rfl, _⟩ := pure_ok hs
  exact ⟨di, schema, shape, sizes, contents, checks, ⟨_, t, s', hdi⟩, hschema,
    shapeStage_ok hshape, checkStages_ok hsizes, (ofFault_ok hchecks).1,
    checkStages_ok hcontents, hd⟩

theorem object {props : List (String × Rule)} {o : ObjectOptions}
    (h : (Rule.object c props o).CompilesTo ctx d) :
    ∃ (ds : List (String × Validator)) (properties : Entries Value) (shape : Stage)
      (sizes : List Stage),
      List.Forall₂ (fun p e => e.1 = p.1 ∧ p.2.CompilesTo (ctx.override o.strict?) e.2) props ds ∧
      List.Forall₂ (fun e p => p.1 = Value.text e.1 ∧
        ∃ schema, p.2 = .mapping schema ∧ e.2.schema = .ok schema) ds properties ∧
      ShapeOf (.object c props o)
        ⟨objectStep (ds.map fun e => (Value.text e.1, e.2)) (ctx.override o.strict?).mode,
          propertiesSchema ds properties (ctx.override o.strict?).mode⟩ shape ∧
      ChecksOf .refine
        ((o.minProps?.map minProperties).toList ++ (o.maxProps?.map maxProperties).toList) sizes ∧
      d.MadeOf (.object c props o) (shape :: sizes) := by
  obtain ⟨path, t, u, h⟩ := h
  obtain ⟨stages, s, hs, hd⟩ := treat_ok h
  obtain ⟨ds, s', hds, hs⟩ := bind_ok hs
  obtain ⟨schema, s'', hschema, hs⟩ := bind_ok hs
  obtain ⟨shape, _, hshape, hs⟩ := bind_ok hs
  obtain ⟨sizes, _, hsizes, hs⟩ := bind_ok hs
  obtain ⟨rfl, _⟩ := pure_ok hs
  obtain ⟨properties, hproperties, rfl⟩ := objectSchema_ok hschema
  exact ⟨ds, properties, shape, sizes, compileProps_ok hds, hproperties, shapeStage_ok hshape,
    checkStages_ok hsizes, hd⟩

theorem multi {branches : List Rule} (h : (Rule.multi c branches).CompilesTo ctx d) :
    ∃ (ds : List Validator) (schemas : List Value) (shape : Stage),
      List.Forall₂ (fun r d => r.CompilesTo ctx d) branches ds ∧
      List.Forall₂ (fun d v => ∃ schema, v = .mapping schema ∧ d.schema = .ok schema) ds
        schemas ∧
      ShapeOf (.multi c branches) ⟨unionStep ds, keyword "anyOf" (.list schemas)⟩ shape ∧
      d.MadeOf (.multi c branches) [shape] := by
  obtain ⟨path, t, u, h⟩ := h
  obtain ⟨stages, s, hs, hd⟩ := treat_ok h
  obtain ⟨ds, _, hds, hs⟩ := bind_ok hs
  obtain ⟨schemas, _, hschemas, hs⟩ := bind_ok hs
  obtain ⟨shape, _, hshape, hs⟩ := bind_ok hs
  obtain ⟨rfl, _⟩ := pure_ok hs
  exact ⟨ds, schemas, shape, compileBranches_ok hds, schemaValues_ok hschemas,
    shapeStage_ok hshape, hd⟩

theorem tuple {slots : List Rule} (h : (Rule.tuple c slots).CompilesTo ctx d) :
    ∃ (ds : List Validator) (schemas : List Value) (shape : Stage),
      List.Forall₂ (fun r d => r.CompilesTo ctx d) slots ds ∧
      List.Forall₂ (fun d v => ∃ schema, v = .mapping schema ∧ d.schema = .ok schema) ds
        schemas ∧
      ShapeOf (.tuple c slots)
        ⟨tupleStep ds, typeSchema "array" ++ keyword "prefixItems" (.list schemas) ++
          keyword "items" (.bool false) ++ keyword "minItems" (bound ds.length) ++
          keyword "maxItems" (bound ds.length)⟩ shape ∧
      d.MadeOf (.tuple c slots) [shape] := by
  obtain ⟨path, t, u, h⟩ := h
  obtain ⟨stages, s, hs, hd⟩ := treat_ok h
  obtain ⟨ds, _, hds, hs⟩ := bind_ok hs
  obtain ⟨schemas, _, hschemas, hs⟩ := bind_ok hs
  obtain ⟨shape, _, hshape, hs⟩ := bind_ok hs
  obtain ⟨rfl, _⟩ := pure_ok hs
  exact ⟨ds, schemas, shape, compileSlots_ok hds, schemaValues_ok hschemas,
    shapeStage_ok hshape, hd⟩

theorem record {key value : Rule} (h : (Rule.record c key value).CompilesTo ctx d) :
    ∃ (keys values : Validator) (keySchema valueSchema : Schema) (shape : Stage),
      key.CompilesTo ctx keys ∧ value.CompilesTo ctx values ∧
      keys.schema = .ok keySchema ∧ values.schema = .ok valueSchema ∧
      ShapeOf (.record c key value)
        ⟨recordStep keys values, typeSchema "object" ++
          keyword "additionalProperties" (.mapping valueSchema) ++
          keyword "propertyNames" (.mapping keySchema)⟩ shape ∧
      d.MadeOf (.record c key value) [shape] := by
  obtain ⟨path, t, u, h⟩ := h
  obtain ⟨stages, s, hs, hd⟩ := treat_ok h
  obtain ⟨keys, s', hkeys, hs⟩ := bind_ok hs
  obtain ⟨values, s'', hvalues, hs⟩ := bind_ok hs
  obtain ⟨v, _, hv, hs⟩ := bind_ok hs
  obtain ⟨valueSchema, rfl, hvs⟩ := schemaValue_ok hv
  obtain ⟨v, _, hv, hs⟩ := bind_ok hs
  obtain ⟨keySchema, rfl, hks⟩ := schemaValue_ok hv
  obtain ⟨shape, _, hshape, hs⟩ := bind_ok hs
  obtain ⟨rfl, _⟩ := pure_ok hs
  exact ⟨keys, values, keySchema, valueSchema, shape, ⟨_, t, s', hkeys⟩, ⟨_, s', s'', hvalues⟩,
    hks, hvs, shapeStage_ok hshape, hd⟩

end Rule.CompilesTo

end RuleSchema
