import RuleSchema.Proofs.Agreement.Checks
import RuleSchema.Proofs.Export.Arrays
import RuleSchema.Proofs.Rule.Induction
import RuleSchema.Proofs.Validator.Absent
import RuleSchema.Proofs.Validator.Decisions
import RuleSchema.Signature.Export

/-!
# Validation and schemas of rules

A rule is compiled twice over: to stages that run, and to a schema that is shown.  Of the
rules whose demands have keywords the two say the same, by induction over rules: what a
validator accepts of a document is what its schema admits.

* `Rule.isExpressible` tells these rules, of which each rule inside must be one as well.
* `Validator.Faithful` is what the induction proves of their validators.
* `faithful_intro` leaves of it what the stages decide, `faithful_typed` leaves that for
  values of the right type.
* `Rule.CompilesTo.faithful`: every validator of such a rule is faithful.
-/

namespace RuleSchema

open Eval Schema Value

/-! ### The rules -/

/-- Whether keywords say all that the options of an array ask. -/
def ArrayOptions.isExpressible (o : ArrayOptions) : Bool :=
  o.contains?.isNone && !o.unique && o.enum?.isNone

/-- Whether keywords say all that the options of an object ask. -/
def ObjectOptions.isExpressible (o : ObjectOptions) : Bool :=
  o.minProps?.isNone && o.maxProps?.isNone

/-- Whether keywords say all that a rule asks, apart from the rules inside it. -/
def Rule.isExpressible : Rule → Bool
  | .string c o => c.isBare && o.isExpressible
  | .number c o => c.isBare && o.isExpressible
  | .boolean c => c.isBare
  | .array c _ o => c.isBare && o.isExpressible
  | .object c _ o => c.isBare && o.isExpressible
  | .multi c _ => c.isBare
  | .tuple c _ => c.isBare
  | .record c _ _ => c.isBare
  | _ => false

theorem CommonOptions.isBare_iff {c : CommonOptions} :
    c.isBare = true ↔ c.nullable = false ∧ c.convert = false ∧ c.default? = none := by
  rw [isBare, Bool.and_eq_true, Bool.and_eq_true, Bool.not_eq_true', Bool.not_eq_true',
    Option.isNone_iff_eq_none, and_assoc]

/-- A validator is faithful to its schema: it accepts just the documents that the schema admits,
and null is none of them. -/
structure Validator.Faithful (d : Validator) (schema : Schema) : Prop where
  shown : d.schema = .ok schema
  agrees : d.Agrees (.mapping schema)
  null : (Value.mapping schema).admits .null = false

/-! ### What the stages decide -/

section

variable {r : Rule} {ctx : Strictness} {d : Validator} {K : List String} {shape : Shape}
  {s : Stage} {rest : List Stage}

/-- The shape stage of a bare rule shows the schema of its type. -/
theorem ShapeOf.schema_eq (hs : ShapeOf r shape s) (hbare : r.common.isBare = true) :
    s.schema = shape.schema := by
  obtain ⟨hnullable, -, hdefault⟩ := CommonOptions.isBare_iff.mp hbare
  obtain ⟨s₁, d?, hs₁, hd, hschema⟩ := shapeSchema_ok hs.schema
  rw [shownDefault?, hdefault] at hd
  cases hd
  rcases hs₁ with ⟨hnull, -⟩ | ⟨-, rfl⟩
  · rw [hnullable] at hnull
    cases hnull
  · exact hschema

theorem fragments_bare (hstages : d.stages = s :: rest) (hs : ShapeOf r shape s)
    (hbare : r.common.isBare = true) :
    d.fragments.flatten = shape.schema ++ (rest.map Stage.schema).flatten := by
  rw [Validator.fragments, hstages, List.map_cons, List.flatten_cons, hs.schema_eq hbare]

/-- Without a default the flags of a rule decide an absent value. -/
theorem Rule.CompilesTo.absent_decides (h : r.CompilesTo ctx d) (htag : r.tag ≠ .forbidden)
    (hdefault : r.common.default? = none) :
    (d.validate .absent).Decides (fun _ => True) (!d.required) := by
  have hrule : r.isRequired = !(r.common.optional || r.hasDefault) := by
    cases r <;> first
      | rfl
      | exact absurd rfl htag
  have hrequired : d.required = !r.common.optional := by
    rw [h.required_eq, hrule, Rule.hasDefault, hdefault, Option.isSome_none, Bool.or_false]
  rw [hrequired, Bool.not_not, h.absent_eq htag hdefault]
  cases r.common.optional with
  | true => exact .accepted rfl trivial
  | false => exact .rejected rfl

/-- **A validator is faithful** if its stages decide what the keywords of its stages mean. -/
theorem faithful_intro (h : r.CompilesTo ctx d) (hbare : r.common.isBare = true)
    (htag : r.tag ≠ .forbidden) (hnamed : Named d.fragments.flatten K)
    (hnull : (Value.mapping d.fragments.flatten).admits .null = false)
    (hpresent : ∀ v : Value, v.isDocument = true → v.isNull = false →
      (d.validate v).Decides (fun w => v.StandsFor w)
        ((Value.mapping d.fragments.flatten).admits v)) :
    ∃ schema, d.Faithful schema := by
  obtain ⟨hnullable, -, hdefault⟩ := CommonOptions.isBare_iff.mp hbare
  have hexport : d.schema = .ok (d.describe d.fragments.flatten) := by
    rw [Validator.schema, Validator.export_apart hnamed]
    rfl
  refine ⟨_, hexport, ⟨fun v hv => ?_, h.absent_decides htag hdefault⟩,
    Validator.admits_describe.trans hnull⟩
  rw [Validator.admits_describe]
  cases hv' : v.isNull with
  | false => exact hpresent v hv hv'
  | true =>
    obtain rfl : v = .null := by
      cases v <;> first | rfl | cases hv'
    obtain ⟨shape, s, rest, hstages, hs⟩ := h.head htag
    rw [hnull]
    exact validate_null hstages hs hnullable

/-- A stage without checks changes and shows nothing. -/
theorem runStages_nothing {tag : Tag} {kind : StageKind} {stages : List Stage} {v : Value}
    (hkind : kind ≠ .shape) (h : ChecksOf kind [] stages) :
    (Validator.runStages tag stages v).Decides (fun w => w = v) true := by
  rw [← List.append_nil stages]
  exact runStages_decides (f := fun _ => true) (b := true) hkind h
    (fun c hc => absurd hc List.not_mem_nil) (.accepted rfl rfl)

theorem meets_typeSchema {type : String} {siblings : Schema} {v : Value} :
    meets (typeSchema type) siblings v = v.isOfType type := meets_plain (w := .type) rfl

/-- A value that the shape rejects. -/
theorem validate_rejected (hstages : d.stages = s :: rest) (hs : ShapeOf r shape s)
    (hnullable : r.common.nullable = false) {v : Value} (hv : v.isDocument = true)
    (hnull : v.isNull = false) {e : StageRejection} (hcheck : shape.check v = .reject e)
    {Q : Value → Prop} : (d.validate v).Decides Q false := by
  refine validate_decides (Q := fun _ => False) (c := true) hstages hs hnullable
    (isAbsent_of_isDocument hv) hnull (.rejected hcheck) fun w hw => hw.elim

/-- A value that the shape lets through as it is. -/
theorem validate_unchanged (hstages : d.stages = s :: rest) (hs : ShapeOf r shape s)
    (hnullable : r.common.nullable = false) {v : Value} (hv : v.isDocument = true)
    (hnull : v.isNull = false) (hcheck : shape.check v = pure v) {b : Bool}
    (hrest : (Validator.runStages d.tag rest v).Decides (fun w => w = v) b) :
    (d.validate v).Decides (fun w => v.StandsFor w) b := by
  have hpresent := isAbsent_of_isDocument hv
  rw [← Bool.true_and b]
  refine validate_decides (Q := fun w => w = v) hstages hs hnullable hpresent hnull
    (.accepted hcheck rfl) ?_
  rintro w rfl
  refine ⟨hpresent, hnull, hrest.mono ?_⟩
  rintro w rfl
  exact ⟨hpresent, fun _ _ => rfl⟩

/-- What a shape stage alone decides. -/
theorem validate_alone (hstages : d.stages = [s]) (hs : ShapeOf r shape s)
    (hnullable : r.common.nullable = false) {v : Value} (hv : v.isAbsent = false)
    (hnull : v.isNull = false) {Q : Value → Prop} {b : Bool}
    (hshape : (shape.check v).Decides Q b) : (d.validate v).Decides Q b := by
  rw [Validator.validate, hstages, Validator.runStages, hs.run, runShape_eq hnullable hv, hnull,
    if_neg Bool.false_ne_true, ← Bool.and_true b]
  refine (hshape.mapReason _).bind fun w hw => ?_
  split <;> exact .accepted rfl hw

/-- **A validator of values of a type is faithful** if its stages decide so for these. -/
theorem faithful_typed {type : String} (kind : String) (asks : Schema) (h : r.CompilesTo ctx d)
    (hbare : r.common.isBare = true) (htag : r.tag ≠ .forbidden)
    (hnamed : Named d.fragments.flatten K) (hstages : d.stages = s :: rest)
    (hs : ShapeOf r shape s) (hschema : shape.schema = typeSchema type ++ asks)
    (hkind : Value.null.isOfType kind = false)
    (hwrong : ∀ v : Value, v.isDocument = true → v.isOfType kind = false →
      v.isOfType type = false ∧ ∃ e, shape.check v = .reject e)
    (hright : ∀ v : Value, v.isDocument = true → v.isOfType kind = true →
      (d.validate v).Decides (fun w => v.StandsFor w)
        ((Value.mapping d.fragments.flatten).admits v)) :
    ∃ schema, d.Faithful schema := by
  have hadmits : ∀ v : Value, v.isOfType type = false →
      (Value.mapping d.fragments.flatten).admits v = false := by
    intro v hv
    rw [fragments_bare hstages hs hbare, hschema, List.append_assoc]
    change meets _ _ v = false
    rw [meets_append, meets_typeSchema, hv, Bool.false_and]
  refine faithful_intro h hbare htag hnamed (hadmits _ (hwrong _ rfl hkind).1) fun v hv hnull => ?_
  cases hv' : v.isOfType kind with
  | true => exact hright v hv hv'
  | false =>
    obtain ⟨htype, e, he⟩ := hwrong v hv hv'
    rw [hadmits v htype]
    exact validate_rejected hstages hs (CommonOptions.isBare_iff.mp hbare).1 hv hnull he

end

/-! ### Parts -/

theorem Validator.Faithful.agrees_shown {d : Validator} {schema schema' : Schema}
    (h : d.Faithful schema) (hschema : d.schema = .ok schema') : d.Agrees (.mapping schema') := by
  obtain rfl : schema = schema' := Except.ok.inj (h.shown.symm.trans hschema)
  exact h.agrees

section

variable {ds : List Validator} {schemas : List Value}

/-- Faithful validators and the schemas that are shown of them. -/
theorem agree_of_faithful (hds : ∀ d ∈ ds, ∃ schema, d.Faithful schema)
    (h : List.Forall₂ (fun d v => ∃ schema, v = .mapping schema ∧ d.schema = .ok schema) ds
      schemas) : List.Forall₂ Validator.Agrees ds schemas := by
  refine ((List.forall₂_and_left _ _).mpr ⟨hds, h⟩).imp ?_
  rintro d _ ⟨⟨schema, hfaithful⟩, schema', rfl, hschema⟩
  exact hfaithful.agrees_shown hschema

theorem null_of_faithful (hds : ∀ d ∈ ds, ∃ schema, d.Faithful schema)
    (h : List.Forall₂ (fun d v => ∃ schema, v = .mapping schema ∧ d.schema = .ok schema) ds
      schemas) : (schemas.any fun x => x.admits .null) = false := by
  rw [List.any_eq_false]
  intro x hx
  obtain ⟨d, hd, schema, rfl, hschema⟩ := exists_of_mem_right h hx
  obtain ⟨schema', hfaithful⟩ := hds d hd
  obtain rfl : schema' = schema := Except.ok.inj (hfaithful.shown.symm.trans hschema)
  exact Bool.eq_false_iff.mp hfaithful.null

end

/-! ### The schema of an object -/

section

variable {ds : Entries Validator} {properties es : Entries Value} {required : List Value}
  {mode : UnknownKeys}

/-- What the schema of an object asks of a mapping. -/
theorem admits_fieldsSchema :
    (Value.mapping (fieldsSchema properties required mode)).admits (.mapping es)
      = ((!decide (mode = .reject) || es.all fun e => Entries.hasKey properties e.1) &&
        ((properties.all fun p => ((es.find? p.1).map p.2.admits).getD true) &&
          required.all fun n => Entries.hasKey es n)) := by
  have hdeclares : ∀ k, (fieldsSchema properties required mode).declares k
      = Entries.hasKey properties k := fun _ => rfl
  have hrequired : meets (if required.isEmpty then [] else keyword "required" (.list required))
      (fieldsSchema properties required mode) (.mapping es)
      = required.all fun n => Entries.hasKey es n := by
    cases required with
    | nil => rfl
    | cons n required => exact meets_plain (w := .required) rfl
  have hunknown : meets (if mode = .reject then keyword "additionalProperties" (.bool false)
      else []) (fieldsSchema properties required mode) (.mapping es)
      = (!decide (mode = .reject) || es.all fun e => Entries.hasKey properties e.1) := by
    by_cases hmode : mode = .reject
    · rw [if_pos hmode, meets_additionalProperties, decide_eq_true hmode, Bool.not_true,
        Bool.false_or]
      refine congrArg (List.all es) (funext fun e => ?_)
      rw [hdeclares]
      exact Bool.or_false _
    · rw [if_neg hmode, decide_eq_false hmode]
      rfl
  change meets (_ ++ _ ++ _ ++ _) _ _ = _
  rw [meets_append, meets_append, meets_append, hrequired, hunknown, meets_properties,
    Bool.and_comm]
  rfl

/-- The names of required fields are all there if the required validators find a value. -/
theorem all_required (h : ∀ f, f ∈ required ↔ ∃ d, (f, d) ∈ ds ∧ d.required = true) :
    (required.all fun n => Entries.hasKey es n) = hasRequired ds es := by
  rw [hasRequired, Bool.eq_iff_iff, List.all_eq_true, List.all_eq_true]
  constructor
  · intro hall e he
    cases hrequired : e.2.required with
    | false => rfl
    | true => exact hall e.1 ((h e.1).mpr ⟨e.2, he, hrequired⟩)
  · intro hall f hf
    obtain ⟨d, hd, hrequired⟩ := (h f).mp hf
    have hkey := hall (f, d) hd
    rw [hrequired] at hkey
    exact hkey

/-- The schema of a rule for objects is that of its properties. -/
theorem propertiesSchema_eq {ds : List (String × Validator)} :
    propertiesSchema ds properties mode
      = fieldsSchema properties ((requiredNames ds).map .text) mode := by
  rw [propertiesSchema, fieldsSchema, List.isEmpty_map]
  rfl

theorem mem_requiredNames {ds : List (String × Validator)} (f : Value) :
    f ∈ (requiredNames ds).map Value.text ↔
      ∃ d : Validator, (f, d) ∈ ds.map (fun e => (Value.text e.1, e.2)) ∧ d.required = true := by
  simp only [requiredNames, sortTexts, List.mem_map, List.mem_mergeSort, List.mem_filter]
  constructor
  · rintro ⟨n, ⟨⟨m, d⟩, ⟨hd, hrequired⟩, rfl⟩, rfl⟩
    exact ⟨d, ⟨(m, d), hd, rfl⟩, hrequired⟩
  · rintro ⟨d, ⟨⟨m, d'⟩, hd, heq⟩, hrequired⟩
    cases heq
    exact ⟨m, ⟨(m, d'), ⟨hd, hrequired⟩, rfl⟩, rfl⟩

end

/-! ### The schemas of tuples and records -/

/-- What the schema of a tuple asks of a list. -/
theorem admits_slotsSchema {schemas xs : List Value} :
    (Value.mapping (typeSchema "array" ++ (keyword "prefixItems" (.list schemas) ++
      (keyword "items" (.bool false) ++ (keyword "minItems" (bound schemas.length) ++
        keyword "maxItems" (bound schemas.length)))))).admits (.list xs)
      = (decide (xs.length = schemas.length) && admitsEach schemas xs) := by
  have hitems : ((xs.drop schemas.length).all fun y => (Value.bool false).admits y)
      = decide (xs.length ≤ schemas.length) := by
    rw [Bool.eq_iff_iff, decide_eq_true_iff, ← List.drop_eq_nil_iff]
    cases xs.drop schemas.length with
    | nil => exact ⟨fun _ => rfl, fun _ => rfl⟩
    | cons y ys =>
      exact ⟨fun h => absurd h Bool.false_ne_true, fun h => absurd h (List.cons_ne_nil _ _)⟩
  change meets _ _ _ = _
  rw [meets_append, meets_append, meets_append, meets_append, meets_typeSchema,
    meets_prefixItems, meets_items, meets_minItems, meets_maxItems]
  change (true && (admitsEach schemas xs && (((xs.drop schemas.length).all _) && _))) = _
  rw [hitems, decide_le_and_le, Bool.true_and, Bool.and_comm]
  by_cases hlength : xs.length = schemas.length
  · rw [decide_eq_true hlength, decide_eq_true (Nat.le_of_eq hlength), Bool.true_and]
  · rw [decide_eq_false hlength, Bool.and_false]

/-- What the schema of a record asks of a mapping. -/
theorem admits_recordSchema {kx vx : Value} {es : Entries Value} :
    (Value.mapping (typeSchema "object" ++ (keyword "additionalProperties" vx ++
      keyword "propertyNames" kx))).admits (.mapping es)
      = es.all fun e => kx.admits e.1 && vx.admits e.2 := by
  change meets _ _ _ = _
  rw [meets_append, meets_append, meets_typeSchema, meets_additionalProperties,
    meets_propertyNames]
  change (true && ((es.all fun e => false || vx.admits e.2) && _)) = _
  rw [Bool.true_and, Bool.and_comm]
  induction es with
  | nil => rfl
  | cons e es ih =>
    simp only [List.all_cons, ← ih]
    rw [Bool.false_or]
    ac_rfl

/-! ### Rules without rules inside -/

namespace Rule.CompilesTo

variable {c : CommonOptions} {ctx : Strictness} {d : Validator}

theorem boolean_faithful (h : (Rule.boolean c).CompilesTo ctx d) (hbare : c.isBare = true) :
    ∃ schema, d.Faithful schema := by
  obtain ⟨hnullable, hconvert, -⟩ := CommonOptions.isBare_iff.mp hbare
  have hnamed : Named d.fragments.flatten (Tag.keywords .boolean) := h.named (by intro h; cases h)
  obtain ⟨path, t, u, stages, hstages, hmade⟩ := h.simple rfl
  obtain ⟨s, _, hs, hstages⟩ := bind_ok hstages
  have hs := shapeStage_ok hs
  rw [(pure_ok hstages).1] at hmade
  change ShapeOf _ ⟨readStep "boolean.type" (if c.convert then _ else _) _, _⟩ s at hs
  rw [hconvert, if_neg Bool.false_ne_true] at hs
  refine faithful_typed "boolean" [] h hbare (by intro h; cases h) hnamed hmade.stages
    hs rfl rfl (fun v hv hkind => ⟨hkind, ?_⟩) fun v hv hkind => ?_
  · cases v <;> first | exact ⟨_, rfl⟩ | cases hkind
  · obtain ⟨b, rfl⟩ : ∃ b, v = .bool b := by
      cases v <;> first | exact ⟨_, rfl⟩ | cases hkind
    rw [fragments_bare hmade.stages hs hbare]
    exact validate_unchanged hmade.stages hs hnullable rfl rfl rfl (.accepted rfl rfl)

/-- A text is accepted if the checks let it through. -/
theorem string_faithful {o : StringOptions} (h : (Rule.string c o).CompilesTo ctx d)
    (hbare : c.isBare = true) (ho : o.isExpressible = true) : ∃ schema, d.Faithful schema := by
  obtain ⟨hnullable, hconvert, -⟩ := CommonOptions.isBare_iff.mp hbare
  have hnamed : Named d.fragments.flatten (Tag.keywords .string) := h.named (by intro h; cases h)
  obtain ⟨s, checks, sizes, hs, ⟨_, _, _, hchecks⟩, hsizes, hmade⟩ := h.string
  have hjoinable := stringChecks_joinable ho hchecks
  have hmeets := hsizes.meets_schemas fun c hc => (hjoinable c hc).bounding
  simp only [StringOptions.isExpressible, Bool.and_eq_true, List.isEmpty_iff] at ho
  obtain ⟨⟨-, hpreparation⟩, hpadding⟩ := ho
  have hrest : d.stages = s :: (sizes ++ []) := by
    rw [hmade.stages, hpreparation, hpadding]
    rfl
  change ShapeOf _ ⟨readStep _ (if c.convert then _ else _) _, _⟩ s at hs
  rw [hconvert, if_neg Bool.false_ne_true] at hs
  refine faithful_typed "string" [] h hbare (by intro h; cases h) hnamed hrest
    hs rfl rfl (fun v hv hkind => ⟨hkind, ?_⟩) fun v hv hkind => ?_
  · cases v <;> first | exact ⟨_, rfl⟩ | (cases hkind; done) | cases hv
  · obtain ⟨n, rfl⟩ : ∃ n, v = .text n := by
      cases v <;> first | exact ⟨_, rfl⟩ | cases hkind
    have hfaithful : ∀ c ∈ checks, c.Faithful (.text n) :=
      fun c hc => (hjoinable c hc).faithful _ ⟨n, rfl⟩
    rw [admits_alone (hnamed.at?_eq_none (by decide)) (hnamed.at?_eq_none (by decide)),
      fragments_bare hrest hs hbare, List.append_nil, meets_append, hmeets, ← all_passes hfaithful]
    refine validate_unchanged hrest hs hnullable rfl rfl rfl ?_
    rw [← Bool.and_true (meets _ _ _ && _), Bool.and_assoc]
    exact runStages_decides (by intro h; cases h) hsizes (fun c hc => (hfaithful c hc).test)
      (.accepted rfl rfl)

/-- A number is accepted if it is whole where that is asked, and the checks let it through. -/
theorem number_faithful {o : NumberOptions} (h : (Rule.number c o).CompilesTo ctx d)
    (hbare : c.isBare = true) (ho : o.isExpressible = true) : ∃ schema, d.Faithful schema := by
  obtain ⟨hnullable, hconvert, -⟩ := CommonOptions.isBare_iff.mp hbare
  have hnamed : Named d.fragments.flatten (Tag.keywords .number) := h.named (by intro h; cases h)
  obtain ⟨s, bounds, others, hs, hbounds, hothers, hmade⟩ := h.number
  have hrest : d.stages = s :: (bounds ++ (others ++ [])) := by
    rw [hmade.stages, List.append_nil]
  change ShapeOf _ ⟨readStep _ (if c.convert then _ else _) _, _⟩ s at hs
  rw [hconvert, if_neg Bool.false_ne_true] at hs
  have htype : ∀ v : Value, v.isOfType "number" = false →
      v.isOfType (if o.integer then "integer" else "number") = false := by
    intro v hv
    cases o.integer with
    | false => exact hv
    | true => cases v <;> first | rfl | cases hv
  refine faithful_typed "number" [] h hbare (by intro h; cases h) hnamed hrest
    hs rfl rfl (fun v hv hkind => ⟨htype v hkind, ?_⟩) fun v hv hkind => ?_
  · cases v <;> first | exact ⟨_, rfl⟩ | cases hkind
  · obtain ⟨n, rfl⟩ : ∃ n, v = .number n := by
      cases v <;> first | exact ⟨_, rfl⟩ | cases hkind
    obtain ⟨htest, hpass⟩ := numberChecks_pass ho hv
    have hdifferent := differentChecks_faithful ho hv
    have hnot : Named ((o.notEqual?.map differentFromNumber).toList.map Check.schema).flatten
        ["not"] := named_option fun n => named_keyword List.mem_cons_self
    have hwhole : meets (typeSchema (if o.integer then "integer" else "number")) [] (.number n)
        = (!o.integer || n.isIntegral) := by
      rw [meets_typeSchema]
      cases o.integer <;> rfl
    have hadmits : (Value.mapping d.fragments.flatten).admits (.number n)
        = ((o.checks.all fun c => c.passes (.number n)) &&
          (((o.notEqual?.map differentFromNumber).toList.all fun c => c.passes (.number n)) &&
            true)) := by
      rw [admits_alone (hnamed.at?_eq_none (by decide)) (hnamed.at?_eq_none (by decide)),
        fragments_bare hrest hs hbare, List.append_nil, List.map_append, List.flatten_append,
        hbounds.schemas_eq (numberChecks_named o), hothers.schemas_eq hnot, meets_append,
        meets_append, hpass, all_passes hdifferent, ← meets_flatten, Bool.and_true, Bool.and_assoc]
      exact congrArg (· && _) hwhole
    have hstrict : strictNumber (.number n) = .ok n := by
      cases n with
      | int i => rfl
      | float x => exact if_pos hv
    rw [hadmits]
    refine validate_unchanged hrest hs hnullable hv rfl ?_ ?_
    · change readStep _ strictNumber _ _ = _
      rw [readStep, hstrict]
    · exact runStages_decides (by intro h; cases h) hbounds htest
        (runStages_decides (by intro h; cases h) hothers (fun c hc => (hdifferent c hc).test)
          (.accepted rfl rfl))

/-! ### Rules with rules inside -/

/-- An array is accepted if all its items are, and its size is. -/
theorem array_faithful {items : Rule} {o : ArrayOptions}
    (h : (Rule.array c items o).CompilesTo ctx d) (hbare : c.isBare = true)
    (ho : o.isExpressible = true)
    (hitems : ∀ di, items.CompilesTo ctx di → ∃ schema, di.Faithful schema) :
    ∃ schema, d.Faithful schema := by
  obtain ⟨hnullable, hconvert, -⟩ := CommonOptions.isBare_iff.mp hbare
  obtain ⟨di, schema, s, sizes, contents, checks, hdi, hschema, hs, hsizes, hchecks, hcontents,
    hmade⟩ := h.array
  obtain ⟨schema', hfaithful⟩ := hitems di hdi
  obtain rfl : schema' = schema := Except.ok.inj (hfaithful.shown.symm.trans hschema)
  simp only [ArrayOptions.isExpressible, Bool.and_eq_true, Option.isNone_iff_eq_none,
    Bool.not_eq_true'] at ho
  obtain ⟨⟨hcontains, hunique⟩, henum⟩ := ho
  rw [ArrayOptions.contentChecks, hcontains, hunique, henum] at hchecks
  obtain rfl : checks = [] := (Except.ok.inj hchecks).symm
  have hnothing : (contents.map Stage.schema).flatten = [] :=
    hcontents.schemas_eq (K := []) named_nil
  have hrest : d.stages = s :: (sizes ++ contents) := hmade.stages
  have hfragments : d.fragments.flatten
      = typeSchema "array" ++ keyword "items" (.mapping schema') ++
        (sizes.map Stage.schema).flatten := by
    rw [fragments_bare hrest hs hbare, List.map_append, List.flatten_append, hnothing,
      List.append_nil]
  have hnamed : Named d.fragments.flatten
      (["type", "items"] ++ ["allOf", "minItems", "maxItems"]) := by
    rw [hfragments]
    exact Named.append (named_of_keys rfl (by decide)) (sizes_fragment hsizes).1 (by decide)
  rw [hconvert] at hs
  refine faithful_typed "array" _ h hbare (by intro h; cases h) hnamed hrest hs
    rfl rfl (fun v hv hkind => ⟨hkind, ?_⟩) fun v hv hkind => ?_
  · cases v <;> first | exact ⟨_, rfl⟩ | (cases hkind; done) | cases hv
  · obtain ⟨xs, rfl⟩ : ∃ xs, v = .list xs := by
      cases v <;> first | exact ⟨_, rfl⟩ | cases hkind
    have hjoinable := sizeChecks_joinable o
    have hmeets := hsizes.meets_schemas fun c hc => (hjoinable c hc).bounding
    have hadmits : (Value.mapping d.fragments.flatten).admits (.list xs)
        = ((xs.all (Value.mapping schema').admits) &&
          ((o.sizeChecks.all fun c => meets c.schema [] (.list xs)) && true)) := by
      rw [admits_alone (hnamed.at?_eq_none (by decide)) (hnamed.at?_eq_none (by decide)),
        hfragments, meets_append, meets_append, hmeets, meets_items, Bool.and_true]
      rfl
    have hshape : (arrayStep false di (.list xs)).Decides _ _ :=
      arrayStep_decides hfaithful.agrees (isDocument_list.mp hv)
    rw [hadmits]
    refine validate_decides hrest hs hnullable rfl rfl hshape ?_
    rintro _ ⟨ys, rfl, hlength⟩
    -- the checks see as many items as there were
    have htest : ∀ c ∈ o.sizeChecks, c.test (.list ys) = .ok (meets c.schema [] (.list xs)) := by
      intro c hc
      rw [← (hjoinable c hc).meets_congr hlength]
      exact (hjoinable c hc).faithful _ ⟨ys, rfl⟩
    refine ⟨rfl, rfl, (runStages_decides (by intro h; cases h) hsizes htest
      (runStages_nothing (by intro h; cases h) hcontents)).mono ?_⟩
    rintro _ rfl
    exact ⟨rfl, fun n hn => by cases hn⟩

/-- An object is accepted if its properties are. -/
theorem object_faithful {props : List (String × Rule)} {o : ObjectOptions}
    (h : (Rule.object c props o).CompilesTo ctx d) (hbare : c.isBare = true)
    (ho : o.isExpressible = true)
    (hprops : ∀ p ∈ props, ∀ ctx dp, p.2.CompilesTo ctx dp → ∃ schema, dp.Faithful schema) :
    ∃ schema, d.Faithful schema := by
  obtain ⟨hnullable, hconvert, -⟩ := CommonOptions.isBare_iff.mp hbare
  have hnamed : Named d.fragments.flatten (Tag.keywords .object) := h.named (by intro h; cases h)
  obtain ⟨ds, properties, s, sizes, hds, hproperties, hs, hsizes, hmade⟩ := h.object
  have hfaithful : ∀ e ∈ ds, ∃ schema, e.2.Faithful schema := by
    intro e he
    obtain ⟨p, hp, -, hcompiles⟩ := exists_of_mem_right hds he
    exact hprops p hp _ _ hcompiles
  have hagree : PropertiesAgree (ds.map fun e => (Value.text e.1, e.2)) properties := by
    rw [PropertiesAgree, List.forall₂_map_left_iff]
    refine ((List.forall₂_and_left _ _).mpr ⟨hfaithful, hproperties⟩).imp ?_
    rintro e ⟨k, x⟩ ⟨⟨schema, hfaithful⟩, rfl, schema', rfl, hschema⟩
    exact ⟨rfl, hfaithful.agrees_shown hschema⟩
  simp only [ObjectOptions.isExpressible, Bool.and_eq_true, Option.isNone_iff_eq_none] at ho
  rw [ho.1, ho.2] at hsizes
  change ChecksOf _ [] sizes at hsizes
  rw [propertiesSchema_eq] at hs
  refine faithful_typed "object" _ h hbare (by intro h; cases h) hnamed hmade.stages hs
    rfl rfl (fun v hv hkind => ⟨hkind, ?_⟩) fun v hv hkind => ?_
  · cases v <;> first | exact ⟨_, rfl⟩ | cases hkind
  · obtain ⟨es, rfl⟩ : ∃ es, v = .mapping es := by
      cases v <;> first | exact ⟨_, rfl⟩ | cases hkind
    have hnothing : (sizes.map Stage.schema).flatten = [] :=
      hsizes.schemas_eq (K := []) named_nil
    rw [fragments_bare hmade.stages hs hbare, hnothing, List.append_nil, admits_fieldsSchema,
      all_required mem_requiredNames, ← Bool.and_true (_ && _)]
    refine validate_decides hmade.stages hs hnullable rfl rfl (objectStep_decides hv hagree _) ?_
    rintro _ ⟨out, rfl⟩
    refine ⟨rfl, rfl, (runStages_nothing (by intro h; cases h) hsizes).mono ?_⟩
    rintro _ rfl
    exact ⟨rfl, fun n hn => by cases hn⟩

/-- A tuple is accepted if there is one item for each slot, and each is accepted there. -/
theorem tuple_faithful {slots : List Rule} (h : (Rule.tuple c slots).CompilesTo ctx d)
    (hbare : c.isBare = true)
    (hslots : ∀ r ∈ slots, ∀ dr, r.CompilesTo ctx dr → ∃ schema, dr.Faithful schema) :
    ∃ schema, d.Faithful schema := by
  obtain ⟨hnullable, hconvert, -⟩ := CommonOptions.isBare_iff.mp hbare
  have hnamed : Named d.fragments.flatten (Tag.keywords .tuple) := h.named (by intro h; cases h)
  obtain ⟨ds, schemas, s, hds, hschemas, hs, hmade⟩ := h.tuple
  have hfaithful : ∀ d ∈ ds, ∃ schema, d.Faithful schema := by
    intro d hd
    obtain ⟨r, hr, hcompiles⟩ := exists_of_mem_right hds hd
    exact hslots r hr _ hcompiles
  simp only [List.append_assoc] at hs
  refine faithful_typed "array" _ h hbare (by intro h; cases h) hnamed hmade.stages hs
    rfl rfl (fun v hv hkind => ⟨hkind, ?_⟩) fun v hv hkind => ?_
  · cases v <;> first | exact ⟨_, rfl⟩ | (cases hkind; done) | cases hv
  · obtain ⟨xs, rfl⟩ : ∃ xs, v = .list xs := by
      cases v <;> first | exact ⟨_, rfl⟩ | cases hkind
    have hadmits : (Value.mapping d.fragments.flatten).admits (.list xs)
        = (decide (xs.length = ds.length) && admitsEach schemas xs) := by
      rw [fragments_bare hmade.stages hs hbare, List.map_nil, List.flatten_nil, List.append_nil,
        hschemas.length_eq]
      exact admits_slotsSchema
    rw [hadmits]
    exact validate_alone hmade.stages hs hnullable rfl rfl
      ((tupleStep_decides (agree_of_faithful hfaithful hschemas) (isDocument_list.mp hv)).mono
        fun w ⟨ys, hw⟩ => hw ▸ ⟨rfl, fun n hn => by cases hn⟩)

/-- A record is accepted if all its keys and all its values are. -/
theorem record_faithful {key value : Rule} (h : (Rule.record c key value).CompilesTo ctx d)
    (hbare : c.isBare = true)
    (hkey : ∀ dk, key.CompilesTo ctx dk → ∃ schema, dk.Faithful schema)
    (hvalue : ∀ dv, value.CompilesTo ctx dv → ∃ schema, dv.Faithful schema) :
    ∃ schema, d.Faithful schema := by
  obtain ⟨hnullable, hconvert, -⟩ := CommonOptions.isBare_iff.mp hbare
  have hnamed : Named d.fragments.flatten (Tag.keywords .record) := h.named (by intro h; cases h)
  obtain ⟨keys, values, keySchema, valueSchema, s, hkeys, hvalues, hks, hvs, hs, hmade⟩ := h.record
  obtain ⟨_, hkeysFaithful⟩ := hkey keys hkeys
  obtain ⟨_, hvaluesFaithful⟩ := hvalue values hvalues
  rw [List.append_assoc] at hs
  refine faithful_typed "object" _ h hbare (by intro h; cases h) hnamed hmade.stages hs
    rfl rfl (fun v hv hkind => ⟨hkind, ?_⟩) fun v hv hkind => ?_
  · cases v <;> first | exact ⟨_, rfl⟩ | cases hkind
  · obtain ⟨es, rfl⟩ : ∃ es, v = .mapping es := by
      cases v <;> first | exact ⟨_, rfl⟩ | cases hkind
    have hadmits : (Value.mapping d.fragments.flatten).admits (.mapping es)
        = es.all fun e => (Value.mapping keySchema).admits e.1 &&
            (Value.mapping valueSchema).admits e.2 := by
      rw [fragments_bare hmade.stages hs hbare, List.map_nil, List.flatten_nil, List.append_nil]
      exact admits_recordSchema
    rw [hadmits]
    exact validate_alone hmade.stages hs hnullable rfl rfl
      ((recordStep_decides (hkeysFaithful.agrees_shown hks) (hvaluesFaithful.agrees_shown hvs)
        hv).mono fun w ⟨out, hw⟩ => hw ▸ ⟨rfl, fun n hn => by cases hn⟩)

/-- A union accepts what one of its branches does. -/
theorem multi_faithful {branches : List Rule} (h : (Rule.multi c branches).CompilesTo ctx d)
    (hbare : c.isBare = true)
    (hbranches : ∀ r ∈ branches, ∀ dr, r.CompilesTo ctx dr → ∃ schema, dr.Faithful schema) :
    ∃ schema, d.Faithful schema := by
  obtain ⟨hnullable, hconvert, -⟩ := CommonOptions.isBare_iff.mp hbare
  have hnamed : Named d.fragments.flatten (Tag.keywords .multi) := h.named (by intro h; cases h)
  obtain ⟨ds, schemas, s, hds, hschemas, hs, hmade⟩ := h.multi
  have hfaithful : ∀ d ∈ ds, ∃ schema, d.Faithful schema := by
    intro d hd
    obtain ⟨r, hr, hcompiles⟩ := exists_of_mem_right hds hd
    exact hbranches r hr _ hcompiles
  have hadmits : ∀ v : Value, (Value.mapping d.fragments.flatten).admits v
      = schemas.any fun x => x.admits v := by
    intro v
    rw [fragments_bare hmade.stages hs hbare, List.map_nil, List.flatten_nil, List.append_nil]
    exact meets_anyOf
  refine faithful_intro h hbare (by intro h; cases h) hnamed ?_ fun v hv hnull => ?_
  · exact (hadmits _).trans (null_of_faithful hfaithful hschemas)
  · rw [hadmits]
    exact validate_alone hmade.stages hs hnullable (isAbsent_of_isDocument hv) hnull
      (unionStep_decides hv (agree_of_faithful hfaithful hschemas))

end Rule.CompilesTo

/-! ### All rules -/

/-- Of a rule whose demands have keywords, and of all rules inside it, every validator is faithful
to its schema. -/
def Rule.Faithful (r : Rule) : Prop :=
  (∀ q ∈ r.nodes, q.isExpressible = true) →
    ∀ ctx d, r.CompilesTo ctx d → ∃ schema, d.Faithful schema

theorem Rule.faithful_of_simple {r : Rule} (hr : r.tag.isComposite = false) : r.Faithful := by
  intro hexpressible ctx d hd
  have hself := hexpressible r r.self_mem_nodes
  cases r with
  | boolean c => exact hd.boolean_faithful hself
  | string c o =>
    obtain ⟨hbare, ho⟩ := Bool.and_eq_true_iff.mp hself
    exact hd.string_faithful hbare ho
  | number c o =>
    obtain ⟨hbare, ho⟩ := Bool.and_eq_true_iff.mp hself
    exact hd.number_faithful hbare ho
  | array | object | multi | tuple | record => cases hr
  | _ => cases hself

/-- **Validation and schema say the same**, for every rule whose demands have keywords. -/
theorem Rule.faithful : ∀ r : Rule, r.Faithful := by
  apply Rule.induct
  refine ⟨fun r hr => faithful_of_simple hr, ?array, ?object, ?multi, ?tuple, ?record⟩
  case array =>
    intro c items o ih hexpressible ctx d hd
    obtain ⟨hbare, ho⟩ := Bool.and_eq_true_iff.mp (hexpressible _ (self_mem_nodes _))
    exact hd.array_faithful hbare ho
      (ih (fun q hq => hexpressible q (mem_nodes_array hq)) ctx)
  case object =>
    intro c props o ih hexpressible ctx d hd
    obtain ⟨hbare, ho⟩ := Bool.and_eq_true_iff.mp (hexpressible _ (self_mem_nodes _))
    exact hd.object_faithful hbare ho fun p hp =>
      ih p hp fun q hq => hexpressible q (mem_nodes_object hp hq)
  case multi =>
    intro c branches ih hexpressible ctx d hd
    exact hd.multi_faithful (hexpressible _ (self_mem_nodes _)) fun r hr =>
      ih r hr (fun q hq => hexpressible q (mem_nodes_multi hr hq)) ctx
  case tuple =>
    intro c slots ih hexpressible ctx d hd
    exact hd.tuple_faithful (hexpressible _ (self_mem_nodes _)) fun r hr =>
      ih r hr (fun q hq => hexpressible q (mem_nodes_tuple hr hq)) ctx
  case record =>
    intro c key value ihk ihv hexpressible ctx d hd
    exact hd.record_faithful (hexpressible _ (self_mem_nodes _))
      (ihk (fun q hq => hexpressible q (mem_nodes_key hq)) ctx)
      (ihv (fun q hq => hexpressible q (mem_nodes_value hq)) ctx)

end RuleSchema
