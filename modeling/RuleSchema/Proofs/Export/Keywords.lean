import RuleSchema.Proofs.Compile.Stages
import RuleSchema.Proofs.Rule.Induction
import RuleSchema.Proofs.Schema.Joining

/-!
# The keywords of a rule

Each stage of a validator has a fragment of the schema.  The fragments of a rule that is
no array have no name in common, whatever its options are, so that an export writes one
after the other and leaves the validator as it is.

* `Tag.keywords` are the names that the schemas of the rules of a type may have.
* `CompilesTo.named`: the names of all fragments of a rule are different and among them.
* `export_apart`: what an export gives then.
-/

namespace RuleSchema

open Eval Schema

/-- The fragments of the schema of a validator. -/
def Validator.fragments (d : Validator) : List Schema := d.stages.map Stage.schema

/-- The keywords that the schemas of the rules of a type may have, apart from descriptions. -/
def Tag.keywords : Tag → List String
  | .string => ["default", "anyOf", "type", "allOf", "minLength", "maxLength", "pattern", "enum"]
  | .number =>
    ["default", "anyOf", "type", "const", "minimum", "maximum", "exclusiveMinimum",
      "exclusiveMaximum", "not"]
  | .boolean => ["default", "anyOf", "type"]
  | .date => ["default", "anyOf", "type", "format", "not"]
  | .any | .class | .function => ["default", "anyOf"]
  | .email => ["default", "anyOf", "type", "format", "allOf", "minLength", "maxLength"]
  | .currency | .mac => ["default", "anyOf", "type", "pattern"]
  | .enum => ["default", "anyOf", "enum"]
  | .equal => ["default", "anyOf", "const"]
  | .forbidden => ["not"]
  | .luhn | .objectId => ["default", "anyOf", "type"]
  | .url | .uuid => ["default", "anyOf", "type", "format", "minLength"]
  | .array =>
    ["default", "anyOf", "type", "items", "minItems", "maxItems", "allOf", "contains",
      "uniqueItems"]
  | .object =>
    ["default", "anyOf", "type", "properties", "required", "additionalProperties",
      "minProperties", "maxProperties"]
  | .multi => ["default", "anyOf"]
  | .tuple => ["default", "anyOf", "type", "prefixItems", "items", "minItems", "maxItems"]
  | .record => ["default", "anyOf", "type", "additionalProperties", "propertyNames"]

/-! ### Fragments of single stages -/

section

variable {r : Rule} {K : List String} {kind : StageKind} {checks : List Check}
  {stages : List Stage}

/-- Admitting null keeps the names, but for one. -/
theorem nullableSchema_named {s s' : Schema} (hs : Named s K) (h : nullableSchema s = .ok s') :
    Named s' ("anyOf" :: K) := by
  have hmono : Named s ("anyOf" :: K) := hs.mono (List.subset_cons_self _ _)
  have hput : ∀ {n : String} {v w : Value}, Entries.at? s n = some v →
      Named (Entries.put s (.text n) w) ("anyOf" :: K) :=
    fun hv => hmono.put (hmono.mem_of_at? hv)
  rw [nullableSchema] at h
  split at h
  · next htype => cases h; exact hput htype
  · next htype => cases h; exact hput htype
  · next htype =>
    cases h
    split
    · exact hmono
    · exact hput htype
  · split at h
    · next hany =>
      split at h
      · cases h; exact hput hany
      · cases h
    · cases h
      split
      · exact hmono
      · exact named_keyword List.mem_cons_self

/-- A schema with a default, if there is one to be shown. -/
def withDefault (s : Schema) : Option Value → Schema
  | some d => Entries.put s (.text "default") d
  | none => s

/-- The schema of a shape stage: null is admitted if the rule does, and then the default is
shown. -/
theorem shapeSchema_ok {s s' : Schema} (h : shapeSchema r s = .ok s') :
    ∃ s₁ d?, (r.common.nullable = true ∧ nullableSchema s = .ok s₁ ∨
        r.common.nullable = false ∧ s₁ = s) ∧
      shownDefault? r = .ok d? ∧ s' = withDefault s₁ d? := by
  have hrest : ∀ s₁ : Schema, (do
      match ← shownDefault? r with
      | some d => pure (Entries.put s₁ (.text "default") d)
      | none => pure s₁ : Except Fault Schema) = .ok s' →
      ∃ d?, shownDefault? r = .ok d? ∧ s' = withDefault s₁ d? := by
    intro s₁ h
    cases hd : shownDefault? r with
    | error f => rw [hd] at h; cases h
    | ok d? =>
      rw [hd] at h
      cases d? <;> cases h <;> exact ⟨_, rfl, rfl⟩
  rw [shapeSchema] at h
  split at h
  · next hn =>
    cases hs : nullableSchema s with
    | error f => rw [hs] at h; cases h
    | ok s₁ =>
      rw [hs] at h
      obtain ⟨d?, hd, rfl⟩ := hrest s₁ h
      exact ⟨s₁, d?, .inl ⟨hn, rfl⟩, hd, rfl⟩
  · next hn =>
    obtain ⟨d?, hd, rfl⟩ := hrest s h
    exact ⟨s, d?, .inr ⟨by simpa using hn, rfl⟩, hd, rfl⟩

theorem withDefault_named {s : Schema} {d? : Option Value} (h : Named s K)
    (hK : "default" ∈ K) : Named (withDefault s d?) K := by
  cases d? with
  | none => exact h
  | some d => exact h.put hK

theorem ShapeOf.named {shape : Shape} {s : Stage} (hs : ShapeOf r shape s)
    (h : Named shape.schema K) : Named s.schema ("default" :: "anyOf" :: K) := by
  obtain ⟨s₁, d?, hs₁, _, hschema⟩ := shapeSchema_ok hs.schema
  rw [hschema]
  refine withDefault_named ?_ List.mem_cons_self
  rcases hs₁ with ⟨_, hs₁⟩ | ⟨_, rfl⟩
  · exact (nullableSchema_named h hs₁).mono (List.subset_cons_self _ _)
  · exact h.mono fun n hn => List.mem_cons_of_mem _ (List.mem_cons_of_mem _ hn)

theorem ChecksOf.schemas_eq (h : ChecksOf kind checks stages)
    (hn : Named (checks.map Check.schema).flatten K) :
    (stages.map Stage.schema).flatten = (checks.map Check.schema).flatten := by
  cases h with
  | none hnil => rw [hnil]; rfl
  | one _ _ hschema =>
    rw [checksSchema_apart hn] at hschema
    rw [List.map_singleton, List.flatten_singleton]
    exact (Except.ok.inj hschema).symm

theorem ChecksOf.named (h : ChecksOf kind checks stages) (hn : ∀ c ∈ checks, Named c.schema K)
    (hK : "allOf" ∉ K) : Named (stages.map Stage.schema).flatten ("allOf" :: K) := by
  cases h with
  | none hnil => exact named_nil
  | one _ _ hschema =>
    obtain ⟨s, hs, hnamed, _⟩ := checksSchema_named hn hK
    rw [List.map_singleton, List.flatten_singleton]
    rw [hschema] at hs
    rw [Except.ok.inj hs]
    exact hnamed

/-- Checks whose keywords are all different have these keywords together. -/
theorem ChecksOf.named_apart (h : ChecksOf kind checks stages)
    (hn : Named (checks.map Check.schema).flatten K) : Named (stages.map Stage.schema).flatten K :=
  h.schemas_eq hn ▸ hn

theorem ChangesOf.schemas_eq {fs : List Transform} (h : ChangesOf kind fs stages) :
    (stages.map Stage.schema).flatten = [] := by
  obtain ⟨name, rfl⟩ := h
  rw [transformStages]
  split <;> rfl

/-- A stage before others that have other names. -/
theorem named_cons {s : Stage} {rest : List Stage} {A B : List String}
    (hs : Named s.schema A) (hrest : Named (rest.map Stage.schema).flatten B)
    (hd : ∀ n ∈ A, n ∉ B) (hsub : A ++ B ⊆ K) :
    Named ((s :: rest).map Stage.schema).flatten K := by
  rw [List.map_cons, List.flatten_cons]
  exact (hs.append hrest hd).mono hsub

/-! ### Rules without rules inside -/

variable {path : String} {t u : Tally}

/-- The schemas of the stages that are made by a plan: those of the shape and of the checks. -/
theorem StagePlan.Makes.schemas_eq {plan : StagePlan} {s : Stage} (h : plan.Makes r s stages) :
    ∃ checks others, ChecksOf .validate plan.checks checks ∧ ChecksOf .refine plan.others others ∧
      ((s :: stages).map Stage.schema).flatten
        = s.schema ++ ((checks.map Stage.schema).flatten ++ (others.map Stage.schema).flatten) := by
  obtain ⟨before, checks, others, after, rfl, hbefore, hchecks, hothers, hafter⟩ := h.rest
  refine ⟨checks, others, hchecks, hothers, ?_⟩
  simp only [List.map_cons, List.map_append, List.flatten_cons, List.flatten_append,
    hbefore.schemas_eq, hafter.schemas_eq, List.nil_append, List.append_nil]

/-- The keywords of the shape, and those of the checks, which differ from them and from each
other. -/
theorem StagePlan.Makes.named {plan : StagePlan} {s : Stage} {L M : List String}
    (h : plan.Makes r s stages) (hshape : Named plan.schema K)
    (hchecks : ∀ {ss}, ChecksOf .validate plan.checks ss → Named (ss.map Stage.schema).flatten L)
    (hothers : Named (plan.others.map Check.schema).flatten M) (hLM : ∀ n ∈ L, n ∉ M)
    (hK : ∀ n ∈ "default" :: "anyOf" :: K, n ∉ L ++ M) :
    Named ((s :: stages).map Stage.schema).flatten ("default" :: "anyOf" :: K ++ (L ++ M)) := by
  obtain ⟨checks, others, hc, ho, hschemas⟩ := h.schemas_eq
  rw [hschemas]
  exact (h.shape.named hshape).append ((hchecks hc).append (ho.named_apart hothers) hLM) hK

/-- The keywords on the length of a text. -/
theorem lengthChecks_named {tag : Tag} {empty? : Option Bool} {min? max? : Option Nat} :
    ∀ c ∈ lengthChecks tag empty? min? max?, Named c.schema ["minLength", "maxLength"] := by
  intro c hc
  rw [lengthChecks, List.mem_append, List.mem_append] at hc
  rcases hc with (hc | hc) | hc
  · split at hc
    · rw [List.mem_singleton.mp hc]; exact named_keyword List.mem_cons_self
    · exact absurd hc List.not_mem_nil
  · obtain ⟨n, -, rfl⟩ := Option.map_eq_some_iff.mp (Option.mem_toList.mp hc)
    exact named_keyword List.mem_cons_self
  · obtain ⟨n, -, rfl⟩ := Option.map_eq_some_iff.mp (Option.mem_toList.mp hc)
    exact named_keyword (List.mem_cons_of_mem _ List.mem_cons_self)

/-- The checks on a plain text are those whose keywords are on its length and its characters, and
after them the choice between texts. -/
theorem stringChecks_split {o : StringOptions} {checks : List Check}
    (h : o.checks path t = (.ok checks, u)) :
    ∃ asks choices, checks = asks ++ choices ∧ ChoicesOf o path choices ∧
      ∀ c ∈ asks, Named c.schema ["minLength", "maxLength", "pattern"] := by
  obtain ⟨pattern, classes, choices, hpattern, hclasses, hchoices, rfl⟩ := stringChecks_ok h
  refine ⟨_, choices, rfl, hchoices, fun c hc => ?_⟩
  have hpatterned : ∀ {v : Value}, Named (keyword "pattern" v)
      ["minLength", "maxLength", "pattern"] := named_keyword (by decide)
  simp only [List.mem_append] at hc
  rcases hc with (((hc | hc) | hc) | hc) | hc
  · exact (lengthChecks_named c hc).mono (by decide)
  · obtain ⟨n, -, rfl⟩ := Option.map_eq_some_iff.mp (Option.mem_toList.mp hc)
    exact ⟨["minLength", "maxLength"], rfl, by decide, by decide⟩
  · cases hpattern with
    | none _ => exact absurd hc List.not_mem_nil
    | some _ _ =>
      rw [List.mem_singleton.mp hc]
      exact hpatterned
  · obtain ⟨n, -, rfl⟩ := Option.map_eq_some_iff.mp (Option.mem_toList.mp hc)
    exact hpatterned
  · obtain ⟨k, _, _, _, hk⟩ := exists_of_mem_right hclasses hc
    obtain ⟨p, _, _, hk⟩ := bind_ok hk
    rw [(pure_ok hk).1]
    exact hpatterned

/-- The keyword of a choice between texts. -/
theorem oneOfTexts_schema {allowed : List String} {c : Check}
    (h : oneOfTexts path allowed t = (.ok c, u)) :
    c.schema = keyword "enum" (.list (allowed.map .text)) := by
  obtain ⟨p, _, _, h⟩ := bind_ok h
  rw [(pure_ok h).1]

/-- The keywords on a plain text. -/
theorem stringChecks_named {o : StringOptions} {checks : List Check}
    (h : o.checks path t = (.ok checks, u)) :
    ∀ c ∈ checks, Named c.schema ["minLength", "maxLength", "pattern", "enum"] := by
  obtain ⟨asks, choices, rfl, hchoices, hasks⟩ := stringChecks_split h
  intro c hc
  rcases List.mem_append.mp hc with hc | hc
  · exact (hasks c hc).mono (by decide)
  · cases hchoices with
    | none _ => exact absurd hc List.not_mem_nil
    | some _ hc' =>
      rw [List.mem_singleton.mp hc, oneOfTexts_schema hc']
      exact named_keyword (by decide)

/-- The keywords of an option, if there is one. -/
theorem named_option {α : Type} {x? : Option α} {f : α → Check} {n : String}
    (hf : ∀ x, Named (f x).schema [n]) :
    Named (((x?.map f).toList).map Check.schema).flatten [n] := by
  cases x? with
  | none => exact named_nil
  | some x =>
    rw [Option.map_some, Option.toList_some, List.map_singleton, List.flatten_singleton]
    exact hf x

theorem named_ite {b : Bool} {c : Check} {n : String} (hc : Named c.schema [n]) :
    Named ((if b then [c] else []).map Check.schema).flatten [n] := by
  cases b with
  | false => exact named_nil
  | true => rw [if_pos rfl, List.map_singleton, List.flatten_singleton]; exact hc

/-- The keywords on a number are all different. -/
theorem boundChecks_named (equal? min? max? : Option Number) :
    Named ((match equal? with
      | some n => [equalTo n]
      | none => (min?.map atLeast).toList ++ (max?.map noMoreThan).toList).map
        Check.schema).flatten ["const", "minimum", "maximum"] := by
  cases equal? with
  | some n =>
    rw [List.map_singleton, List.flatten_singleton]
    exact named_keyword (by decide)
  | none =>
    rw [List.map_append, List.flatten_append]
    exact ((named_option fun n => named_keyword List.mem_cons_self).append
      (named_option fun n => named_keyword List.mem_cons_self) (by decide)).mono (by decide)

theorem numberChecks_named (o : NumberOptions) :
    Named (o.checks.map Check.schema).flatten
      ["const", "minimum", "maximum", "exclusiveMinimum", "exclusiveMaximum"] := by
  have hwhole : ((if o.integer then [wholeNumber] else []).map Check.schema).flatten = [] := by
    split <;> rfl
  rw [NumberOptions.checks, List.map_append, List.map_append, List.map_append, List.flatten_append,
    List.flatten_append, List.flatten_append, hwhole, List.append_nil]
  have hsign : ∀ {b : Bool} {name n : String} {test : Value → Except Fault Bool}
      {message : String} {v : Value},
      Named ((if b then [{ name, test, message, schema := keyword n v }] else []).map
        Check.schema).flatten [n] :=
    named_ite (named_keyword List.mem_cons_self)
  exact (((boundChecks_named o.equal? o.min? o.max?).append hsign (by decide)).append hsign
    (by decide)).mono (by decide)

theorem named_typeSchema {type : String} : Named (typeSchema type) ["type"] :=
  named_keyword List.mem_cons_self

theorem named_formatSchema {format : String} : Named (formatSchema format) ["type", "format"] :=
  named_of_keys (K := ["type", "format"]) rfl (by decide)

/-- A keyword that shows a value, if that has a form. -/
theorem shownKeyword_ok {n : String} {v : Value} {s : Schema} (h : shownKeyword n v = .ok s) :
    s = [] ∧ v.jsonForm? = .ok none ∨
      ∃ form, v.jsonForm? = .ok (some form) ∧ s = keyword n form := by
  rw [shownKeyword] at h
  cases hf : v.jsonForm? with
  | error f => rw [hf] at h; cases h
  | ok form? =>
    rw [hf] at h
    cases form? with
    | none => cases h; exact .inl ⟨rfl, rfl⟩
    | some form => cases h; exact .inr ⟨form, rfl, rfl⟩

theorem shownKeyword_named {n : String} {v : Value} {s : Schema}
    (h : shownKeyword n v = .ok s) : Named s [n] := by
  rcases shownKeyword_ok h with ⟨rfl, _⟩ | ⟨form, _, rfl⟩
  · exact named_nil
  · exact named_keyword List.mem_cons_self

/-- The keywords of a rule without rules inside. -/
theorem Rule.PlannedAs.named {plan : StagePlan} {s : Stage} (h : r.PlannedAs plan)
    (hmade : plan.Makes r s stages) :
    Named ((s :: stages).map Stage.schema).flatten r.tag.keywords := by
  have hnone : ∀ {ss}, ChecksOf .validate [] ss → Named (ss.map Stage.schema).flatten [] :=
    fun h => h.named_apart named_nil
  have halone : plan.checks = [] → plan.others = [] → ∀ {K}, Named plan.schema K →
      Named ((s :: stages).map Stage.schema).flatten ("default" :: "anyOf" :: K) := by
    intro hchecks hothers K hschema
    have hall := hmade.named (L := []) (M := []) hschema (by rw [hchecks]; exact hnone)
      (by rw [hothers]; exact named_nil) (by simp) (by simp)
    rwa [List.append_nil, List.append_nil] at hall
  have hone : ∀ {c : Check} {n : String}, Named c.schema [n] →
      Named ([c].map Check.schema).flatten [n] := by
    intro c n hc
    rwa [List.map_singleton, List.flatten_singleton]
  have hpattern : ∀ {p : String}, Named (patternSchema p) ["pattern"] :=
    named_keyword List.mem_cons_self
  have hblank : ∀ {b : Prop} [Decidable b] {tag : Tag},
      Named ((if b then [notBlank tag] else []).map Check.schema).flatten ["minLength"] := by
    intro b _ tag
    split
    · exact named_keyword List.mem_cons_self
    · exact named_nil
  cases h with
  | string hchecks =>
    exact (hmade.named (M := []) named_typeSchema
      (fun h => h.named (stringChecks_named hchecks) (by decide)) named_nil (by decide)
      (by decide)).mono (L := Tag.keywords .string) (by decide)
  | @number c o =>
    exact (hmade.named (M := ["not"]) named_typeSchema
      (fun h => h.named_apart (numberChecks_named o))
      (named_option fun n => named_keyword List.mem_cons_self) (by decide) (by decide)).mono
      (L := Tag.keywords .number) (by decide)
  | boolean =>
    exact (halone rfl rfl named_typeSchema).mono (L := Tag.keywords .boolean) (by decide)
  | @date c =>
    refine (halone rfl rfl (K := ["type", "format", "not"]) ?_).mono
      (L := Tag.keywords .date) (by decide)
    show Named (instantSchema c.convert) _
    cases c.convert with
    | true => exact ⟨["type", "format"], rfl, by decide, by decide⟩
    | false => exact named_keyword (by decide)
  | any | «class» | function => exact halone rfl rfl named_nil
  | email =>
    exact (hmade.named (M := []) named_formatSchema
      (fun h => h.named lengthChecks_named (by decide)) named_nil (by decide) (by decide)).mono
      (L := Tag.keywords .email) (by decide)
  | currency =>
    exact (hmade.named (M := []) named_typeSchema (fun h => h.named_apart (hone hpattern)) named_nil
      (by decide) (by decide)).mono (L := Tag.keywords .currency) (by decide)
  | enum hschema =>
    exact (hmade.named (K := []) named_nil hnone (hone (shownKeyword_named hschema)) (by decide)
      (by decide)).mono (L := Tag.keywords .enum) (by decide)
  | equal hschema =>
    exact (hmade.named (K := []) named_nil hnone (hone (shownKeyword_named hschema)) (by decide)
      (by decide)).mono (L := Tag.keywords .equal) (by decide)
  | luhn =>
    exact (hmade.named (M := []) named_typeSchema hnone named_nil (by decide) (by decide)).mono
      (L := Tag.keywords .luhn) (by decide)
  | mac =>
    exact (hmade.named (M := []) named_typeSchema (fun h => h.named_apart (hone hpattern)) named_nil
      (by decide) (by decide)).mono (L := Tag.keywords .mac) (by decide)
  | url =>
    exact (hmade.named (M := []) named_formatSchema (fun h => h.named_apart hblank) named_nil
      (by decide) (by decide)).mono (L := Tag.keywords .url) (by decide)
  | uuid =>
    exact (hmade.named (M := []) named_formatSchema (fun h => h.named_apart hblank) named_nil
      (by decide) (by decide)).mono (L := Tag.keywords .uuid) (by decide)
  | objectId _ =>
    exact (hmade.named (M := []) named_typeSchema hnone named_nil (by decide) (by decide)).mono
      (L := Tag.keywords .objectId) (by decide)

/-- The keywords of a rule that forbids values. -/
theorem forbidden_named {remove : Bool} (h : forbiddenStages remove t = (.ok stages, u)) :
    Named (stages.map Stage.schema).flatten (Tag.keywords .forbidden) := by
  cases remove with
  | true => rw [(pure_ok h).1]; exact named_nil
  | false =>
    obtain ⟨ss, _, hss, h⟩ := bind_ok h
    rw [(pure_ok h).1, List.map_cons, List.flatten_cons,
      (checkStages_ok hss).schemas_eq (K := []) named_nil]
    exact named_keyword List.mem_cons_self

end

/-! ### Rules with rules inside -/

theorem propertiesSchema_named {ds : List (String × Validator)} {properties : Entries Value}
    {mode : UnknownKeys} : Named (propertiesSchema ds properties mode)
      ["type", "properties", "required", "additionalProperties"] := by
  have hrequired : Named (if (requiredNames ds).isEmpty then []
      else keyword "required" (.list ((requiredNames ds).map .text))) ["required"] := by
    split
    · exact named_nil
    · exact named_keyword List.mem_cons_self
  have hadditional : Named (if mode = .reject then keyword "additionalProperties" (.bool false)
      else []) ["additionalProperties"] := by
    split
    · exact named_keyword List.mem_cons_self
    · exact named_nil
  have hproperties : Named (typeSchema "object" ++ keyword "properties" (.mapping properties))
      ["type", "properties"] := named_of_keys rfl (by decide)
  exact ((hproperties.append hrequired (by decide)).append hadditional (by decide)).mono (by decide)

/-- **The names of all fragments** of a rule that is no array are different, and among the
keywords of its type. -/
theorem Rule.CompilesTo.named {r : Rule} {ctx : Strictness} {d : Validator}
    (hr : r.tag ≠ .array) (h : r.CompilesTo ctx d) :
    Named d.fragments.flatten r.tag.keywords := by
  by_cases hforbidden : r.tag = .forbidden
  · obtain ⟨c, remove, rfl⟩ := Rule.eq_forbidden hforbidden
    obtain ⟨path, t, u, stages, hstages, hd⟩ := h.simple rfl
    rw [Validator.fragments, hd.stages]
    exact forbidden_named hstages
  by_cases hcomposite : r.tag.isComposite = false
  · obtain ⟨plan, s, rest, hplan, hd, hmade⟩ := h.planned hcomposite hforbidden
    rw [Validator.fragments, hd.stages]
    exact hplan.named hmade
  · cases r with
    | array => exact absurd rfl hr
    | object c props o =>
      obtain ⟨ds, properties, shape, sizes, _, _, hshape, hsizes, hmade⟩ := h.object
      rw [Validator.fragments, hmade.stages]
      have hsizesNamed : Named (((o.minProps?.map minProperties).toList ++
          (o.maxProps?.map maxProperties).toList).map Check.schema).flatten
          ["minProperties", "maxProperties"] := by
        rw [List.map_append, List.flatten_append]
        exact ((named_option fun n => named_keyword List.mem_cons_self).append
          (named_option fun n => named_keyword List.mem_cons_self) (by decide)).mono (by decide)
      refine (named_cons (hshape.named propertiesSchema_named)
        (B := ["minProperties", "maxProperties"]) ?_ (by decide) fun _ h => h).mono
        (L := Tag.keywords .object) (by decide)
      rw [hsizes.schemas_eq hsizesNamed]
      exact hsizesNamed
    | multi c branches =>
      obtain ⟨ds, schemas, shape, _, _, hshape, hmade⟩ := h.multi
      rw [Validator.fragments, hmade.stages, List.map_singleton, List.flatten_singleton]
      exact (hshape.named (K := ["anyOf"]) (named_keyword List.mem_cons_self)).mono
        (L := Tag.keywords .multi) (by decide)
    | tuple c slots =>
      obtain ⟨ds, schemas, shape, _, _, hshape, hmade⟩ := h.tuple
      rw [Validator.fragments, hmade.stages, List.map_singleton, List.flatten_singleton]
      exact (hshape.named (named_of_keys
        (K := ["type", "prefixItems", "items", "minItems", "maxItems"]) rfl (by decide))).mono
        (L := Tag.keywords .tuple) (by decide)
    | record c key value =>
      obtain ⟨keys, values, _, _, shape, _, _, _, _, hshape, hmade⟩ := h.record
      rw [Validator.fragments, hmade.stages, List.map_singleton, List.flatten_singleton]
      exact (hshape.named (named_of_keys
        (K := ["type", "additionalProperties", "propertyNames"]) rfl (by decide))).mono
        (L := Tag.keywords .record) (by decide)
    | _ => exact absurd rfl hcomposite

/-! ### Exports -/

namespace Validator

variable {d : Validator} {s : Schema} {fs : List Schema}

/-- A validator with these fragments of its schema. -/
def withFragments (d : Validator) (fs : List Schema) : Validator :=
  { d with stages := List.zipWith (fun s schema => { s with schema }) d.stages fs }

theorem withFragments_self : d.withFragments d.fragments = d := by
  rw [withFragments, fragments, List.zipWith_map_right, List.zipWith_self, List.map_id']

theorem fragments_withFragments (h : fs.length = d.fragments.length) :
    (d.withFragments fs).fragments = fs := by
  rw [fragments, List.length_map] at h
  rw [fragments, withFragments, List.map_zipWith, ← List.map_uncurry_zip_eq_zipWith]
  exact List.map_snd_zip (Nat.le_of_eq h)

/-- An export joins the fragments and keeps them as they are afterwards. -/
theorem export_of_join (h : joinFragments d.fragments = .ok (s, fs)) :
    d.export = .ok (d.describe s, d.withFragments fs) := by
  rw [Validator.export]
  show (joinFragments d.fragments >>= _) = _
  rw [h]
  rfl

/-- An export of fragments without a name in common, and the validator as it was. -/
theorem export_apart {K : List String} (h : Named d.fragments.flatten K) :
    d.export = .ok (d.describe d.fragments.flatten, d) := by
  rw [export_of_join (joinFragments_apart h), withFragments_self]

end Validator

end RuleSchema
