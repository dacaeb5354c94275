import RuleSchema.Catalog.Basic
import RuleSchema.Proofs.Export.Repeated
import RuleSchema.Proofs.Signature.Compiled

/-!
# Uses of a signature

The schema of a signature is exported from its validators, and whether its argument is
wrapped is asked of an export as well.  The uses of a signature are therefore exports, of
one validator or of all of them, and they leave a signature as it is unless the rule of
a validator grows.

* `Signature.Use` are the uses, and `Signature.afterAll` is the signature after some.
* `Signature.schema_whole_iff`, `Signature.schema_fields_iff`, `Signature.wraps_whole_iff`,
  `Signature.inputSchema_whole_iff` and `Signature.inputSchema_fields` say what an export gives
  and what it leaves.
* `IsTop` says of a rule that a validator of the signature is made of it.
* `exports_repeat_exactly`: which exports give the same schema again.
-/

namespace RuleSchema

open Eval Schema

/-- What a signature is used for. -/
inductive Signature.Use where
  /-- The schema of its argument. -/
  | schema
  /-- Whether its argument is wrapped. -/
  | wraps
  /-- The schema of a call. -/
  | inputSchema
  /-- A call with these arguments, for which it is asked whether they are wrapped. -/
  | call (arguments : Value)

namespace Signature

/-- The signature after a use. -/
def after (s : Signature) : Use → Except (Stop RuleError) Signature
  | .schema => s.schema.map Prod.snd
  | .wraps => s.wraps.map Prod.snd
  | .inputSchema => s.inputSchema.map Prod.snd
  | .call _ => s.wraps.map Prod.snd

/-- The signature after some uses, one after the other. -/
def afterAll (s : Signature) (uses : List Use) : Except (Stop RuleError) Signature :=
  uses.foldlM after s

end Signature

/-- The rules of an operation have a validator of their own each: the rule of the argument as
a whole, or the rules of the fields. -/
inductive IsTop (rules : Entries RuleSource) (r : Rule) : Prop
  | whole : Compiler.meansWhole rules = true →
      (RuleSource.mapping (Compiler.ruleEntries rules)).Means "$" r → IsTop rules r
  | field {name : Value} {source : RuleSource} : Compiler.meansWhole rules = false →
      (name, source) ∈ Compiler.ruleEntries rules → source.Means (fieldPath name) r →
      IsTop rules r

/-! ### One validator -/

theorem Validator.ExportsPurely.export_eq {d : Validator} {schema : Schema}
    (h : d.ExportsPurely schema) : d.export = .ok (schema, d) := by
  obtain ⟨⟨s, e⟩, hexport, hrest⟩ := except_bind_ok (h.again 1)
  cases hrest
  exact hexport

/-- The second export of a validator that grows gives another schema than the first. -/
theorem Validator.ExportsGrow.twice {d : Validator} {conjuncts more : List Value}
    (h : d.ExportsGrow conjuncts more) :
    ∃ s₁ d₁ s₂ d₂, d.export = .ok (s₁, d₁) ∧ d₁.export = .ok (s₂, d₂) ∧ s₁ ≠ s₂ := by
  obtain ⟨schemas, e, hexports, _, hschemas, _⟩ := h.again 2
  obtain ⟨⟨s₁, d₁⟩, h₁, hexports⟩ := except_bind_ok hexports
  obtain ⟨⟨rest, e'⟩, hrest, hexports⟩ := except_bind_ok hexports
  obtain ⟨⟨s₂, d₂⟩, h₂, hrest⟩ := except_bind_ok hrest
  cases hrest
  cases hexports
  refine ⟨s₁, d₁, s₂, _, h₁, h₂, fun heq => ?_⟩
  have hfirst := hschemas 0 s₁ rfl
  have hsecond := hschemas 1 s₂ rfl
  rw [← heq, hfirst] at hsecond
  have hlists := Value.list.inj (Option.some.inj hsecond)
  simp only [List.replicate, List.flatten_cons, List.flatten_nil, List.append_nil] at hlists
  exact h.added (List.append_right_eq_self.mp (List.append_cancel_left hlists).symm)

/-- An export keeps whether a value is required. -/
theorem Validator.export_required {d d' : Validator} {schema : Schema}
    (h : d.export = .ok (schema, d')) : d'.required = d.required := by
  obtain ⟨⟨s, fs⟩, _, h⟩ := except_bind_ok h
  cases h
  rfl

/-! ### All validators -/

/-- The names of validators, and whether a value is required under each. -/
def demands (ds : Entries Validator) : List (Value × Bool) := ds.map fun e => (e.1, e.2.required)

/-- The names of required fields are sorted by themselves. -/
theorem requiredFields_eq (ds : Entries Validator) :
    requiredFields ds = (match keyClash? (Entries.keys (ds.filter fun e => e.2.required)) with
      | some fault => .error fault
      | none => .ok ((Entries.keys (ds.filter fun e => e.2.required)).mergeSort keyAtMost)) := by
  rw [requiredFields, sortKeys, ← Entries.keys]
  cases keyClash? (Entries.keys (ds.filter fun e => e.2.required)) with
  | some fault => rfl
  | none =>
    refine congrArg Except.ok ?_
    exact List.map_mergeSort fun _ _ _ _ => rfl

/-- The required fields are known from the names. -/
theorem requiredFields_congr {ds es : Entries Validator} (h : demands ds = demands es) :
    requiredFields ds = requiredFields es := by
  have hkeys : ∀ ds : Entries Validator, Entries.keys (ds.filter fun e => e.2.required)
      = ((demands ds).filter Prod.snd).map Prod.fst := by
    intro ds
    rw [demands, List.filter_map, List.map_map]
    rfl
  rw [requiredFields_eq, requiredFields_eq, hkeys, hkeys, h]

theorem exportEntries_demands : ∀ {ds ds' : Entries Validator} {schemas : Entries Value},
    exportEntries ds = .ok (schemas, ds') → demands ds' = demands ds := by
  intro ds
  induction ds with
  | nil => intro ds' schemas h; cases h; rfl
  | cons e ds ih =>
    intro ds' schemas h
    obtain ⟨⟨schema, d⟩, hd, h⟩ := except_bind_ok h
    obtain ⟨⟨rest, es⟩, hes, h⟩ := except_bind_ok h
    cases h
    rw [demands, List.map_cons, Validator.export_required hd]
    exact congrArg _ (ih hes)

/-- Validators that all stay as they are. -/
theorem exportEntries_purely : ∀ {ds : Entries Validator},
    (∀ e ∈ ds, ∃ schema, e.2.export = .ok (schema, e.2)) →
      ∃ schemas, exportEntries ds = .ok (schemas, ds) := by
  intro ds
  induction ds with
  | nil => intro _; exact ⟨[], rfl⟩
  | cons e ds ih =>
    intro h
    obtain ⟨schema, hschema⟩ := h e List.mem_cons_self
    obtain ⟨schemas, hschemas⟩ := ih fun e he => h e (List.mem_cons_of_mem _ he)
    refine ⟨(e.1, .mapping schema) :: schemas, ?_⟩
    rw [exportEntries, hschema]
    show (exportEntries ds >>= _) = _
    rw [hschemas]
    rfl

/-- Two exports of validators, one of which changes. -/
theorem exportEntries_twice : ∀ {ds : Entries Validator},
    (∀ e ∈ ds, ∃ s₁ d₁ s₂ d₂, e.2.export = .ok (s₁, d₁) ∧ d₁.export = .ok (s₂, d₂)) →
      ∃ ps₁ ds₁ ps₂ ds₂, exportEntries ds = .ok (ps₁, ds₁) ∧ exportEntries ds₁ = .ok (ps₂, ds₂) ∧
        ∀ e ∈ ds, ∀ s₁ d₁ s₂ d₂, e.2.export = .ok (s₁, d₁) → d₁.export = .ok (s₂, d₂) →
          s₁ ≠ s₂ → ps₁ ≠ ps₂ := by
  intro ds
  induction ds with
  | nil => intro _; exact ⟨[], [], [], [], rfl, rfl, fun e he => absurd he List.not_mem_nil⟩
  | cons e ds ih =>
    intro h
    obtain ⟨s₁, d₁, s₂, d₂, h₁, h₂⟩ := h e List.mem_cons_self
    obtain ⟨ps₁, ds₁, ps₂, ds₂, hds₁, hds₂, hne⟩ := ih fun e he => h e (List.mem_cons_of_mem _ he)
    refine ⟨(e.1, .mapping s₁) :: ps₁, (e.1, d₁) :: ds₁, (e.1, .mapping s₂) :: ps₂,
      (e.1, d₂) :: ds₂, ?_, ?_, ?_⟩
    · rw [exportEntries, h₁]
      show (exportEntries ds >>= _) = _
      rw [hds₁]
      rfl
    · rw [exportEntries, h₂]
      show (exportEntries ds₁ >>= _) = _
      rw [hds₂]
      rfl
    · intro e' he' t₁ c₁ t₂ c₂ ht₁ ht₂ ht heq
      obtain ⟨hhead, htail⟩ := List.cons.inj heq
      rcases List.mem_cons.mp he' with rfl | he'
      · rw [h₁] at ht₁
        cases ht₁
        rw [h₂] at ht₂
        cases ht₂
        exact ht (Value.mapping.inj (Prod.mk.inj hhead).2)
      · exact hne e' he' t₁ c₁ t₂ c₂ ht₁ ht₂ ht htail

/-! ### Signatures -/

namespace Signature

variable {s s' : Signature}

/-- Every validator of the signature stays as it is when it is exported. -/
def Steady (s : Signature) : Prop :=
  match s.body with
  | .whole d => ∃ schema, d.export = .ok (schema, d)
  | .fields ds => s.isComplete = true → ∀ e ∈ ds, ∃ schema, e.2.export = .ok (schema, e.2)
  | .brokenWhole => s.isComplete = false

theorem exporting_of_ok {α : Type} {x : Except Fault α} {a : α} (h : x = .ok a) :
    exporting x = .ok a := by
  rw [h]
  rfl

/-- A step of an export that goes on has given its result. -/
theorem exporting_bind_ok {α β : Type} {x : Except Fault α}
    {f : α → Except (Stop RuleError) β} {b : β} (h : exporting x >>= f = .ok b) :
    ∃ a, x = .ok a ∧ f a = .ok b := by
  cases x with
  | error e => cases h
  | ok a => exact ⟨a, rfl, h⟩

section

variable {d : Validator} {ds : Entries Validator} {strictness : Strictness}
  {failures : List FieldFailure} {schema : Schema}

/-- Only a complete signature has a schema. -/
theorem isComplete_of_schema_ok {x : Schema × Signature} (h : s.schema = .ok x) :
    s.isComplete = true := by
  rw [Signature.schema] at h
  split at h
  · assumption
  · cases h

/-- The schema of an argument as a whole is that of its validator. -/
theorem schema_whole_iff (hcomplete : failures.isEmpty = true) :
    Signature.schema ⟨.whole d, strictness, failures⟩ = .ok (schema, s') ↔
      ∃ d', d.export = .ok (schema, d') ∧ s' = ⟨.whole d', strictness, failures⟩ := by
  rw [Signature.schema, Signature.isComplete, if_pos hcomplete]
  constructor
  · intro h
    obtain ⟨⟨schema', d'⟩, hd, h⟩ := exporting_bind_ok h
    cases h
    exact ⟨d', hd, rfl⟩
  · rintro ⟨d', hd, rfl⟩
    show (exporting d.export >>= _) = _
    rw [exporting_of_ok hd]
    rfl

/-- The schema of an argument with fields puts together those of the fields. -/
theorem schema_fields_iff (hcomplete : failures.isEmpty = true) :
    Signature.schema ⟨.fields ds, strictness, failures⟩ = .ok (schema, s') ↔
      ∃ schemas ds' required, exportEntries ds = .ok (schemas, ds') ∧
        requiredFields ds = .ok required ∧
        schema = fieldsSchema schemas required strictness.mode ∧
        s' = ⟨.fields ds', strictness, failures⟩ := by
  rw [Signature.schema, Signature.isComplete, if_pos hcomplete]
  constructor
  · intro h
    obtain ⟨⟨schemas, ds'⟩, hds, h⟩ := exporting_bind_ok h
    obtain ⟨required, hrequired, h⟩ := exporting_bind_ok h
    cases h
    rw [requiredFields_congr (exportEntries_demands hds)] at hrequired
    exact ⟨schemas, ds', required, hds, hrequired, rfl, rfl⟩
  · rintro ⟨schemas, ds', required, hds, hrequired, rfl, rfl⟩
    rw [← requiredFields_congr (exportEntries_demands hds)] at hrequired
    show (exporting (exportEntries ds) >>= _) = _
    rw [exporting_of_ok hds]
    show (exporting (requiredFields ds') >>= _) = _
    rw [exporting_of_ok hrequired]
    rfl

/-- An argument as a whole is wrapped if its schema is none of an object. -/
theorem wraps_whole_iff {wrapped : Bool} :
    Signature.wraps ⟨.whole d, strictness, failures⟩ = .ok (wrapped, s') ↔
      ∃ schema d', d.export = .ok (schema, d') ∧ wrapped = !schema.isObject ∧
        s' = ⟨.whole d', strictness, failures⟩ := by
  constructor
  · intro h
    obtain ⟨⟨schema, d'⟩, hd, h⟩ := exporting_bind_ok h
    cases h
    exact ⟨schema, d', hd, rfl, rfl⟩
  · rintro ⟨schema, d', hd, rfl, rfl⟩
    show (exporting d.export >>= _) = _
    rw [exporting_of_ok hd]
    rfl

/-- The schema of a call with an argument as a whole is that of a second export. -/
theorem inputSchema_whole_iff (hcomplete : failures.isEmpty = true) :
    Signature.inputSchema ⟨.whole d, strictness, failures⟩ = .ok (schema, s') ↔
      ∃ schema₁ d₁ schema₂ d₂, d.export = .ok (schema₁, d₁) ∧ d₁.export = .ok (schema₂, d₂) ∧
        schema = (if schema₂.isObject then schema₂ else wrappedSchema schema₂ d₁.required) ∧
        s' = ⟨.whole d₂, strictness, failures⟩ := by
  constructor
  · intro h
    obtain ⟨⟨schema₁, s₁⟩, hs₁, h⟩ := except_bind_ok h
    obtain ⟨d₁, hd₁, rfl⟩ := (schema_whole_iff hcomplete).mp hs₁
    obtain ⟨⟨schema₂, d₂⟩, hd₂, h⟩ := exporting_bind_ok h
    cases h
    refine ⟨schema₁, d₁, schema₂, d₂, hd₁, hd₂, ?_, rfl⟩
    rw [Validator.export_required hd₂]
  · rintro ⟨schema₁, d₁, schema₂, d₂, hd₁, hd₂, rfl, rfl⟩
    rw [Signature.inputSchema, (schema_whole_iff hcomplete).mpr ⟨d₁, hd₁, rfl⟩,
      ← Validator.export_required hd₂]
    show (exporting d₁.export >>= _) = _
    rw [exporting_of_ok hd₂]
    rfl

/-- The schema of a call with fields is that of the argument. -/
theorem inputSchema_fields :
    Signature.inputSchema ⟨.fields ds, strictness, failures⟩
      = Signature.schema ⟨.fields ds, strictness, failures⟩ := by
  cases hschema : Signature.schema ⟨.fields ds, strictness, failures⟩ with
  | error e => rw [Signature.inputSchema, hschema]; rfl
  | ok x =>
    obtain ⟨schema, s'⟩ := x
    rw [Signature.inputSchema, hschema]
    obtain ⟨_, ds', _, -, -, -, rfl⟩ :=
      (schema_fields_iff (isComplete_of_schema_ok hschema)).mp hschema
    rfl

end

/-- The schema of a steady signature is asked for without a change. -/
theorem schema_steady {schema : Schema} (hs : s.Steady) (h : s.schema = .ok (schema, s')) :
    s' = s := by
  have hcomplete := isComplete_of_schema_ok h
  obtain ⟨body, strictness, failures⟩ := s
  cases body with
  | whole d =>
    obtain ⟨schema', hd⟩ := hs
    obtain ⟨d', hd', rfl⟩ := (schema_whole_iff hcomplete).mp h
    cases hd.symm.trans hd'
    rfl
  | fields ds =>
    obtain ⟨schemas, hds⟩ := exportEntries_purely (hs hcomplete)
    obtain ⟨_, ds', _, hds', -, -, rfl⟩ := (schema_fields_iff hcomplete).mp h
    cases hds.symm.trans hds'
    rfl
  | brokenWhole => rw [hs] at hcomplete; cases hcomplete

theorem wraps_steady {wrapped : Bool} (hs : s.Steady) (h : s.wraps = .ok (wrapped, s')) :
    s' = s := by
  obtain ⟨body, strictness, failures⟩ := s
  cases body with
  | whole d =>
    obtain ⟨schema', hd⟩ := hs
    obtain ⟨_, d', hd', -, rfl⟩ := wraps_whole_iff.mp h
    cases hd.symm.trans hd'
    rfl
  | fields ds => cases h; rfl
  | brokenWhole => cases h; rfl

theorem inputSchema_steady {schema : Schema} (hs : s.Steady)
    (h : s.inputSchema = .ok (schema, s')) : s' = s := by
  obtain ⟨⟨schema₁, s₁⟩, h₁, -⟩ := except_bind_ok h
  have hcomplete := isComplete_of_schema_ok h₁
  obtain ⟨body, strictness, failures⟩ := s
  cases body with
  | whole d =>
    obtain ⟨schema', hd⟩ := hs
    obtain ⟨_, d₁, _, d₂, hd₁, hd₂, -, rfl⟩ := (inputSchema_whole_iff hcomplete).mp h
    cases hd.symm.trans hd₁
    cases hd.symm.trans hd₂
    rfl
  | fields ds => exact schema_steady hs (inputSchema_fields.symm.trans h)
  | brokenWhole => rw [hs] at hcomplete; cases hcomplete

/-- **A steady signature stays as it is**, whatever it is used for. -/
theorem afterAll_steady (hs : s.Steady) :
    ∀ {uses : List Use}, s.afterAll uses = .ok s' → s' = s := by
  have hone : ∀ {use : Use} {s₁ : Signature}, s.after use = .ok s₁ → s₁ = s := by
    have hmap : ∀ {α : Type} {x : Except (Stop RuleError) (α × Signature)} {s₁ : Signature},
        x.map Prod.snd = .ok s₁ → ∃ a, x = .ok (a, s₁) := by
      intro α x s₁ h
      cases x with
      | error e => cases h
      | ok p => cases h; exact ⟨p.1, rfl⟩
    intro use s₁ h
    cases use with
    | schema => exact schema_steady hs (hmap h).choose_spec
    | wraps => exact wraps_steady hs (hmap h).choose_spec
    | inputSchema => exact inputSchema_steady hs (hmap h).choose_spec
    | call arguments => exact wraps_steady hs (hmap h).choose_spec
  intro uses
  induction uses with
  | nil => intro h; cases h; rfl
  | cons use uses ih =>
    intro h
    rw [afterAll, List.foldlM_cons] at h
    obtain ⟨s₁, h₁, h⟩ := except_bind_ok h
    rw [hone h₁] at h
    exact ih h

end Signature

/-! ### Compiled signatures -/

/-- Two exports of the validator of a rule. -/
theorem Rule.CompilesTo.exports_twice {r : Rule} {ctx : Strictness} {d : Validator}
    (h : r.CompilesTo ctx d) :
    ∃ s₁ d₁ s₂ d₂, d.export = .ok (s₁, d₁) ∧ d₁.export = .ok (s₂, d₂) ∧
      (r.growsOnExport = true → s₁ ≠ s₂) := by
  cases hr : r.growsOnExport with
  | false =>
    obtain ⟨schema, hpure⟩ := h.exports_purely hr
    exact ⟨schema, d, schema, d, hpure.export_eq, hpure.export_eq, fun h => (by cases h)⟩
  | true =>
    obtain ⟨_, _, hgrow⟩ := h.exports_grow hr
    obtain ⟨s₁, d₁, s₂, d₂, h₁, h₂, hne⟩ := hgrow.twice
    exact ⟨s₁, d₁, s₂, d₂, h₁, h₂, fun _ => hne⟩

theorem RuleSource.CompilesTo.of_means {source : RuleSource} {path : String} {ctx : Strictness}
    {d : Validator} {r : Rule} (h : source.CompilesTo path ctx d) (hr : source.Means path r) :
    r.CompilesTo ctx d := by
  obtain ⟨q, hq, hd⟩ := h
  rw [hr.unique hq]
  exact hd

section

variable {k : Compiler} {rules : Entries RuleSource} {inherited? : Option Strictness}
  {t u : Tally} {s : Signature}

/-- A signature that is not complete has no validator for the argument as a whole. -/
theorem compile_incomplete (h : k.compile (.mapping rules) inherited? t = (.ok s, u))
    (hs : s.isComplete = false) : s.body = .brokenWhole ∨ ∃ ds, s.body = .fields ds := by
  rw [Compiler.compile] at h
  cases hd : Compiler.declaredStrictness rules with
  | error e => rw [hd] at h; exact absurd h reject_ok
  | ok declared? =>
    rw [hd] at h
    have h := mapReason_ok h
    rw [Compiler.compileUnder] at h
    split at h
    · obtain ⟨x, t', _, h⟩ := bind_ok h
      cases x with
      | error e => cases (pure_ok h).1; exact .inl rfl
      | ok d => cases (pure_ok h).1; cases hs
    · obtain ⟨⟨ds, failures⟩, t', _, h⟩ := bind_ok h
      cases (pure_ok h).1
      exact .inr ⟨ds, rfl⟩

/-- Rules of which none grows give a steady signature. -/
theorem compile_steady (hk : k.treatments = Treatments.usual)
    (h : k.compile (.mapping rules) inherited? t = (.ok s, u))
    (hpure : ∀ r, IsTop rules r → r.growsOnExport = false) : s.Steady := by
  have hone : ∀ {source : RuleSource} {path : String} {d : Validator},
      source.CompilesTo path s.strictness d → (∀ r, source.Means path r → IsTop rules r) →
      ∃ schema, d.export = .ok (schema, d) := by
    intro source path d hd htop
    obtain ⟨r, hr, hd⟩ := hd
    obtain ⟨schema, hschema⟩ := hd.exports_purely (hpure r (htop r hr))
    exact ⟨schema, hschema.export_eq⟩
  cases hs : s.isComplete with
  | false =>
    rw [Signature.Steady]
    rcases compile_incomplete h hs with hbody | ⟨ds, hbody⟩
    · rw [hbody]
      exact hs
    · rw [hbody]
      intro hcomplete
      rw [hs] at hcomplete
      cases hcomplete
  | true =>
    obtain ⟨_, _, _, hbody⟩ := Compiler.compile_ok hk h hs
    rw [Signature.Steady]
    revert hbody
    cases s.body with
    | whole d =>
      intro hbody
      cases hbody with
      | whole hwhole hd => exact hone hd fun r hr => .whole hwhole hr
    | fields ds =>
      intro hbody _ e he
      cases hbody with
      | fields hfields hds =>
        obtain ⟨p, hp, _, hd⟩ := exists_of_mem_right hds he
        exact hone hd fun r hr => .field hfields hp hr
    | brokenWhole => intro hbody; cases hbody

/-- A rule that grows changes the schema of the whole signature. -/
theorem compile_grows (hk : k.treatments = Treatments.usual)
    (h : k.compile (.mapping rules) inherited? t = (.ok s, u)) {r : Rule} (hr : IsTop rules r)
    (hgrows : r.growsOnExport = true) {schema : Schema} {s' : Signature}
    (hschema : s.schema = .ok (schema, s')) :
    ∃ schema' s'', s'.schema = .ok (schema', s'') ∧ schema' ≠ schema := by
  obtain ⟨hs, hbody⟩ : s.isComplete = true ∧ s.body.MadeOf rules s.strictness := by
    cases hs : s.isComplete with
    | true => exact ⟨rfl, (Compiler.compile_ok hk h hs).choose_spec.2.2⟩
    | false => rw [Signature.schema, hs] at hschema; cases hschema
  obtain ⟨body, strictness, failures⟩ := s
  cases hbody with
  | @whole d hwhole hd =>
    cases hr with
    | field hfields => rw [hfields] at hwhole; cases hwhole
    | whole _ hmeans =>
      obtain ⟨s₁, d₁, s₂, d₂, h₁, h₂, hne⟩ := (hd.of_means hmeans).exports_twice
      obtain ⟨d', hd', rfl⟩ := (Signature.schema_whole_iff hs).mp hschema
      cases h₁.symm.trans hd'
      exact ⟨s₂, _, (Signature.schema_whole_iff hs).mpr ⟨d₂, h₂, rfl⟩, (hne hgrows).symm⟩
  | @fields ds hfields hds =>
    cases hr with
    | whole hwhole => rw [hfields] at hwhole; cases hwhole
    | @field name source _ hmem hmeans =>
      have hall : ∀ e ∈ ds, ∃ s₁ d₁ s₂ d₂, e.2.export = .ok (s₁, d₁) ∧
          d₁.export = .ok (s₂, d₂) := by
        intro e he
        obtain ⟨p, _, _, q, _, hd⟩ := exists_of_mem_right hds he
        obtain ⟨s₁, d₁, s₂, d₂, h₁, h₂, _⟩ := hd.exports_twice
        exact ⟨s₁, d₁, s₂, d₂, h₁, h₂⟩
      obtain ⟨ps₁, ds₁, ps₂, ds₂, hds₁, hds₂, hne⟩ := exportEntries_twice hall
      have hps : ps₁ ≠ ps₂ := by
        obtain ⟨e, he, _, hd⟩ := exists_of_mem_left hds hmem
        obtain ⟨s₁, d₁, s₂, d₂, h₁, h₂, hs⟩ := (hd.of_means hmeans).exports_twice
        exact hne e he s₁ d₁ s₂ d₂ h₁ h₂ (hs hgrows)
      obtain ⟨_, _, required, hds', hrequired, rfl, rfl⟩ :=
        (Signature.schema_fields_iff hs).mp hschema
      cases hds₁.symm.trans hds'
      rw [← requiredFields_congr (exportEntries_demands hds₁)] at hrequired
      refine ⟨_, _, (Signature.schema_fields_iff hs).mpr
        ⟨ps₂, ds₂, required, hds₂, hrequired, rfl, rfl⟩, fun heq => ?_⟩
      · have hproperties := congrArg (Entries.at? · "properties") heq
        exact hps (Value.mapping.inj (Option.some.inj hproperties)).symm

end

/-- **Which exports give the same schema again**, of what a compiler with the usual treatments
makes.  A rule that does not grow can be exported at will; one that grows gives another schema each
time.  A signature stays as it is, whatever it is used for, if none of its rules grows, and gives
another schema the second time if one does. -/
theorem exports_repeat_exactly {k : Compiler} (hk : k.treatments = Treatments.usual) :
    (∀ {r : Rule} {ctx : Strictness} {path : String} {t u : Tally} {d : Validator},
      compileRule k.treatments r ctx path t = (.ok d, u) →
      (r.growsOnExport = false → ∃ schema, d.ExportsPurely schema) ∧
      (r.growsOnExport = true → ∃ conjuncts more, d.ExportsGrow conjuncts more)) ∧
    ∀ {rules : Entries RuleSource} {inherited? : Option Strictness} {t u : Tally} {s : Signature},
      k.compile (.mapping rules) inherited? t = (.ok s, u) →
      ((∀ r, IsTop rules r → r.growsOnExport = false) →
        ∀ uses s', s.afterAll uses = .ok s' → s' = s) ∧
      ((∃ r, IsTop rules r ∧ r.growsOnExport = true) →
        ∀ schema s', s.schema = .ok (schema, s') →
          ∃ schema' s'', s'.schema = .ok (schema', s'') ∧ schema' ≠ schema) := by
  refine ⟨?rule, fun h => ⟨?pure, ?grow⟩⟩
  case rule =>
    intro r ctx path t u d h
    rw [hk] at h
    have hd : r.CompilesTo ctx d := ⟨path, t, u, h⟩
    exact ⟨hd.exports_purely, hd.exports_grow⟩
  case pure =>
    intro hpure uses s' hs'
    exact Signature.afterAll_steady (compile_steady hk h hpure) hs'
  case grow =>
    rintro ⟨r, hr, hgrows⟩ schema s' hschema
    exact compile_grows hk h hr hgrows hschema

/-- Tags of which one is prescribed: the second schema of this argument is another one than the
first.  Without the choices for the tags nothing would change. -/
theorem exports_repeat_exactly_tags :
    let plain : Rule := .array {} (.string {} {}) { contains? := some (.list [.text "a"]) }
    let fields : Entries RuleSource :=
      [(.text "tags", .ready (.array {} (.string {} {}) { contains? := some (.list [.text "a"]) }))]
    let whole : Entries RuleSource :=
      [(.text "$$root", .other (.bool true)), (.text "type", .text "array"),
        (.text "items", .text "string"), (.text "contains", .list [.text "a"]),
        (.text "enum", .list [.text "a", .text "b"])]
    (∃ d, compileRule Treatments.usual plain {} "$" [] = (.ok d, []) ∧
      ∃ schema, d.ExportsPurely schema) ∧
    (∃ s, Compiler.compile {} (.mapping fields) none [] = (.ok s, []) ∧
      ∀ uses s', s.afterAll uses = .ok s' → s' = s) ∧
    ∃ s schema s' schema' s'', Compiler.compile {} (.mapping whole) none [] = (.ok s, []) ∧
      s.schema = .ok (schema, s') ∧ s'.schema = .ok (schema', s'') ∧ schema' ≠ schema := by
  intro plain fields whole
  have hk : ({} : Compiler).treatments = Treatments.usual := rfl
  refine ⟨?plain, ?steady, ?grow⟩
  case plain =>
    obtain ⟨d, hd⟩ : ∃ d, compileRule Treatments.usual plain {} "$" [] = (.ok d, []) := ⟨_, rfl⟩
    exact ⟨d, hd, ((exports_repeat_exactly hk).1 hd).1 rfl⟩
  case steady =>
    obtain ⟨s, hs⟩ : ∃ s, Compiler.compile {} (.mapping fields) none [] = (.ok s, []) := ⟨_, rfl⟩
    refine ⟨s, hs, ((exports_repeat_exactly hk).2 hs).1 ?_⟩
    rintro r (⟨hwhole, -⟩ | ⟨-, hmem, hr⟩)
    · cases hwhole
    · obtain ⟨rfl, rfl⟩ := Prod.mk.inj (List.mem_singleton.mp hmem)
      obtain rfl : plain = r := Except.ok.inj hr
      rfl
  case grow =>
    obtain ⟨s, hs, schema, s', hschema⟩ : ∃ s, Compiler.compile {} (.mapping whole) none []
        = (.ok s, []) ∧ ∃ schema s', s.schema = .ok (schema, s') := ⟨_, rfl, _, _, rfl⟩
    obtain ⟨schema', s'', hschema', hne⟩ := ((exports_repeat_exactly hk).2 hs).2
      ⟨_, .whole rfl rfl, rfl⟩ schema s' hschema
    exact ⟨s, schema, s', schema', s'', hs, hschema, hschema', hne⟩

end RuleSchema
