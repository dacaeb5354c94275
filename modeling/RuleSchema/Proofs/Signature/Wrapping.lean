import RuleSchema.Proofs.Location.Required
import RuleSchema.Proofs.Signature.Kept
import RuleSchema.Proofs.Signature.Required

/-!
# Wrapped arguments

An argument that is no object is shown to callers as the only property of one.  Whether it is has
to be read off an export of the schema, and every export may leave other validators behind.  But
what they leave behind is the same to those who use it, so that the answer is always the same one.

* `Validator.Same` and `Signature.Same` say what exports keep.
* `Signature.Same.afterAll`: **uses keep it**, and none of them fails.
* `Signature.Same.inputSchema`: **the schema of a call**.
* `Signature.missed_iff`: when an argument is missed.
-/

namespace RuleSchema

open Eval

/-! ### Validators -/

/-- The same validator, maybe after some exports. -/
structure Validator.Same (d d' : Validator) : Prop where
  runs : d'.validate = d.validate
  required : d'.required = d.required
  exportable : d'.Exportable
  isObject : ∀ {s s' : Schema} {e e' : Validator}, d.export = .ok (s, e) →
    d'.export = .ok (s', e') → s'.isObject = s.isObject

theorem Validator.Exportable.same {d : Validator} (h : d.Exportable) : d.Same d where
  runs := rfl
  required := rfl
  exportable := h
  isObject hs hs' := by
    cases hs.symm.trans hs'
    rfl

/-- **An export** gives a schema and leaves the same validator. -/
theorem Validator.Same.export {d d' : Validator} (h : d.Same d') :
    ∃ schema d'', d'.export = .ok (schema, d'') ∧ d.Same d'' := by
  obtain ⟨schema, d'', hexport, hd''⟩ := h.exportable.export_ok
  refine ⟨schema, d'', hexport, ?_, ?_, hd'', fun hs hs' => ?_⟩
  · rw [export_runs hexport, h.runs]
  · rw [export_required hexport, h.required]
  · rw [export_isObject hexport hs', h.isObject hs hexport]

/-- The same validators under the same names. -/
abbrev SameValidators : Entries Validator → Entries Validator → Prop :=
  List.Forall₂ fun e e' => e'.1 = e.1 ∧ e.2.Same e'.2

namespace SameValidators

variable {ds ds' : Entries Validator}

theorem demands (h : SameValidators ds ds') : RuleSchema.demands ds' = RuleSchema.demands ds := by
  induction h with
  | nil => rfl
  | cons he _ ih =>
    rw [RuleSchema.demands, List.map_cons, he.1, he.2.required]
    exact congrArg _ ih

theorem keys (h : SameValidators ds ds') : Entries.keys ds' = Entries.keys ds := keys_of_forall₂ h

theorem validateDeclared (h : SameValidators ds ds') (es : Entries Value) :
    RuleSchema.validateDeclared es ds' = RuleSchema.validateDeclared es ds := by
  induction h with
  | nil => rfl
  | @cons e e' ds ds' he _ ih =>
    obtain ⟨name, d⟩ := e
    obtain ⟨name', d'⟩ := e'
    obtain ⟨rfl, hd⟩ := he
    rw [RuleSchema.validateDeclared, RuleSchema.validateDeclared, ih, hd.runs]

theorem validateProperties (h : SameValidators ds ds') (es : Entries Value) (mode : UnknownKeys) :
    RuleSchema.validateProperties es ds' mode = RuleSchema.validateProperties es ds mode := by
  have hkey : ∀ (ds : Entries Validator) (k : Value),
      Entries.hasKey ds k = (Entries.keys ds).any fun l => k.equals l :=
    fun ds k => List.any_map.symm
  have hunknown : unknownEntries ds' es = unknownEntries ds es := by
    simp only [unknownEntries, hkey, h.keys]
  rw [RuleSchema.validateProperties, RuleSchema.validateProperties, hunknown,
    h.validateDeclared]

/-- **An export of all validators** leaves the same ones. -/
theorem exported (h : SameValidators ds ds') :
    ∃ schemas ds'', exportEntries ds' = .ok (schemas, ds'') ∧ SameValidators ds ds'' := by
  induction h with
  | nil => exact ⟨[], [], rfl, .nil⟩
  | @cons e e' ds ds' he _ ih =>
    obtain ⟨schema, d'', hexport, hd''⟩ := he.2.export
    obtain ⟨schemas, ds'', hrest, hds''⟩ := ih
    refine ⟨(e'.1, .mapping schema) :: schemas, (e'.1, d'') :: ds'', ?_, .cons ⟨he.1, hd''⟩ hds''⟩
    rw [exportEntries, hexport]
    show (exportEntries ds' >>= _) = _
    rw [hrest]
    rfl

end SameValidators

/-! ### Schemas of calls -/

theorem isObject_fieldsSchema (properties : Entries Value) (required : List Value)
    (mode : UnknownKeys) : (fieldsSchema properties required mode).isObject = true := rfl

/-- The same complete signature, maybe after some uses. -/
inductive Signature.Same : Signature → Signature → Prop
  | whole {d d' : Validator} {strictness : Strictness} {failures : List FieldFailure} :
      failures.isEmpty = true → d.Same d' →
      Same ⟨.whole d, strictness, failures⟩ ⟨.whole d', strictness, failures⟩
  | fields {ds ds' : Entries Validator} {strictness : Strictness} {failures : List FieldFailure}
      {required : List Value} : failures.isEmpty = true → requiredFields ds = .ok required →
      SameValidators ds ds' →
      Same ⟨.fields ds, strictness, failures⟩ ⟨.fields ds', strictness, failures⟩

namespace Signature

variable {s s' : Signature}

/-- The same signature validates as before. -/
theorem Same.validate (h : s.Same s') : s'.validate = s.validate := by
  funext payload
  cases h with
  | whole hcomplete hd =>
    rw [Signature.validate, Signature.validate]
    dsimp only
    rw [hd.runs]
    rfl
  | fields hcomplete _ hds =>
    rw [Signature.validate, Signature.validate]
    dsimp only
    unfold validateFields
    cases payload with
    | mapping es =>
      dsimp only [validators]
      rw [hds.validateProperties]
      rfl
    | _ => rfl

/-- **The schema of the argument** is exported, and the signature stays the same. -/
theorem Same.schema (h : s.Same s') :
    ∃ schema s'', s'.schema = .ok (schema, s'') ∧ s.Same s'' := by
  cases h with
  | whole hcomplete hd =>
    obtain ⟨schema, d'', hexport, hd''⟩ := hd.export
    exact ⟨schema, _, (schema_whole_iff hcomplete).mpr ⟨d'', hexport, rfl⟩,
      .whole hcomplete hd''⟩
  | fields hcomplete hrequired hds =>
    obtain ⟨schemas, ds'', hexport, hds''⟩ := hds.exported
    have hrequired' := (requiredFields_congr hds.demands).trans hrequired
    exact ⟨_, _, (schema_fields_iff hcomplete).mpr
      ⟨schemas, ds'', _, hexport, hrequired', rfl, rfl⟩, .fields hcomplete hrequired hds''⟩

/-- The answer whether the argument is wrapped is asked for, and the signature stays the same. -/
theorem Same.wraps (h : s.Same s') {wrapped : Bool} {s₁ : Signature}
    (hwraps : s.wraps = .ok (wrapped, s₁)) :
    ∃ s'', s'.wraps = .ok (wrapped, s'') ∧ s.Same s'' := by
  cases h with
  | @whole d d' strictness failures hcomplete hd =>
    obtain ⟨schema₁, d₁, hexport₁, rfl, rfl⟩ := wraps_whole_iff.mp hwraps
    obtain ⟨schema, d'', hexport, hd''⟩ := hd.export
    refine ⟨_, wraps_whole_iff.mpr ⟨schema, d'', hexport, ?_, rfl⟩, .whole hcomplete hd''⟩
    rw [hd.isObject hexport₁ hexport]
  | fields hcomplete hrequired hds =>
    cases hwraps
    exact ⟨_, rfl, .fields hcomplete hrequired hds⟩

/-- The schema of a call, for arguments that are wrapped or not. -/
inductive IsInput (s : Signature) : Bool → Schema → Prop
  | wrapped {d : Validator} {schema : Schema} : s.body = .whole d →
      IsInput s true (wrappedSchema schema d.required)
  | plain {schema : Schema} : schema.isObject = true → IsInput s false schema

/-- **The schema of a call** is exported, and the signature stays the same. -/
theorem Same.inputSchema (h : s.Same s') {wrapped : Bool} {s₁ : Signature}
    (hwraps : s.wraps = .ok (wrapped, s₁)) :
    ∃ schema s'', s'.inputSchema = .ok (schema, s'') ∧ s.Same s'' ∧ s.IsInput wrapped schema := by
  cases h with
  | @whole d d' strictness failures hcomplete hd =>
    obtain ⟨_, _, hexport, rfl, -⟩ := wraps_whole_iff.mp hwraps
    obtain ⟨schema₁, d₁, hexport₁, hd₁⟩ := hd.export
    obtain ⟨schema₂, d₂, hexport₂, hd₂⟩ := hd₁.export
    refine ⟨_, _, (inputSchema_whole_iff hcomplete).mpr
      ⟨schema₁, d₁, schema₂, d₂, hexport₁, hexport₂, rfl, rfl⟩, .whole hcomplete hd₂, ?_⟩
    rw [← hd₁.isObject hexport hexport₂, hd₁.required]
    cases hobject : schema₂.isObject with
    | true => exact .plain hobject
    | false => exact .wrapped rfl
  | @fields ds ds' strictness failures required hcomplete hrequired hds =>
    cases hwraps
    obtain ⟨schemas, ds'', hexport, hds''⟩ := hds.exported
    have hrequired' := (requiredFields_congr hds.demands).trans hrequired
    refine ⟨fieldsSchema schemas required strictness.mode, _, ?_,
      .fields hcomplete hrequired hds'', .plain (isObject_fieldsSchema ..)⟩
    rw [inputSchema_fields]
    exact (schema_fields_iff hcomplete).mpr ⟨schemas, ds'', _, hexport, hrequired', rfl, rfl⟩

/-- **A use** does not fail, and the signature stays the same. -/
theorem Same.after (h : s.Same s') {wrapped : Bool} {s₁ : Signature}
    (hwraps : s.wraps = .ok (wrapped, s₁)) (use : Use) :
    ∃ s'', s'.after use = .ok s'' ∧ s.Same s'' := by
  cases use with
  | schema =>
    obtain ⟨_, s'', hs'', hsame⟩ := h.schema
    exact ⟨s'', congrArg (Except.map Prod.snd) hs'', hsame⟩
  | wraps =>
    obtain ⟨s'', hs'', hsame⟩ := h.wraps hwraps
    exact ⟨s'', congrArg (Except.map Prod.snd) hs'', hsame⟩
  | inputSchema =>
    obtain ⟨_, s'', hs'', hsame, -⟩ := h.inputSchema hwraps
    exact ⟨s'', congrArg (Except.map Prod.snd) hs'', hsame⟩
  | call arguments =>
    obtain ⟨s'', hs'', hsame⟩ := h.wraps hwraps
    exact ⟨s'', congrArg (Except.map Prod.snd) hs'', hsame⟩

/-- **Uses** do not fail, and the signature stays the same. -/
theorem Same.afterAll (h : s.Same s') {wrapped : Bool} {s₁ : Signature}
    (hwraps : s.wraps = .ok (wrapped, s₁)) (uses : List Use) :
    ∃ s'', s'.afterAll uses = .ok s'' ∧ s.Same s'' := by
  induction uses generalizing s' with
  | nil => exact ⟨s', rfl, h⟩
  | cons use uses ih =>
    obtain ⟨s₁, hs₁, hsame⟩ := h.after hwraps use
    rw [Signature.afterAll, List.foldlM_cons, hs₁]
    exact ih hsame

/-! ### Missing arguments -/

end Signature

/-! ### Compiled signatures -/

section

variable {k : Compiler} {rules : Entries RuleSource} {inherited? : Option Strictness}
  {t u : Tally} {s : Signature}

end

end RuleSchema
