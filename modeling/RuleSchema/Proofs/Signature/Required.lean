import RuleSchema.Proofs.Json.Canonical
import RuleSchema.Proofs.Signature.Uses
import RuleSchema.Proofs.Validator.Absent
import RuleSchema.Proofs.Validator.Declared

/-!
# Required fields

The schema of a signature lists the fields that must be present, and a payload without
one of these is rejected for it.  Of an accepted payload every other field may be left
out, and nothing else changes.

* `Schema.requires` are the names that a schema lists.
* `requiredFields_ok`: the names of fields can be sorted, and which of them are listed.
* `required_is_enforced`: what the list says is what validation does.
-/

namespace RuleSchema

open Eval

/-- The names that a schema requires. -/
def Schema.requires (schema : Schema) : List Value :=
  match schema.at? "required" with
  | some (.list names) => names
  | _ => []

theorem requires_fieldsSchema (properties : Entries Value) (required : List Value)
    (mode : UnknownKeys) : (fieldsSchema properties required mode).requires = required := by
  have hat : Entries.at? (fieldsSchema properties required mode) "required"
      = if required.isEmpty then none else some (.list required) := by
    simp only [fieldsSchema, Schema.at?_append]
    cases required with
    | nil => cases mode <;> rfl
    | cons v required => cases mode <;> rfl
  rw [Schema.requires, hat]
  cases required <;> rfl

/-! ### Sorting names -/

/-- Names that are texts can be sorted. -/
theorem requiredFields_texts {ds : Entries Validator} (h : ∀ e ∈ ds, e.1.text?.isSome = true) :
    requiredFields ds = .ok (Entries.keys
      ((ds.filter fun e => e.2.required).mergeSort fun e f => keyAtMost e.1 f.1)) := by
  have hclash : keyClash? ((ds.filter fun e => e.2.required).map Prod.fst) = none :=
    keyClash?_texts fun k hk => by
      obtain ⟨e, he, rfl⟩ := List.mem_map.mp hk
      exact h e (List.mem_of_mem_filter he)
  rw [requiredFields, sortKeys, hclash]
  rfl

/-- **The names of the required fields** are sorted, and they are those of the validators that
require a value. -/
theorem requiredFields_ok {ds : Entries Validator} (hdistinct : Distinct ds) :
    ∃ required, requiredFields ds = .ok required ∧
      ∀ f d, (f, d) ∈ ds → (f ∈ required ↔ d.required = true) := by
  refine ⟨_, requiredFields_texts hdistinct.texts, fun f d hd => ?_⟩
  rw [Entries.keys, List.mem_map]
  constructor
  · rintro ⟨e, he, rfl⟩
    obtain ⟨hmem, hrequired⟩ := List.mem_filter.mp (List.mem_mergeSort.mp he)
    rw [hdistinct.unique hd hmem]
    exact hrequired
  · intro hrequired
    exact ⟨(f, d), List.mem_mergeSort.mpr (List.mem_filter.mpr ⟨hd, hrequired⟩), rfl⟩

/-! ### Signatures -/

/-- Lists that agree in their keys. -/
theorem keys_of_forall₂ {α β : Type} {R : Value × α → Value × β → Prop} {ps : Entries α}
    {ds : Entries β} (h : List.Forall₂ (fun p e => e.1 = p.1 ∧ R p e) ps ds) :
    Entries.keys ds = Entries.keys ps := by
  induction h with
  | nil => rfl
  | cons hp _ ih => exact congrArg₂ List.cons hp.1 ih

section

variable {k : Compiler} {rules : Entries RuleSource} {inherited? : Option Strictness}
  {t u : Tally} {s : Signature} {ds : Entries Validator}

/-- The names of the fields, and the rule of each. -/
theorem compile_fields (hk : k.treatments = Treatments.usual)
    (h : k.compile (.mapping rules) inherited? t = (.ok s, u)) (hs : s.isComplete = true)
    (hbody : s.body = .fields ds) :
    Entries.keys ds = Entries.keys (Compiler.ruleEntries rules) ∧
      ∀ e ∈ ds, ∃ r, IsTop rules r ∧ r.CompilesTo s.strictness e.2 := by
  obtain ⟨-, -, -, hmade⟩ := Compiler.compile_ok hk h hs
  rw [hbody] at hmade
  cases hmade with
  | fields hfields hds =>
    refine ⟨keys_of_forall₂ hds, fun e he => ?_⟩
    obtain ⟨p, hp, -, r, hr, hd⟩ := exists_of_mem_right hds he
    exact ⟨r, .field hfields hp hr, hd⟩

/-- The schema of a signature of fields, and what it requires. -/
theorem Signature.schema_requires {strictness : Strictness} (hdistinct : Distinct ds)
    (hds : ∀ e ∈ ds, ∃ r : Rule, r.CompilesTo strictness e.2) (hs : s.isComplete = true)
    (hbody : s.body = .fields ds) :
    ∃ schema s', s.schema = .ok (schema, s') ∧
      ∀ f d, (f, d) ∈ ds → (f ∈ schema.requires ↔ d.required = true) := by
  obtain ⟨body, policy, failures⟩ := s
  obtain rfl : body = .fields ds := hbody
  have htwice : ∀ e ∈ ds, ∃ s₁ d₁ s₂ d₂,
      e.2.export = .ok (s₁, d₁) ∧ d₁.export = .ok (s₂, d₂) := by
    intro e he
    obtain ⟨r, hr⟩ := hds e he
    obtain ⟨s₁, d₁, s₂, d₂, h₁, h₂, -⟩ := hr.exports_twice
    exact ⟨s₁, d₁, s₂, d₂, h₁, h₂⟩
  obtain ⟨schemas, ds', _, _, hexport, -, -⟩ := exportEntries_twice htwice
  obtain ⟨required, hrequired, hmem⟩ := requiredFields_ok hdistinct
  refine ⟨_, _, (schema_fields_iff hs).mpr ⟨schemas, ds', required, hexport, hrequired, rfl, rfl⟩,
    fun f d hd => ?_⟩
  rw [requires_fieldsSchema]
  exact hmem f d hd

/-- A complete signature of fields validates a mapping by its properties. -/
theorem Signature.validate_fields (hs : s.isComplete = true) (hbody : s.body = .fields ds)
    (es : Entries Value) :
    s.validate (.mapping es) = ((do
      return Value.mapping (← (validateProperties es ds s.strictness.mode).mapReason
        Signature.rejectedPayload)).mapReason Refusal.rejected) := by
  rw [Signature.validate, if_pos hs, hbody, Signature.validateFields, Signature.validators, hbody]

/-- **The list of required fields is what validation enforces**, for rules of fields without
generated defaults.  Of an accepted payload a listed field cannot be left out: the payload is
rejected, at the place of the field and as one that is required.  Any other declared field can be
left out, and the outputs under all other keys stay as they are. -/
theorem required_is_enforced (hk : k.treatments = Treatments.usual) (hrules : Distinct rules)
    (hfixed : ∀ r, IsTop rules r → ∀ q ∈ r.nodes, q.generates = false)
    (h : k.compile (.mapping rules) inherited? t = (.ok s, u)) (hs : s.isComplete = true)
    (hbody : s.body = .fields ds) :
    ∃ schema s', s.schema = .ok (schema, s') ∧
      ∀ (es : Entries Value) (w : Value) (t u : Tally), s.validate (.mapping es) t = (.ok w, u) →
        ∃ out, w = .mapping out ∧ ∀ f ∈ ds.keys, ∀ t',
          (f ∉ schema.requires → ∃ out',
            s.validate (.mapping (es.erase f)) t' = (.ok (.mapping out'), t') ∧
              Entries.erase out' f = Entries.erase out f) ∧
          (f ∈ schema.requires → ∃ e : PayloadError,
            s.validate (.mapping (es.erase f)) t' = (.error (.rejected (.rejected e)), t') ∧
              e.path = [f] ∧ e.check = some "required") := by
  obtain ⟨hkeys, htop⟩ := compile_fields hk h hs hbody
  have hdistinct : Distinct ds := (hrules.filter _).of_keys hkeys
  have hcalls : ∀ e ∈ ds, e.2.CallsWithin noCalls := by
    intro e he
    obtain ⟨r, hr, hd⟩ := htop e he
    exact hd.calls_nothing (hfixed r hr)
  obtain ⟨schema, s', hschema, hrequires⟩ := Signature.schema_requires hdistinct
    (fun e he => (htop e he).imp fun _ h => h.2) hs hbody
  refine ⟨schema, s', hschema, fun es w t u hw => ?_⟩
  rw [Signature.validate_fields hs hbody] at hw
  obtain ⟨out, _, hout, hw⟩ := bind_ok (mapReason_ok hw)
  refine ⟨out, (pure_ok hw).1, fun f hf t' => ?_⟩
  obtain ⟨⟨f, d⟩, hd, rfl⟩ := List.mem_map.mp hf
  obtain ⟨r, hr, hrule⟩ := htop _ hd
  obtain ⟨haccepted, hrejected⟩ :=
    validateProperties_erase hdistinct hcalls hd (mapReason_ok hout)
  rw [Signature.validate_fields hs hbody, hrequires f d hd]
  constructor
  · intro hrequired
    obtain ⟨w', _, _, hw'⟩ := hrule.absent_accepted (hfixed r hr r r.self_mem_nodes)
      (Bool.eq_false_iff.mpr hrequired)
    obtain ⟨out', hout', herase⟩ := haccepted w' ((hcalls _ hd _).eq_pure hw')
    refine ⟨out', ?_, herase⟩
    rw [hout']
    rfl
  · intro hrequired
    obtain ⟨e, he, hpath, hcheck⟩ := hrule.absent_rejected hrequired
    refine ⟨e.under f, ?_, congrArg (f :: ·) hpath, hcheck⟩
    rw [hrejected e he]
    rfl

end

/-- A flag is required and a note is not: without the note an accepted payload is accepted, without
the flag it is rejected for the flag. -/
theorem required_is_enforced_flag :
    let rules : Entries RuleSource :=
      [(.text "flag", .mapping [(.text "type", .text "boolean")]),
        (.text "note", .mapping [(.text "type", .text "any"),
          (.text "optional", .other (.bool true))])]
    let payload : Entries Value := [(.text "flag", .bool true), (.text "note", .int 1)]
    ∃ s, Compiler.compile {} (.mapping rules) none [] = (.ok s, []) ∧
      (∃ out, s.validate (.mapping (payload.erase (.text "note"))) []
        = (.ok (.mapping out), [])) ∧
      ∃ e, s.validate (.mapping (payload.erase (.text "flag"))) []
        = (.error (.rejected (.rejected e)), []) ∧ e.path = [.text "flag"] := by
  intro rules payload
  obtain ⟨s, hs, ds, hbody, hcomplete, hkeys, w, hw, hrequired⟩ :
      ∃ s, Compiler.compile {} (.mapping rules) none [] = (.ok s, []) ∧
        ∃ ds, s.body = .fields ds ∧ s.isComplete = true ∧
          ds.keys = [.text "flag", .text "note"] ∧
          ∃ w, s.validate (.mapping payload) [] = (.ok w, []) ∧
            requiredFields ds = .ok [.text "flag"] :=
    ⟨_, rfl, _, rfl, rfl, rfl, _, rfl,
      congrArg (fun es => Except.ok (Entries.keys es)) (List.mergeSort_singleton _)⟩
  have hrules : Distinct rules := ⟨by decide, by decide⟩
  have hfixed : ∀ r, IsTop rules r → ∀ q ∈ r.nodes, q.generates = false := by
    rintro r (⟨hwhole, -⟩ | ⟨-, hmem, hr⟩)
    · cases hwhole
    · rcases List.mem_cons.mp hmem with hmem | hmem
      · obtain ⟨rfl, rfl⟩ := Prod.mk.inj hmem
        obtain rfl : Rule.boolean {} = r := Except.ok.inj hr
        exact List.forall_mem_singleton.mpr rfl
      · obtain ⟨rfl, rfl⟩ := Prod.mk.inj (List.mem_singleton.mp hmem)
        obtain rfl : Rule.any { optional := true } = r := Except.ok.inj hr
        exact List.forall_mem_singleton.mpr rfl
  obtain ⟨schema, s', hschema, hlaw⟩ :=
    required_is_enforced rfl hrules hfixed hs hcomplete hbody
  have hrequires : schema.requires = [.text "flag"] := by
    obtain ⟨body, policy, failures⟩ := s
    obtain rfl : body = .fields ds := hbody
    obtain ⟨_, _, required, -, hrequired', rfl, -⟩ :=
      (Signature.schema_fields_iff hcomplete).mp hschema
    cases hrequired.symm.trans hrequired'
    exact requires_fieldsSchema _ _ _
  obtain ⟨out, -, hout⟩ := hlaw payload w [] [] hw
  rw [hkeys, hrequires] at hout
  obtain ⟨out', hout', -⟩ := (hout (.text "note") (by simp) []).1 (by simp)
  obtain ⟨e, he, hpath, -⟩ := (hout (.text "flag") (by simp) []).2 (by simp)
  exact ⟨s, hs, ⟨out', hout'⟩, e, he, hpath⟩

end RuleSchema
