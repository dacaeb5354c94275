import RuleSchema.Proofs.Agreement.Rules
import RuleSchema.Proofs.Signature.Required
import RuleSchema.Proofs.Tool.Description

/-!
# Validation and schemas of signatures

The validators of a signature are faithful to their schemas if its rules have keywords for
all they demand.  The schema of the signature puts theirs together, with the names of the
required fields and with what is said of unknown keys, and validation treats the fields in the
same way, so that the two agree on every document.

* `Validator.Faithful.exported`: what an export shows of a faithful validator.
* `requiredFields_mem`: the names that a schema requires are those of the validators that do.
* `validation_agrees_with_schema`: **a payload is accepted just when the schema admits it**.
-/

namespace RuleSchema

open Eval Schema Value

variable {ds ds' : Entries Validator} {properties : Entries Value} {required : List Value}

/-- What is exported of a faithful validator. -/
theorem Validator.Faithful.exported {d d' : Validator} {schema schema' : Schema}
    (h : d.Faithful schema) (hexport : d.export = .ok (schema', d')) :
    d.Agrees (.mapping schema') := by
  refine h.agrees_shown ?_
  rw [Validator.schema, hexport]
  rfl

theorem Validator.Faithful.export_ok {d : Validator} {schema : Schema} (h : d.Faithful schema) :
    ∃ d', d.export = .ok (schema, d') := by
  have hshown := h.shown
  rw [Validator.schema] at hshown
  cases hexport : d.export with
  | error f => rw [hexport] at hshown; cases hshown
  | ok p =>
    rw [hexport] at hshown
    cases hshown
    exact ⟨p.2, rfl⟩

/-- The properties of a schema agree with the validators they are exported from. -/
theorem exportEntries_agree : ∀ {ds ds' : Entries Validator} {properties : Entries Value},
    (∀ e ∈ ds, ∃ schema, e.2.Faithful schema) → exportEntries ds = .ok (properties, ds') →
      PropertiesAgree ds properties := by
  intro ds
  induction ds with
  | nil =>
    intro ds' properties _ h
    cases h
    exact .nil
  | cons e ds ih =>
    intro ds' properties hds h
    obtain ⟨⟨schema, d⟩, hd, h⟩ := except_bind_ok h
    obtain ⟨⟨rest, es⟩, hes, h⟩ := except_bind_ok h
    cases h
    obtain ⟨hfirst, hrest⟩ := List.forall_mem_cons.mp hds
    obtain ⟨_, hfaithful⟩ := hfirst
    exact .cons ⟨rfl, hfaithful.exported hd⟩ (ih hrest hes)

/-- The names of the required fields are those of the validators that require a value. -/
theorem requiredFields_mem (h : requiredFields ds = .ok required) (f : Value) :
    f ∈ required ↔ ∃ d, (f, d) ∈ ds ∧ d.required = true := by
  obtain ⟨sorted, hsorted, h⟩ := except_bind_ok h
  cases h
  have hmem : ∀ e, e ∈ sorted ↔ e ∈ ds.filter fun e => e.2.required := by
    rw [sortKeys] at hsorted
    split at hsorted
    · cases hsorted
    · cases hsorted
      exact fun e => List.mem_mergeSort
  rw [Entries.keys, List.mem_map]
  constructor
  · rintro ⟨⟨k, d⟩, he, rfl⟩
    exact ⟨d, List.mem_filter.mp ((hmem _).mp he)⟩
  · rintro ⟨d, hd⟩
    exact ⟨(f, d), (hmem _).mpr (List.mem_filter.mpr hd), rfl⟩

/-- Validators of a signature from rules whose demands have keywords. -/
inductive SignatureBody.Faithful : SignatureBody → Prop
  | whole {d : Validator} {schema : Schema} : d.Faithful schema → Faithful (.whole d)
  | fields {ds : Entries Validator} : (∀ e ∈ ds, ∃ schema, e.2.Faithful schema) →
      Faithful (.fields ds)

section

variable {s s' : Signature} {schema : Schema}

/-- A signature of fields and its schema agree. -/
theorem Signature.fields_decide {strictness : Strictness} {failures : List FieldFailure}
    (hcomplete : failures.isEmpty = true) (hds : ∀ e ∈ ds, ∃ schema, e.2.Faithful schema)
    (hschema : Signature.schema ⟨.fields ds, strictness, failures⟩ = .ok (schema, s'))
    {payload : Value} (hpayload : payload.isDocument = true) :
    ((Signature.mk (.fields ds) strictness failures).validateFields payload).Decides
      (fun _ => True) ((Value.mapping schema).admits payload) := by
  obtain ⟨properties, ds', required, hexport, hrequired, rfl, -⟩ :=
    (schema_fields_iff hcomplete).mp hschema
  cases hobject : payload.isOfType "object" with
  | false =>
    have hadmits : (Value.mapping (fieldsSchema properties required strictness.mode)).admits
        payload = false := by
      change meets (_ ++ _ ++ _ ++ _) _ _ = _
      rw [List.append_assoc, List.append_assoc, meets_append]
      exact Bool.and_eq_false_imp.mpr fun h => by
        rw [show meets (keyword "type" (.text "object")) _ payload = payload.isOfType "object"
          from meets_typeSchema, hobject] at h
        cases h
    rw [hadmits]
    cases payload <;> first | exact .rejected rfl | cases hobject
  | true =>
    obtain ⟨es, rfl⟩ : ∃ es, payload = .mapping es := by
      cases payload <;> first | exact ⟨_, rfl⟩ | cases hobject
    rw [admits_fieldsSchema, all_required (requiredFields_mem hrequired)]
    exact ((validateProperties_decides hpayload (exportEntries_agree hds hexport) _).mapReason
      _).map fun _ _ => trivial

/-- **A signature and its schema agree** if its validators are faithful. -/
theorem Signature.decides (hcomplete : s.isComplete = true) (hbody : s.body.Faithful)
    (hschema : s.schema = .ok (schema, s')) {payload : Value}
    (hpayload : payload.isDocument = true) :
    ∃ x : Eval PayloadError Value, s.validate payload = x.mapReason .rejected ∧
      x.Decides (fun _ => True) ((Value.mapping schema).admits payload) := by
  obtain ⟨body, strictness, failures⟩ := s
  cases hbody with
  | @whole d schema' hd =>
    obtain ⟨d', hexport, -⟩ := (schema_whole_iff hcomplete).mp hschema
    refine ⟨d.validate payload, by rw [Signature.validate, if_pos hcomplete], ?_⟩
    exact ((hd.exported hexport).present payload hpayload).mono fun _ _ => trivial
  | fields hds =>
    refine ⟨_, by rw [Signature.validate, if_pos hcomplete], ?_⟩
    exact Signature.fields_decide hcomplete hds hschema hpayload

end

section

variable {k : Compiler} {rules : Entries RuleSource} {inherited? : Option Strictness}
  {t u : Tally} {s : Signature}

/-- A complete signature of rules whose demands have keywords. -/
theorem compile_faithful (hk : k.treatments = Treatments.usual)
    (hrules : ∀ r, IsTop rules r → ∀ q ∈ r.nodes, q.isExpressible = true)
    (h : k.compile (.mapping rules) inherited? t = (.ok s, u)) (hs : s.isComplete = true) :
    s.body.Faithful := by
  obtain ⟨-, -, -, hmade⟩ := Compiler.compile_ok hk h hs
  revert hmade
  cases hbody : s.body with
  | whole d =>
    rintro ⟨hwhole, r, hr, hd⟩
    obtain ⟨schema, hfaithful⟩ := r.faithful (hrules r (.whole hwhole hr)) _ d hd
    exact .whole hfaithful
  | fields ds =>
    intro _
    refine .fields fun e he => ?_
    obtain ⟨r, hr, hd⟩ := (compile_fields hk h hs hbody).2 e he
    exact r.faithful (hrules r hr) _ _ hd
  | brokenWhole => intro hmade; cases hmade

/-- Faithful validators have schemas that can be exported. -/
theorem exportEntries_faithful : ∀ {ds : Entries Validator},
    (∀ e ∈ ds, ∃ schema, e.2.Faithful schema) →
      ∃ properties ds', exportEntries ds = .ok (properties, ds') := by
  intro ds
  induction ds with
  | nil => intro _; exact ⟨[], [], rfl⟩
  | cons e ds ih =>
    intro hds
    obtain ⟨⟨schema, hfirst⟩, hrest⟩ := List.forall_mem_cons.mp hds
    obtain ⟨properties, ds', hexports⟩ := ih hrest
    obtain ⟨d', hexport⟩ := hfirst.export_ok
    refine ⟨(e.1, .mapping schema) :: properties, (e.1, d') :: ds', ?_⟩
    rw [exportEntries, hexport]
    change (exportEntries ds >>= _) = _
    rw [hexports]
    rfl

/-- Such a signature has a schema, if its fields are named by texts. -/
theorem Signature.schema_faithful (hs : s.isComplete = true) (hbody : s.body.Faithful)
    (hnames : ∀ e ∈ s.validators, ∃ n, e.1 = .text n) :
    ∃ schema s', s.schema = .ok (schema, s') := by
  obtain ⟨body, strictness, failures⟩ := s
  cases hbody with
  | whole hd =>
    obtain ⟨d', hexport⟩ := hd.export_ok
    exact ⟨_, _, (schema_whole_iff hs).mpr ⟨d', hexport, rfl⟩⟩
  | @fields ds hds =>
    obtain ⟨properties, ds', hexport⟩ := exportEntries_faithful hds
    change ∀ e ∈ ds, ∃ n, e.1 = .text n at hnames
    obtain ⟨required, hrequired, -⟩ := requiredFields_json hnames
    exact ⟨_, _, (schema_fields_iff hs).mpr
      ⟨properties, ds', required, hexport, hrequired, rfl, rfl⟩⟩

/-- **Validation agrees with the schema**, for rules whose demands all have keywords.  Where the
names of the fields are texts there is a schema; and every payload that is a document is accepted
if the schema admits it, and rejected as a payload if the schema does not. -/
theorem validation_agrees_with_schema (hk : k.treatments = Treatments.usual)
    (hrules : ∀ r, IsTop rules r → ∀ q ∈ r.nodes, q.isExpressible = true)
    (h : k.compile (.mapping rules) inherited? t = (.ok s, u)) (hs : s.isComplete = true) :
    ((∀ e ∈ rules, ∃ n, e.1 = .text n) → ∃ schema s', s.schema = .ok (schema, s')) ∧
    ∀ schema s', s.schema = .ok (schema, s') → ∀ payload : Value, payload.isDocument = true →
      ((Value.mapping schema).admits payload = true →
        ∃ w, ∀ t', s.validate payload t' = (.ok w, t')) ∧
      ((Value.mapping schema).admits payload = false →
        ∃ e : PayloadError, ∀ t', s.validate payload t'
          = (.error (.rejected (.rejected e)), t')) := by
  have hbody := compile_faithful hk hrules h hs
  refine ⟨fun hnames => Signature.schema_faithful hs hbody ?_, fun schema s' hschema payload
    hpayload => ?_⟩
  · intro e he
    cases hfields : s.body with
    | fields ds =>
      rw [Signature.validators, hfields] at he
      have hkey : e.1 ∈ Entries.keys (Compiler.ruleEntries rules) :=
        (compile_fields hk h hs hfields).1 ▸ List.mem_map_of_mem he
      obtain ⟨p, hp, hkey⟩ := List.mem_map.mp hkey
      exact hkey ▸ hnames p (List.mem_of_mem_filter hp)
    | _ => rw [Signature.validators, hfields] at he; exact absurd he List.not_mem_nil
  · obtain ⟨x, hx, hdecides⟩ := Signature.decides hs hbody hschema hpayload
    rw [hx]
    generalize (Value.mapping schema).admits payload = b at hdecides
    cases hdecides with
    | @accepted w hw _ =>
      rw [hw]
      exact ⟨fun _ => ⟨w, fun _ => rfl⟩, fun h => absurd h.symm Bool.false_ne_true⟩
    | @rejected e he =>
      rw [he]
      exact ⟨fun h => absurd h Bool.false_ne_true, fun _ => ⟨e, fun _ => rfl⟩⟩

end

/-- A pair of a positive number and of at most two short texts: both sides accept a pair that is
one, and reject a pair with a long text. -/
theorem validation_agrees_with_schema_pair :
    let rules : Entries RuleSource :=
      [(.text "$$root", .other (.bool true)), (.text "type", .text "tuple"),
        (.text "items", .list [
          .mapping [(.text "type", .text "number"), (.text "positive", .other (.bool true))],
          .mapping [(.text "type", .text "array"), (.text "max", .other (.int 2)),
            (.text "items", .mapping [(.text "type", .text "string"),
              (.text "max", .other (.int 3))])]])]
    let schema : Entries Value :=
      [(.text "type", .text "array"),
        (.text "prefixItems", .list [
          .mapping [(.text "type", .text "number"), (.text "exclusiveMinimum", .int 0)],
          .mapping [(.text "type", .text "array"),
            (.text "items", .mapping [(.text "type", .text "string"),
              (.text "maxLength", .int 3)]),
            (.text "minItems", .int 1), (.text "maxItems", .int 2)]]),
        (.text "items", .bool false), (.text "minItems", .int 2), (.text "maxItems", .int 2)]
    let pair : Value := .list [.int 1, .list [.text "abc"]]
    let long : Value := .list [.int 1, .list [.text "abcd"]]
    ∃ s s', Compiler.compile {} (.mapping rules) none [] = (.ok s, []) ∧
      s.schema = .ok (schema, s') ∧
      ((Value.mapping schema).admits pair = true ∧ ∃ w, s.validate pair [] = (.ok w, [])) ∧
      (Value.mapping schema).admits long = false ∧
        ∃ e : PayloadError, s.validate long [] = (.error (.rejected (.rejected e)), []) := by
  intro rules schema pair long
  obtain ⟨s, hs, hcomplete, s', hschema⟩ :
      ∃ s, Compiler.compile {} (.mapping rules) none [] = (.ok s, []) ∧ s.isComplete = true ∧
        ∃ s', s.schema = .ok (schema, s') := ⟨_, rfl, rfl, _, rfl⟩
  have hpair : (Value.mapping schema).admits pair = true := by decide +kernel
  have hlong : (Value.mapping schema).admits long = false := by decide +kernel
  have hrules : ∀ r, IsTop rules r → ∀ q ∈ r.nodes, q.isExpressible = true := by
    rintro r (⟨-, hr⟩ | ⟨hfields, -⟩)
    · obtain rfl : Rule.tuple {} [.number {} { positive := true },
          .array {} (.string {} { max? := some 3 }) { max? := some 2 }] = r := Except.ok.inj hr
      exact List.forall_mem_cons.mpr ⟨rfl, List.forall_mem_cons.mpr ⟨rfl,
        List.forall_mem_cons.mpr ⟨rfl, List.forall_mem_singleton.mpr rfl⟩⟩⟩
    · cases hfields
  obtain ⟨-, hagrees⟩ := validation_agrees_with_schema rfl hrules hs hcomplete
  obtain ⟨w, hw⟩ := (hagrees schema s' hschema pair (by decide +kernel)).1 hpair
  obtain ⟨e, he⟩ := (hagrees schema s' hschema long (by decide +kernel)).2 hlong
  exact ⟨s, s', hs, hschema, ⟨hpair, w, hw []⟩, hlong, e, he []⟩

end RuleSchema
