import RuleSchema.Proofs.Order.Compile
import RuleSchema.Proofs.Order.Normalize
import RuleSchema.Proofs.Tool.Description

/-!
# Signatures with their keys in another order

The rules of an operation with their keys in another order are compiled to the same policy and the
same validators but for the order of the fields, and of the keys in what these show.  The schemas
of a call are then the same once their keys have been sorted, and so are the descriptions.

* `Signature.Parallel` relates two such signatures, and `compile_parallel` gives it.
* `exportEntries_parallel` and `requiredFields_eq_of_parallel`: the properties of a call, and those
  that must be there.
* `inputSchema_parallel`: the schemas of a call.
* `describeTool_eq`: **the descriptions are the same**.
-/

namespace RuleSchema

open Eval Schema

/-- The validators of two signatures, in some order. -/
inductive SignatureBody.Parallel : SignatureBody → SignatureBody → Prop
  | whole {d e : Validator} : d.Parallel e → Parallel (.whole d) (.whole e)
  | fields {ds es : Entries Validator} : Entries.Reordered Validator.Parallel ds es →
      Parallel (.fields ds) (.fields es)

/-- Two complete signatures with the same schema but for the order of keys. -/
structure Signature.Parallel (s s' : Signature) : Prop where
  complete : s.isComplete = true
  complete' : s'.isComplete = true
  strictness : s.strictness = s'.strictness
  body : s.body.Parallel s'.body

/-! ### Compiling -/

section

variable {es fs : Entries Value}

theorem ofEntries_reordered (h : Entries.Reordered Value.Reordered es fs) :
    Entries.Reordered (fun x y => ∃ v w : Value, x = .ofValue v ∧ y = .ofValue w ∧ v.Reordered w)
      (RuleSource.ofEntries es) (RuleSource.ofEntries fs) := by
  rw [ofEntries_eq_map, ofEntries_eq_map]
  exact h.mapContents fun hvw => ⟨_, _, rfl, rfl, hvw⟩

/-- Rules that are meant for the argument as a whole are so in any order. -/
theorem meansWhole_eq (h : Entries.Reordered Value.Reordered es fs) :
    Compiler.meansWhole (RuleSource.ofEntries es)
      = Compiler.meansWhole (RuleSource.ofEntries fs) := by
  have hat := (ofEntries_reordered h).alike wholeKey
  rw [Compiler.meansWhole, Compiler.meansWhole]
  generalize Entries.at? (RuleSource.ofEntries es) wholeKey = x at hat ⊢
  generalize Entries.at? (RuleSource.ofEntries fs) wholeKey = y at hat ⊢
  cases hat with
  | none => rfl
  | some hvw =>
    obtain ⟨v, w, rfl, rfl, hvw⟩ := hvw
    cases hvw <;> rfl

theorem declaredStrictness_agree (h : Entries.Reordered Value.Reordered es fs) :
    ResultsAgree Eq (Compiler.declaredStrictness (RuleSource.ofEntries es))
      (Compiler.declaredStrictness (RuleSource.ofEntries fs)) := by
  have hat := (ofEntries_reordered h).alike strictKey
  rw [Compiler.declaredStrictness, Compiler.declaredStrictness]
  generalize Entries.at? (RuleSource.ofEntries es) strictKey = x at hat ⊢
  generalize Entries.at? (RuleSource.ofEntries fs) strictKey = y at hat ⊢
  cases hat with
  | none => exact .refl _
  | some hvw =>
    obtain ⟨v, w, rfl, rfl, hvw⟩ := hvw
    rw [Option.map_some, Option.map_some, toValue_ofValue, toValue_ofValue]
    cases hvw with
    | same => exact .refl _
    | list => exact .error_left
    | mapping => exact .error_left

/-- The validators of two sources at one place. -/
theorem sources_parallel {v w : Value} (hvw : v.Reordered w) {path : String} {ctx : Strictness}
    {d e : Validator} (hd : (RuleSource.ofValue v).CompilesTo path ctx d)
    (he : (RuleSource.ofValue w).CompilesTo path ctx e) : d.Parallel e := by
  obtain ⟨r, hr, hd⟩ := hd
  obtain ⟨q, hq, he⟩ := he
  exact (normalize_agree hvw path r q hr hq).compiled ctx hd he

/-- The validators of the rules of an operation in another order. -/
theorem body_parallel (h : Entries.Reordered Value.Reordered es fs) {ctx : Strictness}
    {b b' : SignatureBody} (hb : b.MadeOf (RuleSource.ofEntries es) ctx)
    (hb' : b'.MadeOf (RuleSource.ofEntries fs) ctx) : b.Parallel b' := by
  have hrules := h.filterKeys fun k => !isPragma k
  have hwhole := meansWhole_eq h
  cases hb with
  | whole hmeans hd =>
    cases hb' with
    | fields hmeans' _ => cases hmeans.symm.trans (hwhole.trans hmeans')
    | whole _ he =>
      rw [ruleEntries_ofEntries] at hd he
      exact .whole (sources_parallel (.of_entries hrules) hd he)
  | @fields ds hmeans hds =>
    cases hb' with
    | whole hmeans' _ => cases hmeans'.symm.trans (hwhole.symm.trans hmeans)
    | @fields es' _ hes =>
      rw [ruleEntries_ofEntries] at hds hes
      refine .fields ((ofEntries_reordered hrules).transport hds hes ?_ fun hkeyed hws => ?_)
      · rintro ⟨k, _⟩ ⟨l, _⟩ ⟨k', d⟩ ⟨l', e⟩ ⟨hkey, v, w, hv, hw, hvw⟩ ⟨hk, hd⟩ ⟨hl, he⟩
        obtain rfl : l = k := hkey
        obtain rfl : k' = l := hk
        obtain rfl : l' = k' := hl
        obtain rfl := hv
        obtain rfl := hw
        exact ⟨rfl, sources_parallel hvw hd he⟩
      · have hkeys : List.Forall₂ (SameKey fun _ _ => True) _ _ :=
          hws.imp fun _ _ h => ⟨h.1, trivial⟩
        exact hkeyed.of_keys (keys_of_sameKey hkeys)

/-- **The signatures of the rules of an operation** in another order. -/
theorem compile_parallel {k : Compiler} (hk : k.treatments = Treatments.usual)
    (h : Entries.Reordered Value.Reordered es fs) {inherited? : Option Strictness}
    {t u t' u' : Tally} {s s' : Signature}
    (hs : k.compile (.mapping (RuleSource.ofEntries es)) inherited? t = (.ok s, u))
    (hs' : k.compile (.mapping (RuleSource.ofEntries fs)) inherited? t' = (.ok s', u'))
    (hcomplete : s.isComplete = true) (hcomplete' : s'.isComplete = true) : s.Parallel s' := by
  obtain ⟨declared?, hdeclared, hstrictness, hbody⟩ := Compiler.compile_ok hk hs hcomplete
  obtain ⟨declared'?, hdeclared', hstrictness', hbody'⟩ := Compiler.compile_ok hk hs' hcomplete'
  obtain rfl : declared? = declared'? := declaredStrictness_agree h _ _ hdeclared hdeclared'
  have hpolicy : s.strictness = s'.strictness := hstrictness.trans hstrictness'.symm
  exact ⟨hcomplete, hcomplete', hpolicy, body_parallel h hbody (hpolicy ▸ hbody')⟩

end

/-! ### Exports -/

/-- The schemas of validators under their names. -/
theorem exportEntries_each : ∀ {ds ds' : Entries Validator} {schemas : Entries Value},
    exportEntries ds = .ok (schemas, ds') → List.Forall₂ (SameKey fun d v =>
      ∃ schema d', v = .mapping schema ∧ Validator.export d = .ok (schema, d')) ds schemas
  | [], _, _, h => by cases h; exact .nil
  | (name, d) :: ds, _, _, h => by
    obtain ⟨⟨schema, d'⟩, hd, h⟩ := except_bind_ok h
    obtain ⟨⟨rest, rest'⟩, hrest, h⟩ := except_bind_ok h
    cases h
    exact .cons ⟨rfl, schema, d', rfl, hd⟩ (exportEntries_each hrest)

section

variable {ds es : Entries Validator}

/-- The properties of a call in another order. -/
theorem exportEntries_parallel (h : Entries.Reordered Validator.Parallel ds es)
    {ds' es' : Entries Validator} {schemas schemas' : Entries Value}
    (hds : exportEntries ds = .ok (schemas, ds')) (hes : exportEntries es = .ok (schemas', es')) :
    Entries.Reordered Value.Reordered schemas schemas' := by
  refine h.transport (exportEntries_each hds) (exportEntries_each hes) ?_
    fun hkeyed hws => hkeyed.of_keys (keys_of_sameKey hws)
  rintro ⟨k, d⟩ ⟨l, e⟩ ⟨k', v⟩ ⟨l', w⟩ ⟨hkey, hde⟩ ⟨hk, schema, _, hv, hd⟩ ⟨hl, schema', _, hw, he⟩
  refine ⟨hl.trans (hkey.trans hk.symm), ?_⟩
  obtain rfl : v = .mapping schema := hv
  obtain rfl : w = .mapping schema' := hw
  exact (Validator.export_parallel hde _ _ hd he).1.reordered

/-- The names of required fields are sorted, so that they are the same in any order. -/
theorem requiredFields_eq_of_parallel (h : Entries.Reordered Validator.Parallel ds es) :
    requiredFields ds = requiredFields es := by
  obtain ⟨mid, hmid, hshuffled⟩ := h
  have hdemands : demands ds = demands mid := by
    clear hshuffled
    induction hmid with
    | nil => rfl
    | cons he _ ih => exact congrArg₂ List.cons (Prod.ext he.1.symm he.2.required) ih
  rw [requiredFields_congr hdemands]
  cases hshuffled with
  | same => rfl
  | swapped hkeyed hperm =>
    rw [requiredFields, requiredFields, Value.sortKeys_perm (hkeyed.filter _) (hperm.filter _)]

theorem fieldsSchema_parallel {properties properties' : Entries Value}
    (h : Entries.Reordered Value.Reordered properties properties') (required : List Value)
    (mode : UnknownKeys) :
    (fieldsSchema properties required mode).Parallel (fieldsSchema properties' required mode) := by
  refine forall₂_append (forall₂_append (forall₂_append (parallel_refl _) ?_) ?_) ?_
  · exact parallel_keyword _ (.of_entries h)
  · exact parallel_refl _
  · exact parallel_refl _

theorem wrappedSchema_parallel {s t : Schema} (h : s.Parallel t) (required : Bool) :
    (wrappedSchema s required).Parallel (wrappedSchema t required) := by
  refine forall₂_append (forall₂_append (forall₂_append (parallel_refl _) ?_) ?_) ?_
  · exact parallel_keyword _ (parallel_keyword _ h.reordered).reordered
  · exact parallel_refl _
  · exact parallel_refl _

theorem isObject_eq {s t : Schema} (h : s.Parallel t) : s.isObject = t.isObject := by
  have htype := h.at? "type"
  rw [Schema.isObject, Schema.isObject]
  generalize s.at? "type" = x at htype ⊢
  generalize t.at? "type" = y at htype ⊢
  cases htype with
  | none => rfl
  | some hvw => exact hvw.equals_left _

end

/-! ### Calls -/

section

variable {s s' : Signature}

/-- **The schemas of a call** of two such signatures. -/
theorem inputSchema_parallel (h : s.Parallel s') :
    ResultsAgree (fun p q => p.1.Parallel q.1) s.inputSchema s'.inputSchema := by
  obtain ⟨body, strictness, failures⟩ := s
  obtain ⟨body', strictness', failures'⟩ := s'
  obtain ⟨hcomplete, hcomplete', hstrictness, hbody⟩ := h
  obtain rfl : strictness = strictness' := hstrictness
  rintro ⟨schema, s₁⟩ ⟨schema', s₁'⟩ hs hs'
  cases hbody with
  | whole hde =>
    obtain ⟨_, d₁, schema₂, d₂, hd₁, hd₂, rfl, -⟩ :=
      (Signature.inputSchema_whole_iff hcomplete).mp hs
    obtain ⟨_, e₁, schema₂', e₂, he₁, he₂, rfl, -⟩ :=
      (Signature.inputSchema_whole_iff hcomplete').mp hs'
    obtain ⟨-, hde₁⟩ := Validator.export_parallel hde _ _ hd₁ he₁
    obtain ⟨hschema, -⟩ := Validator.export_parallel hde₁ _ _ hd₂ he₂
    dsimp only
    rw [isObject_eq hschema, hde₁.required]
    split
    · exact hschema
    · exact wrappedSchema_parallel hschema _
  | fields hds =>
    rw [Signature.inputSchema_fields] at hs hs'
    obtain ⟨schemas, ds', required, hexport, hrequired, rfl, -⟩ :=
      (Signature.schema_fields_iff hcomplete).mp hs
    obtain ⟨schemas', es', required', hexport', hrequired', rfl, -⟩ :=
      (Signature.schema_fields_iff hcomplete').mp hs'
    rw [requiredFields_eq_of_parallel hds] at hrequired
    cases hrequired.symm.trans hrequired'
    exact fieldsSchema_parallel (exportEntries_parallel hds hexport hexport') _ _

/-- What is compiled from a document can be shown. -/
theorem shown_of_compile {k : Compiler} (hk : k.treatments = Treatments.usual)
    {es : Entries Value} (hes : es.HoldsJson) {inherited? : Option Strictness} {t u : Tally}
    (hs : k.compile (.mapping (RuleSource.ofEntries es)) inherited? t = (.ok s, u)) :
    s.body.Shown := by
  have hsound := Compiler.compile_sound hk hes inherited? t
  have houtcome : outcome (k.compile (.mapping (RuleSource.ofEntries es)) inherited?) t = .ok s :=
    congrArg Prod.fst hs
  rw [houtcome] at hsound
  cases hsound with
  | result hbody => exact hbody.shown

/-- **The descriptions of an operation** with either of two such signatures. -/
theorem describeTool_eq (h : s.Parallel s') (hbody : s.body.Shown) (hbody' : s'.body.Shown)
    (name title description : Value) :
    describeTool s name title description = describeTool s' name title description := by
  obtain ⟨schema, s₁, hschema, -⟩ := Signature.inputSchema_json hbody h.complete
  obtain ⟨schema', s₁', hschema', -⟩ := Signature.inputSchema_json hbody' h.complete'
  have hsorted := (inputSchema_parallel h _ _ hschema hschema').reordered.sortDeep
  simp only [describeTool, hschema, hschema', hsorted]

end

end RuleSchema
