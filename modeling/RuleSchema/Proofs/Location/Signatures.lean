import RuleSchema.Proofs.Location.Rules
import RuleSchema.Proofs.Signature.Required

/-!
# The place of a rejected payload

A signature rejects a payload at a place.  The place can be walked in the payload, up to its last
key, which is missing there just if the value under it is required; and walking it down the rules of
the operation leads to the rule that rejects what is there.  Fields are validated in the order of
their declaration, so that all fields before the rejected one have accepted their values.

* `Compiler.Leads` is the walk down the rules of an operation.
* `Signature.fields_rejected`: what a signature of fields rejects.
* `rejection_located`: **the reported place is right**.
-/

namespace RuleSchema

open Eval

/-- The walk down the rules of an operation and a payload: down the rule of the payload as a whole,
or down the rule of a field, before which all fields have accepted their values. -/
inductive Compiler.Leads (rules : Entries RuleSource) (ctx : Strictness) :
    Value → Path → Rule → Strictness → Value → Prop
  | whole {r : Rule} {payload : Value} {path : Path} {q : Rule} {ctx' : Strictness} {y : Value} :
      Compiler.meansWhole rules = true →
      (RuleSource.mapping (Compiler.ruleEntries rules)).Means "$" r →
      r.Leads ctx payload path q ctx' y → Leads rules ctx payload path q ctx' y
  | field {before after : Entries RuleSource} {name : Value} {source : RuleSource} {r : Rule}
      {es : Entries Value} {path : Path} {q : Rule} {ctx' : Strictness} {y : Value} :
      Compiler.meansWhole rules = false →
      Compiler.ruleEntries rules = before ++ (name, source) :: after →
      (∀ p ∈ before, ∃ d w, p.2.CompilesTo (fieldPath p.1) ctx d ∧
        d.Gives ((es.find? p.1).getD .absent) w) →
      source.Means (fieldPath name) r →
      r.Leads ctx ((es.find? name).getD .absent) path q ctx' y →
      Leads rules ctx (.mapping es) (name :: path) q ctx' y

section

variable {k : Compiler} {rules : Entries RuleSource} {ctx ctx' : Strictness} {payload y : Value}
  {path : Path} {q : Rule} {s : Signature} {ds : Entries Validator} {e : PayloadError}
  {inherited? : Option Strictness} {t u t' u' : Tally}

/-- **What the walk finds** is at its place. -/
theorem Compiler.Leads.hasAt (h : Compiler.Leads rules ctx payload path q ctx' y)
    (hpayload : payload.IsDocument) : payload.HasAt path y := by
  cases h with
  | whole _ _ hleads => exact hleads.hasAt hpayload
  | @field before after name source r es path _ _ _ _ _ _ _ hleads =>
    cases hfind : es.find? name with
    | none =>
      rw [hfind] at hleads
      obtain ⟨rfl, rfl⟩ := hleads.of_absent
      exact .missing hfind
    | some x =>
      rw [hfind] at hleads
      obtain ⟨l, hl⟩ := Value.mem_of_find? hfind
      exact .part hfind (hleads.hasAt (hpayload.content hl))

/-! ### Rejected payloads -/

/-- **A signature of fields** rejects a payload for itself, or for its first field that is
rejected. -/
theorem Signature.fields_rejected (hs : s.isComplete = true) (hbody : s.body = .fields ds)
    (hpayload : payload.IsDocument)
    (h : s.validate payload t = (.error (.rejected (.rejected e)), u)) :
    e.IsOf payload ∨ ∃ (es : Entries Value) (before : Entries Validator) (name : Value)
        (d : Validator) (after : Entries Validator) (e' : PayloadError), payload = .mapping es ∧
      ds = before ++ (name, d) :: after ∧
      (∀ g ∈ before, ∃ w, g.2.Gives ((es.find? g.1).getD .absent) w) ∧
      d.Rejects ((es.find? name).getD .absent) e' ∧ e = e'.under name := by
  rw [Signature.validate, if_pos hs, hbody] at h
  obtain ⟨e', h, heq⟩ := mapReason_rejected h
  cases heq
  cases payload with
  | mapping es =>
    rcases bind_rejected h with h | ⟨_, _, -, h⟩
    · obtain ⟨f, hf, rfl⟩ := mapReason_rejected h
      rw [Signature.validators, hbody] at hf
      rcases validateProperties_rejected hf with hown | ⟨_, _, hdeclared⟩
      · cases hown with
        | failure hcheck hdetails =>
          exact .inl ⟨rfl, by simpa [Signature.rejectedPayload, Value.isAbsent] using hcheck,
            hdetails⟩
      · obtain ⟨before, name, d, after, e', rfl, hbefore, he, rfl⟩ :=
          validateDeclared_rejected hdeclared
        exact .inr ⟨es, before, name, d, after, e', rfl, rfl, hbefore, he, rfl⟩
    · exact absurd h pure_rejected
  | absent => cases hpayload
  | _ =>
    rw [reject_rejected h]
    exact .inl ⟨rfl, by simp [Value.isAbsent], fun _ h => absurd h List.not_mem_nil⟩

/-- A rejected payload is rejected for itself by a signature of fields, or else the walk by the keys
of its place leads to the reason. -/
theorem Signature.rejection_explained (hk : k.treatments = Treatments.usual)
    (hbare : ∀ r, IsTop rules r → ∀ q ∈ r.nodes, q.isBare = true)
    (h : k.compile (.mapping rules) inherited? t = (.ok s, u)) (hs : s.isComplete = true)
    (hpayload : payload.IsDocument)
    (hrejected : s.validate payload t' = (.error (.rejected (.rejected e)), u')) :
    (Compiler.meansWhole rules = false ∧ e.IsOf payload) ∨
      ∃ q ctx' y d', Compiler.Leads rules s.strictness payload e.path q ctx' y ∧
        q.CompilesTo ctx' d' ∧ d'.validate y = .reject { e with path := [] } ∧
        PayloadError.IsOf { e with path := [] } y := by
  obtain ⟨-, -, -, hmade⟩ := Compiler.compile_ok hk h hs
  cases hbody : s.body with
  | brokenWhole => rw [hbody] at hmade; cases hmade
  | whole d =>
    rw [hbody] at hmade
    cases hmade with
    | whole hwhole hd =>
      obtain ⟨r, hr, hd⟩ := hd
      rw [Signature.validate, if_pos hs, hbody] at hrejected
      obtain ⟨e', he, heq⟩ := mapReason_rejected hrejected
      cases heq
      have hexplained := r.isExplained (hbare r (.whole hwhole hr)) _ d hd
      obtain ⟨q, ctx', y, d', hleads, hd', hv, hof⟩ := hexplained.2 _ _ hpayload ⟨_, _, he⟩
      exact .inr ⟨q, ctx', y, d', .whole hwhole hr hleads, hd', hv, hof⟩
  | fields ds =>
    rw [hbody] at hmade
    cases hmade with
    | fields hfields hds =>
      rcases Signature.fields_rejected hs hbody hpayload hrejected with hof | hpart
      · exact .inl ⟨hfields, hof⟩
      obtain ⟨es, before, name, d, after, e, rfl, rfl, hgives, he, rfl⟩ := hpart
      obtain ⟨entriesBefore, ⟨name', source⟩, entriesAfter, hentries, hbefore, hname, r, hr, hd⟩ :=
        forall₂_around hds
      obtain rfl : name = name' := hname
      have hmem : (name, source) ∈ Compiler.ruleEntries rules := by
        rw [hentries]
        exact List.mem_append_right _ List.mem_cons_self
      have haccepts : ∀ p ∈ entriesBefore, ∃ d w,
          p.2.CompilesTo (fieldPath p.1) s.strictness d ∧
            d.Gives ((es.find? p.1).getD .absent) w := by
        intro p hp
        obtain ⟨g, hg, hkey, hcompiles⟩ := exists_of_mem_left hbefore hp
        obtain ⟨w, hw⟩ := hgives g hg
        rw [hkey] at hw
        exact ⟨g.2, w, hcompiles, hw⟩
      have htop := hbare r (.field hfields hmem hr)
      have hreason : r.Explains s.strictness ((es.find? name).getD .absent) e := by
        cases hfind : es.find? name with
        | none =>
          rw [hfind] at he
          exact hd.explains_absent htop he
        | some x =>
          rw [hfind] at he
          obtain ⟨l, hl⟩ := Value.mem_of_find? hfind
          exact (r.isExplained htop _ d hd).2 x e (hpayload.content hl) he
      obtain ⟨q, ctx', y, d', hleads, hd', hv, hof⟩ := hreason
      have hplain : ∀ entry ∈ e.extra, PayloadError.isOwnKey entry.1 = false := hof.plain
      rw [PayloadError.under_of_plain hplain]
      exact .inr ⟨q, ctx', y, d', .field hfields hentries haccepts hr hleads, hd', hv, hof⟩

/-- **The reported place is right.**  For rules without defaults and without arrays that convert, a
rejected document is rejected at a place that it has: every step but the last succeeds, and the last
one does unless the value there is required, and then its mapping has no such key.  The rule that
is reached along the place, compiled under the policy in force there, rejects what is there in the
same words for itself, and what comes before is accepted.  Only what a signature of fields says
about the payload itself is not said by a rule. -/
theorem rejection_located (hk : k.treatments = Treatments.usual)
    (hbare : ∀ r, IsTop rules r → ∀ q ∈ r.nodes, q.isBare = true)
    (h : k.compile (.mapping rules) inherited? t = (.ok s, u)) (hs : s.isComplete = true)
    (hpayload : payload.IsDocument)
    (hrejected : s.validate payload t' = (.error (.rejected (.rejected e)), u')) :
    e.details.at? "path" = some (.text (formatPath e.path)) ∧
      (∀ init l, e.path = init ++ [l] → ∃ x, payload.resolve? init = some x ∧
        if e.check = some "required" then ∃ es : Entries Value, x = .mapping es ∧ es.find? l = none
        else (x.part? l).isSome = true) ∧
      (Compiler.meansWhole rules = false ∧ e.path = [] ∨
        ∃ declared?, Compiler.declaredStrictness rules = .ok declared? ∧ ∃ q ctx' y d',
          Compiler.Leads rules ((inherited?.getD k.strictness).override declared?) payload e.path
            q ctx' y ∧
          payload.HasAt e.path y ∧ q.CompilesTo ctx' d' ∧
          d'.validate y = .reject { e with path := [] }) := by
  obtain ⟨declared?, hdeclared, hstrictness, -⟩ := Compiler.compile_ok hk h hs
  rcases Signature.rejection_explained hk hbare h hs hpayload hrejected with
    ⟨hfields, hof⟩ | hreason
  · refine ⟨PayloadError.details_path hof.plain, fun init l hpath => ?_, .inl ⟨hfields, hof.here⟩⟩
    rw [hof.here] at hpath
    exact absurd hpath (by simp)
  · obtain ⟨q, ctx', y, d', hleads, hd', hv, hof⟩ := hreason
    have hat := hleads.hasAt hpayload
    refine ⟨PayloadError.details_path hof.plain, fun init l hpath => ?_, .inr ?_⟩
    · obtain ⟨x, hx, hlast⟩ := hat.last hpayload hpath
      have hrequired : e.check = some "required" ↔ y.isAbsent = true := hof.required
      exact ⟨x, hx, by simpa only [hrequired] using hlast⟩
    · exact ⟨declared?, hdeclared, q, ctx', y, d', hstrictness ▸ hleads, hat, hd', hv⟩

end

/-- A value that is null, under a key of a record in the second slot of the second item of a
field. -/
theorem rejection_located_row :
    let rules : Entries RuleSource :=
      [(.text "first", .mapping [(.text "type", .text "boolean")]),
        (.text "rows", .mapping [(.text "type", .text "array"),
          (.text "items", .mapping [(.text "type", .text "tuple"),
            (.text "items", .list [.mapping [(.text "type", .text "boolean")],
              .mapping [(.text "type", .text "record"),
                (.text "key", .mapping [(.text "type", .text "string")]),
                (.text "value", .mapping [(.text "type", .text "boolean")])]])])])]
    let payload := Value.mapping
      [(.text "rows", .list [.list [.bool true, .mapping []],
        .list [.bool true, .mapping [(.text "on", .bool true), (.text "off", .null)]]]),
        (.text "first", .bool true)]
    let e : PayloadError :=
      { message := "Value must not be null", stage := some "shape", check := some "nullable"
        path := [.text "rows", .int 1, .int 1, .text "off"]
        extra := [(.text "rule_type", .text "boolean")] }
    ∃ s, Compiler.compile {} (.mapping rules) none [] = (.ok s, []) ∧
      s.validate payload [] = (.error (.rejected (.rejected e)), []) ∧
      (∃ x, payload.resolve? [.text "rows", .int 1, .int 1] = some x ∧
        (x.part? (.text "off")).isSome = true) ∧
      ∃ q ctx' y d', Compiler.Leads rules {} payload e.path q ctx' y ∧ q.CompilesTo ctx' d' ∧
        d'.validate y = .reject { e with path := [] } := by
  intro rules payload e
  obtain ⟨s, hs, hcomplete, he⟩ :
      ∃ s, Compiler.compile {} (.mapping rules) none [] = (.ok s, []) ∧ s.isComplete = true ∧
        s.validate payload [] = (.error (.rejected (.rejected e)), []) :=
    ⟨_, rfl, rfl, rfl⟩
  have hbare : ∀ r, IsTop rules r → ∀ q ∈ r.nodes, q.isBare = true := by
    rintro r (⟨hwhole, -⟩ | ⟨-, hmem, hr⟩)
    · cases hwhole
    · rcases List.mem_cons.mp hmem with hmem | hmem
      · obtain ⟨rfl, rfl⟩ := Prod.mk.inj hmem
        obtain rfl : Rule.boolean {} = r := Except.ok.inj hr
        exact List.forall_mem_singleton.mpr rfl
      · obtain ⟨rfl, rfl⟩ := Prod.mk.inj (List.mem_singleton.mp hmem)
        obtain rfl : Rule.array {} (.tuple {} [.boolean {}, .record {} (.string {} {})
          (.boolean {})]) {} = r := Except.ok.inj hr
        simp [Rule.nodes, Rule.nodesOfList, Rule.isBare, Rule.common]
  have hdocument : payload.IsDocument := by
    have hnone : (Value.mapping []).IsDocument :=
      .mapping ⟨by simp, .nil⟩ fun _ h => absurd h List.not_mem_nil
    have hsome : (Value.mapping [(.text "on", .bool true), (.text "off", .null)]).IsDocument :=
      .mapping (Entries.isKeyed_pair (by decide))
        (by simp [Value.IsDocument.bool, Value.IsDocument.null])
    have hrow : ∀ x : Value, x.IsDocument → (Value.list [.bool true, x]).IsDocument :=
      fun x hx => .list (by simp [hx, Value.IsDocument.bool])
    refine .mapping (Entries.isKeyed_pair (by decide)) (List.forall_mem_cons.mpr
      ⟨.list ?_, List.forall_mem_singleton.mpr (.bool true)⟩)
    exact List.forall_mem_cons.mpr ⟨hrow _ hnone, List.forall_mem_singleton.mpr (hrow _ hsome)⟩
  obtain ⟨-, hresolve, hreason⟩ := rejection_located rfl hbare hs hcomplete hdocument he
  obtain ⟨x, hx, hlast⟩ := hresolve [.text "rows", .int 1, .int 1] (.text "off") rfl
  rw [if_neg (by simp [e])] at hlast
  rcases hreason with ⟨-, hpath⟩ | ⟨declared?, hdeclared, q, ctx', y, d', hleads, -, hd', hv⟩
  · cases hpath
  · cases hdeclared
    exact ⟨s, hs, he, ⟨x, hx, hlast⟩, q, ctx', y, d', hleads, hd', hv⟩

end RuleSchema
