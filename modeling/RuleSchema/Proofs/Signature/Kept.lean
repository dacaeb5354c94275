import RuleSchema.Proofs.Signature.Uses

/-!
# What the uses of a signature keep

An export may add to the conjunctions inside a signature, but to nothing else.  The validators
run as before, every other keyword of a schema stays what it was, and so does the answer to
whether the argument of a call is wrapped.

* `Validator.export_runs`: an exported validator runs as before.
* `joinFragments_at?`: a keyword other than the conjunction is the first of its name.
* `Validator.Exportable`: a validator can be exported any number of times.
* `Signature.Lasting.asked`: **asking whether the argument is wrapped changes no call**.
-/

namespace RuleSchema

open Eval Schema

/-! ### The keywords of a joint schema -/

section

variable {n : String} {fs gs : List Schema} {s s' : Schema}

theorem Joining.keywords_at? {i : Nat} (hn : n ≠ "allOf") : ∀ {f : Schema} {j j' : Joining},
    f.foldlM (fun j e => j.keyword i e.1 e.2) j = .ok j' →
      Entries.at? j'.schema n = (Entries.at? j.schema n).or (Entries.at? f n) := by
  intro f
  induction f with
  | nil =>
    intro j j' h
    cases h
    rw [at?_nil, Option.or_none]
  | cons e f ih =>
    intro j j' h
    rw [List.foldlM_cons] at h
    cases hm : mergeKeyword j.schema e.1 e.2 with
    | error e => rw [Joining.keyword, hm] at h; cases h
    | ok s =>
      rw [Joining.keyword, hm] at h
      rw [ih h, mergeKeyword_at? hn hm, Option.or_assoc, ← at?_append]
      rfl

theorem Joining.fragments_at? (hn : n ≠ "allOf") : ∀ {fs : List Schema} {i : Nat}
    {j j' : Joining}, Joining.fragments i j fs = .ok j' →
      Entries.at? j'.schema n = (Entries.at? j.schema n).or (Entries.at? fs.flatten n) := by
  intro fs
  induction fs with
  | nil =>
    intro i j j' h
    cases h
    rw [List.flatten_nil, at?_nil, Option.or_none]
  | cons f fs ih =>
    intro i j j' h
    rw [Joining.fragments] at h
    cases hf : f.foldlM (fun j e => j.keyword i e.1 e.2) j with
    | error e => rw [hf] at h; cases h
    | ok j₁ =>
      rw [hf] at h
      rw [ih h, Joining.keywords_at? hn hf, Option.or_assoc, List.flatten_cons, at?_append]

/-- What a joining gives back: the fragments, one of them with another conjunction. -/
theorem joinFragments_ok (h : joinFragments fs = .ok (s, gs)) :
    (∃ sharer?, Joining.fragments 0 ⟨[], none⟩ fs = .ok ⟨s, sharer?⟩) ∧
      (gs = fs ∨ ∃ m v, gs = fs.modify m fun f => Entries.put f (.text "allOf") v) := by
  obtain ⟨⟨schema, sharer?⟩, hj, h⟩ := except_bind_ok h
  dsimp only at h
  split at h
  · cases h
    exact ⟨⟨_, hj⟩, .inr ⟨_, _, rfl⟩⟩
  · cases h
    exact ⟨⟨_, hj⟩, .inl rfl⟩

/-- **A keyword other than the conjunction** is the first of its name, and the fragments have it
afterwards as they had it before. -/
theorem joinFragments_at? (hn : n ≠ "allOf") (h : joinFragments fs = .ok (s, gs)) :
    Entries.at? s n = Entries.at? fs.flatten n ∧
      Entries.at? gs.flatten n = Entries.at? fs.flatten n := by
  obtain ⟨⟨sharer?, hj⟩, hgs⟩ := joinFragments_ok h
  refine ⟨by rw [Joining.fragments_at? hn hj, at?_nil, Option.none_or], ?_⟩
  rcases hgs with rfl | ⟨m, v, rfl⟩
  · rfl
  · clear h hj
    induction fs generalizing m with
    | nil => rw [List.modify_nil]
    | cons f fs ih =>
      cases m with
      | zero =>
        rw [List.modify_zero_cons, List.flatten_cons, List.flatten_cons, at?_append, at?_append,
          at?_put_of_ne (Ne.symm hn)]
      | succ m =>
        rw [List.modify_succ_cons, List.flatten_cons, List.flatten_cons, at?_append, at?_append,
          ih]

end

/-! ### Validators -/

namespace Validator

variable {d d' d'' : Validator} {s s' : Schema}

/-- An export joins the fragments. -/
theorem export_ok (h : d.export = .ok (s, d')) :
    ∃ joint fs, joinFragments d.fragments = .ok (joint, fs) ∧ s = d.describe joint ∧
      d' = d.withFragments fs := by
  obtain ⟨⟨joint, fs⟩, hjoin, h⟩ := except_bind_ok h
  cases h
  exact ⟨joint, fs, hjoin, rfl, rfl⟩

theorem runStages_withFragments {tag : Tag} : ∀ {stages : List Stage} {fs : List Schema},
    fs.length = stages.length →
      runStages tag (List.zipWith (fun s schema => { s with schema }) stages fs)
        = runStages tag stages := by
  intro stages
  induction stages with
  | nil => intro fs _; rfl
  | cons s stages ih =>
    intro fs h
    cases fs with
    | nil => cases h
    | cons f fs =>
      funext v
      rw [List.zipWith_cons_cons, runStages, runStages, ih (Nat.succ.inj h)]

/-- **An exported validator runs as before.** -/
theorem export_runs (h : d.export = .ok (s, d')) : d'.validate = d.validate := by
  obtain ⟨joint, fs, hjoin, -, rfl⟩ := export_ok h
  refine runStages_withFragments ?_
  rw [joinFragments_length hjoin, fragments, List.length_map]

/-- Whether a schema is one of objects alone is the same after an export. -/
theorem export_isObject (h : d.export = .ok (s, d')) (h' : d'.export = .ok (s', d'')) :
    s'.isObject = s.isObject := by
  obtain ⟨joint, fs, hjoin, rfl, rfl⟩ := export_ok h
  obtain ⟨joint', fs', hjoin', rfl, -⟩ := export_ok h'
  rw [fragments_withFragments (joinFragments_length hjoin)] at hjoin'
  have htype : Entries.at? joint' "type" = Entries.at? joint "type" := by
    rw [(joinFragments_at? (by decide) hjoin').1, (joinFragments_at? (by decide) hjoin).2,
      (joinFragments_at? (by decide) hjoin).1]
  rw [Schema.isObject, Schema.isObject, at?_describe (by decide), at?_describe (by decide), htype]

/-- A validator can be exported any number of times. -/
def Exportable (d : Validator) : Prop := ∀ n, ∃ schemas e, d.exports n = .ok (schemas, e)

/-- After an export it still can. -/
theorem Exportable.export_ok (h : d.Exportable) :
    ∃ s d', d.export = .ok (s, d') ∧ d'.Exportable := by
  obtain ⟨_, _, hone⟩ := h 1
  obtain ⟨⟨s, d'⟩, hexport, -⟩ := except_bind_ok hone
  refine ⟨s, d', hexport, fun n => ?_⟩
  obtain ⟨_, _, hmore⟩ := h (n + 1)
  obtain ⟨p, hp, hmore⟩ := except_bind_ok hmore
  cases hexport.symm.trans hp
  obtain ⟨⟨schemas, e⟩, hrest, -⟩ := except_bind_ok hmore
  exact ⟨schemas, e, hrest⟩

end Validator

/-- The validator of a rule can be exported any number of times. -/
theorem Rule.CompilesTo.exportable {r : Rule} {ctx : Strictness} {d : Validator}
    (h : r.CompilesTo ctx d) : d.Exportable := by
  intro n
  cases hr : r.growsOnExport with
  | false =>
    obtain ⟨schema, hpure⟩ := h.exports_purely hr
    exact ⟨_, _, hpure.again n⟩
  | true =>
    obtain ⟨_, _, hgrow⟩ := h.exports_grow hr
    obtain ⟨schemas, e, hexports, -⟩ := hgrow.again n
    exact ⟨schemas, e, hexports⟩

/-! ### Signatures -/

namespace Signature

variable {s s' : Signature}

/-- A complete signature whose argument as a whole can be asked for its schema again and again. -/
structure Lasting (s : Signature) : Prop where
  complete : s.isComplete = true
  whole : ∀ d, s.body = .whole d → d.Exportable

/-- What a use leaves of a whole argument. -/
inductive Exported (s : Signature) : Signature → Prop
  | whole {d d' : Validator} {schema : Schema} : s.body = .whole d →
      d.export = .ok (schema, d') → Exported s { s with body := .whole d' }
  | other : (∀ d, s.body ≠ .whole d) → Exported s s

/-- **A lasting signature can be asked** whether its argument is wrapped. -/
theorem Lasting.wraps_ok (h : s.Lasting) :
    ∃ b, s.wraps = .ok (b, s.asked) ∧ s.Exported s.asked := by
  obtain ⟨body, strictness, failures⟩ := s
  cases body with
  | whole d =>
    obtain ⟨schema, d', hexport, -⟩ := (h.whole d rfl).export_ok
    have hwraps : Signature.wraps ⟨.whole d, strictness, failures⟩
        = .ok (!schema.isObject, ⟨.whole d', strictness, failures⟩) :=
      wraps_whole_iff.mpr ⟨schema, d', hexport, rfl, rfl⟩
    have hasked : Signature.asked ⟨.whole d, strictness, failures⟩
        = ⟨.whole d', strictness, failures⟩ := by
      rw [Signature.asked, hwraps]
    rw [hasked]
    exact ⟨_, hwraps, .whole rfl hexport⟩
  | fields ds => exact ⟨false, rfl, .other fun _ h => nomatch h⟩
  | brokenWhole => exact ⟨false, rfl, .other fun _ h => nomatch h⟩

theorem Exported.lasting (h : s.Lasting) (he : s.Exported s') : s'.Lasting := by
  cases he with
  | other => exact h
  | whole hbody hexport =>
    refine ⟨h.complete, fun d' hd' => ?_⟩
    obtain ⟨schema, d₁, hexport₁, hd₁⟩ := (h.whole _ hbody).export_ok
    cases hexport.symm.trans hexport₁
    cases hd'
    exact hd₁

theorem Exported.validate (he : s.Exported s') : s'.validate = s.validate := by
  cases he with
  | other => rfl
  | whole hbody hexport =>
    funext payload
    rw [Signature.validate, Signature.validate, hbody]
    dsimp only
    rw [Validator.export_runs hexport]
    rfl

/-- The answer whether the argument is wrapped stays. -/
theorem Exported.wraps {b b' : Bool} {s₁ s₂ : Signature} (he : s.Exported s')
    (h : s.wraps = .ok (b, s₁)) (h' : s'.wraps = .ok (b', s₂)) : b' = b := by
  cases he with
  | other =>
    cases h.symm.trans h'
    rfl
  | @whole d d' schema hbody hexport =>
    obtain ⟨body, strictness, failures⟩ := s
    obtain rfl : body = .whole d := hbody
    obtain ⟨_, d₁, hd₁, rfl, -⟩ := wraps_whole_iff.mp h
    cases hexport.symm.trans hd₁
    obtain ⟨schema', d₂, hd₂, rfl, -⟩ := wraps_whole_iff.mp h'
    rw [Validator.export_isObject hexport hd₂]

/-- **Asking whether the argument is wrapped changes no call.** -/
theorem Lasting.asked (h : s.Lasting) :
    s.asked.Lasting ∧ ∀ arguments, s.asked.validateCall arguments = s.validateCall arguments := by
  obtain ⟨b, hwraps, hexported⟩ := h.wraps_ok
  have hlasting := hexported.lasting h
  obtain ⟨b', hwraps', -⟩ := hlasting.wraps_ok
  obtain rfl := hexported.wraps hwraps hwraps'
  refine ⟨hlasting, fun arguments => ?_⟩
  rw [validateCall, validateCall, hwraps, hwraps', hexported.validate]
  cases b' <;> rfl

/-! ### Descriptions -/

/-- The schema of a call leaves behind what two exports leave of the validator of a whole argument,
and else some validators of fields. -/
theorem inputSchema_leaves {schema : Schema} (h : s.inputSchema = .ok (schema, s')) :
    (∃ d schema₁ d₁ schema₂ d₂, s.body = .whole d ∧ d.export = .ok (schema₁, d₁) ∧
      d₁.export = .ok (schema₂, d₂) ∧ s' = { s with body := .whole d₂ }) ∨
    ∃ ds, s' = { s with body := .fields ds } := by
  have hcomplete : s.isComplete = true := by
    obtain ⟨_, hschema, -⟩ := except_bind_ok h
    exact isComplete_of_schema_ok hschema
  have hfields : ∀ ds {strictness failures}, failures.isEmpty = true →
      Signature.inputSchema ⟨.fields ds, strictness, failures⟩ = .ok (schema, s') →
        ∃ ds', s' = ⟨.fields ds', strictness, failures⟩ := by
    intro ds strictness failures hcomplete h
    obtain ⟨_, ds', _, -, -, -, hs'⟩ :=
      (schema_fields_iff hcomplete).mp (inputSchema_fields.symm.trans h)
    exact ⟨ds', hs'⟩
  obtain ⟨body, strictness, failures⟩ := s
  cases body with
  | whole d =>
    obtain ⟨schema₁, d₁, schema₂, d₂, h₁, h₂, -, rfl⟩ := (inputSchema_whole_iff hcomplete).mp h
    exact .inl ⟨d, schema₁, d₁, schema₂, d₂, rfl, h₁, h₂, rfl⟩
  | fields ds => exact .inr (hfields ds hcomplete h)
  | brokenWhole => exact .inr (hfields [] hcomplete h)

/-- A description leaves the failures alone. -/
theorem described_isComplete (s : Signature) : s.described.isComplete = s.isComplete := by
  rw [described]
  cases h : s.inputSchema with
  | error e => rfl
  | ok p =>
    obtain ⟨d, _, _, _, _, -, -, -, hs'⟩ | ⟨ds, hs'⟩ := inputSchema_leaves h <;>
      · dsimp only
        rw [hs']
        rfl

/-- A signature lasts when it has been described. -/
theorem Lasting.described (h : s.Lasting) : s.described.Lasting := by
  refine ⟨(described_isComplete s).trans h.complete, fun d hd => ?_⟩
  rw [Signature.described] at hd
  cases hinput : s.inputSchema with
  | error e => rw [hinput] at hd; exact h.whole d hd
  | ok p =>
    rw [hinput] at hd
    obtain ⟨d₀, _, d₁, _, d₂, hbody, h₁, h₂, hs'⟩ | ⟨ds, hs'⟩ := inputSchema_leaves hinput
    · obtain ⟨_, _, hexport₁, hd₁⟩ := (h.whole d₀ hbody).export_ok
      cases hexport₁.symm.trans h₁
      obtain ⟨_, _, hexport₂, hd₂⟩ := hd₁.export_ok
      cases hexport₂.symm.trans h₂
      dsimp only at hd
      rw [hs'] at hd
      cases hd
      exact hd₂
    · dsimp only at hd
      rw [hs'] at hd
      cases hd

end Signature

/-- A complete signature that has been compiled lasts. -/
theorem compile_lasting {k : Compiler} {source : RuleSource} {inherited? : Option Strictness}
    {t u : Tally} {s : Signature} (hk : k.treatments = Treatments.usual)
    (h : k.compile source inherited? t = (.ok s, u)) (hs : s.isComplete = true) : s.Lasting := by
  refine ⟨hs, fun d hd => ?_⟩
  cases source with
  | mapping rules =>
    obtain ⟨-, -, -, hbody⟩ := Compiler.compile_ok hk h hs
    rw [hd] at hbody
    cases hbody with
    | whole _ hd =>
      obtain ⟨r, -, hd⟩ := hd
      exact hd.exportable
  | _ => exact absurd h reject_ok

end RuleSchema
