import RuleSchema.Proofs.Compile.Stages
import RuleSchema.Proofs.Order.Schemas

/-!
# Compiling with the keys in another order

Two rules that are the same but for the order of keys compile to validators with the same schema
but for that order.  The two compilations are compared run by run, whatever has been called before
either and wherever the rules stand; the only stages whose schemas differ are those that show
values, and those of objects, whose properties are compiled in another order.

* `Eval.Agree R`: whenever two evaluations give results, these correspond.
* `shapeStage_agree` and `checkStages_agree`: the stages of two rules.
* `scalarStages_agree`: the rules without rules inside.
* `compileRule_agree`: **the validators** of two rules.
-/

namespace RuleSchema

open Schema

/-! ### Two runs -/

namespace Eval

variable {ρ σ α β γ δ : Type} {R : α → β → Prop} {Q : γ → δ → Prop}

/-- Whenever two evaluations give results, these correspond, whatever has been called before. -/
def Agree (R : α → β → Prop) (x : Eval ρ α) (y : Eval σ β) : Prop :=
  ∀ ⦃t u t' u' a b⦄, x t = (.ok a, u) → y t' = (.ok b, u') → R a b

theorem Agree.intro {x : Eval ρ α} {y : Eval σ β}
    (h : ∀ {t u t' u' a b}, x t = (.ok a, u) → y t' = (.ok b, u') → R a b) : Agree R x y :=
  fun _ _ _ _ _ _ hx hy => h hx hy

theorem Agree.pure {a : α} {b : β} (h : R a b) :
    Agree R (Pure.pure a : Eval ρ α) (Pure.pure b : Eval σ β) := by
  intro t u t' u' a' b' ha hb
  rw [(pure_ok ha).1, (pure_ok hb).1]
  exact h

theorem Agree.bind {x : Eval ρ α} {y : Eval σ β} {f : α → Eval ρ γ} {g : β → Eval σ δ}
    (h : Agree R x y) (hfg : ∀ {a b}, R a b → Agree Q (f a) (g b)) :
    Agree Q (x >>= f) (y >>= g) := by
  intro t u t' u' c d hc hd
  obtain ⟨a, s, ha, hc⟩ := bind_ok hc
  obtain ⟨b, s', hb, hd⟩ := bind_ok hd
  exact hfg (h ha hb) hc hd

theorem Agree.ofFault {x : Except Fault α} {y : Except Fault β} (h : ResultsAgree R x y) :
    Agree R (Eval.ofFault x : Eval ρ α) (Eval.ofFault y : Eval σ β) :=
  .intro fun hx hy => h _ _ (ofFault_ok hx).1 (ofFault_ok hy).1

/-- Evaluations of which nothing is used but that they give results. -/
theorem Agree.any (x : Eval ρ α) (y : Eval σ β) : Agree (fun _ _ => True) x y :=
  .intro fun _ _ => trivial

end Eval

open Eval

/-! ### Stages -/

/-- Two stages with the same schema but for the order of keys. -/
def Stage.Parallel (s t : Stage) : Prop := s.schema.Parallel t.schema

theorem stages_refl (stages : List Stage) : List.Forall₂ Stage.Parallel stages stages :=
  List.forall₂_same.mpr fun s _ => parallel_refl s.schema

theorem checks_refl (checks : List Check) : List.Forall₂ Check.Parallel checks checks :=
  List.forall₂_same.mpr fun c _ => parallel_refl c.schema

/-- A schema is no choice between others. -/
theorem list_of_none {s : Schema} (h : s.at? "anyOf" = none) :
    ∀ v, s.at? "anyOf" = some v → ∃ xs, v = .list xs := by
  intro v hv
  rw [h] at hv
  cases hv

section

variable {r q : Rule} {path path' : String} {kind : StageKind} {name : String}

theorem ShapeOf.parallel (h : r.Reordered q) {shape shape' : Shape} {s t : Stage}
    (hs : ShapeOf r shape s) (ht : ShapeOf q shape' t)
    (hschema : shape.schema.Parallel shape'.schema)
    (hlist : ∀ v, shape.schema.at? "anyOf" = some v → ∃ xs, v = .list xs) : s.Parallel t :=
  shapeSchema_parallel h hschema hlist _ _ hs.schema ht.schema

theorem shapeStage_agree (h : r.Reordered q) {shape shape' : Shape}
    (hschema : shape.schema.Parallel shape'.schema)
    (hlist : ∀ v, shape.schema.at? "anyOf" = some v → ∃ xs, v = .list xs) :
    Agree Stage.Parallel (shapeStage r path shape) (shapeStage q path' shape') :=
  .intro fun hs ht => (shapeStage_ok hs).parallel h (shapeStage_ok ht) hschema hlist

theorem checkStages_agree {cs ds : List Check} (h : List.Forall₂ Check.Parallel cs ds) :
    Agree (List.Forall₂ Stage.Parallel) (checkStages kind name cs) (checkStages kind name ds) := by
  cases h with
  | nil => exact .pure .nil
  | cons hc hcs =>
    have hstage : ResultsAgree Stage.Parallel (Stage.ofChecks kind name (_ :: _))
        (Stage.ofChecks kind name (_ :: _)) :=
      (checksSchema_parallel (.cons hc hcs)).bind fun hschema => .ok hschema
    exact (Agree.ofFault hstage).bind fun hs => .pure (.cons hs .nil)

/-- Shapes with one schema, which is no choice between others, and the stages after them. -/
theorem shapeThen_agree (h : r.Reordered q) {shape shape' : Shape}
    (hschema : shape'.schema = shape.schema) (hnone : shape.schema.at? "anyOf" = none)
    {f g : Stage → Eval RuleError (List Stage)}
    (hfg : ∀ {s t}, s.Parallel t → Agree (List.Forall₂ Stage.Parallel) (f s) (g t)) :
    Agree (List.Forall₂ Stage.Parallel) (shapeStage r path shape >>= f)
      (shapeStage q path' shape' >>= g) := by
  refine (shapeStage_agree h ?_ (list_of_none hnone)).bind hfg
  rw [hschema]
  exact parallel_refl _

/-! ### Patterns -/

theorem compile_source {source letters path : String} {flags : PatternFlags} {p : Pattern}
    (h : Pattern.compile source flags letters path = .ok p) : p.source = source := by
  rw [Pattern.compile] at h
  split at h
  · cases h
  · split at h
    · next hp =>
      cases h
      obtain ⟨_, _, hp⟩ := except_bind_ok hp
      cases hp
      rfl
    · cases h
    · cases h

theorem compilePattern_agree (source : String) :
    Agree (fun p p' => p.source = p'.source) (compilePattern source path)
      (compilePattern source path') :=
  .intro fun hp hp' =>
    (compile_source (ofStop_ok hp).1).trans (compile_source (ofStop_ok hp').1).symm

theorem patternSpec_agree (spec : PatternSpec) (letters? : Option String) :
    Agree (fun p p' => p.source = p'.source) (spec.compile letters? path)
      (spec.compile letters? path') := by
  cases spec <;>
    exact .intro fun hp hp' =>
      (compile_source (ofStop_ok hp).1).trans (compile_source (ofStop_ok hp').1).symm

theorem currencyPattern_agree (o : CurrencyOptions) :
    Agree (fun p p' => p.1.source = p'.1.source) (o.pattern path) (o.pattern path') := by
  unfold CurrencyOptions.pattern
  cases o.customRegex? with
  | some spec => exact (patternSpec_agree spec none).bind fun hp => .pure hp
  | none => exact (compilePattern_agree _).bind fun hp => .pure hp

/-! ### Rules without rules inside -/

theorem patternOf_parallel {o : StringOptions} {cs ds : List Check} (hc : PatternOf o path cs)
    (hd : PatternOf o path' ds) : List.Forall₂ Check.Parallel cs ds := by
  cases hc with
  | none hnone =>
    cases hd with
    | none _ => exact .nil
    | some hsome _ => cases hnone.symm.trans hsome
  | some hsome hp =>
    cases hd with
    | none hnone => cases hnone.symm.trans hsome
    | some hsome' hp' =>
      cases hsome.symm.trans hsome'
      have hsource := patternSpec_agree _ _ hp hp'
      refine .cons ?_ .nil
      rw [Check.Parallel, matchesSomewhere, matchesSomewhere, hsource]
      exact parallel_refl _

theorem choicesOf_parallel {o : StringOptions} {cs ds : List Check} (hc : ChoicesOf o path cs)
    (hd : ChoicesOf o path' ds) : List.Forall₂ Check.Parallel cs ds := by
  cases hc with
  | none hnone =>
    cases hd with
    | none _ => exact .nil
    | some hsome _ => rcases hnone with hnone | hnone <;> cases hnone.symm.trans hsome
  | some hsome hp =>
    cases hd with
    | none hnone => rcases hnone with hnone | hnone <;> cases hnone.symm.trans hsome
    | some hsome' hp' =>
      cases hsome.symm.trans hsome'
      obtain ⟨_, _, _, hp⟩ := bind_ok hp
      obtain ⟨_, _, _, hp'⟩ := bind_ok hp'
      rw [(pure_ok hp).1, (pure_ok hp').1]
      exact .cons (parallel_refl _) .nil

theorem stringChecks_agree (o : StringOptions) :
    Agree (List.Forall₂ Check.Parallel) (o.checks path) (o.checks path') := by
  intro t u t' u' cs ds hcs hds
  obtain ⟨pattern, classes, choices, hpattern, hclasses, hchoices, rfl⟩ := stringChecks_ok hcs
  obtain ⟨pattern', classes', choices', hpattern', hclasses', hchoices', rfl⟩ :=
    stringChecks_ok hds
  have hclass : List.Forall₂ Check.Parallel classes classes' := by
    refine forall₂_transport (List.forall₂_same.mpr fun k _ => Eq.refl k) hclasses hclasses' ?_
    rintro k _ c d rfl ⟨_, _, hc⟩ ⟨_, _, hd⟩
    obtain ⟨_, _, _, hc⟩ := bind_ok hc
    obtain ⟨_, _, _, hd⟩ := bind_ok hd
    rw [(pure_ok hc).1, (pure_ok hd).1]
    exact parallel_refl _
  refine forall₂_append (forall₂_append (forall₂_append (forall₂_append ?_ ?_) ?_) hclass) ?_
  · exact checks_refl _
  · exact patternOf_parallel hpattern hpattern'
  · exact checks_refl _
  · exact choicesOf_parallel hchoices hchoices'

theorem formattedStages_agree (h : r.Reordered q) (empty? : Option Bool)
    (problem? : String → Option String) (format : String) :
    Agree (List.Forall₂ Stage.Parallel) (formattedStages r empty? problem? format path)
      (formattedStages q empty? problem? format path') := by
  refine shapeThen_agree h (by rfl) (by rfl) fun hs => ?_
  rw [h.tag_eq]
  exact (checkStages_agree (checks_refl _)).bind fun hss => .pure (.cons hs hss)

theorem enumStages_agree (h : r.Reordered q) {vs ws : List Value}
    (hvws : List.Forall₂ Value.Reordered vs ws) :
    Agree (List.Forall₂ Stage.Parallel) (enumStages r vs path) (enumStages q ws path') := by
  refine (Agree.ofFault (shownKeyword_parallel "enum" (.of_items hvws))).bind fun hschema => ?_
  refine shapeThen_agree h (by rfl) (by rfl) fun hs => ?_
  refine (checkStages_agree (.cons ?_ .nil)).bind fun hss => .pure (.cons hs hss)
  exact hschema

theorem equalStages_agree (h : r.Reordered q) {v w : Value} (hvw : v.Reordered w)
    (strict : Bool) :
    Agree (List.Forall₂ Stage.Parallel) (equalStages r v strict path)
      (equalStages q w strict path') := by
  refine (Agree.ofFault (shownKeyword_parallel "const" hvw)).bind fun hschema => ?_
  refine shapeThen_agree h (by rfl) (by rfl) fun hs => ?_
  refine (checkStages_agree (.cons ?_ .nil)).bind fun hss => .pure (.cons hs hss)
  exact hschema

/-- **The stages of a rule without rules inside**, with shared options that are the same but for
the order of keys in the default. -/
theorem simpleStages_agree {c : CommonOptions} (hr : r.tag.isComposite = false)
    (hc : r.common.Reordered c) :
    Agree (List.Forall₂ Stage.Parallel) (scalarStages r path)
      (scalarStages (r.withCommon c) path') := by
  have h : r.Reordered (r.withCommon c) := .simple hr hc
  have halone : ∀ {shape shape' : Shape}, shape'.schema = shape.schema →
      shape.schema.at? "anyOf" = none → Agree (List.Forall₂ Stage.Parallel)
        (shapeStage r path shape >>= fun s => pure [s])
        (shapeStage (r.withCommon c) path' shape' >>= fun s => pure [s]) :=
    fun hschema hnone => shapeThen_agree h hschema hnone fun hs => .pure (.cons hs .nil)
  have hchecked : ∀ {shape shape' : Shape} {kind : StageKind} {name : String} {cs ds : List Check},
      shape'.schema = shape.schema → shape.schema.at? "anyOf" = none →
      List.Forall₂ Check.Parallel cs ds → Agree (List.Forall₂ Stage.Parallel)
        (shapeStage r path shape >>= fun s => checkStages kind name cs >>= fun ss => pure (s :: ss))
        (shapeStage (r.withCommon c) path' shape' >>= fun s =>
          checkStages kind name ds >>= fun ss => pure (s :: ss)) :=
    fun hschema hnone hcs => shapeThen_agree h hschema hnone fun hs =>
      (checkStages_agree hcs).bind fun hss => .pure (.cons hs hss)
  cases r with
  | string _ o =>
    refine shapeThen_agree h (by rfl) (by rfl) fun hs => ?_
    refine (stringChecks_agree o).bind fun hchecks => (checkStages_agree hchecks).bind fun hss => ?_
    exact .pure (forall₂_append (forall₂_append (.cons hs (stages_refl _)) hss) (stages_refl _))
  | number _ o =>
    refine shapeThen_agree h (by rfl) (by rfl) fun hs => ?_
    refine (checkStages_agree (checks_refl _)).bind fun hss => ?_
    refine (checkStages_agree (checks_refl _)).bind fun hothers => ?_
    exact .pure (forall₂_append (.cons hs hss) hothers)
  | boolean _ => exact halone (by rfl) (by rfl)
  | date d =>
    have hconvert : d.convert = c.convert := hc.convert
    refine halone ?_ ?_
    · dsimp only [Rule.withCommon, Rule.common]
      rw [hconvert]
    · dsimp only [Rule.common, instantSchema]
      cases d.convert <;> rfl
  | any _ => exact halone (by rfl) (by rfl)
  | email _ o =>
    refine shapeThen_agree h (by rfl) (by rfl) fun hs => ?_
    refine (checkStages_agree (checks_refl _)).bind fun hss => ?_
    exact .pure (forall₂_append (.cons hs (stages_refl _)) hss)
  | currency _ o =>
    refine shapeThen_agree h (by rfl) (by rfl) fun hs => ?_
    refine (currencyPattern_agree o).bind fun {p p'} hp => ?_
    refine (checkStages_agree (.cons ?_ .nil)).bind fun hss => .pure (.cons hs hss)
    rw [Check.Parallel, hp]
    exact parallel_refl _
  | «class» _ k => exact halone (by rfl) (by rfl)
  | enum _ values => exact enumStages_agree h (List.forall₂_same.mpr fun v _ => .same v)
  | equal _ value strict => exact equalStages_agree h (.same value) strict
  | forbidden _ remove =>
    cases remove with
    | true => exact .pure (stages_refl _)
    | false =>
      exact (checkStages_agree (checks_refl _)).bind fun hss => .pure (.cons (parallel_refl _) hss)
  | function _ => exact halone (by rfl) (by rfl)
  | luhn _ => exact hchecked (by rfl) (by rfl) (checks_refl _)
  | mac _ =>
    refine (Agree.any _ _).bind fun _ => ?_
    exact hchecked (by rfl) (by rfl) (.cons (parallel_refl _) .nil)
  | url _ empty? => exact formattedStages_agree h _ _ _
  | uuid _ empty? => exact formattedStages_agree h _ _ _
  | objectId _ identity conversion =>
    change Agree _ (identityStages _ identity conversion path)
      (identityStages _ identity conversion path')
    unfold identityStages
    cases identity.identities? with
    | none => exact .intro fun hs => (reject_ok hs).elim
    | some k =>
      refine shapeThen_agree h (by rfl) (by rfl) fun hs => ?_
      refine (checkStages_agree (.cons (parallel_refl _) .nil)).bind fun hss => ?_
      exact .pure (forall₂_append (.cons hs hss) (stages_refl _))
  | array | object | multi | tuple | record => cases hr

end

/-! ### Rules with rules inside -/

theorem schemaValue_agree {d e : Validator} (h : d.Parallel e) :
    Agree Value.Reordered (d.schemaValue : Eval RuleError Value) e.schemaValue :=
  (Agree.ofFault (Validator.schema_parallel h)).bind fun hschema => .pure hschema.reordered

/-- The validators of properties, in some order. -/
abbrev PropsParallel : List (String × Validator) → List (String × Validator) → Prop :=
  Reordering DistinctNames (SameKey Validator.Parallel)

theorem requiredNames_eq {ds es : List (String × Validator)} (h : PropsParallel ds es) :
    requiredNames ds = requiredNames es := by
  obtain ⟨mid, hmid, hshuffled⟩ := h.filter (p := fun e => e.2.required)
    (q := fun e => e.2.required) (fun he => he.2.required) fun hnames =>
      (List.filter_sublist.map Prod.fst).nodup hnames
  rw [requiredNames, requiredNames, ← keys_of_sameKey hmid]
  exact sortTexts_congr (hshuffled.perm.map Prod.fst)

/-- The keys of entries that are made of named validators. -/
theorem keyed_of_names {ds : List (String × Validator)} {es : Entries Value}
    (hnames : DistinctNames ds) (h : List.Forall₂ (fun e p => p.1 = Value.text e.1 ∧
      ∃ schema, p.2 = .mapping schema ∧ e.2.schema = .ok schema) ds es) : es.IsKeyed := by
  have hkeys : es.keys = (ds.map Prod.fst).map Value.text := by
    clear hnames
    induction h with
    | nil => rfl
    | cons he _ ih => exact congrArg₂ List.cons he.1 ih
  refine ⟨fun p hp => ?_, ?_⟩
  · obtain ⟨e, _, he, _⟩ := exists_of_mem_right h hp
    exact ⟨e.1, he⟩
  · rw [hkeys]
    exact hnames.map fun _ _ => Value.text.inj

/-- The schema of an object whose properties stand in another order. -/
theorem objectSchema_agree {ds es : List (String × Validator)} (h : PropsParallel ds es)
    (mode : UnknownKeys) :
    Agree (fun s t => s.Parallel t ∧ s.at? "anyOf" = none) (objectSchema ds mode)
      (objectSchema es mode) := by
  refine .intro fun hs ht => ?_
  obtain ⟨properties, hproperties, rfl⟩ := objectSchema_ok hs
  obtain ⟨properties', hproperties', rfl⟩ := objectSchema_ok ht
  have hvalues : Entries.Reordered Value.Reordered properties properties' := by
    refine h.transport hproperties hproperties' ?_ fun hnames hws => keyed_of_names hnames hws
    rintro ⟨n, d⟩ ⟨m, e⟩ ⟨k, v⟩ ⟨l, w⟩ ⟨hname, hde⟩ ⟨hk, schema, hv, hschema⟩
      ⟨hl, schema', hw, hschema'⟩
    obtain rfl : m = n := hname
    obtain rfl : k = .text m := hk
    obtain rfl : l = .text m := hl
    obtain rfl : v = .mapping schema := hv
    obtain rfl : w = .mapping schema' := hw
    exact ⟨rfl, (Validator.schema_parallel hde _ _ hschema hschema').reordered⟩
  refine ⟨?_, propertiesSchema_named.at?_eq_none (by decide)⟩
  rw [propertiesSchema, propertiesSchema, requiredNames_eq h]
  refine forall₂_append (forall₂_append (forall₂_append (parallel_refl _) ?_) ?_) ?_
  · exact parallel_keyword _ (.of_entries hvalues)
  · exact parallel_refl _
  · exact parallel_refl _

section

variable {r q : Rule} {path path' : String} {d e : Validator}

theorem arrayStages_agree (h : r.Reordered q) {o p : ArrayOptions} (ho : o.Reordered p)
    (hde : d.Parallel e) :
    Agree (List.Forall₂ Stage.Parallel) (arrayStages r o d path) (arrayStages q p e path') := by
  refine (schemaValue_agree hde).bind fun hitems => ?_
  refine (shapeStage_agree h ?_ (list_of_none (by rfl))).bind fun hshape => ?_
  · exact forall₂_append (parallel_refl _) (parallel_keyword "items" hitems)
  · rw [sizeChecks_eq ho]
    refine (checkStages_agree (checks_refl _)).bind fun hsizes => ?_
    refine (Agree.ofFault (contentChecks_parallel ho)).bind fun hchecks => ?_
    refine (checkStages_agree hchecks).bind fun hcontents => ?_
    exact .pure (forall₂_append (.cons hshape hsizes) hcontents)

theorem objectStages_agree (h : r.Reordered q) (o : ObjectOptions)
    {ds es : List (String × Validator)} (hds : PropsParallel ds es) (mode : UnknownKeys) :
    Agree (List.Forall₂ Stage.Parallel) (objectStages r o ds mode path)
      (objectStages q o es mode path') := by
  refine (objectSchema_agree hds mode).bind fun ⟨hschema, hnone⟩ => ?_
  refine (shapeStage_agree h hschema (list_of_none hnone)).bind fun hshape => ?_
  exact (checkStages_agree (checks_refl _)).bind fun hsizes => .pure (.cons hshape hsizes)

theorem MadeOf.parallel (h : r.Reordered q) {ss ts : List Stage} (hd : d.MadeOf r ss)
    (he : e.MadeOf q ts) (hst : List.Forall₂ Stage.Parallel ss ts) : d.Parallel e where
  required := by rw [hd.required, he.required, h.isRequired_eq]
  description := by rw [hd.description, he.description, h.common.description]
  fragments := by
    rw [Validator.fragments, Validator.fragments, hd.stages, he.stages]
    exact List.forall₂_map_left_iff.mpr (List.forall₂_map_right_iff.mpr hst)

end

/-! ### All rules -/

theorem array_made {c : CommonOptions} {items : Rule} {o : ArrayOptions} {ctx : Strictness}
    {d : Validator} (h : (Rule.array c items o).CompilesTo ctx d) :
    ∃ di path t u stages, items.CompilesTo ctx di ∧
      arrayStages (.array c items o) o di path t = (.ok stages, u) ∧
      d.MadeOf (.array c items o) stages := by
  obtain ⟨path, t, u, h⟩ := h
  obtain ⟨stages, s, hs, hd⟩ := treat_ok h
  obtain ⟨di, s', hdi, hs⟩ := bind_ok hs
  exact ⟨di, path, s', s, stages, ⟨_, t, s', hdi⟩, hs, hd⟩

theorem object_made {c : CommonOptions} {props : List (String × Rule)} {o : ObjectOptions}
    {ctx : Strictness} {d : Validator} (h : (Rule.object c props o).CompilesTo ctx d) :
    ∃ ds path t u stages,
      List.Forall₂ (fun p e => e.1 = p.1 ∧ p.2.CompilesTo (ctx.override o.strict?) e.2) props ds ∧
      objectStages (.object c props o) o ds (ctx.override o.strict?).mode path t
        = (.ok stages, u) ∧
      d.MadeOf (.object c props o) stages := by
  obtain ⟨path, t, u, h⟩ := h
  obtain ⟨stages, s, hs, hd⟩ := treat_ok h
  obtain ⟨ds, s', hds, hs⟩ := bind_ok hs
  exact ⟨ds, path, s', s, stages, compileProps_ok hds, hs, hd⟩

/-- All validators of two rules have the same schema but for the order of keys. -/
def Rule.CompiledAlike (r q : Rule) : Prop :=
  ∀ ctx {d e}, r.CompilesTo ctx d → q.CompilesTo ctx e → d.Parallel e

/-- The validators of properties that stand in another order. -/
theorem propsParallel_of_rules {es fs : List (String × Rule)} {ctx : Strictness}
    {ds ds' : List (String × Validator)}
    (h : Reordering DistinctNames (SameKey Rule.CompiledAlike) es fs)
    (hds : List.Forall₂ (fun p e => e.1 = p.1 ∧ p.2.CompilesTo ctx e.2) es ds)
    (hds' : List.Forall₂ (fun p e => e.1 = p.1 ∧ p.2.CompilesTo ctx e.2) fs ds') :
    PropsParallel ds ds' := by
  refine h.transport hds hds' ?_ fun hnames hws => ?_
  · rintro p p' x y ⟨hkey, halike⟩ ⟨hx, hxc⟩ ⟨hy, hyc⟩
    exact ⟨hy.trans (hkey.trans hx.symm), halike _ hxc hyc⟩
  · rwa [DistinctNames, keys_of_sameKey (R := fun (r : Rule) d => r.CompilesTo ctx d) hws]

/-- The validators of rules one after the other, and their schemas. -/
theorem schemas_parallel {rs qs : List Rule} {ctx : Strictness} {ds es : List Validator}
    {vs ws : List Value} (h : List.Forall₂ Rule.CompiledAlike rs qs)
    (hds : List.Forall₂ (fun r d => r.CompilesTo ctx d) rs ds)
    (hes : List.Forall₂ (fun r d => r.CompilesTo ctx d) qs es)
    (hvs : List.Forall₂ (fun d v => ∃ schema, v = .mapping schema ∧ d.schema = .ok schema) ds vs)
    (hws : List.Forall₂ (fun d v => ∃ schema, v = .mapping schema ∧ d.schema = .ok schema) es ws) :
    List.Forall₂ Value.Reordered vs ws := by
  have hde : List.Forall₂ Validator.Parallel ds es :=
    forall₂_transport h hds hes fun hrq hr hq => hrq ctx hr hq
  refine forall₂_transport hde hvs hws ?_
  rintro d e _ _ hde ⟨schema, rfl, hschema⟩ ⟨schema', rfl, hschema'⟩
  exact (Validator.schema_parallel hde _ _ hschema hschema').reordered

/-- **The validators of two rules** that are the same but for the order of keys. -/
theorem Rule.Reordered.compiled {r q : Rule} (h : r.Reordered q) : r.CompiledAlike q := by
  -- kept, since every case speaks of the rules as a whole as well
  have hreordered := h
  induction h with
  | simple hr hc =>
    intro ctx d e hd he
    have hq : (Rule.withCommon _ _).tag.isComposite = false := hreordered.tag_eq ▸ hr
    obtain ⟨path, t, u, stages, hs, hd⟩ := hd.simple hr
    obtain ⟨path', t', u', stages', hs', he⟩ := he.simple hq
    exact MadeOf.parallel hreordered hd he (simpleStages_agree hr hc hs hs')
  | enum hc hvws =>
    intro ctx d e hd he
    obtain ⟨path, t, u, stages, hs, hd⟩ := hd.simple rfl
    obtain ⟨path', t', u', stages', hs', he⟩ := he.simple rfl
    exact MadeOf.parallel hreordered hd he (enumStages_agree hreordered hvws hs hs')
  | equal hc hvw =>
    intro ctx d e hd he
    obtain ⟨path, t, u, stages, hs, hd⟩ := hd.simple rfl
    obtain ⟨path', t', u', stages', hs', he⟩ := he.simple rfl
    exact MadeOf.parallel hreordered hd he (equalStages_agree hreordered hvw _ hs hs')
  | array hc ho hitems ih =>
    intro ctx d e hd he
    obtain ⟨di, path, t, u, stages, hdi, hs, hd⟩ := array_made hd
    obtain ⟨ei, path', t', u', stages', hei, hs', he⟩ := array_made he
    exact MadeOf.parallel hreordered hd he
      (arrayStages_agree hreordered ho (ih hitems ctx hdi hei) hs hs')
  | @object c d es mid fs o hc hkeys hprops hshuffled ih =>
    intro ctx d e hd he
    obtain ⟨ds, path, t, u, stages, hds, hs, hd⟩ := object_made hd
    obtain ⟨ds', path', t', u', stages', hds', hs', he⟩ := object_made he
    have hvalidators := propsParallel_of_rules
      ⟨mid, sameKey_of_zip hkeys fun hmem => ih hmem (hprops hmem), hshuffled⟩ hds hds'
    exact MadeOf.parallel hreordered hd he
      (objectStages_agree hreordered o hvalidators _ hs hs')
  | multi hc hlength hitems ih =>
    intro ctx d e hd he
    obtain ⟨ds, vs, shape, hds, hvs, hs, hd⟩ := hd.multi
    obtain ⟨es, ws, shape', hes, hws, hs', he⟩ := he.multi
    have hschemas := schemas_parallel
      (List.forall₂_iff_zip.mpr ⟨hlength, fun hmem => ih hmem (hitems hmem)⟩) hds hes hvs hws
    refine MadeOf.parallel hreordered hd he (.cons (hs.parallel hreordered hs' ?_ ?_) .nil)
    · exact parallel_keyword "anyOf" (.of_items hschemas)
    · exact fun v hv => ⟨vs, (Option.some.inj hv).symm⟩
  | tuple hc hlength hitems ih =>
    intro ctx d e hd he
    obtain ⟨ds, vs, shape, hds, hvs, hs, hd⟩ := hd.tuple
    obtain ⟨es, ws, shape', hes, hws, hs', he⟩ := he.tuple
    have hschemas := schemas_parallel
      (List.forall₂_iff_zip.mpr ⟨hlength, fun hmem => ih hmem (hitems hmem)⟩) hds hes hvs hws
    have hsize : es.length = ds.length := by
      rw [← hes.length_eq, ← hds.length_eq, hlength]
    refine MadeOf.parallel hreordered hd he
      (.cons (hs.parallel hreordered hs' ?_ (list_of_none (by rfl))) .nil)
    dsimp only
    rw [hsize]
    refine forall₂_append (forall₂_append (forall₂_append (forall₂_append (parallel_refl _) ?_)
      (parallel_refl _)) (parallel_refl _)) (parallel_refl _)
    exact parallel_keyword "prefixItems" (.of_items hschemas)
  | record hc hkey hvalue ihkey ihvalue =>
    intro ctx d e hd he
    obtain ⟨keys, values, ks, vs, shape, hkeys, hvalues, hks, hvs, hs, hd⟩ := hd.record
    obtain ⟨keys', values', ks', vs', shape', hkeys', hvalues', hks', hvs', hs', he⟩ := he.record
    have hvalueSchema :=
      Validator.schema_parallel (ihvalue hvalue ctx hvalues hvalues') _ _ hvs hvs'
    have hkeySchema := Validator.schema_parallel (ihkey hkey ctx hkeys hkeys') _ _ hks hks'
    refine MadeOf.parallel hreordered hd he
      (.cons (hs.parallel hreordered hs' ?_ (list_of_none (by rfl))) .nil)
    refine forall₂_append (forall₂_append (parallel_refl _) ?_) ?_
    · exact parallel_keyword _ hvalueSchema.reordered
    · exact parallel_keyword _ hkeySchema.reordered

end RuleSchema
