import RuleSchema.Proofs.Schema.Meaning
import RuleSchema.Proofs.Validator.Runs

/-!
# Decisions

Without defaults that are made anew, a validation neither calls a function nor meets a fault
of its own: it is a result or a rejection outright.  Which of the two it is, is then a truth
value, and that of a larger validation is computed from those of its parts.

* `Decides` says of an evaluation which of the two it is, and something of its result.
* `runStages_decides` takes a run apart into the shape stage and the checks after it.
* `validateItems_decides`, `validateSlots_decides`, `validateEntries_decides`,
  `validateProperties_decides` and `firstAccepting_decides`: the loops over the parts of a value.
-/

namespace RuleSchema

open Eval

/-- An evaluation gives a result with the property `Q` if `b` is true, and is rejected if not. -/
inductive Eval.Decides {ρ α : Type} (x : Eval ρ α) (Q : α → Prop) : Bool → Prop
  | accepted {a : α} : x = pure a → Q a → Decides x Q true
  | rejected {e : ρ} : x = .reject e → Decides x Q false

namespace Eval.Decides

variable {ρ σ α β : Type} {x : Eval ρ α} {Q R : α → Prop} {b c : Bool}

theorem mono (h : x.Decides Q b) (hQ : ∀ a, Q a → R a) : x.Decides R b := by
  cases h with
  | accepted hx ha => exact .accepted hx (hQ _ ha)
  | rejected hx => exact .rejected hx

theorem mapReason (h : x.Decides Q b) (f : ρ → σ) : (Eval.mapReason f x).Decides Q b := by
  cases h with
  | accepted hx ha => exact .accepted (by rw [hx]; rfl) ha
  | rejected hx => exact .rejected (by rw [hx]; rfl)

/-- **One evaluation after another** gives a result if both do. -/
theorem bind {f : α → Eval ρ β} {S : β → Prop} (h : x.Decides Q b)
    (hf : ∀ a, Q a → (f a).Decides S c) : (x >>= f).Decides S (b && c) := by
  cases h with
  | accepted hx ha =>
    rw [hx, Bool.true_and]
    exact hf _ ha
  | rejected hx => exact .rejected (by rw [hx]; rfl)

/-- A result that is only changed. -/
theorem map {f : α → β} {S : β → Prop} (h : x.Decides Q b) (hf : ∀ a, Q a → S (f a)) :
    (do return f (← x) : Eval ρ β).Decides S b := by
  rw [← Bool.and_true b]
  exact h.bind fun a ha => .accepted rfl (hf a ha)

end Eval.Decides

/-! ### Checks -/

theorem runChecks_decides {v : Value} {f : Check → Bool} : ∀ {checks : List Check},
    (∀ c ∈ checks, c.test v = .ok (f c)) →
      (Stage.runChecks checks v).Decides (fun w => w = v) (checks.all f) := by
  intro checks
  induction checks with
  | nil => intro _; exact .accepted rfl rfl
  | cons c checks ih =>
    intro h
    have hrest := ih fun c' hc' => h c' (List.mem_cons_of_mem _ hc')
    rw [Stage.runChecks, h c List.mem_cons_self, List.all_cons]
    cases f c with
    | true => exact hrest
    | false => exact .rejected rfl

/-- Stages of checks decide what their checks do. -/
theorem runStages_decides {tag : Tag} {kind : StageKind} {checks : List Check}
    {stages more : List Stage} {v : Value} {Q : Value → Prop} {f : Check → Bool} {b : Bool}
    (hkind : kind ≠ .shape) (h : ChecksOf kind checks stages)
    (hf : ∀ c ∈ checks, c.test v = .ok (f c))
    (hmore : (Validator.runStages tag more v).Decides Q b) :
    (Validator.runStages tag (stages ++ more) v).Decides Q (checks.all f && b) := by
  cases h with
  | none hnil => rw [hnil]; exact hmore
  | @one s hk hrun _ =>
    rw [List.singleton_append, Validator.runStages, hrun]
    refine ((runChecks_decides hf).mapReason _).bind ?_
    rintro w rfl
    have hsettled : Validator.isSettled s.kind w = false := by
      rw [Validator.isSettled, hk, decide_eq_false hkind, Bool.false_and]
    rw [hsettled, if_neg Bool.false_ne_true]
    exact hmore

/-! ### The shape stage -/

/-- Whether a rule replaces, converts and admits nothing beside the values of its type. -/
def CommonOptions.isBare (c : CommonOptions) : Bool :=
  !c.nullable && !c.convert && c.default?.isNone

section

variable {r : Rule} {shape : Shape} {s : Stage} {rest : List Stage} {d : Validator} {v : Value}

theorem runShape_eq (hr : r.common.nullable = false) (hv : v.isAbsent = false) :
    runShape r shape.check v
      = if v.isNull then failCheck "nullable" "Value must not be null" else shape.check v := by
  have hpresent : (r.present v : Eval StageRejection Value) = pure v := by
    rw [Rule.present, hv]
    rfl
  rw [runShape, hpresent, hr]
  change (if v.isAbsent then _ else _) = _
  rw [hv, if_neg Bool.false_ne_true]
  rfl

/-- Null is rejected where it is not admitted. -/
theorem validate_null (hstages : d.stages = s :: rest) (hs : ShapeOf r shape s)
    (hr : r.common.nullable = false) {Q : Value → Prop} : (d.validate .null).Decides Q false := by
  rw [Validator.validate, hstages, Validator.runStages, hs.run, runShape_eq hr rfl]
  exact .rejected rfl

/-- **A validator decides** what its shape and the stages after it do. -/
theorem validate_decides {Q R : Value → Prop} {b c : Bool} (hstages : d.stages = s :: rest)
    (hs : ShapeOf r shape s) (hr : r.common.nullable = false) (hv : v.isAbsent = false)
    (hnull : v.isNull = false) (hshape : (shape.check v).Decides Q b)
    (hrest : ∀ w, Q w → w.isAbsent = false ∧ w.isNull = false ∧
      (Validator.runStages d.tag rest w).Decides R c) : (d.validate v).Decides R (b && c) := by
  rw [Validator.validate, hstages, Validator.runStages, hs.run, runShape_eq hr hv, hnull,
    if_neg Bool.false_ne_true]
  refine (hshape.mapReason _).bind fun w hw => ?_
  obtain ⟨habsent, hnull, hrest⟩ := hrest w hw
  rw [Validator.isSettled, habsent, hnull, Bool.or_false, Bool.and_false,
    if_neg Bool.false_ne_true]
  exact hrest

end

/-! ### Agreement -/

/-- What stands for a value after its validation is there, and a text stands for itself. -/
structure Value.StandsFor (v w : Value) : Prop where
  present : w.isAbsent = false
  text : ∀ n, v = .text n → w = v

/-- A validator accepts just the documents that a schema admits. -/
structure Validator.Agrees (d : Validator) (schema : Value) : Prop where
  present : ∀ v : Value, v.isDocument = true →
    (d.validate v).Decides (fun w => v.StandsFor w) (schema.admits v)
  absent : (d.validate .absent).Decides (fun _ => True) (!d.required)

section

variable {d keys values : Validator} {x kx vx : Value} {ds : List Validator} {schemas : List Value}

theorem validateItems_decides (hd : d.Agrees x) : ∀ {xs : List Value} {i : Nat},
    (∀ y ∈ xs, y.isDocument = true) →
      (validateItems d i xs).Decides (fun ys => ys.length = xs.length) (xs.all x.admits) := by
  intro xs
  induction xs with
  | nil => intro i _; exact .accepted rfl rfl
  | cons y xs ih =>
    intro i hxs
    rw [validateItems, List.all_cons]
    refine ((hd.present y (hxs y List.mem_cons_self)).mapReason _).bind fun w hw => ?_
    refine (ih fun z hz => hxs z (List.mem_cons_of_mem _ hz)).map fun ys hys => ?_
    rw [hw.present, if_neg Bool.false_ne_true]
    exact congrArg (· + 1) hys

theorem arrayStep_decides (hd : d.Agrees x) {xs : List Value} (hxs : ∀ y ∈ xs, y.isDocument = true)
    {convert : Bool} : (arrayStep convert d (.list xs)).Decides
      (fun w => ∃ ys, w = .list ys ∧ ys.length = xs.length) (xs.all x.admits) :=
  (validateItems_decides hd hxs).map fun ys hys => ⟨ys, rfl, hys⟩

theorem validateSlots_decides (h : List.Forall₂ Validator.Agrees ds schemas) :
    ∀ {xs : List Value} {i : Nat}, (∀ y ∈ xs, y.isDocument = true) →
      (validateSlots i ds xs).Decides (fun _ => True) (Value.admitsEach schemas xs) := by
  induction h with
  | nil => intro xs i _; exact .accepted rfl trivial
  | cons hd _ ih =>
    intro xs i hxs
    cases xs with
    | nil => exact .accepted rfl trivial
    | cons y xs =>
      rw [validateSlots, Value.admitsEach]
      refine ((hd.present y (hxs y List.mem_cons_self)).mapReason _).bind fun w _ => ?_
      exact (ih fun z hz => hxs z (List.mem_cons_of_mem _ hz)).map fun _ _ => trivial

theorem tupleStep_decides (h : List.Forall₂ Validator.Agrees ds schemas) {xs : List Value}
    (hxs : ∀ y ∈ xs, y.isDocument = true) : (tupleStep ds (.list xs)).Decides
      (fun w => ∃ ys, w = .list ys)
      (decide (xs.length = ds.length) && Value.admitsEach schemas xs) := by
  change (if xs.length = ds.length then _ else _ : Eval StageRejection Value).Decides _ _
  by_cases hlen : xs.length = ds.length
  · rw [if_pos hlen, decide_eq_true hlen, Bool.true_and]
    exact (validateSlots_decides h hxs).map fun ys _ => ⟨ys, rfl⟩
  · rw [if_neg hlen, decide_eq_false hlen]
    exact .rejected rfl

theorem validateEntries_decides (hkeys : keys.Agrees kx) (hvalues : values.Agrees vx) :
    ∀ {es done : Entries Value}, (Value.mapping es).isDocument = true →
      (validateEntries keys values done es).Decides (fun _ => True)
        (es.all fun e => kx.admits e.1 && vx.admits e.2) := by
  intro es
  induction es with
  | nil => intro done _; exact .accepted rfl trivial
  | cons e es ih =>
    intro done hes
    have hall := Value.isDocument_mapping.mp hes
    obtain ⟨⟨n, hn⟩, hdocument⟩ := hall e List.mem_cons_self
    have hrest : (Value.mapping es).isDocument = true :=
      Value.isDocument_mapping.mpr fun e he => hall e (List.mem_cons_of_mem _ he)
    obtain ⟨k, y⟩ := e
    obtain rfl : k = .text n := hn
    rw [validateEntries, List.all_cons, Bool.and_assoc]
    refine ((hkeys.present (.text n) rfl).mapReason _).bind fun key hkey => ?_
    refine ((hvalues.present y hdocument).mapReason _).bind fun value hvalue => ?_
    rw [hvalue.present, if_neg Bool.false_ne_true, hkey.text n rfl]
    exact ih hrest

theorem recordStep_decides (hkeys : keys.Agrees kx) (hvalues : values.Agrees vx)
    {es : Entries Value} (hes : (Value.mapping es).isDocument = true) :
    (recordStep keys values (.mapping es)).Decides (fun w => ∃ out, w = .mapping out)
      (es.all fun e => kx.admits e.1 && vx.admits e.2) :=
  (validateEntries_decides hkeys hvalues hes).map fun out _ => ⟨out, rfl⟩

theorem firstAccepting_decides {v : Value} (hv : v.isDocument = true)
    (h : List.Forall₂ Validator.Agrees ds schemas) :
    (schemas.any fun x => x.admits v) = true ∧
        (∃ w, firstAccepting v ds = pure (.ok w) ∧ v.StandsFor w) ∨
      (schemas.any fun x => x.admits v) = false ∧
        ∃ texts, firstAccepting v ds = pure (.error texts) := by
  induction h with
  | nil => exact .inr ⟨rfl, [], rfl⟩
  | cons hd _ ih =>
    rw [firstAccepting, List.any_cons]
    have hfirst := hd.present v hv
    generalize Value.admits _ v = b at hfirst
    cases hfirst with
    | @accepted w hx hw =>
      rw [hx]
      exact .inl ⟨rfl, w, rfl, hw⟩
    | @rejected e hx =>
      rw [hx]
      rcases ih with ⟨hany, w, hrest, hw⟩ | ⟨hany, texts, hrest⟩
      · refine .inl ⟨hany, w, ?_, hw⟩
        rw [hrest]
        rfl
      · refine .inr ⟨hany, e.text :: texts, ?_⟩
        rw [hrest]
        rfl

theorem unionStep_decides {v : Value} (hv : v.isDocument = true)
    (h : List.Forall₂ Validator.Agrees ds schemas) :
    (unionStep ds v).Decides (fun w => v.StandsFor w) (schemas.any fun x => x.admits v) := by
  rw [unionStep]
  rcases firstAccepting_decides hv h with ⟨hany, w, hrun, hw⟩ | ⟨hany, texts, hrun⟩
  · rw [hany, hrun]
    exact .accepted rfl hw
  · rw [hany, hrun]
    exact .rejected rfl

end

/-! ### Properties -/

/-- Validators and schemas of the same properties. -/
def PropertiesAgree (ds : Entries Validator) (properties : Entries Value) : Prop :=
  List.Forall₂ (fun e p => e.1 = p.1 ∧ e.2.Agrees p.2) ds properties

/-- Whether a mapping has the properties that must be there. -/
def hasRequired (ds : Entries Validator) (es : Entries Value) : Bool :=
  ds.all fun e => !e.2.required || Entries.hasKey es e.1

section

variable {ds : Entries Validator} {properties es : Entries Value}

theorem hasKey_of_find? {k : Value} : Entries.hasKey es k = (es.find? k).isSome := by
  rw [Entries.find?, Option.isSome_map, Entries.hasKey]
  induction es with
  | nil => rfl
  | cons e es ih =>
    rw [List.any_cons, List.find?_cons]
    cases k.equals e.1 with
    | true => rfl
    | false => exact ih

/-- What is found in a mapping of a document. -/
theorem isDocument_of_find? (hes : (Value.mapping es).isDocument = true) {k x : Value}
    (h : es.find? k = some x) : x.isDocument = true := by
  obtain ⟨e, he, rfl⟩ := Option.map_eq_some_iff.mp h
  exact (Value.isDocument_mapping.mp hes e (List.mem_of_find?_eq_some he)).2

theorem validateDeclared_decides (hes : (Value.mapping es).isDocument = true)
    (h : PropertiesAgree ds properties) :
    (validateDeclared es ds).Decides (fun _ => True)
      ((properties.all fun p => ((es.find? p.1).map p.2.admits).getD true) &&
        hasRequired ds es) := by
  induction h with
  | nil => exact .accepted rfl trivial
  | @cons e p ds properties hp _ ih =>
    obtain ⟨k, d⟩ := e
    obtain ⟨k', x⟩ := p
    obtain ⟨rfl, hd⟩ := hp
    have hfirst : (d.validate ((es.find? k).getD .absent)).Decides (fun _ => True)
        (((es.find? k).map x.admits).getD true && (!d.required || Entries.hasKey es k)) := by
      rw [hasKey_of_find?]
      cases hk : es.find? k with
      | none =>
        rw [Option.isSome_none, Bool.or_false]
        exact hd.absent
      | some y =>
        rw [Option.isSome_some, Bool.or_true, Bool.and_true]
        exact (hd.present y (isDocument_of_find? hes hk)).mono fun _ _ => trivial
    have hwhole :
        ((((k, x) :: properties).all fun p => ((es.find? p.1).map p.2.admits).getD true) &&
          hasRequired ((k, d) :: ds) es)
        = ((((es.find? k).map x.admits).getD true && (!d.required || Entries.hasKey es k)) &&
          ((properties.all fun p => ((es.find? p.1).map p.2.admits).getD true) &&
            hasRequired ds es)) := by
      rw [List.all_cons, hasRequired, List.all_cons, ← hasRequired]
      ac_rfl
    rw [validateDeclared, hwhole]
    refine (hfirst.mapReason _).bind fun w _ => ?_
    exact ih.map fun _ _ => trivial

theorem PropertiesAgree.hasKey (h : PropertiesAgree ds properties) (k : Value) :
    Entries.hasKey ds k = Entries.hasKey properties k := by
  induction h with
  | nil => rfl
  | cons hp _ ih =>
    rw [Entries.hasKey, List.any_cons, ← Entries.hasKey, ih, hp.1]
    rfl

/-- **The properties of a mapping** are accepted if each declared one is admitted by its schema or
may be left out, and none is unknown where unknown ones are a reason to reject. -/
theorem validateProperties_decides (hes : (Value.mapping es).isDocument = true)
    (h : PropertiesAgree ds properties) (mode : UnknownKeys) :
    (validateProperties es ds mode).Decides (fun _ => True)
      ((!decide (mode = .reject) || es.all fun e => Entries.hasKey properties e.1) &&
        ((properties.all fun p => ((es.find? p.1).map p.2.admits).getD true) &&
          hasRequired ds es)) := by
  have hunknown : (unknownEntries ds es).isEmpty
      = es.all fun e => Entries.hasKey properties e.1 := by
    rw [unknownEntries, Bool.eq_iff_iff, List.isEmpty_iff, List.filter_eq_nil_iff, List.all_eq_true]
    simp only [h.hasKey, Bool.not_eq_true', Bool.not_eq_false]
  rw [validateProperties, ← hunknown]
  by_cases hreject : mode = .reject
  · rw [decide_eq_true hreject]
    cases hempty : (unknownEntries ds es).isEmpty with
    | false => exact .rejected rfl
    | true => exact (validateDeclared_decides hes h).map fun _ _ => trivial
  · rw [decide_eq_false hreject]
    exact (validateDeclared_decides hes h).map fun _ _ => trivial

theorem objectStep_decides (hes : (Value.mapping es).isDocument = true)
    (h : PropertiesAgree ds properties) (mode : UnknownKeys) :
    (objectStep ds mode (.mapping es)).Decides (fun w => ∃ out, w = .mapping out)
      ((!decide (mode = .reject) || es.all fun e => Entries.hasKey properties e.1) &&
        ((properties.all fun p => ((es.find? p.1).map p.2.admits).getD true) &&
          hasRequired ds es)) :=
  (validateProperties_decides hes h mode).map fun out _ => ⟨out, rfl⟩

end

end RuleSchema
