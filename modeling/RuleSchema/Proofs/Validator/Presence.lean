import RuleSchema.Proofs.Projection.Stages

/-!
# Absent values and null

What becomes of an absent value and of null is decided in the shape stage, and it is decided in the
same way for all types.  A default takes the place of an absent value, and is validated like any
other value; without one the rule says whether a value may be left out.  Null passes just if the
rule is nullable, whatever its default.  The later stages never see either of them: the shape stage
ends the run there, and no later stage makes an absent value or null of a value that is given.

* `Value.IsGiven`: neither absent nor null.
* `PayloadError.OfShape`: the whole value is rejected, by the shape stage.
* `CompilesTo.later_stages`: later stages give given values for given values.
* `runStages_congr`: later stages are told by what they do with given values.
* `validate_lone`: what a validator without later stages makes of a given value.
* `presence_decided_by_shape`: **absent values and null** under every rule.
-/

namespace RuleSchema

open Eval

/-! ### Values that are given -/

/-- A value that is neither absent nor null. -/
def Value.IsGiven (v : Value) : Prop := v.isAbsent = false ∧ v.isNull = false

theorem ScalarProperty.given : ScalarProperty Value.IsGiven :=
  ⟨fun _ => ⟨rfl, rfl⟩, fun _ => ⟨rfl, rfl⟩, fun _ => ⟨rfl, rfl⟩, fun _ => ⟨rfl, rfl⟩,
    fun _ _ => ⟨rfl, rfl⟩⟩

theorem Value.IsGiven.not_settled {v : Value} (hv : v.IsGiven) (kind : StageKind) :
    Validator.isSettled kind v = false := by
  rw [Validator.isSettled, hv.1, hv.2, Bool.or_false, Bool.and_false]

/-- What a shape stage leaves to check is given. -/
theorem Value.IsGiven.of_not_settled {v : Value} {s : Stage} (hs : s.kind = .shape)
    (h : ¬ Validator.isSettled s.kind v = true) : v.IsGiven := by
  rw [Validator.isSettled, hs] at h
  simpa [Value.IsGiven] using h

/-- A rejection of the whole value by the shape stage, for failing `check`. -/
structure PayloadError.OfShape (e : PayloadError) (check : String) : Prop where
  path : e.path = []
  stage : e.stage = some "shape"
  check : e.check = some check

/-! ### Later stages -/

section

variable {r : Rule} {ctx : Strictness} {d : Validator} {tag : Tag} {stages stages' : List Stage}

/-- **The later stages** give given values for given values. -/
theorem Rule.CompilesTo.later_stages (h : r.CompilesTo ctx d) (hforbidden : r.tag ≠ .forbidden) :
    ∃ shape s rest, d.stages = s :: rest ∧ ShapeOf r shape s ∧
      ∀ s' ∈ rest, s'.Keeps Value.IsGiven := by
  cases hr : r.tag.isComposite with
  | false =>
    obtain ⟨plan, s, rest, hplan, hd, hmade⟩ := h.planned hr hforbidden
    exact ⟨_, s, rest, hd.stages, hmade.shape, hmade.rest_keeps .given hplan⟩
  | true =>
    have hnone : ∀ s' ∈ ([] : List Stage), s'.Keeps Value.IsGiven :=
      fun s' hs' => absurd hs' List.not_mem_nil
    cases r with
    | array c items o =>
      obtain ⟨_, _, s, _, _, _, _, _, hshape, hsizes, _, hcontents, hd⟩ := h.array
      exact ⟨_, s, _, hd.stages, hshape,
        List.forall_mem_append.mpr ⟨hsizes.keeps, hcontents.keeps⟩⟩
    | object c props o =>
      obtain ⟨_, _, s, _, _, _, hshape, hsizes, hd⟩ := h.object
      exact ⟨_, s, _, hd.stages, hshape, hsizes.keeps⟩
    | multi c branches =>
      obtain ⟨_, _, s, _, _, hshape, hd⟩ := h.multi
      exact ⟨_, s, _, hd.stages, hshape, hnone⟩
    | tuple c slots =>
      obtain ⟨_, _, s, _, _, hshape, hd⟩ := h.tuple
      exact ⟨_, s, _, hd.stages, hshape, hnone⟩
    | record c key value =>
      obtain ⟨_, _, _, _, s, _, _, _, _, hshape, hd⟩ := h.record
      exact ⟨_, s, _, hd.stages, hshape, hnone⟩
    | _ => cases hr

/-- Two stages of one kind that do the same with every value that is given. -/
structure Stage.AlikeOnGiven (s s' : Stage) : Prop where
  kind : s.kind = s'.kind
  run : ∀ v : Value, v.IsGiven → s.run v = s'.run v

/-- **Later stages are told by what they do with given values.** -/
theorem runStages_congr (h : List.Forall₂ Stage.AlikeOnGiven stages stages')
    (hkeep : ∀ s ∈ stages, s.Keeps Value.IsGiven) : ∀ v : Value, v.IsGiven →
      Validator.runStages tag stages v = Validator.runStages tag stages' v := by
  induction h with
  | nil => intro v _; rfl
  | @cons s s' _ _ hs _ ih =>
    intro v hv
    rw [Validator.runStages, Validator.runStages, ← hs.kind, ← hs.run v hv]
    refine bind_congr_ok fun t w u hw => ?_
    have hgiven : w.IsGiven := hkeep s List.mem_cons_self v w t u hv (mapReason_ok hw)
    rw [hgiven.not_settled]
    exact ih (fun s' hs' => hkeep s' (List.mem_cons_of_mem _ hs')) w hgiven

/-- Stages after a shape stage count by what they do with given values. -/
theorem validate_congr {s : Stage} {rest rest' : List Stage} (hd : d.stages = s :: rest)
    (hs : s.kind = .shape) (hkeep : ∀ s' ∈ rest, s'.Keeps Value.IsGiven)
    (h : List.Forall₂ Stage.AlikeOnGiven rest rest') (v : Value) :
    d.validate v = { d with stages := s :: rest' }.validate v := by
  rw [Validator.validate, Validator.validate, hd, Validator.runStages, Validator.runStages]
  refine bind_congr_ok fun t w u _ => ?_
  by_cases hsettled : Validator.isSettled s.kind w = true
  · rw [if_pos hsettled, if_pos hsettled]
  · rw [if_neg hsettled, if_neg hsettled]
    exact runStages_congr h hkeep w (.of_not_settled hs hsettled)

/-- **Where no stage follows the shape stage**, the validator makes of a value that is given what
the check of the type makes of it. -/
theorem validate_lone {step : Step} {schema : Schema} {s : Stage} (hd : d.stages = [s])
    (hs : ShapeOf r ⟨step, schema⟩ s) {v : Value} (hv : v.IsGiven) :
    d.validate v = mapReason (Validator.located d.tag .shape) (step v) := by
  have hrun : s.run v = step v := by
    rw [hs.run, runShape, present_of_present hv.1, pure_bind, hv.1, hv.2, if_neg Bool.false_ne_true,
      if_neg Bool.false_ne_true]
  rw [Validator.validate, hd, Validator.runStages, hrun, hs.kind]
  refine Eq.trans (congrArg _ (funext fun w => ?_)) (bind_pure _)
  split <;> rfl

end

/-! ### Defaults -/

section

variable {r : Rule} {v f : Value} {ρ : Type}

/-- What a default that is made anew stands for is called. -/
theorem Rule.standIn_generated (hdefault : r.common.default? = some v) (hr : r.generates = true) :
    r.standIn = .generated v := by
  refine (Rule.standIn_default hdefault).resolve_right fun h => ?_
  rw [Rule.generates, h] at hr
  cases hr

/-- A fixed default stands in its place. -/
theorem present_fixed (hr : r.standIn = .fixed v) :
    (r.present .absent : Eval ρ Value) = r.present v := by
  have habsent : (r.present .absent : Eval ρ Value) = pure v := by
    rw [Rule.present, hr]
    rfl
  cases hv : v.isAbsent with
  | true => rw [Value.eq_absent hv]
  | false => rw [habsent, present_of_present hv]

/-- What a generator gives stands in its place. -/
theorem present_eq_call (hr : r.standIn = .generated f) :
    (r.present .absent : Eval ρ Value) = (f.call >>= fun v => r.present v) := by
  have habsent : (r.present .absent : Eval ρ Value) = f.call := by
    rw [Rule.present, hr]
    simp [Value.isAbsent, StandIn.resolve]
  funext t
  cases hcall : (f.call : Eval ρ Value) t with
  | mk y u =>
    cases y with
    | error e => rw [habsent, hcall, bind_of_error hcall]
    | ok w =>
      rw [bind_of_ok hcall]
      cases hw : w.isAbsent with
      | false => rw [present_of_present hw, habsent, hcall]; rfl
      | true =>
        -- a generator that gives no value does so each time, and is not counted
        obtain rfl := Value.eq_absent hw
        rw [habsent, call_absent hcall u, hcall]

/-- A call is not rejected. -/
theorem mapReason_call {σ : Type} {g : ρ → σ} : mapReason g (f.call : Eval ρ Value) = f.call := by
  cases f with
  | func name occurrence result? => cases result? <;> rfl
  | cls c =>
    cases c with
    | objects c =>
      change mapReason g (ofFault (c.make .null)) = ofFault (c.make .null)
      cases c.make .null <;> rfl
    | _ => rfl
  | _ => rfl

/-- Null passes if the rule is nullable. -/
theorem runShape_null {check : Step} :
    runShape r check .null
      = if r.common.nullable then pure .null
        else failCheck "nullable" "Value must not be null" := by
  rw [runShape, present_of_present rfl]
  rfl

end

/-! ### Presence -/

namespace Rule.CompilesTo

variable {r : Rule} {ctx : Strictness} {d : Validator} {v f : Value}

/-- **Null** passes if the rule is nullable. -/
theorem null_eq (h : r.CompilesTo ctx d) (hforbidden : r.tag ≠ .forbidden) :
    d.validate .null = if r.common.nullable then pure .null
      else .reject (Validator.located d.tag .shape
        (.failure "Value must not be null" "nullable" [])) := by
  obtain ⟨shape, s, rest, hstages, hs⟩ := h.head hforbidden
  rw [Validator.validate, hstages, Validator.runStages, hs.run, runShape_null, hs.kind]
  cases r.common.nullable <;> rfl

/-- A default that is not generated is validated in the place of an absent value. -/
theorem absent_fixed (h : r.CompilesTo ctx d) (hforbidden : r.tag ≠ .forbidden)
    (hr : r.standIn = .fixed v) : d.validate .absent = d.validate v := by
  obtain ⟨shape, s, rest, hstages, hs⟩ := h.head hforbidden
  rw [Validator.validate, Validator.validate, hstages, Validator.runStages, Validator.runStages,
    hs.run, runShape, runShape, present_fixed hr]

/-- What a generator gives is validated in the place of an absent value. -/
theorem absent_generated (h : r.CompilesTo ctx d) (hforbidden : r.tag ≠ .forbidden)
    (hr : r.standIn = .generated f) :
    d.validate .absent = (f.call >>= fun v => d.validate v) := by
  obtain ⟨shape, s, rest, hstages, hs⟩ := h.head hforbidden
  have hrun : runShape r shape.check .absent = (f.call >>= fun v => runShape r shape.check v) := by
    simp only [runShape, present_eq_call hr, bind_assoc]
  simp only [Validator.validate, hstages, Validator.runStages, hs.run, hrun, mapReason_bind,
    mapReason_call, bind_assoc]

/-- A rule that forbids values counts null as absent. -/
theorem forbidden_null {c : CommonOptions} {remove : Bool}
    (h : (Rule.forbidden c remove).CompilesTo ctx d) : d.validate .null = pure .absent := by
  obtain ⟨path, t, u, stages, hs, hd⟩ := h.simple rfl
  cases remove with
  | true =>
    rw [Validator.validate, hd.stages.trans (pure_ok hs).1]
    rfl
  | false =>
    obtain ⟨_, _, _, hs⟩ := bind_ok hs
    rw [Validator.validate, hd.stages.trans (pure_ok hs).1]
    rfl

end Rule.CompilesTo

/-- **Absent values and null** are decided in the shape stage, and for all types alike.  Null passes
if the rule is nullable, whatever its default.  A default, or what it answers if it is called, is
validated in the place of an absent value; without a default the rule says whether a value may be
left out.  What the later stages would do with an absent value or with null does not matter: any
others that do the same with the values that are given make the same validator.  A rule that
forbids values counts null as absent. -/
theorem presence_decided_by_shape {r : Rule} {ctx : Strictness} {d : Validator}
    (h : r.CompilesTo ctx d) :
    (r.tag ≠ .forbidden →
      (if r.common.nullable then d.validate .null = pure .null
        else ∃ e : PayloadError, d.validate .null = .reject e ∧ e.OfShape "nullable") ∧
      (match r.common.default? with
        | none => if r.common.optional then d.validate .absent = pure .absent
            else ∃ e : PayloadError, d.validate .absent = .reject e ∧ e.OfShape "required"
        | some v => d.validate .absent =
            if r.generates then v.call >>= fun w => d.validate w else d.validate v) ∧
      ∃ shape rest, d.stages = shape :: rest ∧ shape.kind = .shape ∧
        ∀ rest', List.Forall₂ Stage.AlikeOnGiven rest rest' → ∀ v : Value,
          d.validate v = { d with stages := shape :: rest' }.validate v) ∧
    (r.tag = .forbidden → d.validate .null = pure .absent ∧ d.validate .absent = pure .absent) := by
  refine ⟨fun hforbidden => ⟨?null, ?absent, ?later⟩, fun hforbidden => ?forbidden⟩
  case null =>
    rw [h.null_eq hforbidden]
    split
    · rfl
    · exact ⟨_, rfl, rfl, rfl, rfl⟩
  case absent =>
    cases hdefault : r.common.default? with
    | none =>
      rw [h.absent_eq hforbidden hdefault]
      dsimp only
      split
      · rfl
      · exact ⟨_, rfl, rfl, rfl, rfl⟩
    | some v =>
      cases hr : r.generates with
      | true => exact h.absent_generated hforbidden (Rule.standIn_generated hdefault hr)
      | false => exact h.absent_fixed hforbidden (Rule.standIn_fixed hdefault hr)
  case later =>
    obtain ⟨shape, s, rest, hstages, hs, hkeep⟩ := h.later_stages hforbidden
    exact ⟨s, rest, hstages, hs.kind, fun rest' => validate_congr hstages hs.kind hkeep⟩
  case forbidden =>
    obtain ⟨c, remove, rfl⟩ := Rule.eq_forbidden hforbidden
    exact ⟨h.forbidden_null, h.forbidden_absent⟩

/-- A number that must be at least ten and has no default below that: null is rejected for being
null, and an absent value is the default. -/
theorem presence_decided_by_shape_number :
    let r : Rule :=
      .number { default? := some (.int 12), optional := true } { min? := some (.int 10) }
    ∃ d, r.CompilesTo {} d ∧ r.tag ≠ .forbidden ∧ d.validate .absent = d.validate (.int 12) ∧
      ∃ e : PayloadError, d.validate .null = .reject e ∧ e.OfShape "nullable" := by
  intro r
  obtain ⟨d, hd⟩ : ∃ d, r.CompilesTo {} d := ⟨_, "$", [], [], rfl⟩
  have hforbidden : r.tag ≠ .forbidden := by decide
  obtain ⟨hnull, habsent, -⟩ := (presence_decided_by_shape hd).1 hforbidden
  exact ⟨d, hd, hforbidden, habsent, hnull⟩

end RuleSchema
