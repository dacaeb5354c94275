import RuleSchema.Proofs.Calls.Needs
import RuleSchema.Proofs.Validator.Scalar

/-!
# Absent values

Whether a rule accepts an absent value is said twice: by `Rule.isRequired`, which the
schema shows, and by the shape stage, which replaces the value by a default, lets it
through or rejects it.  A fixed default has passed every stage when the rule was
compiled, so that the two agree as long as no default is generated.

* `Rule.generates` tells the rules whose default is made anew each time.
* `CompilesTo.head`: every validator begins with the shape stage of its rule, unless the
  rule forbids values.
* `CompilesTo.absent_eq`: what becomes of an absent value without a default.
* `CompilesTo.absent_accepted` and `CompilesTo.absent_rejected`: an absent value is
  rejected just when the rule requires a value, and then as one that is required.
-/

namespace RuleSchema

open Eval

/-- Whether what replaces an absent value is made anew each time. -/
def Rule.generates (r : Rule) : Bool :=
  match r.standIn with
  | .generated _ => true
  | _ => false

theorem Rule.generates_of_function {r : Rule} {n : Nat} (h : r.function? = some n) :
    r.generates = true := by
  rw [Rule.function?] at h
  rw [Rule.generates]
  cases hs : r.standIn with
  | generated source => rfl
  | _ => rw [hs] at h; cases h

/-- What the rule of a validator without generated defaults makes of a value does not depend on
what has been called. -/
theorem Rule.CompilesTo.calls_nothing {r : Rule} {ctx : Strictness} {d : Validator}
    (h : r.CompilesTo ctx d) (hr : ∀ q ∈ r.nodes, q.generates = false) :
    d.CallsWithin noCalls := by
  refine fun v => h.callsAsNeeded noCalls v fun n hn => ?_
  obtain ⟨q, hq, hfunction⟩ := hn.exists_function
  exact absurd ((hr q hq).symm.trans (Rule.generates_of_function hfunction)) Bool.false_ne_true

/-! ### The first stage -/

/-- Stages begin with the shape stage of a rule. -/
def BeginsWith (r : Rule) (stages : List Stage) : Prop :=
  ∃ shape s rest, stages = s :: rest ∧ ShapeOf r shape s

theorem beginsWith_cons {r : Rule} {s : Stage} {rest : List Stage} {shape : Shape}
    (h : ShapeOf r shape s) :
    BeginsWith r (s :: rest) :=
  ⟨shape, s, rest, rfl, h⟩

namespace Rule.CompilesTo

variable {r : Rule} {ctx : Strictness} {d : Validator}

/-- **The first stage** of a validator is the shape stage of its rule, unless the rule forbids
values. -/
theorem head (h : r.CompilesTo ctx d) (hforbidden : r.tag ≠ .forbidden) :
    BeginsWith r d.stages := by
  cases hr : r.tag.isComposite with
  | false =>
    obtain ⟨plan, s, rest, -, hd, hmade⟩ := h.planned hr hforbidden
    rw [hd.stages]
    exact beginsWith_cons hmade.shape
  | true =>
    cases r with
    | array c items o =>
      obtain ⟨_, _, _, _, _, _, _, _, hshape, _, _, _, hd⟩ := h.array
      rw [hd.stages]
      exact beginsWith_cons hshape
    | object c props o =>
      obtain ⟨_, _, _, _, _, _, hshape, _, hd⟩ := h.object
      rw [hd.stages]
      exact beginsWith_cons hshape
    | multi c branches =>
      obtain ⟨_, _, _, _, _, hshape, hd⟩ := h.multi
      rw [hd.stages]
      exact beginsWith_cons hshape
    | tuple c slots =>
      obtain ⟨_, _, _, _, _, hshape, hd⟩ := h.tuple
      rw [hd.stages]
      exact beginsWith_cons hshape
    | record c key value =>
      obtain ⟨_, _, _, _, _, _, _, _, _, hshape, hd⟩ := h.record
      rw [hd.stages]
      exact beginsWith_cons hshape
    | _ => cases hr

/-- A validator knows whether its rule requires a value. -/
theorem required_eq (h : r.CompilesTo ctx d) : d.required = r.isRequired := by
  obtain ⟨path, t, u, h⟩ := h
  obtain ⟨x, hx⟩ : ∃ x, compileRule Treatments.usual r ctx path = treat .standard r path x := by
    cases r <;> exact ⟨_, rfl⟩
  rw [hx] at h
  obtain ⟨stages, _, _, hd⟩ := treat_ok h
  exact hd.required

/-- A fixed default has passed every stage. -/
theorem default_accepted (h : r.CompilesTo ctx d) {v : Value} (hv : r.standIn = .fixed v) :
    ∃ w, d.Gives .absent w := by
  obtain ⟨path, t, u, h⟩ := h
  obtain ⟨x, hx⟩ : ∃ x, compileRule Treatments.usual r ctx path = treat .standard r path x := by
    cases r <;> exact ⟨_, rfl⟩
  rw [hx] at h
  obtain ⟨stages, _, _, h⟩ := bind_ok h
  obtain ⟨d', _, _, h⟩ := bind_ok h
  obtain ⟨_, _, hcheck, h⟩ := bind_ok h
  rw [(pure_ok h).1]
  rw [checkWholeDefault, hv] at hcheck
  obtain ⟨w, s, hw, _⟩ := bind_ok hcheck
  exact ⟨w, _, s, mapReason_ok hw⟩

end Rule.CompilesTo

/-! ### Absent values -/

/-- Nothing replaces an absent value without a default. -/
theorem Rule.standIn_none {r : Rule} (hr : r.common.default? = none) : r.standIn = .none := by
  cases r <;> simp only [Rule.common] at hr <;>
    simp only [Rule.standIn, CommonOptions.standIn, Rule.common, hr]

/-- A default replaces an absent value as it is, or is called for what does. -/
theorem Rule.standIn_default {r : Rule} {v : Value} (hr : r.common.default? = some v) :
    r.standIn = .generated v ∨ r.standIn = .fixed v := by
  cases r <;> simp only [Rule.common] at hr <;>
    simp only [Rule.standIn, CommonOptions.standIn, Rule.common, hr] <;>
    split <;> simp

/-- A default that is not generated replaces an absent value as it is. -/
theorem Rule.standIn_fixed {r : Rule} {v : Value} (hr : r.common.default? = some v)
    (hg : r.generates = false) : r.standIn = .fixed v := by
  refine (Rule.standIn_default hr).resolve_left fun h => ?_
  rw [Rule.generates, h] at hg
  cases hg

/-- A shape stage without a default has an absent value to decide. -/
theorem present_standIn_none {r : Rule} (hr : r.common.default? = none) :
    (r.present .absent : Eval StageRejection Value) = pure .absent := by
  rw [Rule.present, Rule.standIn_none hr]
  rfl

/-- A shape stage decides an absent value that stays absent by the flag of its rule. -/
theorem runShape_absent {r : Rule} (check : Step)
    (hr : (r.present .absent : Eval StageRejection Value) = pure .absent) :
    runShape r check .absent
      = if r.common.optional then pure .absent else failCheck "required" "Value is required" := by
  rw [runShape, hr]
  rfl

/-- Nothing is asked of an absent value that the first stage lets through. -/
theorem validate_absent {d : Validator} {s : Stage} {rest : List Stage} (hd : d.stages = s :: rest)
    (hs : s.kind = .shape) (hrun : s.run .absent = pure .absent) :
    d.validate .absent = pure .absent := by
  rw [Validator.validate, hd, Validator.runStages, hrun, hs]
  rfl

namespace Rule.CompilesTo

variable {r : Rule} {ctx : Strictness} {d : Validator}

/-- A rule that forbids values accepts an absent one. -/
theorem forbidden_absent {c : CommonOptions} {remove : Bool}
    (h : (Rule.forbidden c remove).CompilesTo ctx d) : d.validate .absent = pure .absent := by
  obtain ⟨path, t, u, stages, hs, hd⟩ := h.simple rfl
  cases remove with
  | true => exact validate_absent (hd.stages.trans (pure_ok hs).1) rfl rfl
  | false =>
    obtain ⟨_, _, _, hs⟩ := bind_ok hs
    exact validate_absent (hd.stages.trans (pure_ok hs).1) rfl rfl

/-- **The flag of a rule** decides an absent value that stays absent. -/
theorem absent_stays (h : r.CompilesTo ctx d) (hforbidden : r.tag ≠ .forbidden)
    (hstays : (r.present .absent : Eval StageRejection Value) = pure .absent) :
    d.validate .absent = if r.common.optional then pure .absent
      else .reject (Validator.located d.tag .shape
        (.failure "Value is required" "required" [])) := by
  obtain ⟨shape, s, rest, hstages, hs⟩ := h.head hforbidden
  have hrun := runShape_absent shape.check hstays
  rw [← hs.run] at hrun
  by_cases hoptional : r.common.optional = true
  · rw [if_pos hoptional] at hrun ⊢
    exact validate_absent hstages hs.kind hrun
  · rw [if_neg hoptional] at hrun ⊢
    rw [Validator.validate, hstages, Validator.runStages, hrun, hs.kind]
    rfl

/-- **Without a default** the flag of a rule decides an absent value. -/
theorem absent_eq (h : r.CompilesTo ctx d) (hforbidden : r.tag ≠ .forbidden)
    (hdefault : r.common.default? = none) :
    d.validate .absent = if r.common.optional then pure .absent
      else .reject (Validator.located d.tag .shape
        (.failure "Value is required" "required" [])) :=
  h.absent_stays hforbidden (present_standIn_none hdefault)

/-- A rule without a default that requires no value is optional. -/
theorem optional_of_default (h : r.CompilesTo ctx d) (hforbidden : r.tag ≠ .forbidden)
    (hdefault : r.common.default? = none) (hrequired : d.required = false) :
    r.common.optional = true := by
  have hrule := h.required_eq.symm.trans hrequired
  cases r <;> first
    | exact absurd rfl hforbidden
    | simpa [Rule.isRequired, Rule.hasDefault, hdefault] using hrule

/-- **An absent value is accepted** where no value is required. -/
theorem absent_accepted (h : r.CompilesTo ctx d) (hr : r.generates = false)
    (hrequired : d.required = false) : ∃ w, d.Gives .absent w := by
  by_cases hforbidden : r.tag = .forbidden
  · obtain ⟨c, remove, rfl⟩ := Rule.eq_forbidden hforbidden
    exact ⟨.absent, [], [], by rw [h.forbidden_absent]; rfl⟩
  cases hdefault : r.common.default? with
  | some v => exact h.default_accepted (Rule.standIn_fixed hdefault hr)
  | none =>
    have hoptional := h.optional_of_default hforbidden hdefault hrequired
    refine ⟨.absent, [], [], ?_⟩
    rw [h.absent_eq hforbidden hdefault, if_pos hoptional]
    rfl

/-- **An absent value is rejected** where a value is required, as one that is required. -/
theorem absent_rejected (h : r.CompilesTo ctx d) (hrequired : d.required = true) :
    ∃ e : PayloadError, d.validate .absent = .reject e ∧ e.path = [] ∧
      e.check = some "required" := by
  have hrule := h.required_eq.symm.trans hrequired
  obtain ⟨hforbidden, hoptional, hdefault⟩ : r.tag ≠ .forbidden ∧ r.common.optional = false ∧
      r.common.default? = none := by
    cases r <;> first
      | cases hrule
      | simpa [Rule.isRequired, Rule.hasDefault, Rule.tag] using hrule
  rw [h.absent_eq hforbidden hdefault, hoptional, if_neg Bool.false_ne_true]
  exact ⟨_, rfl, rfl, rfl⟩

end Rule.CompilesTo

end RuleSchema
