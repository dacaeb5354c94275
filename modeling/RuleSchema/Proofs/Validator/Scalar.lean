import RuleSchema.Proofs.Validator.Own

/-!
# Rules without rules inside

What such a rule does with a present value is told by its type: a shape stage with the step of the
type, and after it stages that check the value or change it.  All of them reject the value for
itself alone.  Properties of all these rules need the steps alone.

* `scalarStep_own`: what the step of the shape stage rejects for.
* `Rule.isFixed` says that no later stage changes the value.
* `StagePlan.Makes.own` and `StagePlan.Makes.all_checks`: **the stages after the shape stage**.
-/

namespace RuleSchema

open Eval

theorem scalarStep_own (r : Rule) : Step.RejectsOwn r.scalarStep := by
  cases r with
  | string c _ => exact textStep_own _ _
  | number c _ => exact readStep_own (by decide)
  | boolean c => exact readStep_own (by decide)
  | date c => exact instantStep_own _
  | email c o => exact emailStep_own _ _
  | currency c _ => exact textStep_own _ _
  | «class» c k => exact testStep_own (by decide)
  | function c => exact testStep_own (by decide)
  | luhn c => exact textStep_own _ _
  | mac c => exact textStep_own _ _
  | url c empty? => rw [Rule.scalarStep]; exact formattedStep_own _ _ _
  | uuid c empty? => rw [Rule.scalarStep]; exact formattedStep_own _ _ _
  | objectId c identity _ =>
    rw [Rule.scalarStep]
    cases identity.identities? with
    | none => exact pure_own
    | some k => exact testStep_own (by decide)
  | any | enum | equal | forbidden | array | object | multi | tuple | record => exact pure_own

/-- Whether no stage after the shape stage changes a value. -/
def Rule.isFixed : Rule → Bool
  | .string _ o => o.preparation.isEmpty && o.padding.isEmpty
  | .email _ o => !o.normalize
  | .objectId _ _ conversion => conversion = .keep
  | _ => true

/-- A stage of checks. -/
def Stage.Checks (s : Stage) : Prop := ∃ cs, s.run = Stage.runChecks cs

section

variable {r : Rule} {plan : StagePlan} {s : Stage} {rest : List Stage}

/-- No check of a rule is called as the rejection of an absent value is. -/
theorem Rule.PlannedAs.qualified (h : r.PlannedAs plan) :
    (∀ c ∈ plan.checks, c.IsQualified) ∧ ∀ c ∈ plan.others, c.IsQualified := by
  have hnone : ∀ c ∈ ([] : List Check), c.IsQualified := fun c hc => absurd hc List.not_mem_nil
  cases h with
  | string hchecks => exact ⟨stringChecks_qualified hchecks, hnone⟩
  | number => exact ⟨numberChecks_qualified _, differentChecks_qualified _⟩
  | email => exact ⟨lengthChecks_qualified .email _ _ _, hnone⟩
  | currency =>
    exact ⟨List.forall_mem_singleton.mpr (by decide : "currency.pattern" ≠ "required"), hnone⟩
  | enum _ => exact ⟨hnone, List.forall_mem_singleton.mpr (by decide : "enum.values" ≠ "required")⟩
  | equal _ => exact ⟨hnone, List.forall_mem_singleton.mpr (by decide : "equal.value" ≠ "required")⟩
  | luhn => exact ⟨hnone, List.forall_mem_singleton.mpr (by decide : "luhn.checksum" ≠ "required")⟩
  | mac => exact ⟨List.forall_mem_singleton.mpr (by decide : "mac.pattern" ≠ "required"), hnone⟩
  | url => exact ⟨flag_qualified (notBlank_qualified .url), hnone⟩
  | uuid => exact ⟨flag_qualified (notBlank_qualified .uuid), hnone⟩
  | objectId _ =>
    exact ⟨hnone, List.forall_mem_singleton.mpr (by decide : "objectID.valid" ≠ "required")⟩
  | boolean | date | any | «class» | function => exact ⟨hnone, hnone⟩

/-- A rule whose later stages change nothing has no changes in its plan. -/
theorem Rule.PlannedAs.fixed (h : r.PlannedAs plan) (hr : r.isFixed = true) :
    plan.prepared = [] ∧ plan.finished = [] := by
  cases h with
  | string _ => simpa [Rule.isFixed] using hr
  | email =>
    have hnormalize := Bool.not_eq_true' _ ▸ hr
    exact ⟨by rw [hnormalize]; rfl, rfl⟩
  | objectId _ =>
    obtain rfl := of_decide_eq_true hr
    exact ⟨rfl, rfl⟩
  | _ => exact ⟨rfl, rfl⟩

namespace StagePlan.Makes

/-- **The later stages** of a rule without rules inside reject a value for itself. -/
theorem own (h : plan.Makes r s rest) (hplan : r.PlannedAs plan) :
    ∀ s' ∈ rest, Step.RejectsOwn s'.run := by
  obtain ⟨before, checks, others, after, rfl, hbefore, hchecks, hothers, hafter⟩ := h.rest
  simp only [List.forall_mem_append]
  exact ⟨hbefore.own, hchecks.own hplan.qualified.1, hothers.own hplan.qualified.2, hafter.own⟩

/-- **The later stages** of a rule that changes no values are stages of checks. -/
theorem all_checks (h : plan.Makes r s rest) (hplan : r.PlannedAs plan) (hr : r.isFixed = true) :
    ∀ s' ∈ rest, s'.Checks := by
  obtain ⟨before, checks, others, after, rfl, hbefore, hchecks, hothers, hafter⟩ := h.rest
  rw [(hplan.fixed hr).1] at hbefore
  rw [(hplan.fixed hr).2] at hafter
  obtain rfl := hbefore.eq_nil
  obtain rfl := hafter.eq_nil
  simp only [List.forall_mem_append]
  exact ⟨no_stages, hchecks.all_checks, hothers.all_checks, no_stages⟩

end StagePlan.Makes

end

end RuleSchema
