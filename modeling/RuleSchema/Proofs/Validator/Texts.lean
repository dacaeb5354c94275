import RuleSchema.Proofs.Validator.Absent
import RuleSchema.Proofs.Validator.Runs

/-!
# Texts in validators

A rule whose values are texts lets every text through its shape stage.  After it there are stages
that change the text, and stages of checks, each of which tests it for some property; no stage of
either sort meets a fault.  So a text is accepted, and turned into another, just if it has the
properties that are tested for, and it is rejected outright if not.

* `Eval.GivesIf`: an evaluation has a result under a condition, and is rejected outside it.
* `ChecksAsk`: what some checks ask of a text, with lemmas for one check, some, and optional ones.
* `runStages_changes` and `runStages_asks`: a stage of changes, and one of checks.
* `validate_text`: **what the stages after the shape stage do with a text** is what the validator
  does.
* `checkedStages`: the stages of a rule that makes one check.
* `compilesTo_of_check` and `validate_checked`: **such a rule compiles, and accepts what its check
  lets through.**
-/

namespace RuleSchema

open Eval

/-! ### Results under a condition -/

/-- An evaluation gives `a` if `P` holds, and is rejected if not. -/
structure Eval.GivesIf {ρ α : Type} (x : Eval ρ α) (a : α) (P : Prop) : Prop where
  accepts : P → x = pure a
  rejects : ¬ P → ∃ e, x = .reject e

section

variable {ρ σ α β : Type} {x : Eval ρ α} {a : α} {P Q : Prop}

theorem Eval.GivesIf.congr (h : x.GivesIf a P) (hPQ : Q ↔ P) : x.GivesIf a Q :=
  ⟨fun hQ => h.accepts (hPQ.mp hQ), fun hQ => h.rejects (mt hPQ.mpr hQ)⟩

theorem givesIf_pure (a : α) : (pure a : Eval ρ α).GivesIf a True :=
  ⟨fun _ => rfl, fun h => absurd trivial h⟩

theorem Eval.GivesIf.mapReason (h : x.GivesIf a P) (f : ρ → σ) :
    (Eval.mapReason f x).GivesIf a P := by
  refine ⟨fun hP => by rw [h.accepts hP]; rfl, fun hP => ?_⟩
  obtain ⟨e, he⟩ := h.rejects hP
  exact ⟨f e, by rw [he]; rfl⟩

/-- One evaluation after another. -/
theorem Eval.GivesIf.bind {f : α → Eval ρ β} {b : β} (h : x.GivesIf a P)
    (hf : (f a).GivesIf b Q) : (x >>= f).GivesIf b (P ∧ Q) := by
  by_cases hP : P
  · have hrun : x >>= f = f a := by rw [h.accepts hP]; rfl
    rw [hrun]
    exact hf.congr (and_iff_right hP)
  · obtain ⟨e, he⟩ := h.rejects hP
    exact ⟨fun hPQ => absurd hPQ.1 hP, fun _ => ⟨e, by rw [he]; rfl⟩⟩

end

/-! ### What checks ask of a text -/

/-- Some checks let a text through just if `P` holds. -/
abbrev ChecksAsk (checks : List Check) (s : String) (P : Prop) : Prop :=
  (Stage.runChecks checks (.text s)).GivesIf (.text s) P

section

variable {α : Type} {c : Check} {cs ds : List Check} {s : String} {P Q : Prop}

theorem asks_none : ChecksAsk [] s True := givesIf_pure _

/-- A check that comes to a result. -/
theorem asks_one {b : Bool} (h : c.test (.text s) = .ok b) : ChecksAsk [c] s (b = true) := by
  rw [ChecksAsk, Stage.runChecks, h]
  cases b with
  | true => exact (givesIf_pure _).congr (iff_of_true rfl trivial)
  | false => exact ⟨fun h => absurd h Bool.false_ne_true, fun _ => ⟨_, rfl⟩⟩

theorem runChecks_append : ∀ {cs : List Check} {v : Value},
    Stage.runChecks (cs ++ ds) v = Stage.runChecks cs v >>= Stage.runChecks ds := by
  intro cs v
  induction cs with
  | nil => rfl
  | cons c cs ih =>
    rw [List.cons_append, Stage.runChecks, Stage.runChecks, bind_assoc]
    refine congrArg _ (funext fun b => ?_)
    cases b with
    | true => exact ih
    | false => rfl

theorem asks_append (h : ChecksAsk cs s P) (h' : ChecksAsk ds s Q) :
    ChecksAsk (cs ++ ds) s (P ∧ Q) := by
  rw [ChecksAsk, runChecks_append]
  exact h.bind h'

/-- A check that is made if an option is set. -/
theorem asks_option {f : α → Check} {x? : Option α} {P : α → Prop}
    (h : ∀ x, ChecksAsk [f x] s (P x)) :
    ChecksAsk (x?.map f).toList s (∀ x, x? = some x → P x) := by
  cases x? with
  | none => exact asks_none.congr (iff_true_intro fun x hx => nomatch hx)
  | some x => exact (h x).congr (by simp)

/-- A check that is made under a condition. -/
theorem asks_ite {b : Prop} [Decidable b] (h : ChecksAsk [c] s P) :
    ChecksAsk (if b then [c] else []) s (b → P) := by
  by_cases hb : b
  · rw [if_pos hb]
    exact h.congr (imp_iff_right hb)
  · rw [if_neg hb]
    exact asks_none.congr (iff_true_intro fun h => absurd h hb)

/-- One check for each of some things. -/
theorem asks_each {xs : List α} {P : α → Prop}
    (h : List.Forall₂ (fun x c => ChecksAsk [c] s (P x)) xs cs) :
    ChecksAsk cs s (∀ x ∈ xs, P x) := by
  induction h with
  | nil => exact asks_none.congr (iff_true_intro fun x hx => absurd hx List.not_mem_nil)
  | cons hx _ ih => exact (asks_append hx ih).congr List.forall_mem_cons

end

/-! ### Stages -/

section

variable {r : Rule} {ctx : Strictness} {d : Validator} {tag : Tag} {kind : StageKind} {s : Stage}
  {stages more : List Stage} {c : Check} {checks : List Check} {name text : String} {w : Value}
  {P Q : Prop}

theorem text_unsettled (kind : StageKind) (text : String) :
    Validator.isSettled kind (.text text) = false := Bool.and_false _

/-- A text changed by one function after the other. -/
def Text.changed (changes : List (String → String)) (s : String) : String :=
  changes.foldl (fun s f => f s) s

theorem runTransforms_texts (changes : List (String → String)) (text : String) :
    Stage.runTransforms (changes.map mapText) (.text text)
      = pure (.text (Text.changed changes text)) := by
  induction changes generalizing text with
  | nil => rfl
  | cons f changes ih => exact ih (f text)

/-- **A stage of changes** changes a text. -/
theorem runStages_changes (kind : StageKind) (name : String) (changes : List (String → String))
    (text : String) : Validator.runStages tag
        (transformStages kind name (changes.map mapText) ++ more) (.text text)
      = Validator.runStages tag more (.text (Text.changed changes text)) := by
  cases changes with
  | nil => rfl
  | cons f changes =>
    have hrun := runTransforms_texts (f :: changes) text
    change (Eval.mapReason _ (Stage.runTransforms ((f :: changes).map mapText) (.text text)) >>=
      _) = _
    rw [hrun]
    change (if Validator.isSettled kind _ = true then _ else _) = _
    rw [text_unsettled, if_neg Bool.false_ne_true]
    rfl

/-- **A stage of checks** lets a text through if the checks do. -/
theorem runStages_asks (h : ChecksOf kind checks stages) (hchecks : ChecksAsk checks text P)
    (hmore : (Validator.runStages tag more (.text text)).GivesIf w Q) :
    (Validator.runStages tag (stages ++ more) (.text text)).GivesIf w (P ∧ Q) := by
  cases h with
  | none hnil =>
    rw [hnil] at hchecks
    have hP : P := by
      by_contra hP
      obtain ⟨e, he⟩ := hchecks.rejects hP
      exact nomatch (congrFun he [])
    exact hmore.congr (and_iff_right hP)
  | one _ hrun _ =>
    rw [List.singleton_append, Validator.runStages, hrun]
    refine (hchecks.mapReason _).bind ?_
    rw [text_unsettled, if_neg Bool.false_ne_true]
    exact hmore

/-- **A text passes the shape stage** of a rule for texts, whatever the options are that every rule
has; the stages after it decide. -/
theorem validate_text (hstages : d.stages = s :: more) (hs : ShapeOf r (textShape r) s)
    (text : String) : d.validate (.text text) = Validator.runStages d.tag more (.text text) := by
  have hread : textStep r.tag r.common.convert (.text text) = pure (.text text) := by
    cases hconvert : r.common.convert <;> rfl
  have hrun : s.run (.text text) = pure (.text text) := by
    rw [hs.run]
    exact hread
  rw [Validator.validate, hstages, Validator.runStages, hrun, mapReason_pure, pure_bind,
    text_unsettled, if_neg Bool.false_ne_true]

/-! ### Rules that make one check -/

/-- The stages of a rule for texts that makes one check. -/
def checkedStages (r : Rule) (kind : StageKind) (name : String) (c : Check) (path : String) :
    Eval RuleError (List Stage) := do
  let shape ← shapeStage r path (textShape r)
  return shape :: (← checkStages kind name [c])

theorem shapeStage_text (hdefault : r.common.default? = none) (path : String) (t : Tally) :
    ∃ s, shapeStage r path (textShape r) t = (.ok s, t) ∧ s.kind = .shape := by
  have hschema : ∃ schema, shapeSchema r (textShape r).schema = .ok schema := by
    rw [shapeSchema, shownDefault?, hdefault]
    cases r.common.nullable <;> exact ⟨_, rfl⟩
  obtain ⟨schema, hschema⟩ := hschema
  rw [shapeStage, checkDefault, Rule.standIn_none hdefault, hschema]
  exact ⟨_, rfl, rfl⟩

/-- A check whose schema is one keyword makes a stage. -/
theorem checkStages_keyword {key : String} {v : Value} (hc : c.schema = keyword key v)
    (kind : StageKind) (name : String) (t : Tally) :
    ∃ s, checkStages kind name [c] t = (.ok [s], t) := by
  obtain ⟨label, test, message, schema⟩ := c
  obtain rfl : schema = keyword key v := hc
  exact ⟨_, rfl⟩

/-- A shape stage and another one make a validator. -/
theorem compose_shape (hs : s.kind = .shape) (s' : Stage) (tag : Tag) (description? : Option String)
    (isRequired : Bool) :
    ∃ d, Validator.compose [s, s'] tag description? isRequired = .ok d := by
  have hlater : ¬ s'.kind.rank < StageKind.shape.rank := Nat.not_lt_zero _
  rw [Validator.compose, if_neg (not_not.mpr hs), Validator.misplaced?, hs, if_neg hlater]
  exact ⟨_, rfl⟩

/-- **A rule that makes one check compiles** without a default, if the schema of the check is one
keyword. -/
theorem compilesTo_of_check {path key : String} {v : Value} (hr : r.tag.isComposite = false)
    (hdefault : r.common.default? = none)
    (h : scalarStages r path = checkedStages r kind name c path)
    (hc : c.schema = keyword key v) : ∃ d, r.CompilesTo ctx d := by
  obtain ⟨shape, hshape, hkind⟩ := shapeStage_text hdefault path []
  obtain ⟨tests, htests⟩ := checkStages_keyword hc kind name []
  obtain ⟨d, hd⟩ := compose_shape hkind tests r.tag r.common.description? r.isRequired
  have hstages : scalarStages r path [] = (.ok [shape, tests], []) := by
    rw [h, checkedStages, bind_of_ok hshape, bind_of_ok htests]
    rfl
  have hcheck : checkWholeDefault r d path = pure () := by
    rw [checkWholeDefault, Rule.standIn_none hdefault]
  refine ⟨d, path, [], [], ?_⟩
  rw [compileRule_scalar hr]
  refine (bind_of_ok hstages).trans ?_
  rw [finishValidator, hd]
  change (checkWholeDefault r d path >>= fun _ => pure d) [] = _
  rw [hcheck]
  rfl

/-- **A rule that makes one check** accepts a text just if the check lets it through. -/
theorem validate_checked (hr : r.tag.isComposite = false)
    (h : ∀ path, scalarStages r path = checkedStages r kind name c path)
    (hd : r.CompilesTo ctx d) (hc : ChecksAsk [c] text P) :
    (d.validate (.text text)).GivesIf (.text text) P := by
  obtain ⟨path, t, u, stages, hstages, hmade⟩ := hd.simple hr
  rw [h, checkedStages] at hstages
  obtain ⟨shape, _, hshape, hstages⟩ := bind_ok hstages
  obtain ⟨tests, _, htests, hstages⟩ := bind_ok hstages
  rw [validate_text (hmade.stages.trans (pure_ok hstages).1) (shapeStage_ok hshape),
    ← List.append_nil tests]
  exact (runStages_asks (checkStages_ok htests) hc (givesIf_pure _)).congr
    (and_iff_left trivial).symm

end

end RuleSchema
