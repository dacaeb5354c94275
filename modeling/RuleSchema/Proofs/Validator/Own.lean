import RuleSchema.Proofs.Validator.Runs

/-!
# Rejections for a value itself

A stage rejects a value for one of its parts, or for the value itself: then a check has failed,
and the rejection names that check and no place.  All steps and all checks of rules without rules
inside reject values for themselves, and no check but that for presence has the name of that one.

* `StageRejection.IsOwn` are these rejections, and `Step.RejectsOwn` says that a step has no others.
* `ChecksOf.own`: stages of checks whose names are qualified.
* `stringChecks_qualified`, `numberChecks_qualified`, `sizeChecks_qualified` and so on: the names
  of the checks of each type.
-/

namespace RuleSchema

open Eval

/-! ### Rejections for the value itself -/

/-- A failed check of the value itself, other than that there is one. -/
inductive StageRejection.IsOwn : StageRejection → Prop
  | failure {message check : String} {details : Entries Value} : check ≠ "required" →
      (∀ e ∈ details, PayloadError.isOwnKey e.1 = false) → IsOwn (.failure message check details)

/-- A check that does not go by the name of the one for presence. -/
def Check.IsQualified (c : Check) : Prop := c.name ≠ "required"

instance (c : Check) : Decidable c.IsQualified :=
  inferInstanceAs (Decidable (c.name ≠ "required"))

/-- A step that rejects a value for itself alone. -/
def Step.RejectsOwn (step : Step) : Prop :=
  ∀ v t u f, step v t = (.error (.rejected f), u) → f.IsOwn

section

variable {check message : String} {kind : StageKind} {checks : List Check} {stages : List Stage}
  {step : Step}

theorem failCheck_own {α : Type} {t u : Tally} {f : StageRejection} (hcheck : check ≠ "required")
    (h : (failCheck check message : Eval StageRejection α) t = (.error (.rejected f), u)) :
    f.IsOwn := by
  rw [reject_rejected h]
  exact .failure hcheck fun e he => absurd he List.not_mem_nil

theorem pure_own : Step.RejectsOwn pure := fun _ _ _ _ h => absurd h pure_rejected

theorem testStep_own {b : Value → Bool} (hcheck : check ≠ "required") :
    Step.RejectsOwn fun v => if b v then pure v else failCheck check message := by
  intro v t u f h
  by_cases hb : b v = true
  · simp only [hb, if_true] at h
    exact absurd h pure_rejected
  · simp only [hb, Bool.false_eq_true, if_false] at h
    exact failCheck_own hcheck h

theorem runChecks_own : ∀ {cs : List Check}, (∀ c ∈ cs, c.IsQualified) →
    Step.RejectsOwn (Stage.runChecks cs) := by
  intro cs
  induction cs with
  | nil => exact fun _ => pure_own
  | cons c cs ih =>
    intro hcs v t u f h
    obtain ⟨hc, hcs⟩ := List.forall_mem_cons.mp hcs
    rcases bind_rejected h with h | ⟨b, s, -, h⟩
    · exact absurd h ofFault_rejected
    · cases b with
      | true => exact ih hcs v s u f h
      | false => exact failCheck_own hc h

theorem ChecksOf.own (h : ChecksOf kind checks stages) (hchecks : ∀ c ∈ checks, c.IsQualified) :
    ∀ s ∈ stages, Step.RejectsOwn s.run := by
  intro s hs
  rw [h.run_eq s hs]
  exact runChecks_own hchecks

/-- Changes reject nothing. -/
theorem runTransforms_own (fs : List Transform) : Step.RejectsOwn (Stage.runTransforms fs) :=
  fun _ _ _ _ h => absurd h ofFault_rejected

theorem ChangesOf.own {fs : List Transform} (h : ChangesOf kind fs stages) :
    ∀ s ∈ stages, Step.RejectsOwn s.run := by
  obtain ⟨name, rfl⟩ := h
  intro s hs
  rw [transformStages] at hs
  split at hs
  · exact absurd hs List.not_mem_nil
  · rw [List.mem_singleton.mp hs]
    exact runTransforms_own fs

/-! ### Steps -/

theorem readStep_own {α : Type} {reader : ScalarReader α} {toValue : α → Value}
    (hcheck : check ≠ "required") : Step.RejectsOwn (readStep check reader toValue) := by
  intro v t u f h
  rw [readStep] at h
  cases hv : reader v with
  | ok a => rw [hv] at h; exact absurd h pure_rejected
  | error p => rw [hv] at h; exact failCheck_own hcheck h

theorem textStep_own (tag : Tag) (convert : Bool) : Step.RejectsOwn (textStep tag convert) :=
  readStep_own (by cases tag <;> decide)

theorem instantStep_own (convert : Bool) : Step.RejectsOwn (instantStep convert) := by
  intro v t u f h
  rw [instantStep] at h
  cases hi : if convert then Instant.read v else Instant.strict v with
  | ok i => rw [hi] at h; exact absurd h pure_rejected
  | error p => rw [hi] at h; exact failCheck_own (by decide) h

theorem emailStep_own (convert trimming : Bool) : Step.RejectsOwn (emailStep convert trimming) := by
  intro v t u f h
  rcases bind_rejected h with h | ⟨x, s, -, h⟩
  · exact textStep_own _ _ v t u f h
  · cases hcheck : Email.checkBare trimming ((x.text?).getD "") with
    | ok _ => simp only [hcheck] at h; exact absurd h pure_rejected
    | error p? =>
      simp only [hcheck] at h
      cases p? <;> exact failCheck_own (by decide) h

theorem formattedStep_own (r : Rule) (empty? : Option Bool) (problem? : String → Option String) :
    Step.RejectsOwn (formattedStep r empty? problem?) := by
  intro v t u f h
  rcases bind_rejected h with h | ⟨x, s, -, h⟩
  · exact textStep_own _ _ v t u f h
  · dsimp only at h
    split at h
    · exact absurd h pure_rejected
    · cases hproblem : problem? ((x.text?).getD "") with
      | none => simp only [hproblem] at h; exact absurd h pure_rejected
      | some m =>
        simp only [hproblem] at h
        exact failCheck_own (by cases r.tag <;> decide) h

/-! ### The names of checks -/

theorem option_qualified {α : Type} {f : α → Check} {x? : Option α} (hf : ∀ x, (f x).IsQualified) :
    ∀ c ∈ (x?.map f).toList, c.IsQualified := by
  intro c hc
  obtain ⟨x, -, rfl⟩ := Option.map_eq_some_iff.mp (Option.mem_toList.mp hc)
  exact hf x

theorem flag_qualified {b : Prop} [Decidable b] {c : Check} (hc : c.IsQualified) :
    ∀ c' ∈ (if b then [c] else []), c'.IsQualified := by
  intro c' hc'
  split at hc'
  · rw [List.mem_singleton.mp hc']
    exact hc
  · exact absurd hc' List.not_mem_nil

theorem option_mapM_qualified {α : Type} {f : α → Except Fault Check} {x? : Option α}
    {cs : List Check} (hf : ∀ {x c}, f x = .ok c → c.IsQualified) (h : x?.toList.mapM f = .ok cs) :
    ∀ c ∈ cs, c.IsQualified := by
  rcases option_mapM_ok h with ⟨-, rfl⟩ | ⟨x, c, -, hc, rfl⟩
  · exact fun c hc => absurd hc List.not_mem_nil
  · exact List.forall_mem_singleton.mpr (hf hc)

theorem append_qualified {cs ds : List Check} (hcs : ∀ c ∈ cs, c.IsQualified)
    (hds : ∀ c ∈ ds, c.IsQualified) : ∀ c ∈ cs ++ ds, c.IsQualified :=
  List.forall_mem_append.mpr ⟨hcs, hds⟩

theorem notBlank_qualified (tag : Tag) : (notBlank tag).IsQualified := by
  cases tag <;> decide

theorem lengthChecks_qualified (tag : Tag) (empty? : Option Bool) (min? max? : Option Nat) :
    ∀ c ∈ lengthChecks tag empty? min? max?, c.IsQualified := by
  refine append_qualified (append_qualified (flag_qualified (notBlank_qualified tag)) ?_) ?_
  · refine option_qualified fun n => ?_
    change tag.name ++ ".min" ≠ "required"
    cases tag <;> decide
  · refine option_qualified fun n => ?_
    change tag.name ++ ".max" ≠ "required"
    cases tag <;> decide

theorem charset_qualified {path : String} {k : Charset} {c : Check} {t u : Tally}
    (h : charsetCheck path k t = (.ok c, u)) : c.IsQualified := by
  obtain ⟨p, s, _, h⟩ := bind_ok h
  rw [(pure_ok h).1]
  change "string." ++ k.name ≠ "required"
  cases k <;> decide

theorem stringChecks_qualified {o : StringOptions} {path : String} {t u : Tally}
    {checks : List Check} (h : o.checks path t = (.ok checks, u)) :
    ∀ c ∈ checks, c.IsQualified := by
  obtain ⟨pattern, classes, choices, hpattern, hclasses, hchoices, rfl⟩ := stringChecks_ok h
  have hlength : ∀ c ∈ (o.length?.map exactLength).toList, c.IsQualified :=
    option_qualified fun _ => (by decide : "string.length" ≠ "required")
  have hpart : ∀ c ∈ (o.contains?.map containsText).toList, c.IsQualified :=
    option_qualified fun _ => (by decide : "string.contains" ≠ "required")
  have hpattern : ∀ c ∈ pattern, c.IsQualified := by
    cases hpattern with
    | none => exact fun c hc => absurd hc List.not_mem_nil
    | some _ _ => exact List.forall_mem_singleton.mpr (by decide : "string.pattern" ≠ "required")
  have hclasses : ∀ c ∈ classes, c.IsQualified := by
    intro c hc
    obtain ⟨k, -, s, s', hk⟩ := exists_of_mem_right hclasses hc
    exact charset_qualified hk
  have hchoices : ∀ c ∈ choices, c.IsQualified := by
    cases hchoices with
    | none => exact fun c hc => absurd hc List.not_mem_nil
    | some _ hone =>
      obtain ⟨p, s, _, hone⟩ := bind_ok hone
      rw [(pure_ok hone).1]
      exact List.forall_mem_singleton.mpr (by decide : "string.enum" ≠ "required")
  have hlengths := append_qualified (lengthChecks_qualified .string o.empty? o.min? o.max?) hlength
  exact append_qualified (append_qualified (append_qualified (append_qualified hlengths hpattern)
    hpart) hclasses) hchoices

theorem numberChecks_qualified (o : NumberOptions) : ∀ c ∈ o.checks, c.IsQualified := by
  unfold NumberOptions.checks
  refine append_qualified (append_qualified (append_qualified ?_ (flag_qualified (by decide)))
    (flag_qualified (by decide))) (flag_qualified (by decide))
  cases o.equal? with
  | some n => exact List.forall_mem_singleton.mpr (by decide : "number.equal" ≠ "required")
  | none =>
    exact append_qualified
      (option_qualified fun _ => (by decide : "number.min" ≠ "required"))
      (option_qualified fun _ => (by decide : "number.max" ≠ "required"))

theorem differentChecks_qualified (n? : Option Number) :
    ∀ c ∈ (n?.map differentFromNumber).toList, c.IsQualified :=
  option_qualified fun _ => (by decide : "number.not_equal" ≠ "required")

theorem sizeChecks_qualified (o : ArrayOptions) : ∀ c ∈ o.sizeChecks, c.IsQualified := by
  have hitems : ∀ c ∈ (if o.empty? = some true then [] else [hasItems]), c.IsQualified := by
    split
    · exact fun c hc => absurd hc List.not_mem_nil
    · exact List.forall_mem_singleton.mpr (by decide)
  exact append_qualified (append_qualified (append_qualified hitems
    (option_qualified fun _ => (by decide : "array.length" ≠ "required")))
    (option_qualified fun _ => (by decide : "array.min" ≠ "required")))
    (option_qualified fun _ => (by decide : "array.max" ≠ "required"))

theorem contentChecks_qualified {o : ArrayOptions} {checks : List Check}
    (h : o.contentChecks = .ok checks) : ∀ c ∈ checks, c.IsQualified := by
  obtain ⟨wanted, hwanted, h⟩ := except_bind_ok h
  obtain ⟨choices, hchoices, h⟩ := except_bind_ok h
  cases h
  have hcontains : ∀ {x : Value} {c : Check}, containsCheck x = .ok c → c.IsQualified := by
    intro x c hc
    have hname : c.name = "array.contains" := by
      cases x <;> (obtain ⟨schema, -, hc⟩ := except_bind_ok hc; cases hc; rfl)
    rw [Check.IsQualified, hname]
    decide
  have hamong : ∀ {xs : List Value} {c : Check}, itemsAmong xs = .ok c → c.IsQualified := by
    intro xs c hc
    obtain ⟨schema, -, hc⟩ := except_bind_ok hc
    cases hc
    exact (by decide : "array.enum" ≠ "required")
  exact append_qualified (append_qualified (option_mapM_qualified hcontains hwanted)
    (flag_qualified (by decide))) (option_mapM_qualified hamong hchoices)

theorem propertyChecks_qualified (o : ObjectOptions) :
    ∀ c ∈ (o.minProps?.map minProperties).toList ++ (o.maxProps?.map maxProperties).toList,
      c.IsQualified :=
  append_qualified (option_qualified fun _ => (by decide : "object.min_props" ≠ "required"))
    (option_qualified fun _ => (by decide : "object.max_props" ≠ "required"))

/-- The stages of a rule that forbids values. -/
theorem forbiddenStages_own {remove : Bool} {t u : Tally}
    (h : forbiddenStages remove t = (.ok stages, u)) : ∀ s ∈ stages, Step.RejectsOwn s.run := by
  have hshape : Step.RejectsOwn fun v => pure (if v.isNull then .absent else v) :=
    fun _ _ _ _ h => absurd h pure_rejected
  cases remove with
  | true =>
    rw [(pure_ok h).1]
    exact List.forall_mem_cons.mpr
      ⟨hshape, List.forall_mem_singleton.mpr (runTransforms_own [fun _ => .ok .absent])⟩
  | false =>
    obtain ⟨ss, _, hss, h⟩ := bind_ok h
    rw [(pure_ok h).1]
    exact List.forall_mem_cons.mpr ⟨hshape, (checkStages_ok hss).own
      (List.forall_mem_singleton.mpr (by decide : "forbidden.present" ≠ "required"))⟩

end

end RuleSchema
