import RuleSchema.Proofs.Export.Arrays

/-!
# Choices that narrow the items

The choices for the items of an array are shown as a schema of the items, next to the one
of the rule of the items.  The two are the same only if that rule is a choice between the
same values, and shows nothing else.

* `Rule.showsChoices` says so of a rule, in terms of what is written in it.
* `CompilesTo.schema_equals_choices` is the same in terms of its schema.
-/

namespace RuleSchema

open Eval Schema

/-- Whether a rule shows that a value is one of some, and nothing else. -/
def Rule.showsChoices (forms : List Value) : Rule → Bool
  | .enum c values =>
    (match c.description? with
      | some text => text = ""
      | none => true) &&
    (match shownDefault? (.enum c values) with
      | .ok none => true
      | _ => false) &&
    (match (Value.jsonForms values).toOption with
      | some shown => Value.equalsAll shown forms
      | none => false)
  | _ => false

/-! ### The schema of a rule -/

theorem schema_ok {d : Validator} {s : Schema} (h : d.schema = .ok s) :
    ∃ joint fs, joinFragments d.fragments = .ok (joint, fs) ∧ s = d.describe joint := by
  rw [Validator.schema, Validator.export] at h
  cases hj : joinFragments (d.stages.map Stage.schema) with
  | error f => rw [hj] at h; cases h
  | ok p => rw [hj] at h; cases h; exact ⟨p.1, p.2, hj, rfl⟩

/-- A description hides no other keyword. -/
theorem at?_describe {d : Validator} {s : Schema} {n : String} (hn : n ≠ "description") :
    Entries.at? (d.describe s) n = Entries.at? s n := by
  rw [Validator.describe]
  split
  · split
    · rfl
    · exact at?_put_of_ne hn.symm
  · rfl

/-! ### The schema of a choice -/

theorem jsonForm_toOption {v : Value} {form? : Option Value} (h : v.jsonForm? = .ok form?) :
    v.jsonForm.toOption = form? := by
  rw [Value.jsonForm?] at h
  cases hv : v.jsonForm with
  | ok form => rw [hv] at h; cases h; rfl
  | error e => rw [hv] at h; cases e <;> cases h; rfl

theorem jsonForms_toOption (vs : List Value) :
    (Value.list vs).jsonForm.toOption = (Value.jsonForms vs).toOption.map .list := by
  rw [Value.jsonForm]
  cases Value.jsonForms vs <;> rfl

/-- What a choice shows of itself: its default, if that can be shown, and its values. -/
theorem enum_schema {c : CommonOptions} {values : List Value} {ctx : Strictness} {d : Validator}
    {s : Schema} (h : (Rule.enum c values).CompilesTo ctx d) (hs : d.schema = .ok s) :
    ∃ d?, shownDefault? (.enum c values) = .ok d? ∧ d.description? = c.description? ∧
      s = d.describe (withDefault [] d? ++ (match (Value.list values).jsonForm.toOption with
        | some form => keyword "enum" form
        | none => [])) := by
  obtain ⟨path, t, u, stages, hstages, hmade⟩ := h.simple rfl
  have hnamed := h.named (by intro htag; cases htag)
  obtain ⟨schema, _, hschema, hstages⟩ := bind_ok hstages
  obtain ⟨shape, _, hshape, hstages⟩ := bind_ok hstages
  obtain ⟨checks, _, hchecks, hstages⟩ := bind_ok hstages
  obtain ⟨s₁, d?, hs₁, hd, hshapeSchema⟩ := shapeSchema_ok (shapeStage_ok hshape).schema
  obtain rfl : s₁ = [] := by
    rcases hs₁ with ⟨_, hs₁⟩ | ⟨_, rfl⟩
    · cases hs₁; rfl
    · rfl
  rw [Validator.schema, Validator.export_apart hnamed] at hs
  refine ⟨d?, hd, hmade.description, (Except.ok.inj hs).symm.trans ?_⟩
  rw [Validator.fragments, hmade.stages, (pure_ok hstages).1, List.map_cons, List.flatten_cons,
    hshapeSchema]
  have hone : Named ([({
      name := "enum.values", test := fun v => .ok (Value.isAmong values v)
      message := "Value must be one of: " ++ Value.displayList values, schema } : Check)].map
        Check.schema).flatten ["enum"] := by
    rw [List.map_singleton, List.flatten_singleton]
    exact shownKeyword_named (ofFault_ok hschema).1
  rw [(checkStages_ok hchecks).schemas_eq hone, List.map_singleton, List.flatten_singleton]
  rcases shownKeyword_ok (ofFault_ok hschema).1 with ⟨rfl, hform⟩ | ⟨form, hform, rfl⟩
  · rw [jsonForm_toOption hform]
  · rw [jsonForm_toOption hform]

/-- The schema of a choice is that of some choices just when it shows them and nothing else. -/
theorem enum_schema_equals {c : CommonOptions} {values : List Value} {ctx : Strictness}
    {d : Validator} {s : Schema} (h : (Rule.enum c values).CompilesTo ctx d)
    (hs : d.schema = .ok s) (forms : List Value) :
    (Value.mapping s).equals (.mapping (keyword "enum" (.list forms)))
      = (Rule.enum c values).showsChoices forms := by
  obtain ⟨d?, hd, hdescription, rfl⟩ := enum_schema h hs
  rw [jsonForms_toOption, Rule.showsChoices, hd]
  cases d? with
  | some v =>
    rw [Bool.and_false, Bool.false_and]
    refine not_equals_keyword (m := "default") (by decide) ?_
    rw [at?_describe (by decide)]
    rfl
  | none =>
    rw [Bool.and_true, withDefault, List.nil_append]
    have hplain : ∀ s : Schema, s = (match (Value.jsonForms values).toOption.map Value.list with
        | some form => keyword "enum" form
        | none => []) →
        (Value.mapping s).equals (.mapping (keyword "enum" (.list forms)))
          = (match (Value.jsonForms values).toOption with
            | some shown => Value.equalsAll shown forms
            | none => false) := by
      rintro _ rfl
      cases (Value.jsonForms values).toOption with
      | none => rfl
      | some shown => exact keyword_equals
    rw [Validator.describe, hdescription]
    cases c.description? with
    | none =>
      rw [Bool.true_and]
      exact hplain _ rfl
    | some text =>
      dsimp only
      by_cases htext : text = ""
      · rw [decide_eq_true htext, Bool.true_and, if_pos htext]
        exact hplain _ rfl
      · rw [decide_eq_false htext, Bool.false_and, if_neg htext]
        exact not_equals_keyword (m := "description") (by decide) (by rw [at?_put_self]; rfl)

theorem Tag.enum_not_mem {t : Tag} (hstring : t ≠ .string) (henum : t ≠ .enum) :
    "enum" ∉ t.keywords := by
  cases t with
  | string => exact absurd rfl hstring
  | enum => exact absurd rfl henum
  | _ => decide

/-- **A schema is that of some choices** just when its rule shows them and nothing else. -/
theorem Rule.CompilesTo.schema_equals_choices {r : Rule} {ctx : Strictness} {d : Validator}
    {s : Schema} (h : r.CompilesTo ctx d) (hs : d.schema = .ok s) (forms : List Value) :
    (Value.mapping s).equals (.mapping (keyword "enum" (.list forms))) = r.showsChoices forms := by
  have htyped : (Entries.at? s "type").isSome →
      (Value.mapping s).equals (.mapping (keyword "enum" (.list forms))) = false :=
    not_equals_keyword (by decide)
  by_cases hcomposite : r.tag = .array
  · cases r with
    | array c items o =>
      obtain ⟨_, _, pre, _, _, htype, hfragments⟩ := h.array_layout
      obtain ⟨joint, fs, hjoin, rfl⟩ := schema_ok hs
      refine htyped ?_
      rw [at?_describe (by decide)]
      rcases hfragments with ⟨hpre, ⟨K, hnamed⟩, _, _⟩ | ⟨rest, hfragments, hlayout, _⟩
      · rw [hpre, joinFragments_apart hnamed] at hjoin
        cases hjoin
        exact htype
      · obtain ⟨K, hnamed⟩ := hlayout.names
        rw [hfragments] at hjoin
        exact joinFragments_keeps hnamed htype hjoin
    | _ => cases hcomposite
  · have hnamed := h.named hcomposite
    have hexport := hs
    rw [Validator.schema, Validator.export_apart hnamed] at hexport
    have hs' : s = d.describe d.fragments.flatten := (Except.ok.inj hexport).symm
    have hother : "enum" ∉ r.tag.keywords →
        (Value.mapping s).equals (.mapping (keyword "enum" (.list forms))) = false := by
      intro henum
      by_contra heq
      obtain ⟨w, hw⟩ := (equals_keyword (Bool.of_not_eq_false heq)).1
      rw [hs', at?_describe (by decide), hnamed.at?_eq_none henum] at hw
      cases hw
    cases r with
    | enum c values =>
      exact enum_schema_equals h hs forms
    | string c o =>
      obtain ⟨shape, _, _, hshape, -, -, hmade⟩ := h.string
      refine htyped ?_
      rw [hs', at?_describe (by decide), Validator.fragments, hmade.stages, List.map_cons,
        List.flatten_cons, at?_append, Option.isSome_or, (hshape.typed (n := "type") rfl).1,
        Bool.true_or]
    | array => exact absurd rfl hcomposite
    | _ => exact hother (Tag.enum_not_mem (by intro h; cases h) (by intro h; cases h))

end RuleSchema
