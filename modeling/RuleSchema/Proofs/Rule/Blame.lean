import RuleSchema.Proofs.Calls.Local
import RuleSchema.Proofs.Rule.Respelled

/-!
# Rejections that blame the rule

A compilation is rejected because of the rule: it cannot be read, its default does not pass, one of
its patterns cannot be compiled.  Three kinds of errors would blame the stages that are put together
for it instead.  No rule is rejected with one of them when it is read.

* `RuleError.isAboutStages`: the errors that blame the stages.
* `BlamesRule` says of an outcome that it is no rejection with such an error, and
  `Eval.AlwaysBlamesRule` says so of all runs of an evaluation; each comes with what larger
  evaluations inherit.
* `normalize_blamesRule`: **a rule that cannot be read is to blame for it.**
-/

namespace RuleSchema

open Eval

/-! ### Outcomes -/

/-- Whether an error blames the stages that are put together for a rule. -/
def RuleError.isAboutStages : RuleError → Bool
  | .noStages _ | .shapeNotFirst .. | .stagesOutOfOrder .. => true
  | _ => false

theorem RuleError.isAboutStages_iff (e : RuleError) : e.isAboutStages = true ↔
    e.kind = "EmptyPipelineError" ∨ e.kind = "PipelineOrderError" := by
  cases e <;> simp [isAboutStages, kind]

/-- The outcome is no rejection that blames the stages. -/
inductive BlamesRule {α : Type} : Except (Stop RuleError) α → Prop
  | result {a : α} : BlamesRule (.ok a)
  | rejected {e : RuleError} : e.isAboutStages = false → BlamesRule (.error (.rejected e))
  | fault {f : Fault} : BlamesRule (.error (.fault f))

section

variable {ρ α β : Type}

theorem BlamesRule.bind {x : Except (Stop RuleError) α} {f : α → Except (Stop RuleError) β}
    (hx : BlamesRule x) (hf : ∀ a, x = .ok a → BlamesRule (f a)) : BlamesRule (x >>= f) := by
  cases hx with
  | result => exact hf _ rfl
  | rejected h => exact .rejected h
  | fault => exact .fault

/-- No run of the evaluation is rejected with an error that blames the stages. -/
def Eval.AlwaysBlamesRule (x : Eval RuleError α) : Prop := ∀ t, BlamesRule (x.outcome t)

namespace Eval.AlwaysBlamesRule

theorem pure {a : α} : AlwaysBlamesRule (Pure.pure a : Eval RuleError α) := fun _ => .result

theorem reject {e : RuleError} (h : e.isAboutStages = false) :
    AlwaysBlamesRule (Eval.reject e : Eval RuleError α) := fun _ => .rejected h

theorem ofStop {x : Except (Stop RuleError) α} (h : BlamesRule x) :
    AlwaysBlamesRule (Eval.ofStop x) := by
  intro t
  cases x <;> exact h

theorem ofFault {x : Except Fault α} : AlwaysBlamesRule (Eval.ofFault x : Eval RuleError α) := by
  intro t
  cases x with
  | ok a => exact .result
  | error f => exact .fault

/-- A sequence, the second part of which is known to begin with a result of the first. -/
theorem bind_run {x : Eval RuleError α} {f : α → Eval RuleError β} (hx : x.AlwaysBlamesRule)
    (hf : ∀ a t u, x t = (.ok a, u) → (f a).AlwaysBlamesRule) : (x >>= f).AlwaysBlamesRule := by
  intro t
  rw [outcome_bind]
  exact (hx t).bind fun a ha => hf a t (x.after t) (Prod.ext ha rfl) _

theorem bind {x : Eval RuleError α} {f : α → Eval RuleError β} (hx : x.AlwaysBlamesRule)
    (hf : ∀ a, (f a).AlwaysBlamesRule) : (x >>= f).AlwaysBlamesRule :=
  hx.bind_run fun a _ _ _ => hf a

/-- Rejections that are rephrased. -/
theorem mapReason {x : Eval ρ α} {f : ρ → RuleError} (hf : ∀ e, (f e).isAboutStages = false) :
    (Eval.mapReason f x).AlwaysBlamesRule := by
  have hattempt : (Eval.attempt x : Eval RuleError (Except ρ α)).AlwaysBlamesRule := by
    intro t
    rw [outcome_attempt]
    split
    · exact .result
    · exact .result
    · exact .fault
  refine hattempt.bind fun r => ?_
  cases r with
  | ok a => exact .pure
  | error e => exact .reject (hf e)

theorem mapM {f : α → Eval RuleError β} (h : ∀ a, (f a).AlwaysBlamesRule) (as : List α) :
    (as.mapM f).AlwaysBlamesRule := by
  induction as with
  | nil => exact .pure
  | cons a as ih =>
    rw [List.mapM_cons]
    exact (h a).bind fun _ => ih.bind fun _ => .pure

end Eval.AlwaysBlamesRule

end

/-! ### Readings -/

/-- A reader blames the rule at every place. -/
def RuleReader.BlamesRule (reader : RuleReader) : Prop :=
  ∀ path, RuleSchema.BlamesRule (reader path)

/-- All readings of an entry blame the rule. -/
structure Part.BlamesRule (p : Part) : Prop where
  rule : RuleReader.BlamesRule p.rule
  items : ∀ readers, p.items? = some readers → ∀ reader ∈ readers, RuleReader.BlamesRule reader
  props : ∀ readers, p.props? = some readers → ∀ e ∈ readers, RuleReader.BlamesRule e.2

/-- All readings of all entries do. -/
def PartsBlameRule (parts : Entries Part) : Prop := ∀ e ∈ parts, e.2.BlamesRule

theorem notRule_blamesRule (v : Value) : RuleReader.BlamesRule (notRule v) := fun _ => .rejected rfl

theorem finishRule_blamesRule (tag : Tag) (path : String) (x : Checked Rule) :
    BlamesRule (finishRule tag path x) := by
  cases x with
  | good r => exact .result
  | bad problems => exact .rejected rfl

section

variable {parts : Entries Part} {path : String}

theorem PartsBlameRule.at? (h : PartsBlameRule parts) {n : String} {p : Part}
    (hp : parts.at? n = some p) : p.BlamesRule := by
  obtain ⟨e, he, rfl⟩ := Option.map_eq_some_iff.mp hp
  exact h e (List.mem_of_find?_eq_some he)

theorem PartsBlameRule.put (h : PartsBlameRule parts) {k : Value} {p : Part} (hp : p.BlamesRule) :
    PartsBlameRule (parts.put k p) := by
  induction parts with
  | nil => exact List.forall_mem_singleton.mpr hp
  | cons e parts ih =>
    obtain ⟨he, hparts⟩ := List.forall_mem_cons.mp h
    rw [Entries.put]
    split
    · exact List.forall_mem_cons.mpr ⟨hp, hparts⟩
    · exact List.forall_mem_cons.mpr ⟨he, ih hparts⟩

theorem requirePart_blamesRule (field : String) (tag : Tag) :
    BlamesRule (requirePart parts field tag path) := by
  rw [requirePart]
  split
  · split
    · exact .rejected rfl
    · exact .result
  · exact .rejected rfl

theorem readRules_blamesRule {readers : List RuleReader}
    (h : ∀ reader ∈ readers, RuleReader.BlamesRule reader) (i : Nat) :
    BlamesRule (readRules path i readers) := by
  induction readers generalizing i with
  | nil => exact .result
  | cons reader readers ih =>
    obtain ⟨hreader, hreaders⟩ := List.forall_mem_cons.mp h
    exact (hreader _).bind fun _ _ => (ih hreaders (i + 1)).bind fun _ _ => .result

theorem readProps_blamesRule {readers : Entries RuleReader}
    (h : ∀ e ∈ readers, RuleReader.BlamesRule e.2) : BlamesRule (readProps path readers) := by
  induction readers with
  | nil => exact .result
  | cons e readers ih =>
    obtain ⟨hreader, hreaders⟩ := List.forall_mem_cons.mp h
    exact (hreader _).bind fun _ _ => (ih hreaders).bind fun _ _ => .result

theorem propsPart_blamesRule (hparts : PartsBlameRule parts) (path : String) :
    BlamesRule (propsPart parts path) ∧
      ∀ readers, propsPart parts path = .ok readers → ∀ e ∈ readers, RuleReader.BlamesRule e.2 := by
  rw [propsPart]
  split
  · exact ⟨.rejected rfl, nofun⟩
  · next part hpart =>
    have hpart : part.BlamesRule := by
      split at hpart
      · next hprops => exact Option.some.inj hpart ▸ hparts.at? hprops
      · exact hparts.at? hpart
    split
    · exact ⟨.rejected rfl, nofun⟩
    · split
      · next readers hreaders =>
        exact ⟨.result, fun _ h => Except.ok.inj h ▸ hpart.props readers hreaders⟩
      · exact ⟨.rejected rfl, nofun⟩

theorem recordSide_blamesRule (hparts : PartsBlameRule parts) (field : String) (missing : Rule) :
    BlamesRule (recordSide parts field path missing) := by
  rw [recordSide]
  split
  · exact .result
  · next part hpart =>
    split
    · exact .result
    · exact (hparts.at? hpart).rule path

/-- **The fields of a rule mapping.** -/
theorem normalizeFields_blamesRule (tag : Tag) (hparts : PartsBlameRule parts) :
    BlamesRule (normalizeFields tag parts path) := by
  cases htag : tag.isComposite with
  | false =>
    rw [normalizeFields_simple htag]
    exact finishRule_blamesRule tag path _
  | true =>
    cases tag with
    | array =>
      refine (requirePart_blamesRule "items" .array).bind fun part hpart => ?_
      refine ((hparts.at? (requirePart_ok hpart)).rule _).bind fun items _ => ?_
      exact finishRule_blamesRule .array path _
    | object =>
      obtain ⟨hprops, hreaders⟩ := propsPart_blamesRule hparts path
      refine hprops.bind fun readers h => ?_
      refine (readProps_blamesRule (hreaders readers h)).bind fun props _ => ?_
      exact finishRule_blamesRule .object path _
    | multi =>
      refine (requirePart_blamesRule "rules" .multi).bind fun part hpart => ?_
      split
      · exact .rejected rfl
      · exact .rejected rfl
      · next hitems =>
        have hpart := hparts.at? (requirePart_ok hpart)
        refine (readRules_blamesRule (hpart.items _ hitems) 0).bind fun branches _ => ?_
        exact finishRule_blamesRule .multi path _
    | tuple =>
      refine (requirePart_blamesRule "items" .tuple).bind fun part hpart => ?_
      split
      · exact .rejected rfl
      · next hitems =>
        have hpart := hparts.at? (requirePart_ok hpart)
        refine (readRules_blamesRule (hpart.items _ hitems) 0).bind fun slots _ => ?_
        exact finishRule_blamesRule .tuple path _
    | record =>
      refine (recordSide_blamesRule hparts "key" _).bind fun key _ => ?_
      refine (recordSide_blamesRule hparts "value" _).bind fun value _ => ?_
      exact finishRule_blamesRule .record path _
    | _ => cases htag

theorem readTag_blamesRule (v : Value) : BlamesRule (readTag v path) := by
  rw [readTag.eq_def]
  split
  · exact .result
  · split
    · exact .result
    · exact .rejected rfl
  · exact .rejected rfl

theorem normalizeMapping_blamesRule (hparts : PartsBlameRule parts) :
    BlamesRule (normalizeMapping parts path) := by
  rw [normalizeMapping]
  split
  · exact .rejected rfl
  · refine (readTag_blamesRule _).bind fun tag _ => normalizeFields_blamesRule tag ?_
    exact fun e he => hparts e (List.mem_filter.mp he).1

end

/-! ### Shorthand texts -/

theorem readModifier_blamesRule (path rule segment : String) :
    BlamesRule (Shorthand.readModifier path rule segment) := by
  rw [Shorthand.readModifier]
  split
  · exact .rejected rfl
  · dsimp only
    split
    · exact .rejected rfl
    · split
      · split
        · exact .result
        · exact .fault
      · split <;> exact .result

theorem modifiers_blameRule (path rule : String) (segments : List String) (es : Entries Value) :
    BlamesRule (segments.foldlM (fun es segment => do
      let (name, v) ← Shorthand.readModifier path rule segment
      return es.put (.text name) v) es) := by
  induction segments generalizing es with
  | nil => exact .result
  | cons segment segments ih =>
    rw [List.foldlM_cons]
    refine BlamesRule.bind ?_ fun es _ => ih es
    exact (readModifier_blamesRule path rule segment).bind fun _ _ => .result

theorem readType_blamesRule {path rule type : String} {e : RuleError}
    (h : Shorthand.readType path rule type = .error e) : e.isAboutStages = false := by
  rw [Shorthand.readType] at h
  split at h
  · cases h
    rfl
  · split at h
    · cases h
    · split at h <;> cases h
      rfl

theorem parse_blamesRule (rule path : String) : BlamesRule (Shorthand.parse rule path) := by
  rw [Shorthand.parse]
  dsimp only
  split
  · next h => exact .rejected (readType_blamesRule h)
  · exact modifiers_blameRule path rule _ _

theorem textPart_blamesRule {ofText : String → RuleReader}
    (h : ∀ s, RuleReader.BlamesRule (ofText s)) (v : Value) : (textPart ofText v).BlamesRule := by
  refine ⟨?_, nofun, nofun⟩
  rw [textPart.eq_def]
  dsimp only
  split
  · exact h _
  · exact notRule_blamesRule _

theorem textParts_blameRule {ofText : String → RuleReader}
    (h : ∀ s, RuleReader.BlamesRule (ofText s)) (es : Entries Value) :
    PartsBlameRule (es.map fun e => (e.1, textPart ofText e.2)) :=
  List.forall_mem_map.mpr fun e _ => textPart_blamesRule h e.2

theorem shorthandRule_blamesRule (n : Nat) (s : String) :
    RuleReader.BlamesRule (shorthandRule n s) := by
  induction n generalizing s with
  | zero => exact fun _ => .rejected rfl
  | succ n ih =>
    exact fun path => (parse_blamesRule s path).bind fun es _ =>
      normalizeMapping_blamesRule (textParts_blameRule ih es)

theorem normalizeText_blamesRule (s : String) : RuleReader.BlamesRule (normalizeText s) :=
  shorthandRule_blamesRule _ s

/-! ### All sources -/

theorem normalizeUnion_blamesRule {readers : List RuleReader}
    (h : ∀ reader ∈ readers, RuleReader.BlamesRule reader) :
    RuleReader.BlamesRule (normalizeUnion readers) := by
  intro path
  cases readers with
  | nil => exact .rejected rfl
  | cons => exact (readRules_blamesRule h 0).bind fun _ _ => .result

theorem markedProps_blamesRule {parts : Entries Part} (h : PartsBlameRule parts) :
    (markedProps parts).BlamesRule := by
  refine ⟨notRule_blamesRule _, nofun, ?_⟩
  rintro _ ⟨⟩
  exact List.forall_mem_map.mpr fun e he => (h e (List.mem_filter.mp he).1).rule

theorem normalizeEntries_blamesRule {parts : Entries Part} (h : PartsBlameRule parts) :
    RuleReader.BlamesRule (normalizeEntries parts) := by
  intro path
  rw [normalizeEntries]
  split
  · rw [normalizeMarked]
    split
    · exact .rejected rfl
    · refine (parse_blamesRule _ path).bind fun es _ => ?_
      dsimp only
      split
      · exact .rejected rfl
      · have hown := textParts_blameRule normalizeText_blamesRule es
        exact normalizeMapping_blamesRule (hown.put (markedProps_blamesRule h))
  · exact normalizeMapping_blamesRule h

/-- **What a rule is read from**, in all its readings. -/
theorem part_blamesRule : ∀ x : RuleSource, x.part.BlamesRule := by
  refine RuleSource.induct {
    ready := fun r => ⟨fun _ => .result, nofun, nofun⟩
    text := fun s => ⟨normalizeText_blamesRule s, nofun, nofun⟩
    list := fun xs ih => ?_
    mapping := fun es ih => ?_
    other := fun v => ⟨?_, nofun, nofun⟩ }
  · have hreaders : ∀ reader ∈ itemReaders xs, RuleReader.BlamesRule reader := by
      rw [itemReaders_eq]
      exact List.forall_mem_map.mpr fun x hx => (ih x hx).rule
    refine ⟨normalizeUnion_blamesRule hreaders, ?_, nofun⟩
    rintro _ ⟨⟩
    exact hreaders
  · have hparts : PartsBlameRule (entryParts es) := by
      rw [entryParts_eq]
      exact List.forall_mem_map.mpr fun e he => ih e he
    refine ⟨normalizeEntries_blamesRule hparts, nofun, ?_⟩
    rintro _ ⟨⟩
    rw [entryReaders_eq]
    exact List.forall_mem_map.mpr fun e he => (ih e he).rule
  · cases v with
    | tag t => exact normalizeText_blamesRule t.name
    | _ => exact notRule_blamesRule _

/-- **A rule that cannot be read** is to blame for it. -/
theorem normalize_blamesRule (source : RuleSource) : RuleReader.BlamesRule (normalize source) :=
  (part_blamesRule source).rule

end RuleSchema
