import RuleSchema.Proofs.Calls.Local
import RuleSchema.Proofs.Compile.Stages
import RuleSchema.Proofs.Rule.Induction

/-!
# The functions that a rule calls

Making the stages of a rule and running them call functions only where a default is one: the default
of the rule itself, which the shape stage puts in place of an absent value, or that of a rule inside
it, whose validator runs in the check of the type.  Everything else that stages do calls nothing.

* `Rule.function?` is the counting function that stands as the default of a rule.
* `Validator.CallsWithin` says that a validator calls no functions but those of a set.
* `StagesShapedBy` says of stages that only the first calls anything: the function of the rule
  for an absent value, and what the check of its type calls for a value that it sees.
* `scalarStages_local`, `arrayStages_local` and so on: the stages of every rule are such stages.
* `arrayStep_local`, `objectStep_local` and so on: such a check calls what the validators call for
  the parts that it hands them.
-/

namespace RuleSchema

open Eval

/-- The counting function that replaces an absent value under a rule. -/
def Rule.function? (r : Rule) : Option Nat :=
  match r.standIn with
  | .generated (.func _ n none) => some n
  | _ => none

variable {S : Nat → Bool}

/-! ### Stages -/

/-- A step calls no functions but those of a set. -/
def Step.CallsWithin (S : Nat → Bool) (step : Step) : Prop :=
  ∀ v, (step v).Local S fun _ => True

/-- Every stage of a list calls no functions but those of a set. -/
def StagesCallWithin (S : Nat → Bool) (stages : List Stage) : Prop :=
  ∀ s ∈ stages, Step.CallsWithin S s.run

/-- Stages that call nothing. -/
def StagesSilent (stages : List Stage) : Prop := ∀ S, StagesCallWithin S stages

theorem StagesSilent.nil : StagesSilent [] := fun _ _ h => absurd h List.not_mem_nil

theorem StagesSilent.append {ss ts : List Stage} (hs : StagesSilent ss) (ht : StagesSilent ts) :
    StagesSilent (ss ++ ts) :=
  fun S => List.forall_mem_append.mpr ⟨hs S, ht S⟩

/-- The runs of a validator call no functions but those of a set. -/
def Validator.CallsWithin (S : Nat → Bool) (d : Validator) : Prop :=
  ∀ v, (d.validate v).Local S fun _ => True

theorem runStages_local {tag : Tag} : ∀ {stages : List Stage}, StagesCallWithin S stages →
    ∀ v, (Validator.runStages tag stages v).Local S fun _ => True := by
  intro stages
  induction stages with
  | nil => intro _ v; exact Local.pure trivial
  | cons s stages ih =>
    intro h v
    refine Local.bind (h s List.mem_cons_self v).mapReason fun w _ => ?_
    split
    · exact Local.pure trivial
    · exact ih (fun s' hs' => h s' (List.mem_cons_of_mem _ hs')) w

theorem runChecks_local : ∀ checks : List Check, Step.CallsWithin S (Stage.runChecks checks)
  | [], _ => Local.pure trivial
  | c :: checks, v => by
    refine Local.bind (Local.ofFault (Q := fun _ => True) fun _ _ => trivial) fun b _ => ?_
    cases b with
    | true => exact runChecks_local checks v
    | false => exact Local.reject

theorem runTransforms_local (transforms : List Transform) :
    Step.CallsWithin S (Stage.runTransforms transforms) :=
  fun _ => Local.ofFault fun _ _ => trivial

theorem transformStages_silent (kind : StageKind) (name : String) (transforms : List Transform) :
    StagesSilent (transformStages kind name transforms) := by
  intro S s hs
  unfold transformStages at hs
  split at hs
  · exact absurd hs List.not_mem_nil
  · rw [List.mem_singleton.mp hs]
    exact runTransforms_local transforms

theorem checkStages_local (kind : StageKind) (name : String) (checks : List Check) :
    (checkStages kind name checks).Local S StagesSilent := by
  unfold checkStages
  split
  · exact Local.pure .nil
  · refine Local.bind (Q := fun s => ∀ S, Step.CallsWithin S s.run) (Local.ofFault fun s hs => ?_)
      fun s hs => Local.pure fun S => List.forall_mem_singleton.mpr (hs S)
    obtain ⟨schema, _, hs⟩ := except_bind_ok hs
    cases hs
    exact fun _ => runChecks_local checks

/-! ### Absent values -/

/-- A set holds the function that replaces an absent value under a rule, if one does. -/
def Rule.CallsOwn (S : Nat → Bool) (r : Rule) : Prop := ∀ n, r.function? = some n → S n = true

theorem call_local {ρ : Type} {f : Value}
    (h : ∀ name n, f = .func name n none → S n = true) :
    (f.call : Eval ρ Value).Local S fun _ => True := by
  cases f with
  | func name n result =>
    cases result with
    | some v => exact Local.pure trivial
    | none => exact Local.bind (Local.countCall (h name n rfl)) fun _ _ => Local.pure trivial
  | cls c =>
    cases c with
    | objects c => exact Local.ofFault fun _ _ => trivial
    | _ => exact Local.pure trivial
  | _ => exact Local.pure trivial

theorem present_local {ρ : Type} {r : Rule} {v : Value} (hr : v.isAbsent = true → r.CallsOwn S) :
    (r.present v : Eval ρ Value).Local S fun _ => True := by
  rw [Rule.present]
  split
  · next habsent =>
    refine Local.bind (Q := fun _ => True) ?_ fun _ _ => Local.pure trivial
    cases hs : r.standIn with
    | none => exact Local.pure trivial
    | fixed v => exact Local.pure trivial
    | generated source =>
      refine Local.bind (call_local fun name n hsource => hr habsent n ?_) fun _ _ =>
        Local.pure trivial
      rw [Rule.function?, hs, hsource]
  · exact Local.pure trivial

/-- Given `v`, a rule checks `w` against its type: `v` itself, or what stands in for it if it is
absent. -/
def Rule.Sees (r : Rule) (v w : Value) : Prop :=
  (∃ t u, (r.present v : Eval StageRejection Value) t = (.ok w, u)) ∧
    w.isAbsent = false ∧ w.isNull = false

/-- A step calls what a shape stage calls: the function of the rule for an absent value, and what
the check of its type calls for a value that it sees. -/
def Step.ShapedBy (r : Rule) (check step : Step) : Prop :=
  ∀ (S : Nat → Bool) (v : Value), (v.isAbsent = true → r.CallsOwn S) →
    (∀ w, r.Sees v w → (check w).Local S fun _ => True) → (step v).Local S fun _ => True

theorem runShape_local (r : Rule) (check : Step) : Step.ShapedBy r check (runShape r check) := by
  intro S v hown hcheck
  refine Local.bind (present_local hown).ran fun w hw => ?_
  split
  · split
    · exact Local.pure trivial
    · exact Local.reject
  · next habsent =>
    split
    · split
      · exact Local.pure trivial
      · exact Local.reject
    · next hnull => exact hcheck w ⟨hw, by simpa using habsent, by simpa using hnull⟩

/-- The check of a fixed default, if a rule has one, calls no functions but those of a set. -/
def Rule.ChecksDefaultWithin (S : Nat → Bool) (r : Rule) (check : Step) : Prop :=
  ∀ w, r.standIn = .fixed w → (check w).Local S fun _ => True

/-- Making a shape stage calls what the check of a fixed default calls. -/
theorem shapeStage_local {r : Rule} {check : Step} {schema : Schema}
    (h : r.ChecksDefaultWithin S check) (path : String) :
    (shapeStage r path ⟨check, schema⟩).Local S fun s => Step.ShapedBy r check s.run := by
  refine Local.bind (Q := fun _ => True) ?_ fun _ _ => ?_
  · unfold checkDefault
    split
    · next w hw => exact Local.bind (h w hw).mapReason fun _ _ => Local.pure trivial
    · exact Local.pure trivial
  · exact Local.bind (Local.ofFault (Q := fun _ => True) fun _ _ => trivial) fun _ _ =>
      Local.pure (runShape_local r check)

/-- Stages of which only the first calls anything, and that as a shape stage does. -/
def StagesShapedBy (r : Rule) (check : Step) (stages : List Stage) : Prop :=
  ∃ s rest, stages = s :: rest ∧ Step.ShapedBy r check s.run ∧ StagesSilent rest

/-- **The run of such stages** on a value. -/
theorem StagesShapedBy.run {r : Rule} {check : Step} {stages : List Stage}
    (h : StagesShapedBy r check stages) {tag : Tag} {v : Value}
    (hown : v.isAbsent = true → r.CallsOwn S)
    (hcheck : ∀ w, r.Sees v w → (check w).Local S fun _ => True) :
    (Validator.runStages tag stages v).Local S fun _ => True := by
  obtain ⟨s, rest, rfl, hs, hrest⟩ := h
  refine Local.bind (hs S v hown hcheck).mapReason fun w _ => ?_
  split
  · exact Local.pure trivial
  · exact runStages_local (hrest S) w

/-! ### Rules without rules inside -/

theorem readStep_local {α : Type} (check : String) (reader : ScalarReader α)
    (toValue : α → Value) : Step.CallsWithin S (readStep check reader toValue) := by
  intro v
  unfold readStep
  cases reader v with
  | ok a => exact Local.pure trivial
  | error p => exact Local.reject

theorem instantStep_local (convert : Bool) : Step.CallsWithin S (instantStep convert) := by
  intro v
  unfold instantStep
  cases if convert then Instant.read v else Instant.strict v with
  | ok t => exact Local.pure trivial
  | error p => exact Local.reject

theorem emailStep_local (convert trimming : Bool) :
    Step.CallsWithin S (emailStep convert trimming) := by
  intro v
  refine Local.bind (readStep_local _ _ _ v) fun w _ => ?_
  rcases Email.checkBare trimming ((w.text?).getD "") with (_ | p) | _
  · exact Local.reject
  · exact Local.reject
  · exact Local.pure trivial

theorem formattedStep_local (r : Rule) (empty? : Option Bool)
    (problem? : String → Option String) :
    Step.CallsWithin S (formattedStep r empty? problem?) := by
  intro v
  refine Local.bind (readStep_local _ _ _ v) fun w _ => ?_
  dsimp only
  split
  · exact Local.pure trivial
  · cases problem? ((w.text?).getD "") with
    | none => exact Local.pure trivial
    | some message => exact Local.reject

/-- A step that tests a value and gives it back. -/
theorem testStep_local (test : Value → Bool) (check message : String) :
    Step.CallsWithin S fun v => if test v then pure v else failCheck check message := by
  intro v
  dsimp only
  split
  · exact Local.pure trivial
  · exact Local.reject

theorem anyStep_local : Step.CallsWithin S anyStep := fun _ => Local.pure trivial

/-- Compiling a pattern calls nothing. -/
theorem patternSpec_local (spec : PatternSpec) (letters? : Option String) (path : String) :
    (spec.compile letters? path).Local S fun _ => True := by
  cases spec <;> exact Local.ofStop fun _ _ => trivial

/-- What follows the pattern among the checks of a text. -/
theorem choiceChecks_local (o : StringOptions) (path : String)
    (checks : List Check → List Check → List Check) :
    (do
      let classes ← o.charsets.mapM (charsetCheck path)
      match o.enum? with
      | some (a :: as) => do
        let choices ← do pure [← oneOfTexts path (a :: as)]
        pure (checks classes choices)
      | _ => do
        let choices ← pure []
        pure (checks classes choices) : Eval RuleError (List Check)).Local S fun _ => True := by
  have hpattern : ∀ source, (compilePattern source path).Local S fun _ => True :=
    fun _ => Local.ofStop fun _ _ => trivial
  have hclasses : (o.charsets.mapM (charsetCheck path)).Local S fun _ => True :=
    (Local.mapM fun c _ => Local.bind (R := fun _ => True) (hpattern c.source)
      fun _ _ => Local.pure trivial).mono fun _ _ => trivial
  refine Local.bind hclasses fun classes _ => ?_
  split
  · refine Local.bind (Q := fun _ => True) ?_ fun _ _ => Local.pure trivial
    exact Local.bind (hpattern _) fun _ _ => Local.pure trivial
  · exact Local.bind (Local.pure (Q := fun _ => True) trivial) fun _ _ => Local.pure trivial

theorem stringChecks_local (o : StringOptions) (path : String) :
    (o.checks path).Local S fun _ => True := by
  unfold StringOptions.checks
  cases o.pattern? with
  | none => exact choiceChecks_local o path _
  | some spec => exact Local.bind (patternSpec_local _ _ _) fun p _ => choiceChecks_local o path _

section

variable {r : Rule} {path : String} {shape : Shape}

/-- The shape stage of a rule whose check calls nothing. -/
theorem shapeStage_silent (hcheck : ∀ S, shape.check.CallsWithin S) :
    (shapeStage r path shape).Local S fun s => Step.ShapedBy r anyStep s.run :=
  (shapeStage_local (fun w _ => hcheck S w) path).mono fun _ hs S v hown _ =>
    hs S v hown fun w _ => hcheck S w

/-- A shape stage with some stages after it. -/
theorem stages_local {rest : Eval RuleError (List Stage)} (hcheck : ∀ S, shape.check.CallsWithin S)
    (hrest : rest.Local S StagesSilent) :
    (do return (← shapeStage r path shape) :: (← rest)).Local S (StagesShapedBy r anyStep) :=
  Local.bind (shapeStage_silent hcheck) fun s hs => Local.bind hrest fun ss hss =>
    Local.pure ⟨s, ss, rfl, hs, hss⟩

/-- A shape stage alone. -/
theorem stage_local (hcheck : ∀ S, shape.check.CallsWithin S) :
    (do return [← shapeStage r path shape]).Local S (StagesShapedBy r anyStep) :=
  Local.bind (shapeStage_silent hcheck) fun s hs => Local.pure ⟨s, [], rfl, hs, .nil⟩

theorem forbiddenStages_local (remove : Bool) :
    (forbiddenStages remove).Local S (StagesShapedBy r anyStep) := by
  have hshape : Step.ShapedBy r anyStep fun v => pure (if v.isNull then .absent else v) :=
    fun _ _ _ _ => Local.pure trivial
  cases remove with
  | true =>
    have hremove : ∀ S, Step.CallsWithin S (Stage.runTransforms [fun _ => .ok .absent]) :=
      fun _ => runTransforms_local _
    exact Local.pure ⟨_, _, rfl, hshape, fun S => List.forall_mem_singleton.mpr (hremove S)⟩
  | false =>
    exact Local.bind (checkStages_local _ _ _) fun ss hss => Local.pure ⟨_, ss, rfl, hshape, hss⟩

theorem identityStages_local (identity : ClassRef) (conversion : IdentityConversion) :
    (identityStages r identity conversion path).Local S (StagesShapedBy r anyStep) := by
  unfold identityStages
  cases identity.identities? with
  | none => exact Local.reject
  | some k =>
    refine Local.bind (shapeStage_silent fun _ => testStep_local _ _ _) fun s hs => ?_
    refine Local.bind (checkStages_local _ _ _) fun ss hss => Local.pure ?_
    exact ⟨s, _, rfl, hs, hss.append (transformStages_silent _ _ _)⟩

/-- **The stages of a rule without rules inside** call only what replaces an absent value. -/
theorem scalarStages_local (hr : r.tag.isComposite = false) :
    (scalarStages r path).Local S (StagesShapedBy r anyStep) := by
  cases r with
  | string c o =>
    refine Local.bind (shapeStage_silent fun _ => readStep_local _ _ _) fun s hs => ?_
    refine Local.bind (stringChecks_local o path) fun checks _ => ?_
    refine Local.bind (checkStages_local _ _ checks) fun ss hss => Local.pure ?_
    exact ⟨s, _, rfl, hs, ((transformStages_silent _ _ _).append hss).append
      (transformStages_silent _ _ _)⟩
  | number c o =>
    refine Local.bind (shapeStage_silent fun _ => readStep_local _ _ _) fun s hs => ?_
    refine Local.bind (checkStages_local _ _ _) fun ss hss => ?_
    refine Local.bind (checkStages_local _ _ _) fun others hothers => Local.pure ?_
    exact ⟨s, _, rfl, hs, hss.append hothers⟩
  | boolean c => exact stage_local fun _ => readStep_local _ _ _
  | date c => exact stage_local fun _ => instantStep_local _
  | any c => exact stage_local fun _ => anyStep_local
  | email c o =>
    refine Local.bind (shapeStage_silent fun _ => emailStep_local _ _) fun s hs => ?_
    refine Local.bind (checkStages_local _ _ _) fun ss hss => Local.pure ?_
    exact ⟨s, _, rfl, hs, (transformStages_silent _ _ _).append hss⟩
  | currency c o =>
    refine Local.bind (shapeStage_silent fun _ => readStep_local _ _ _) fun s hs => ?_
    refine Local.bind (Q := fun _ => True) ?_ fun p _ => ?_
    · unfold CurrencyOptions.pattern
      split
      · exact Local.bind (patternSpec_local _ _ _) fun _ _ => Local.pure trivial
      · exact Local.bind (Local.ofStop (Q := fun _ => True) fun _ _ => trivial) fun _ _ =>
          Local.pure trivial
    · exact Local.bind (checkStages_local _ _ _) fun ss hss => Local.pure ⟨s, ss, rfl, hs, hss⟩
  | «class» c k => exact stage_local fun _ => testStep_local _ _ _
  | enum c values =>
    exact Local.bind (Local.ofFault (Q := fun _ => True) fun _ _ => trivial) fun _ _ =>
      stages_local (fun _ => anyStep_local) (checkStages_local _ _ _)
  | equal c value strict =>
    exact Local.bind (Local.ofFault (Q := fun _ => True) fun _ _ => trivial) fun _ _ =>
      stages_local (fun _ => anyStep_local) (checkStages_local _ _ _)
  | forbidden c remove => exact forbiddenStages_local remove
  | function c => exact stage_local fun _ => testStep_local _ _ _
  | luhn c => exact stages_local (fun _ => readStep_local _ _ _) (checkStages_local _ _ _)
  | mac c =>
    exact Local.bind (Local.ofStop (Q := fun _ => True) fun _ _ => trivial) fun _ _ =>
      stages_local (fun _ => readStep_local _ _ _) (checkStages_local _ _ _)
  | url c empty? =>
    exact stages_local (fun _ => formattedStep_local (.url c empty?) empty? fun s =>
      problemText Url.Problem.message (Url.check s)) (checkStages_local _ _ _)
  | uuid c empty? =>
    exact stages_local (fun _ => formattedStep_local (.uuid c empty?) empty? fun s =>
      problemText Uuid.Problem.message (Uuid.check s)) (checkStages_local _ _ _)
  | objectId c identity conversion => exact identityStages_local identity conversion
  | array | object | multi | tuple | record => cases hr

end

/-! ### The steps of composite rules -/

section

variable {d : Validator}

theorem part_local {α : Type} {Q : α → Prop} {key : Value} {x : Eval PayloadError α}
    (h : x.Local S Q) : (part key x).Local S Q :=
  h.mapReason

/-- The items of an array, which a value that is none is the only one of if it is converted. -/
def Value.asItems (convert : Bool) (v : Value) : List Value :=
  v.items?.getD (if convert then [v] else [])

theorem validateItems_local : ∀ (i : Nat) {xs : List Value},
    (∀ x ∈ xs, (d.validate x).Local S fun _ => True) →
      (validateItems d i xs).Local S fun _ => True
  | _, [], _ => Local.pure trivial
  | i, _ :: _, h => Local.bind (part_local (h _ List.mem_cons_self)) fun _ _ =>
    Local.bind (validateItems_local (i + 1) fun y hy => h y (List.mem_cons_of_mem _ hy))
      fun _ _ => Local.pure trivial

theorem arrayStep_local {convert : Bool} {v : Value}
    (h : ∀ x ∈ v.asItems convert, (d.validate x).Local S fun _ => True) :
    (arrayStep convert d v).Local S fun _ => True := by
  unfold arrayStep
  rw [Value.asItems] at h
  cases hitems : v.items? with
  | some xs =>
    rw [hitems] at h
    exact Local.bind (validateItems_local 0 h) fun _ _ => Local.pure trivial
  | none =>
    rw [hitems] at h
    cases convert with
    | true => exact Local.bind (validateItems_local 0 h) fun _ _ => Local.pure trivial
    | false => exact Local.reject

theorem validateDeclared_local {entries : Entries Value} : ∀ {ds : Entries Validator},
    (∀ e ∈ ds, (e.2.validate ((entries.find? e.1).getD .absent)).Local S fun _ => True) →
      (validateDeclared entries ds).Local S fun _ => True
  | [], _ => Local.pure trivial
  | _ :: _, h => Local.bind (h _ List.mem_cons_self).mapReason fun _ _ =>
    Local.bind (validateDeclared_local fun e he => h e (List.mem_cons_of_mem _ he))
      fun _ _ => Local.pure trivial

theorem validateProperties_local {entries : Entries Value} {ds : Entries Validator}
    (mode : UnknownKeys)
    (h : ∀ e ∈ ds, (e.2.validate ((entries.find? e.1).getD .absent)).Local S fun _ => True) :
    (validateProperties entries ds mode).Local S fun _ => True := by
  unfold validateProperties
  dsimp only
  split
  · exact Local.reject
  · exact Local.bind (validateDeclared_local h) fun _ _ => Local.pure trivial

theorem objectStep_local {ds : Entries Validator} (mode : UnknownKeys) {v : Value}
    (h : ∀ es, v = .mapping es → ∀ e ∈ ds,
      (e.2.validate ((Entries.find? es e.1).getD .absent)).Local S fun _ => True) :
    (objectStep ds mode v).Local S fun _ => True := by
  cases v with
  | mapping es =>
    exact Local.bind (validateProperties_local mode (h es rfl)) fun _ _ => Local.pure trivial
  | _ => exact Local.reject

theorem firstAccepting_local {v : Value} : ∀ {ds : List Validator},
    (∀ d ∈ ds, (d.validate v).Local S fun _ => True) →
      (firstAccepting v ds).Local S fun _ => True
  | [], _ => Local.pure trivial
  | d :: ds, h => by
    refine Local.bind (h d List.mem_cons_self).attempt fun r _ => ?_
    cases r with
    | ok w => exact Local.pure trivial
    | error e =>
      exact Local.bind (firstAccepting_local fun d' hd' => h d' (List.mem_cons_of_mem _ hd'))
        fun _ _ => Local.pure trivial

theorem unionStep_local {ds : List Validator} {v : Value}
    (h : ∀ d ∈ ds, (d.validate v).Local S fun _ => True) :
    (unionStep ds v).Local S fun _ => True := by
  refine Local.bind (firstAccepting_local h) fun r _ => ?_
  cases r with
  | ok w => exact Local.pure trivial
  | error texts => exact Local.reject

theorem validateSlots_local : ∀ (i : Nat) {ds : List Validator} {xs : List Value},
    (∀ e ∈ ds.zip xs, (e.1.validate e.2).Local S fun _ => True) →
      (validateSlots i ds xs).Local S fun _ => True
  | i, d :: ds, x :: xs, h => by
    obtain ⟨hd, hds⟩ := List.forall_mem_cons.mp h
    exact Local.bind (part_local hd) fun _ _ =>
      Local.bind (validateSlots_local (i + 1) hds) fun _ _ => Local.pure trivial
  | _, [], _, _ => Local.pure trivial
  | _, _ :: _, [], _ => Local.pure trivial

theorem tupleStep_local {ds : List Validator} {v : Value}
    (h : ∀ xs, v.items? = some xs → xs.length = ds.length →
      ∀ e ∈ ds.zip xs, (e.1.validate e.2).Local S fun _ => True) :
    (tupleStep ds v).Local S fun _ => True := by
  unfold tupleStep
  cases hitems : v.items? with
  | none => exact Local.reject
  | some xs =>
    dsimp only
    split
    · next hlength =>
      exact Local.bind (validateSlots_local 0 (h xs hitems hlength)) fun _ _ => Local.pure trivial
    · exact Local.reject

theorem validateEntries_local {keys values : Validator} : ∀ {es : Entries Value}
    (done : Entries Value), (∀ e ∈ es, ((keys.validate e.1).Local S fun _ => True) ∧
      (values.validate e.2).Local S fun _ => True) →
    (validateEntries keys values done es).Local S fun _ => True
  | [], _, _ => Local.pure trivial
  | (k, x) :: es, done, h => by
    obtain ⟨⟨hkey, hvalue⟩, hes⟩ := List.forall_mem_cons.mp h
    refine Local.bind (part_local hkey) fun key _ => ?_
    refine Local.bind (part_local hvalue) fun value _ => ?_
    split
    · exact validateEntries_local done hes
    · exact Local.bind (Local.ofFault (Q := fun _ => True) fun _ _ => trivial) fun done' _ =>
        validateEntries_local done' hes

theorem recordStep_local {keys values : Validator} {v : Value}
    (h : ∀ es, v = .mapping es → ∀ e ∈ es, ((keys.validate e.1).Local S fun _ => True) ∧
      (values.validate e.2).Local S fun _ => True) :
    (recordStep keys values v).Local S fun _ => True := by
  cases v with
  | mapping es =>
    exact Local.bind (validateEntries_local [] (h es rfl)) fun _ _ => Local.pure trivial
  | _ => exact Local.reject

end

/-! ### The stages of composite rules -/

theorem schemaValue_local (d : Validator) : d.schemaValue.Local S fun _ => True :=
  Local.bind (Local.ofFault (Q := fun _ => True) fun _ _ => trivial) fun _ _ => Local.pure trivial

section

variable {r : Rule} {path : String}

theorem arrayStages_local {o : ArrayOptions} {d : Validator}
    (h : r.ChecksDefaultWithin S (arrayStep r.common.convert d)) :
    (arrayStages r o d path).Local S (StagesShapedBy r (arrayStep r.common.convert d)) := by
  refine Local.bind (schemaValue_local d) fun _ _ => ?_
  refine Local.bind (shapeStage_local h path) fun s hs => ?_
  refine Local.bind (checkStages_local _ _ _) fun ss hss => ?_
  refine Local.bind (Local.ofFault (Q := fun _ => True) fun _ _ => trivial) fun _ _ => ?_
  refine Local.bind (checkStages_local _ _ _) fun contents hcontents => Local.pure ?_
  exact ⟨s, _, rfl, hs, hss.append hcontents⟩

theorem objectStages_local {o : ObjectOptions} {ds : List (String × Validator)}
    {mode : UnknownKeys}
    (h : r.ChecksDefaultWithin S (objectStep (ds.map fun e => (.text e.1, e.2)) mode)) :
    (objectStages r o ds mode path).Local S
      (StagesShapedBy r (objectStep (ds.map fun e => (.text e.1, e.2)) mode)) := by
  refine Local.bind (Q := fun _ => True) ?_ fun _ _ => ?_
  · refine Local.bind (Q := fun _ => True) (Local.mono (Local.mapM (P := fun _ _ => True)
      fun e _ => ?_) fun _ _ => trivial) fun _ _ => Local.pure trivial
    exact Local.bind (schemaValue_local e.2) fun _ _ => Local.pure trivial
  refine Local.bind (shapeStage_local h path) fun s hs => ?_
  exact Local.bind (checkStages_local _ _ _) fun ss hss => Local.pure ⟨s, ss, rfl, hs, hss⟩

/-- A shape stage alone. -/
theorem loneStage_local {check : Step} {schema : Schema} (h : r.ChecksDefaultWithin S check) :
    (do return [← shapeStage r path ⟨check, schema⟩]).Local S (StagesShapedBy r check) :=
  Local.bind (shapeStage_local h path) fun s hs => Local.pure ⟨s, [], rfl, hs, .nil⟩

theorem unionStages_local {ds : List Validator} (h : r.ChecksDefaultWithin S (unionStep ds)) :
    (unionStages r ds path).Local S (StagesShapedBy r (unionStep ds)) :=
  Local.bind (Local.mapM fun d _ => schemaValue_local d) fun _ _ => loneStage_local h

theorem tupleStages_local {ds : List Validator} (h : r.ChecksDefaultWithin S (tupleStep ds)) :
    (tupleStages r ds path).Local S (StagesShapedBy r (tupleStep ds)) :=
  Local.bind (Local.mapM fun d _ => schemaValue_local d) fun _ _ => loneStage_local h

theorem recordStages_local {keys values : Validator}
    (h : r.ChecksDefaultWithin S (recordStep keys values)) :
    (recordStages r keys values path).Local S (StagesShapedBy r (recordStep keys values)) :=
  Local.bind (schemaValue_local values) fun _ _ =>
    Local.bind (schemaValue_local keys) fun _ _ => loneStage_local h

end

/-! ### Lists of rules -/

section

variable {ts : Treatments} {ctx : Strictness} {path : String} {P : Rule → Validator → Prop}

theorem compileProps_local : ∀ {props : List (String × Rule)},
    (∀ e ∈ props, ∀ path, (compileRule ts e.2 ctx path).Local S (P e.2)) →
      (compileProps ts props ctx path).Local S
        (List.Forall₂ (fun e f => f.1 = e.1 ∧ P e.2 f.2) props)
  | [], _ => Local.pure .nil
  | _ :: _, h =>
    Local.bind (h _ List.mem_cons_self _) fun _ hd =>
      Local.bind (compileProps_local fun e he => h e (List.mem_cons_of_mem _ he)) fun _ hds =>
        Local.pure (.cons ⟨rfl, hd⟩ hds)

theorem compileBranches_local : ∀ {rules : List Rule} (i : Nat),
    (∀ r ∈ rules, ∀ path, (compileRule ts r ctx path).Local S (P r)) →
      (compileBranches ts i rules ctx path).Local S (List.Forall₂ P rules)
  | [], _, _ => Local.pure .nil
  | _ :: _, i, h =>
    Local.bind (h _ List.mem_cons_self _) fun _ hd =>
      Local.bind (compileBranches_local (i + 1) fun q hq => h q (List.mem_cons_of_mem _ hq))
        fun _ hds => Local.pure (.cons hd hds)

theorem compileSlots_local : ∀ {rules : List Rule} (i : Nat),
    (∀ r ∈ rules, ∀ path, (compileRule ts r ctx path).Local S (P r)) →
      (compileSlots ts i rules ctx path).Local S (List.Forall₂ P rules)
  | [], _, _ => Local.pure .nil
  | _ :: _, i, h =>
    Local.bind (h _ List.mem_cons_self _) fun _ hd =>
      Local.bind (compileSlots_local (i + 1) fun q hq => h q (List.mem_cons_of_mem _ hq))
        fun _ hds => Local.pure (.cons hd hds)

end

end RuleSchema
