import RuleSchema.Compile.Basic
import RuleSchema.Proofs.Faults.Evaluation
import RuleSchema.Proofs.Rule.Json
import RuleSchema.Proofs.Schema.Writable

/-!
# The faults of stages

A shape stage receives what a document offers, which is one of its values or nothing, and
the stages after it what the shape stage gives.  So the first has to be harmless on values
of documents only, and the others on every value.  What a stage shows of itself can be
written besides.

* `Stage.Sound` is what is asked of a shape stage, `Stage.Calm` what is asked of the
  stages after it, `SoundStages` what is asked of all stages of a validator together.
* `SoundStages.validate`: such a validator has its faults among the given ones.
* `shapeStage_sound`, `checkStages_calm` and so on: how stages come to be so.
* `arrayStep_faults`, `objectStep_faults` and so on: the steps of composite rules, over
  sound validators.
-/

namespace RuleSchema

open Eval

variable {F G : Fault → Prop}

/-- What a document offers: one of its values, or nothing. -/
def Value.isOffered (v : Value) : Bool := v.isAbsent || v.isJson

theorem Value.isOffered_of_isJson {v : Value} (h : v.isJson = true) : v.isOffered = true := by
  rw [isOffered, h, Bool.or_true]

/-- An offered value that is present is one of a document. -/
theorem Value.isJson_of_present {v : Value} (h : v.isOffered = true) (hv : v.isAbsent = false) :
    v.isJson = true := by
  rw [isOffered, hv, Bool.false_or] at h
  exact h

/-- The content of an entry of a document, or nothing. -/
theorem Entries.HoldsJson.offered {es : Entries Value} (h : es.HoldsJson) (k : Value) :
    ((es.find? k).getD .absent).isOffered = true := by
  cases hv : es.find? k with
  | none => rfl
  | some v => exact Value.isOffered_of_isJson (h.find? hv)

/-! ### Stages -/

/-- The faults of a step on values of documents are among `F`. -/
def Step.FaultsOnJson (F : Fault → Prop) (step : Step) : Prop :=
  ∀ v, v.isJson = true → (step v).FaultsIn F fun _ => True

/-- A shape stage may receive what a document offers. -/
structure Stage.Sound (F : Fault → Prop) (s : Stage) : Prop where
  run : ∀ v, v.isOffered = true → (s.run v).FaultsIn F fun _ => True
  schema : Writable s.schema

/-- A stage may receive any value. -/
structure Stage.Calm (F : Fault → Prop) (s : Stage) : Prop where
  run : ∀ v, (s.run v).FaultsIn F fun _ => True
  schema : Writable s.schema

/-- A shape stage that may receive what a document offers, and stages after it that may receive
any value. -/
inductive SoundStages (F : Fault → Prop) : List Stage → Prop
  | cons {s : Stage} {rest : List Stage} : s.Sound F → (∀ s ∈ rest, s.Calm F) →
      SoundStages F (s :: rest)

/-- The stages of a validator are sound. -/
def Validator.Sound (F : Fault → Prop) (d : Validator) : Prop := SoundStages F d.stages

theorem runStages_faults {tag : Tag} : ∀ {stages : List Stage} (v : Value),
    (∀ s ∈ stages, s.Calm F) → (Validator.runStages tag stages v).FaultsIn F fun _ => True
  | [], _, _ => FaultsIn.pure trivial
  | s :: stages, v, h => by
    refine FaultsIn.bind ((h s List.mem_cons_self).run v).mapReason fun w _ => ?_
    split
    · exact FaultsIn.pure trivial
    · exact runStages_faults w fun s' hs => h s' (List.mem_cons_of_mem _ hs)

/-- **A sound validator** has no other faults on what a document offers. -/
theorem Validator.Sound.validate {d : Validator} (hd : d.Sound F) {v : Value}
    (hv : v.isOffered = true) : (d.validate v).FaultsIn F fun _ => True := by
  obtain ⟨tag, stages, description?, required⟩ := d
  cases hd with
  | cons hs hrest =>
    refine FaultsIn.bind (hs.run v hv).mapReason fun w _ => ?_
    split
    · exact FaultsIn.pure trivial
    · exact runStages_faults w hrest

theorem Validator.Sound.writable {d : Validator} (hd : d.Sound F) : d.WritableStages := by
  obtain ⟨tag, stages, description?, required⟩ := d
  cases hd with
  | cons hs hrest => exact List.forall_mem_cons.mpr ⟨hs.schema, fun s h => (hrest s h).schema⟩

/-- The schema of a sound validator as a value. -/
theorem Validator.Sound.schemaValue {d : Validator} (hd : d.Sound F) :
    d.schemaValue.FaultsIn G fun v => v.isJson = true := by
  refine FaultsIn.bind (FaultsIn.ofFault_ok (Q := Writable) (schema_writable hd.writable))
    fun s hs => FaultsIn.pure hs.isJson

/-! ### Checks and changes -/

/-- A check has its faults among `F`, and a schema that can be written. -/
structure Check.Calm (F : Fault → Prop) (c : Check) : Prop where
  test : ∀ v f, c.test v = .error f → F f
  schema : Writable c.schema

/-- A check without faults. -/
theorem Check.Calm.of_ok {c : Check} (h : ∀ v, ∃ b, c.test v = .ok b) (hs : Writable c.schema) :
    c.Calm F := by
  refine ⟨fun v f hf => ?_, hs⟩
  obtain ⟨b, hb⟩ := h v
  rw [hb] at hf
  cases hf

theorem runChecks_append_faults {ys : List Check} {v : Value} : ∀ {xs : List Check},
    (∀ c ∈ xs, ∀ f, c.test v = .error f → F f) →
      ((∀ c ∈ xs, c.test v = .ok true) → (Stage.runChecks ys v).FaultsIn F fun _ => True) →
        (Stage.runChecks (xs ++ ys) v).FaultsIn F fun _ => True
  | [], _, hys => hys fun _ h => absurd h List.not_mem_nil
  | c :: xs, hxs, hys => by
    obtain ⟨hc, hxs⟩ := List.forall_mem_cons.mp hxs
    refine FaultsIn.bind (Q := fun b => c.test v = .ok b) (FaultsIn.ofFault hc fun _ h => h)
      fun b hb => ?_
    cases b with
    | true =>
      exact runChecks_append_faults hxs fun h => hys (List.forall_mem_cons.mpr ⟨hb, h⟩)
    | false => exact FaultsIn.reject

/-- The checks of a stage have their faults among `F`, and schemas that can be written. -/
structure CalmChecks (F : Fault → Prop) (checks : List Check) : Prop where
  run : ∀ v, (Stage.runChecks checks v).FaultsIn F fun _ => True
  schema : ∀ c ∈ checks, Writable c.schema

theorem CalmChecks.of_each {checks : List Check} (h : ∀ c ∈ checks, c.Calm F) :
    CalmChecks F checks := by
  refine ⟨fun v => ?_, fun c hc => (h c hc).schema⟩
  rw [← List.append_nil checks]
  exact runChecks_append_faults (fun c hc => (h c hc).test v) fun _ => FaultsIn.pure trivial

theorem checkStages_calm {kind : StageKind} {name : String} {checks : List Check}
    (h : CalmChecks F checks) :
    (checkStages kind name checks).FaultsIn G fun stages => ∀ s ∈ stages, s.Calm F := by
  unfold checkStages
  split
  · exact FaultsIn.pure fun _ hs => absurd hs List.not_mem_nil
  · obtain ⟨schema, hschema, hw⟩ := checksSchema_writable h.schema
    have hstage : Stage.ofChecks kind name checks
        = .ok { kind, name, run := Stage.runChecks checks, schema } := by
      rw [Stage.ofChecks, hschema]
      rfl
    rw [hstage]
    exact FaultsIn.pure (List.forall_mem_singleton.mpr ⟨h.run, hw⟩)

theorem runTransforms_ok : ∀ {fs : List Transform}, (∀ f ∈ fs, ∀ v, ∃ w, f v = .ok w) →
    ∀ v, ∃ w, fs.foldlM (fun v f => f v) v = .ok w
  | [], _, v => ⟨v, rfl⟩
  | f :: fs, h, v => by
    obtain ⟨w, hw⟩ := h f List.mem_cons_self v
    obtain ⟨x, hx⟩ := runTransforms_ok (fun g hg => h g (List.mem_cons_of_mem _ hg)) w
    exact ⟨x, by rw [List.foldlM_cons, hw]; exact hx⟩

theorem transformStages_calm {kind : StageKind} {name : String} {fs : List Transform}
    (h : ∀ f ∈ fs, ∀ v, ∃ w, f v = .ok w) : ∀ s ∈ transformStages kind name fs, s.Calm F := by
  unfold transformStages
  split
  · exact fun _ hs => absurd hs List.not_mem_nil
  · refine List.forall_mem_singleton.mpr ⟨fun v => ?_, .nil⟩
    obtain ⟨w, hw⟩ := runTransforms_ok h v
    exact FaultsIn.ofFault_ok ⟨w, hw, trivial⟩

theorem mapTexts_ok (fs : List (String → String)) :
    ∀ f ∈ fs.map mapText, ∀ v, ∃ w, f v = .ok w := by
  intro f hf v
  obtain ⟨g, -, rfl⟩ := List.mem_map.mp hf
  exact ⟨_, rfl⟩

/-! ### Shape stages -/

theorem Rule.common_holdsJson {r : Rule} (hr : r.holdsJson = true) :
    r.common.holdsJson = true := by
  cases r with
  | «class» => cases hr
  | objectId => cases hr
  | enum c values => exact (Bool.and_eq_true_iff.mp hr).1
  | equal c value strict => exact (Bool.and_eq_true_iff.mp hr).1
  | array c items o => exact (Bool.and_eq_true_iff.mp (Bool.and_eq_true_iff.mp hr).1).1
  | _ => exact hr

theorem CommonOptions.default_json {c : CommonOptions} (hc : c.holdsJson = true) :
    ∀ d, c.default? = some d → d.isJson = true := by
  intro d hd
  rw [holdsJson, hd] at hc
  exact hc

/-- A value of a document that stands for an absent one stands for it as it is. -/
theorem CommonOptions.standIn_json {c : CommonOptions} (hc : c.holdsJson = true)
    (isItself : Value → Bool) :
    c.standIn isItself = .none ∨ ∃ d, d.isJson = true ∧ c.standIn isItself = .fixed d := by
  unfold standIn
  cases hd : c.default? with
  | none => exact .inl rfl
  | some d =>
    have hjson := default_json hc d hd
    dsimp only
    rw [Value.isCallable_of_isJson hjson]
    exact .inr ⟨d, hjson, rfl⟩

theorem Rule.standIn_json {r : Rule} (hr : r.holdsJson = true) :
    r.standIn = .none ∨ ∃ d, d.isJson = true ∧ r.standIn = .fixed d := by
  have hc := common_holdsJson hr
  cases r <;> exact CommonOptions.standIn_json hc _

/-- What stands for an offered value is offered too. -/
theorem present_faults {ρ : Type} {r : Rule} (hr : r.holdsJson = true) {v : Value}
    (hv : v.isOffered = true) :
    (r.present v : Eval ρ Value).FaultsIn F fun a => a.isOffered = true := by
  unfold Rule.present
  split
  · rcases r.standIn_json hr with h | ⟨d, hd, h⟩
    · rw [h]
      exact FaultsIn.pure rfl
    · rw [h]
      exact FaultsIn.pure (Value.isOffered_of_isJson hd)
  · exact FaultsIn.pure hv

theorem runShape_faults {r : Rule} {check : Step} (hr : r.holdsJson = true)
    (hcheck : check.FaultsOnJson F) {v : Value} (hv : v.isOffered = true) :
    (runShape r check v).FaultsIn F fun _ => True := by
  refine FaultsIn.bind (present_faults hr hv) fun a ha => ?_
  split
  · split
    · exact FaultsIn.pure trivial
    · exact FaultsIn.reject
  · next hpresent =>
    split
    · split
      · exact FaultsIn.pure trivial
      · exact FaultsIn.reject
    · exact hcheck a (Value.isJson_of_present ha (by simpa using hpresent))

/-- **The shape stage of a rule** from a document. -/
theorem shapeStage_sound {r : Rule} {shape : Shape} (hFG : ∀ f, F f → G f)
    (hr : r.holdsJson = true) (hcheck : shape.check.FaultsOnJson F) (hs : Writable shape.schema)
    (path : String) : (shapeStage r path shape).FaultsIn G fun s => s.Sound F := by
  refine FaultsIn.bind (Q := fun _ => True) ?_ fun _ _ => ?_
  · unfold checkDefault
    rcases r.standIn_json hr with h | ⟨d, hd, h⟩
    · rw [h]
      exact FaultsIn.pure trivial
    · rw [h]
      exact FaultsIn.bind ((hcheck d hd).mono hFG fun _ h => h).mapReason fun _ _ =>
        FaultsIn.pure trivial
  · refine FaultsIn.bind (FaultsIn.ofFault_ok
      (shapeSchema_writable (CommonOptions.default_json (Rule.common_holdsJson hr)) hs))
      fun schema hschema => FaultsIn.pure ⟨fun v hv => runShape_faults hr hcheck hv, hschema⟩

section

variable {r : Rule} {shape : Shape} {path : String}

/-- A shape stage alone. -/
theorem stage_sound (hFG : ∀ f, F f → G f) (hr : r.holdsJson = true)
    (hcheck : shape.check.FaultsOnJson F) (hs : Writable shape.schema) :
    (do return [← shapeStage r path shape]).FaultsIn G (SoundStages F) :=
  FaultsIn.bind (shapeStage_sound hFG hr hcheck hs path) fun _ hs =>
    FaultsIn.pure (.cons hs fun _ h => absurd h List.not_mem_nil)

/-- A shape stage with some stages after it. -/
theorem stages_sound (hFG : ∀ f, F f → G f) (hr : r.holdsJson = true)
    (hcheck : shape.check.FaultsOnJson F) (hs : Writable shape.schema)
    {rest : Eval RuleError (List Stage)} (hrest : rest.FaultsIn G fun ss => ∀ s ∈ ss, s.Calm F) :
    (do return (← shapeStage r path shape) :: (← rest)).FaultsIn G (SoundStages F) :=
  FaultsIn.bind (shapeStage_sound hFG hr hcheck hs path) fun _ hs =>
    FaultsIn.bind hrest fun _ hss => FaultsIn.pure (.cons hs hss)

end

/-! ### The steps of simple rules -/

theorem readStep_faults {α : Type} (check : String) (reader : ScalarReader α)
    (toValue : α → Value) (v : Value) :
    (readStep check reader toValue v).FaultsIn F fun _ => True := by
  unfold readStep
  cases reader v with
  | ok a => exact FaultsIn.pure trivial
  | error p => exact FaultsIn.reject

theorem instantStep_faults (convert : Bool) (v : Value) :
    (instantStep convert v).FaultsIn F fun _ => True := by
  unfold instantStep
  cases if convert then Instant.read v else Instant.strict v with
  | ok t => exact FaultsIn.pure trivial
  | error p => exact FaultsIn.reject

theorem emailStep_faults (convert trimming : Bool) (v : Value) :
    (emailStep convert trimming v).FaultsIn F fun _ => True := by
  refine FaultsIn.bind (readStep_faults _ _ _ v) fun w _ => ?_
  rcases Email.checkBare trimming ((w.text?).getD "") with (_ | p) | _
  · exact FaultsIn.reject
  · exact FaultsIn.reject
  · exact FaultsIn.pure trivial

theorem formattedStep_faults (r : Rule) (empty? : Option Bool)
    (problem? : String → Option String) (v : Value) :
    (formattedStep r empty? problem? v).FaultsIn F fun _ => True := by
  refine FaultsIn.bind (readStep_faults _ _ _ v) fun w _ => ?_
  dsimp only
  split
  · exact FaultsIn.pure trivial
  · cases problem? ((w.text?).getD "") with
    | none => exact FaultsIn.pure trivial
    | some message => exact FaultsIn.reject

/-- A step that tests a value and gives it back. -/
theorem testStep_faults (test : Value → Bool) (check message : String) (v : Value) :
    (if test v then pure v else failCheck check message : Eval StageRejection Value).FaultsIn F
      fun _ => True := by
  split
  · exact FaultsIn.pure trivial
  · exact FaultsIn.reject

/-! ### The steps of composite rules -/

section

variable {d : Validator}

theorem part_faults {α : Type} {Q : α → Prop} {key : Value} {x : Eval PayloadError α}
    (h : x.FaultsIn F Q) : (part key x).FaultsIn F Q :=
  h.mapReason

theorem validateItems_faults (hd : d.Sound F) : ∀ (i : Nat) {xs : List Value},
    (∀ x ∈ xs, x.isJson = true) → (validateItems d i xs).FaultsIn F fun _ => True
  | _, [], _ => FaultsIn.pure trivial
  | i, x :: _, h =>
    FaultsIn.bind (part_faults (hd.validate (Value.isOffered_of_isJson (h x List.mem_cons_self))))
      fun _ _ => FaultsIn.bind (validateItems_faults hd (i + 1) fun y hy =>
        h y (List.mem_cons_of_mem _ hy)) fun _ _ => FaultsIn.pure trivial

theorem arrayStep_faults (convert : Bool) (hd : d.Sound F) :
    Step.FaultsOnJson F (arrayStep convert d) := by
  intro v hv
  unfold arrayStep
  cases hxs : v.items? with
  | some xs =>
    exact FaultsIn.bind (validateItems_faults hd 0 (Value.isJson_items hv hxs)) fun _ _ =>
      FaultsIn.pure trivial
  | none =>
    dsimp only
    split
    · exact FaultsIn.bind (validateItems_faults hd 0 (List.forall_mem_singleton.mpr hv))
        fun _ _ => FaultsIn.pure trivial
    · exact FaultsIn.reject

theorem validateDeclared_faults {entries : Entries Value} (hes : entries.HoldsJson) :
    ∀ {ds : Entries Validator}, (∀ e ∈ ds, e.2.Sound F) →
      (validateDeclared entries ds).FaultsIn F fun _ => True
  | [], _ => FaultsIn.pure trivial
  | e :: _, h =>
    FaultsIn.bind ((h e List.mem_cons_self).validate (hes.offered e.1)).mapReason fun _ _ =>
      FaultsIn.bind (validateDeclared_faults hes fun e' he' => h e' (List.mem_cons_of_mem _ he'))
        fun _ _ => FaultsIn.pure trivial

theorem validateProperties_faults {entries : Entries Value} (hes : entries.HoldsJson)
    {ds : Entries Validator} (mode : UnknownKeys) (h : ∀ e ∈ ds, e.2.Sound F) :
    (validateProperties entries ds mode).FaultsIn F fun _ => True := by
  unfold validateProperties
  dsimp only
  split
  · exact FaultsIn.reject
  · exact FaultsIn.bind (validateDeclared_faults hes h) fun _ _ => FaultsIn.pure trivial

theorem objectStep_faults {ds : Entries Validator} (mode : UnknownKeys)
    (h : ∀ e ∈ ds, e.2.Sound F) : Step.FaultsOnJson F (objectStep ds mode) := by
  intro v hv
  cases v with
  | mapping es =>
    exact FaultsIn.bind (validateProperties_faults (Value.isJson_mapping.mp hv) mode h)
      fun _ _ => FaultsIn.pure trivial
  | _ => exact FaultsIn.reject

theorem firstAccepting_faults {v : Value} (hv : v.isJson = true) : ∀ {ds : List Validator},
    (∀ d ∈ ds, d.Sound F) → (firstAccepting v ds).FaultsIn F fun _ => True
  | [], _ => FaultsIn.pure trivial
  | d :: ds, h => by
    refine FaultsIn.bind
      ((h d List.mem_cons_self).validate (Value.isOffered_of_isJson hv)).attempt fun r _ => ?_
    cases r with
    | ok w => exact FaultsIn.pure trivial
    | error e =>
      exact FaultsIn.bind (firstAccepting_faults hv fun d' hd' =>
        h d' (List.mem_cons_of_mem _ hd')) fun _ _ => FaultsIn.pure trivial

theorem unionStep_faults {ds : List Validator} (h : ∀ d ∈ ds, d.Sound F) :
    Step.FaultsOnJson F (unionStep ds) := by
  intro v hv
  refine FaultsIn.bind (firstAccepting_faults hv h) fun r _ => ?_
  cases r with
  | ok w => exact FaultsIn.pure trivial
  | error texts => exact FaultsIn.reject

theorem validateSlots_faults : ∀ (i : Nat) {ds : List Validator} {xs : List Value},
    (∀ d ∈ ds, d.Sound F) → (∀ x ∈ xs, x.isJson = true) →
      (validateSlots i ds xs).FaultsIn F fun _ => True
  | i, d :: _, x :: _, h, hxs =>
    FaultsIn.bind (part_faults ((h d List.mem_cons_self).validate
      (Value.isOffered_of_isJson (hxs x List.mem_cons_self)))) fun _ _ =>
      FaultsIn.bind (validateSlots_faults (i + 1) (fun d' hd' => h d' (List.mem_cons_of_mem _ hd'))
        fun y hy => hxs y (List.mem_cons_of_mem _ hy)) fun _ _ => FaultsIn.pure trivial
  | _, [], _, _, _ => FaultsIn.pure trivial
  | _, _ :: _, [], _, _ => FaultsIn.pure trivial

theorem tupleStep_faults {ds : List Validator} (h : ∀ d ∈ ds, d.Sound F) :
    Step.FaultsOnJson F (tupleStep ds) := by
  intro v hv
  unfold tupleStep
  cases hxs : v.items? with
  | none => exact FaultsIn.reject
  | some xs =>
    dsimp only
    split
    · exact FaultsIn.bind (validateSlots_faults 0 h (Value.isJson_items hv hxs)) fun _ _ =>
        FaultsIn.pure trivial
    · exact FaultsIn.reject

/-- The keys that the validator of a record makes of texts can be keys, or else `F` has the
fault. -/
def Validator.MakesKeys (F : Fault → Prop) (d : Validator) : Prop :=
  ∀ s, (d.validate (.text s)).FaultsIn F fun key =>
    ∀ kind, key.unkeyable? = some kind → F (.unkeyable kind)

theorem putEntry_faults {es : Entries Value} {key value : Value}
    (h : ∀ kind, key.unkeyable? = some kind → F (.unkeyable kind)) :
    (Eval.ofFault (putEntry es key value) : Eval StageRejection _).FaultsIn F fun _ => True := by
  unfold putEntry
  cases hkey : key.unkeyable? with
  | none => exact FaultsIn.pure trivial
  | some kind =>
    exact FaultsIn.ofFault (fun f hf => Except.error.inj hf ▸ h kind hkey) fun _ _ => trivial

theorem validateEntries_faults {keys values : Validator} (hkeys : keys.MakesKeys F)
    (hvalues : values.Sound F) : ∀ {es : Entries Value} (done : Entries Value), es.HoldsJson →
      (validateEntries keys values done es).FaultsIn F fun _ => True
  | [], _, _ => FaultsIn.pure trivial
  | (k, x) :: es, done, h => by
    obtain ⟨⟨⟨s, rfl⟩, hx⟩, hes⟩ := List.forall_mem_cons.mp h
    refine FaultsIn.bind (part_faults (hkeys s)) fun key hkey => ?_
    refine FaultsIn.bind (part_faults (hvalues.validate (Value.isOffered_of_isJson hx)))
      fun value _ => ?_
    split
    · exact validateEntries_faults hkeys hvalues done hes
    · exact FaultsIn.bind (putEntry_faults hkey) fun done' _ =>
        validateEntries_faults hkeys hvalues done' hes

theorem recordStep_faults {keys values : Validator} (hkeys : keys.MakesKeys F)
    (hvalues : values.Sound F) : Step.FaultsOnJson F (recordStep keys values) := by
  intro v hv
  cases v with
  | mapping es =>
    exact FaultsIn.bind (validateEntries_faults hkeys hvalues [] (Value.isJson_mapping.mp hv))
      fun _ _ => FaultsIn.pure trivial
  | _ => exact FaultsIn.reject

end

end RuleSchema
