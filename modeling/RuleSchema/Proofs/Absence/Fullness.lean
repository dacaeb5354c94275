import RuleSchema.Proofs.Validator.Runs

/-!
# Full values

A value is *full* if the absent value stands nowhere in it: it is not absent itself, and
neither is an item of a list, a key or a content of a mapping, at any depth.  The values
of a document are full, and validation starts with one of these, or with an absent value
where a property is not there.

* `Value.isFull` is the property, `Value.isFullOrAbsent` the one of what a rule receives.
* `Rule.hasFullDefault`: what a rule puts in the place of an absent value is full.
* `Rule.CompilesTo.simple_keeps`: a rule without rules inside keeps every property that all
  scalars have, unless the rule forbids values.
-/

namespace RuleSchema

open Eval

/-! ### Fullness -/

mutual

/-- Whether the absent value stands nowhere in a value. -/
def Value.isFull : Value → Bool
  | .absent => false
  | .list xs => Value.allFull xs
  | .tuple xs => Value.allFull xs
  | .mapping es => Value.entriesFull es
  | _ => true
termination_by structural v => v

/-- Whether the absent value stands nowhere in some values. -/
def Value.allFull : List Value → Bool
  | [] => true
  | x :: xs => Value.isFull x && Value.allFull xs
termination_by structural xs => xs

/-- Whether the absent value stands nowhere in some entries. -/
def Value.entriesFull : List (Value × Value) → Bool
  | [] => true
  | (k, x) :: es => Value.isFull k && Value.isFull x && Value.entriesFull es
termination_by structural es => es

end

namespace Value

theorem allFull_iff {xs : List Value} : allFull xs = true ↔ ∀ x ∈ xs, x.isFull = true := by
  induction xs with
  | nil => simp [allFull]
  | cons x xs ih => simp [allFull, ih]

theorem entriesFull_iff {es : List (Value × Value)} :
    entriesFull es = true ↔ ∀ e ∈ es, e.1.isFull = true ∧ e.2.isFull = true := by
  induction es with
  | nil => simp [entriesFull]
  | cons e es ih =>
    obtain ⟨k, x⟩ := e
    simp [entriesFull, ih]

theorem isFull_list {xs : List Value} :
    (Value.list xs).isFull = true ↔ ∀ x ∈ xs, x.isFull = true := by
  rw [isFull, allFull_iff]

theorem isFull_mapping {es : Entries Value} :
    (Value.mapping es).isFull = true ↔ ∀ e ∈ es, e.1.isFull = true ∧ e.2.isFull = true := by
  rw [isFull, entriesFull_iff]

/-- The items of a full value are full. -/
theorem isFull_of_items {v x : Value} {xs : List Value} (hv : v.isFull = true)
    (hxs : v.items? = some xs) (hx : x ∈ xs) : x.isFull = true := by
  cases v <;> cases hxs
  · exact isFull_list.mp hv x hx
  · rw [isFull, allFull_iff] at hv
    exact hv x hx

theorem isAbsent_of_isFull {v : Value} (h : v.isFull = true) : v.isAbsent = false := by
  cases v <;> first | rfl | cases h

/-- What a rule may receive: a full value, or none. -/
def isFullOrAbsent (v : Value) : Bool := v.isAbsent || v.isFull

theorem isFull_of_present {v : Value} (h : v.isFullOrAbsent = true) (hv : v.isAbsent = false) :
    v.isFull = true := by
  rw [isFullOrAbsent, hv, Bool.false_or] at h
  exact h

theorem isFullOrAbsent_of_isFull {v : Value} (h : v.isFull = true) : v.isFullOrAbsent = true := by
  rw [isFullOrAbsent, h, Bool.or_true]

/-- Whether a callable value answers with a full value. -/
def answersFull : Value → Bool
  | .func _ _ (some v) => v.isFullOrAbsent
  | .func _ _ none => true
  | .cls _ => true
  | .object _ content => content.isFullOrAbsent
  | v => v.isFullOrAbsent

theorem call_full {ρ : Type} {f a : Value} {t u : Tally} (hf : f.answersFull = true)
    (h : (f.call : Eval ρ Value) t = (.ok a, u)) : a.isFullOrAbsent = true := by
  have hmake : ∀ {c : ObjectClass} {a : Value}, c.make .null = .ok a → a.isFullOrAbsent = true := by
    intro c a ha
    unfold ObjectClass.make at ha
    split at ha
    · cases ha
    · cases ha; rfl
  cases f with
  | func name occurrence result =>
    cases result with
    | some v => rw [(pure_ok h).1]; exact hf
    | none =>
      obtain ⟨calls, s, -, h⟩ := bind_ok h
      rw [(pure_ok h).1]
      rfl
  | cls c =>
    cases c with
    | objects c => exact hmake (ofFault_ok h).1
    | _ => rw [(pure_ok h).1]; rfl
  | object c content => rw [(pure_ok h).1]; exact hf
  | _ => rw [(pure_ok h).1]; exact hf

end Value

/-- Whether what a rule puts in the place of an absent value is full. -/
def Rule.hasFullDefault (r : Rule) : Bool :=
  match r.standIn with
  | .none => true
  | .fixed v => v.isFullOrAbsent
  | .generated source => source.answersFull

theorem present_full {ρ : Type} {r : Rule} {v a : Value} {t u : Tally}
    (hr : r.hasFullDefault = true) (hv : v.isFullOrAbsent = true)
    (h : (r.present v : Eval ρ Value) t = (.ok a, u)) : a.isFullOrAbsent = true := by
  cases habsent : v.isAbsent with
  | false => rw [present_ok habsent h]; exact hv
  | true =>
    rw [Rule.present, habsent, if_pos rfl] at h
    obtain ⟨b, s, hb, h⟩ := bind_ok h
    rw [(pure_ok h).1]
    rw [Rule.hasFullDefault] at hr
    cases hs : r.standIn with
    | none =>
      rw [hs] at hb
      rw [(pure_ok hb).1]
      rfl
    | fixed v =>
      rw [hs] at hb hr
      rw [(pure_ok hb).1]
      exact hr
    | generated source =>
      rw [hs] at hb hr
      obtain ⟨c, s', hc, hb⟩ := bind_ok hb
      rw [(pure_ok hb).1]
      exact Value.call_full hr hc

/-! ### Properties that stages keep -/

/-- A step gives a value with the property `P` whenever it receives one. -/
def Step.Keeps (P : Value → Prop) (step : Step) : Prop :=
  ∀ v w t u, P v → step v t = (.ok w, u) → P w

/-- A property that all scalars have. -/
structure ScalarProperty (P : Value → Prop) : Prop where
  text : ∀ s, P (.text s)
  number : ∀ n, P (.number n)
  bool : ∀ b, P (.bool b)
  instant : ∀ i, P (.instant i)
  object : ∀ c v, P (.object c v)

theorem ScalarProperty.full : ScalarProperty fun v => v.isFull = true :=
  ⟨fun _ => rfl, fun _ => rfl, fun _ => rfl, fun _ => rfl, fun _ _ => rfl⟩

theorem ScalarProperty.fullOrAbsent : ScalarProperty fun v => v.isFullOrAbsent = true :=
  ⟨fun _ => rfl, fun _ => rfl, fun _ => rfl, fun _ => rfl, fun _ _ => rfl⟩

variable {P : Value → Prop}

/-- A step that gives back what it accepts keeps every property. -/
theorem Step.keeps_of_id {step : Step} (h : ∀ v w t u, step v t = (.ok w, u) → w = v) :
    Step.Keeps P step := by
  intro v w t u hv hw
  rw [h v w t u hw]
  exact hv

theorem readStep_ok {α : Type} {check : String} {reader : ScalarReader α} {toValue : α → Value}
    {v w : Value} {t u : Tally} (h : readStep check reader toValue v t = (.ok w, u)) :
    ∃ a, w = toValue a ∧ reader v = .ok a := by
  unfold readStep at h
  cases hr : reader v with
  | ok a => rw [hr] at h; exact ⟨a, (pure_ok h).1, rfl⟩
  | error p => rw [hr] at h; exact absurd h reject_ok

theorem textStep_ok {tag : Tag} {convert : Bool} {v w : Value} {t u : Tally}
    (h : textStep tag convert v t = (.ok w, u)) : ∃ s, w = .text s := by
  obtain ⟨s, hs, -⟩ := readStep_ok h
  exact ⟨s, hs⟩

theorem textStep_keeps (hP : ScalarProperty P) (tag : Tag) (convert : Bool) :
    Step.Keeps P (textStep tag convert) := by
  intro v w t u _ h
  obtain ⟨s, rfl⟩ := textStep_ok h
  exact hP.text s

theorem emailStep_keeps (hP : ScalarProperty P) (convert trimming : Bool) :
    Step.Keeps P (emailStep convert trimming) := by
  intro v w t u _ h
  obtain ⟨x, s, hx, h⟩ := bind_ok h
  obtain ⟨a, rfl⟩ := textStep_ok hx
  cases hc : Email.checkBare trimming (((Value.text a).text?).getD "") with
  | ok _ => rw [hc] at h; rw [(pure_ok h).1]; exact hP.text a
  | error p? => rw [hc] at h; cases p? <;> exact absurd h reject_ok

theorem formattedStep_keeps (hP : ScalarProperty P) (r : Rule) (empty? : Option Bool)
    (problem? : String → Option String) : Step.Keeps P (formattedStep r empty? problem?) := by
  intro v w t u _ h
  obtain ⟨x, s, hx, h⟩ := bind_ok h
  obtain ⟨a, rfl⟩ := textStep_ok hx
  dsimp only at h
  split at h
  · rw [(pure_ok h).1]; exact hP.text a
  · cases hp : problem? (((Value.text a).text?).getD "") with
    | none => rw [hp] at h; rw [(pure_ok h).1]; exact hP.text a
    | some message => rw [hp] at h; exact absurd h reject_ok

theorem instantStep_keeps (hP : ScalarProperty P) (convert : Bool) :
    Step.Keeps P (instantStep convert) := by
  intro v w t u _ h
  unfold instantStep at h
  cases hi : if convert then Instant.read v else Instant.strict v with
  | ok i => rw [hi] at h; rw [(pure_ok h).1]; exact hP.instant i
  | error p => rw [hi] at h; exact absurd h reject_ok

/-- A shape stage keeps what its check keeps, provided that the value in the place of an absent
one has the property. -/
theorem ShapeOf.keeps {r : Rule} {shape : Shape} {s : Stage} (hs : ShapeOf r shape s)
    (hr : ∀ v a t u, P v → (r.present v : Eval StageRejection Value) t = (.ok a, u) → P a)
    (hcheck : Step.Keeps P shape.check) : s.Keeps P := by
  intro v w t u hv h
  rw [hs.run] at h
  obtain ⟨a, s', ha, h⟩ := runShape_ok h
  have ha : P a := hr v a t s' hv ha
  rcases h with ⟨rfl, -⟩ | ⟨-, -, h⟩
  · exact ha
  · exact hcheck a w s' u ha h

theorem ChecksOf.keeps {kind : StageKind} {checks : List Check} {stages : List Stage}
    (h : ChecksOf kind checks stages) : ∀ s ∈ stages, s.Keeps P := by
  intro s hs v w t u hv hrun
  rw [h.run_eq s hs] at hrun
  rw [(runChecks_ok hrun).1]
  exact hv

/-- A change gives a value with the property `P` whenever it receives one. -/
def Transform.Keeps (P : Value → Prop) (f : Transform) : Prop := ∀ v w, P v → f v = .ok w → P w

theorem runTransforms_keeps : ∀ {fs : List Transform} {v w : Value} {t u : Tally},
    (∀ f ∈ fs, Transform.Keeps P f) → P v →
      Stage.runTransforms fs v t = (.ok w, u) → P w := by
  intro fs
  induction fs with
  | nil =>
    intro v w t u _ hv h
    cases (ofFault_ok h).1
    exact hv
  | cons f fs ih =>
    intro v w t u hfs hv h
    have hrun := (ofFault_ok h).1
    rw [List.foldlM_cons] at hrun
    cases hx : f v with
    | error e => rw [hx] at hrun; cases hrun
    | ok x =>
      rw [hx] at hrun
      refine ih (fun g hg => hfs g (List.mem_cons_of_mem _ hg))
        (hfs f List.mem_cons_self v x hv hx) (t := t) (u := t) ?_
      rw [Stage.runTransforms]
      show ofFault (List.foldlM (fun v f => f v) x fs) t = _
      have : (List.foldlM (fun v f => f v) x fs : Except Fault Value) = .ok w := hrun
      rw [this]
      rfl

/-- A stage of changes keeps what each of them keeps. -/
theorem ChangesOf.keeps {kind : StageKind} {fs : List Transform} {stages : List Stage}
    (h : ChangesOf kind fs stages) (hfs : ∀ f ∈ fs, Transform.Keeps P f) :
    ∀ s ∈ stages, s.Keeps P := by
  obtain ⟨name, rfl⟩ := h
  intro s hs v w t u hv hrun
  unfold transformStages at hs
  split at hs
  · exact absurd hs List.not_mem_nil
  · rw [List.mem_singleton.mp hs] at hrun
    exact runTransforms_keeps hfs hv hrun

theorem mapText_keeps (hP : ScalarProperty P) (fs : List (String → String)) :
    ∀ f ∈ fs.map mapText, Transform.Keeps P f := by
  intro f hf v w hv h
  obtain ⟨g, -, rfl⟩ := List.mem_map.mp hf
  unfold mapText at h
  split at h
  · cases h; exact hP.text _
  · cases h; exact hv

/-! ### Rules without rules inside -/

/-- Null, or what a check that gives values back accepts. -/
theorem keeps_ite {b : Value → Bool} {check message : String} :
    Step.Keeps P fun v => if b v then pure v else failCheck check message := by
  refine Step.keeps_of_id fun v w t u h => ?_
  cases hb : b v with
  | true => rw [hb, if_pos rfl] at h; exact (pure_ok h).1
  | false => rw [hb, if_neg Bool.false_ne_true] at h; exact absurd h reject_ok

/-- The steps of rules without rules inside give scalars, or what they accept. -/
theorem scalarStep_keeps (hP : ScalarProperty P) (r : Rule) : Step.Keeps P r.scalarStep := by
  have hany : Step.Keeps P anyStep := Step.keeps_of_id fun _ _ _ _ h => (pure_ok h).1
  cases r with
  | string c _ => exact textStep_keeps hP _ _
  | number c _ =>
    intro v w t u _ hw
    obtain ⟨n, rfl, -⟩ := readStep_ok hw
    exact hP.number n
  | boolean c =>
    intro v w t u _ hw
    obtain ⟨b, rfl, -⟩ := readStep_ok hw
    exact hP.bool b
  | date c => exact instantStep_keeps hP _
  | email c o => exact emailStep_keeps hP _ _
  | currency c _ => exact textStep_keeps hP _ _
  | «class» c k => exact keeps_ite
  | function c => exact keeps_ite
  | luhn c => exact textStep_keeps hP _ _
  | mac c => exact textStep_keeps hP _ _
  | url c empty? => rw [Rule.scalarStep]; exact formattedStep_keeps hP _ _ _
  | uuid c empty? => rw [Rule.scalarStep]; exact formattedStep_keeps hP _ _ _
  | objectId c identity _ =>
    rw [Rule.scalarStep]
    cases identity.identities? with
    | none => exact hany
    | some k => exact keeps_ite
  | any | enum | equal | forbidden | array | object | multi | tuple | record => exact hany

section

variable {r : Rule} {plan : StagePlan} {s : Stage} {rest : List Stage}

/-- The changes of a plan give scalars, or what they receive. -/
theorem Rule.PlannedAs.keeps (h : r.PlannedAs plan) (hP : ScalarProperty P) :
    (∀ f ∈ plan.prepared, Transform.Keeps P f) ∧ ∀ f ∈ plan.finished, Transform.Keeps P f := by
  have hnone : ∀ f ∈ ([] : List Transform), Transform.Keeps P f :=
    fun f hf => absurd hf List.not_mem_nil
  cases h with
  | string _ => exact ⟨mapText_keeps hP _, mapText_keeps hP _⟩
  | email => exact ⟨mapText_keeps hP _, hnone⟩
  | @objectId c identity conversion k _ =>
    refine ⟨hnone, ?_⟩
    cases conversion with
    | keep => exact hnone
    | text =>
      refine List.forall_mem_singleton.mpr fun v w _ hw => ?_
      cases hw
      exact hP.text _
    | object =>
      refine List.forall_mem_singleton.mpr fun v w hv hw => ?_
      split at hw
      · cases hw; exact hv
      · unfold ObjectClass.make at hw
        repeat' split at hw
        all_goals cases hw
        all_goals exact hP.object _ _
  | _ => exact ⟨hnone, hnone⟩

namespace StagePlan.Makes

/-- **The later stages of a rule without rules inside** keep every property that all scalars
have. -/
theorem rest_keeps (h : plan.Makes r s rest) (hP : ScalarProperty P) (hplan : r.PlannedAs plan) :
    ∀ s' ∈ rest, s'.Keeps P := by
  obtain ⟨before, checks, others, after, rfl, hbefore, hchecks, hothers, hafter⟩ := h.rest
  simp only [List.forall_mem_append]
  exact ⟨hbefore.keeps (hplan.keeps hP).1, hchecks.keeps, hothers.keeps,
    hafter.keeps (hplan.keeps hP).2⟩

end StagePlan.Makes

end

namespace Rule.CompilesTo

variable {c : CommonOptions} {r : Rule} {ctx : Strictness} {d : Validator} {v w : Value}

/-- **A rule without rules inside** keeps such a property if what replaces an absent value has it,
unless the rule forbids values. -/
theorem simple_keeps (h : r.CompilesTo ctx d) (hcomposite : r.tag.isComposite = false)
    (hforbidden : r.tag ≠ .forbidden) (hP : ScalarProperty P)
    (hr : ∀ v a t u, P v → (r.present v : Eval StageRejection Value) t = (.ok a, u) → P a)
    (hv : P v) (hw : d.Gives v w) : P w := by
  obtain ⟨plan, s, rest, hplan, hd, hmade⟩ := h.planned hcomposite hforbidden
  obtain ⟨t, u, hw⟩ := hw
  rw [Validator.validate, hd.stages] at hw
  refine runStages_keeps (List.forall_mem_cons.mpr ⟨?_, hmade.rest_keeps hP hplan⟩) hv hw
  exact hmade.shape.keeps hr (scalarStep_keeps hP r)

/-- A rule that forbids values keeps what the absent value has as well. -/
theorem forbidden_keeps {remove : Bool} (habsent : P .absent)
    (h : (Rule.forbidden c remove).CompilesTo ctx d) (hv : P v) (hw : d.Gives v w) : P w := by
  obtain ⟨path, t, u, stages, hstages, hd⟩ := h.simple rfl
  obtain ⟨t, u, hw⟩ := hw
  rw [Validator.validate, hd.stages] at hw
  refine runStages_keeps ?_ hv hw
  have hshape : Step.Keeps P fun v => pure (if v.isNull then .absent else v) := by
    intro v w t u hv hw
    rw [(pure_ok hw).1]
    split
    · exact habsent
    · exact hv
  cases remove with
  | true =>
    rw [(pure_ok hstages).1]
    have hremove : Transform.Keeps P fun _ => .ok .absent := by
      intro v w _ h
      cases h
      exact habsent
    exact List.forall_mem_cons.mpr
      ⟨hshape, ChangesOf.keeps ⟨_, rfl⟩ (List.forall_mem_singleton.mpr hremove)⟩
  | false =>
    obtain ⟨checks, _, hchecks, hstages⟩ := bind_ok hstages
    rw [(pure_ok hstages).1]
    exact List.forall_mem_cons.mpr ⟨hshape, (checkStages_ok hchecks).keeps⟩

end Rule.CompilesTo

end RuleSchema
