import RuleSchema.Proofs.Absence.Fullness
import RuleSchema.Proofs.Text.LetterCase
import RuleSchema.Proofs.Validator.Absent

/-!
# Stages that give back what they have given

Validating a validated value gives it back if every stage does so with its own results.
The shape stage does, whatever it has put in the place of an absent value, as soon as the
check of its type does; checks give back what they accept; and the preparation of a text
changes a prepared text no more.

* `Step.Projects`, `Validator.Projects` say that a second run gives the result of the first.
* `runShape_again`: the shape stage, from the check of its type.
* `Validator.projects_of_checks` and `Validator.projects_of_text` put stages together.
* `Rule.CompilesTo.simple_projects`: the rules without rules inside.
-/

namespace RuleSchema

open Eval

/-- A step that gives back what it has given, and that makes neither an absent value nor null of
another one. -/
structure Step.Projects (step : Step) : Prop where
  again : ∀ {v w t u}, step v t = (.ok w, u) → ∀ t', step w t' = (.ok w, t')
  present : ∀ {v w t u}, step v t = (.ok w, u) → v.isAbsent = false → v.isNull = false →
    w.isAbsent = false ∧ w.isNull = false

/-- A value that a validator gives back. -/
def Validator.Fixes (d : Validator) (v : Value) : Prop := ∀ t, d.validate v t = (.ok v, t)

/-- A validator that gives back what it has given. -/
def Validator.Projects (d : Validator) : Prop := ∀ v w, d.Gives v w → d.Fixes w

/-! ### The shape stage -/

section

variable {r : Rule} {check : Step} {v w a : Value} {t u s : Tally}

/-- A function that once answers with an absent value always does: one that counts its calls
answers with numbers. -/
theorem call_absent {ρ : Type} {f : Value} (h : (f.call : Eval ρ Value) t = (.ok .absent, u))
    (t' : Tally) : (f.call : Eval ρ Value) t' = (.ok .absent, t') := by
  have hmake : ∀ {c : ObjectClass}, c.make .null ≠ .ok .absent := by
    intro c hc
    rw [ObjectClass.make] at hc
    split at hc <;> cases hc
  have hempty : ∀ {c : ClassRef}, Value.emptyOf c ≠ .absent := by
    intro c
    cases c <;> intro h <;> cases h
  cases f with
  | func name occurrence result? =>
    cases result? with
    | some x => rw [Value.call, ← (pure_ok h).1]; rfl
    | none =>
      obtain ⟨n, _, -, h⟩ := bind_ok h
      cases (pure_ok h).1
  | cls c =>
    cases c with
    | objects c => exact absurd (ofFault_ok h).1 hmake
    | _ => exact absurd (pure_ok h).1.symm hempty
  | object c content => rw [Value.call, ← (pure_ok h).1]; rfl
  | _ => cases h <;> rfl

/-- Where nothing stands for an absent value, nothing does the next time. -/
theorem present_absent {ρ : Type} (h : (r.present v : Eval ρ Value) t = (.ok .absent, u))
    (t' : Tally) : (r.present .absent : Eval ρ Value) t' = (.ok .absent, t') := by
  have habsent : v.isAbsent = true := by
    by_contra hv
    have hv : v.isAbsent = false := by simpa using hv
    rw [← present_ok hv h] at hv
    cases hv
  rw [Rule.present, if_pos habsent] at h
  obtain ⟨x?, _, hx, h⟩ := bind_ok h
  have hvalue : x?.getD .absent = .absent := (pure_ok h).1.symm
  have hresolve : (r.standIn.resolve : Eval ρ (Option Value)) t' = (.ok x?, t') := by
    cases hstand : r.standIn with
    | none => rw [hstand] at hx; rw [(pure_ok hx).1]; rfl
    | fixed d => rw [hstand] at hx; rw [(pure_ok hx).1]; rfl
    | generated f =>
      rw [hstand] at hx
      obtain ⟨y, _, hy, hx⟩ := bind_ok hx
      obtain rfl : x? = some y := (pure_ok hx).1
      obtain rfl : y = .absent := hvalue
      rw [StandIn.resolve, bind_of_ok (call_absent hy t')]
      rfl
  rw [Rule.present, if_pos (by rfl), bind_of_ok hresolve]
  exact congrArg (fun x => (Except.ok x, t')) hvalue

theorem present_of_present {ρ : Type} (hv : v.isAbsent = false) :
    (r.present v : Eval ρ Value) = pure v := by
  rw [Rule.present, hv]
  rfl

/-- **The shape stage gives back what it has given** if the check of its type does: what is absent
stays absent, null stays null, and what replaces an absent value is checked no differently. -/
theorem runShape_again (hcheck : check.Projects) (h : runShape r check v t = (.ok w, u))
    (t' : Tally) : runShape r check w t' = (.ok w, t') := by
  obtain ⟨a, s, ha, h⟩ := bind_ok h
  by_cases habsent : a.isAbsent = true
  · rw [if_pos habsent] at h
    rw [Value.eq_absent habsent] at ha
    by_cases hoptional : r.common.optional = true
    · rw [if_pos hoptional] at h
      rw [(pure_ok h).1, runShape, bind_of_ok (present_absent ha t'), if_pos (by rfl),
        if_pos hoptional]
      rfl
    · rw [if_neg hoptional] at h
      exact absurd h reject_ok
  rw [if_neg habsent] at h
  by_cases hnull : a.isNull = true
  · rw [if_pos hnull] at h
    by_cases hnullable : r.common.nullable = true
    · rw [if_pos hnullable] at h
      rw [(pure_ok h).1, runShape, present_of_present rfl, pure_bind,
        if_neg (by simp [Value.isAbsent]), if_pos (by rfl), if_pos hnullable]
      rfl
    · rw [if_neg hnullable] at h
      exact absurd h reject_ok
  · rw [if_neg hnull] at h
    obtain ⟨hw, hw'⟩ := hcheck.present h (by simpa using habsent) (by simpa using hnull)
    rw [runShape, present_of_present hw, pure_bind, hw, hw', if_neg Bool.false_ne_true,
      if_neg Bool.false_ne_true]
    exact hcheck.again h t'

end

/-! ### Stages one after the other -/

section

variable {d : Validator} {tag : Tag} {s : Stage} {rest stages : List Stage} {v w : Value}
  {t u : Tally}

/-- Checks that accept a value accept it again. -/
theorem runChecks_again {cs : List Check} (h : Stage.runChecks cs v t = (.ok w, u)) (t' : Tally) :
    Stage.runChecks cs v t' = (.ok v, t') := by
  obtain ⟨-, -, hcs⟩ := runChecks_ok h
  clear h
  induction cs with
  | nil => rfl
  | cons c cs ih =>
    rw [Stage.runChecks, hcs c List.mem_cons_self]
    exact ih fun c' hc' => hcs c' (List.mem_cons_of_mem _ hc')

/-- Stages of checks that accept a value accept it again. -/
theorem runStages_again : ∀ {stages : List Stage} {t u : Tally},
    (∀ s ∈ stages, ∃ cs, s.run = Stage.runChecks cs) →
      Validator.runStages tag stages v t = (.ok w, u) →
        ∀ t', Validator.runStages tag stages v t' = (.ok v, t') := by
  intro stages
  induction stages with
  | nil => intro t u _ _ t'; rfl
  | cons s stages ih =>
    intro t u hs h t'
    obtain ⟨cs, hcs⟩ := hs s List.mem_cons_self
    obtain ⟨x, t₁, hx, hrest⟩ := bind_ok h
    have hx := mapReason_ok hx
    rw [hcs] at hx
    obtain ⟨rfl, -⟩ := runChecks_ok hx
    have hrun : mapReason (Validator.located tag s.kind) (s.run x) t' = (.ok x, t') := by
      rw [hcs]
      exact mapReason_of_ok (runChecks_again hx t')
    rw [Validator.runStages, bind_of_ok hrun]
    by_cases hsettled : Validator.isSettled s.kind x = true
    · rw [if_pos hsettled]; rfl
    · rw [if_neg hsettled] at hrest ⊢
      exact ih (fun s' hs' => hs s' (List.mem_cons_of_mem _ hs')) hrest t'

/-- **A first stage that gives back its results**, and checks after it. -/
theorem Validator.projects_of_checks (hstages : d.stages = s :: rest)
    (hs : ∀ {v w t u}, s.run v t = (.ok w, u) → ∀ t', s.run w t' = (.ok w, t'))
    (hrest : ∀ s ∈ rest, ∃ cs, s.run = Stage.runChecks cs) : d.Projects := by
  rintro v w ⟨t, u, h⟩ t'
  rw [Validator.validate, hstages] at h ⊢
  obtain ⟨x, t₁, hx, h⟩ := bind_ok h
  have hagain := mapReason_of_ok (f := located d.tag s.kind) (hs (mapReason_ok hx) t')
  by_cases hsettled : Validator.isSettled s.kind x = true
  · rw [if_pos hsettled] at h
    rw [(pure_ok h).1, Validator.runStages, bind_of_ok hagain, if_pos hsettled]
    rfl
  · rw [if_neg hsettled] at h
    rw [runStages_checks hrest h, Validator.runStages, bind_of_ok hagain, if_neg hsettled]
    exact runStages_again hrest h t'

/-- A shape stage whose check gives back its results, and checks after it. -/
theorem ShapeOf.projects {r : Rule} {shape : Shape} (hs : ShapeOf r shape s)
    (hcheck : shape.check.Projects) (hstages : d.stages = s :: rest)
    (hrest : ∀ s ∈ rest, ∃ cs, s.run = Stage.runChecks cs) : d.Projects := by
  refine Validator.projects_of_checks hstages (fun h => ?_) hrest
  rw [hs.run] at h ⊢
  exact runShape_again hcheck h

/-! ### Prepared texts -/

/-- A text after some changes. -/
def changed (fs : List (String → String)) (s : String) : String := fs.foldl (fun s f => f s) s

/-- A stage of changes of texts. -/
theorem runStages_texts {name : String} {fs : List (String → String)} {a : String} :
    Validator.runStages tag (transformStages .preProcess name (fs.map mapText) ++ rest) (.text a)
      = Validator.runStages tag rest (.text (changed fs a)) := by
  have hfold : ∀ (fs : List (String → String)) (a : String),
      (fs.map mapText).foldlM (fun v f => f v) (Value.text a)
        = (.ok (.text (changed fs a)) : Except Fault Value) := by
    intro fs
    induction fs with
    | nil => intro a; rfl
    | cons f fs ih => intro a; exact ih (f a)
  by_cases hfs : fs = []
  · rw [hfs]; rfl
  · have hne : (fs.map mapText).isEmpty = false := by simpa using hfs
    rw [transformStages, hne, if_neg Bool.false_ne_true, List.singleton_append,
      Validator.runStages]
    change (mapReason _ (Stage.runTransforms _ _) >>= _) = _
    rw [Stage.runTransforms, hfold]
    rfl

/-- **A text that is prepared and then checked** is given back, if the preparation changes prepared
texts no more. -/
theorem Validator.projects_of_text {r : Rule} {shape : Shape} {name : String}
    {fs : List (String → String)} (hs : ShapeOf r shape s)
    (htext : ∀ {v w t u}, shape.check v t = (.ok w, u) → ∃ a, w = .text a)
    (hsame : ∀ a, shape.check (.text a) = pure (.text a))
    (hfs : ∀ a, changed fs (changed fs a) = changed fs a)
    (hstages : d.stages = s :: (transformStages .preProcess name (fs.map mapText) ++ rest))
    (hrest : ∀ s ∈ rest, ∃ cs, s.run = Stage.runChecks cs) : d.Projects := by
  have hcheck : shape.check.Projects := by
    refine ⟨fun h t' => ?_, fun h _ _ => ?_⟩
    · obtain ⟨a, rfl⟩ := htext h
      rw [hsame]
      rfl
    · obtain ⟨a, rfl⟩ := htext h
      exact ⟨rfl, rfl⟩
  rintro v w ⟨t, u, h⟩ t'
  rw [Validator.validate, hstages] at h ⊢
  obtain ⟨x, t₁, hx, h⟩ := bind_ok h
  have hx := mapReason_ok hx
  rw [hs.run] at hx
  by_cases hsettled : Validator.isSettled s.kind x = true
  · rw [if_pos hsettled] at h
    have hagain := mapReason_of_ok (f := located d.tag s.kind) (runShape_again hcheck hx t')
    rw [(pure_ok h).1, Validator.runStages, hs.run, bind_of_ok hagain, if_pos hsettled]
    rfl
  · rw [if_neg hsettled] at h
    obtain ⟨a, rfl⟩ : ∃ a, x = .text a := by
      obtain ⟨y, t₂, -, ⟨rfl, hy⟩ | ⟨-, -, hy⟩⟩ := runShape_ok hx
      · rw [isSettled, hs.kind] at hsettled
        rcases hy with rfl | rfl <;> exact absurd rfl hsettled
      · exact htext hy
    have hshape : runShape r shape.check (.text (changed fs a)) = pure (.text (changed fs a)) := by
      rw [runShape, present_of_present rfl, pure_bind]
      exact hsame _
    rw [runStages_texts] at h
    rw [runStages_checks hrest h, Validator.runStages, hs.run, hshape, hs.kind]
    refine Eq.trans (b := Validator.runStages d.tag _ (.text (changed fs a)) t') rfl ?_
    rw [runStages_texts, hfs]
    exact runStages_again hrest h t'

end

/-! ### The checks of the simple types -/

/-- A step that rejects values or lets them through. -/
theorem Step.projects_of_id {step : Step}
    (h : ∀ {v w t u}, step v t = (.ok w, u) → w = v ∧ ∀ t', step v t' = (.ok v, t')) :
    step.Projects := by
  refine ⟨fun hw => ?_, fun hw habsent hnull => ?_⟩
  · obtain ⟨rfl, hagain⟩ := h hw
    exact hagain
  · obtain ⟨rfl, -⟩ := h hw
    exact ⟨habsent, hnull⟩

/-- A reader that reads back what it has given. -/
theorem readStep_projects {α : Type} {check : String} {reader : ScalarReader α}
    {toValue : α → Value} (hreader : ∀ {v a}, reader v = .ok a → reader (toValue a) = .ok a)
    (hpresent : ∀ a, (toValue a).isAbsent = false ∧ (toValue a).isNull = false) :
    Step.Projects (readStep check reader toValue) := by
  refine ⟨fun h t' => ?_, fun h _ _ => ?_⟩
  · obtain ⟨a, rfl, hv⟩ := readStep_ok h
    rw [readStep, hreader hv]
    rfl
  · obtain ⟨a, rfl, -⟩ := readStep_ok h
    exact hpresent a

theorem textStep_text (tag : Tag) (convert : Bool) (a : String) :
    textStep tag convert (.text a) = pure (.text a) := by
  cases convert <;> rfl

theorem textStep_projects (tag : Tag) (convert : Bool) : Step.Projects (textStep tag convert) := by
  refine readStep_projects (fun {v a} _ => ?_) fun a => ⟨rfl, rfl⟩
  cases convert <;> rfl

theorem strictNumber_again {v : Value} {n : Number} (h : strictNumber v = .ok n) :
    strictNumber (.number n) = .ok n := by
  cases n with
  | int n => rfl
  | float x =>
    have hfinite : x.isFinite = true := by
      unfold strictNumber at h
      split at h
      · cases h
      · split at h
        · cases h; assumption
        · cases h
      · cases h
    exact if_pos hfinite

theorem admitted_ok {x y : Binary64} (h : admitted true x = .ok y) : y.isFinite = true := by
  unfold admitted at h
  split at h
  · cases h
  · next hfinite =>
    cases h
    simpa using hfinite

/-- A number that has been read is finite, and so it is read as it is. -/
theorem readNumber_again {v : Value} {n : Number} (h : readNumber true v = .ok n) :
    readNumber true (.number n) = .ok n := by
  cases n with
  | int n => rfl
  | float x =>
    have hfinite : x.isFinite = true := by
      unfold readNumber at h
      split at h
      · cases h
      · split at h
        · next hx => cases h; exact admitted_ok hx
        · cases h
        · cases h
      · split at h
        · cases h
        · split at h
          · cases h
          · split at h
            · next hx => cases h; exact admitted_ok hx
            · cases h
    have hadmitted : admitted true x = .ok x := by simp [admitted, hfinite]
    simp only [readNumber, hadmitted]

theorem numberStep_projects (convert : Bool) : Step.Projects (numberStep convert) := by
  refine readStep_projects (fun {v n} h => ?_) fun n => ⟨rfl, rfl⟩
  cases convert with
  | false =>
    change strictNumber v = .ok n at h
    rw [if_neg Bool.false_ne_true]
    exact strictNumber_again h
  | true =>
    change (readNumber true v).mapError Prod.fst = .ok n at h
    cases hread : readNumber true v with
    | error p => rw [hread] at h; cases h
    | ok m =>
      rw [hread] at h
      cases h
      change (readNumber true (.number n)).mapError Prod.fst = .ok n
      rw [readNumber_again hread]
      rfl

theorem instantStep_projects (convert : Bool) : Step.Projects (instantStep convert) := by
  have hinstant : ∀ {v w t u}, instantStep convert v t = (.ok w, u) → ∃ i, w = .instant i := by
    intro v w t u h
    rw [instantStep] at h
    cases hi : if convert then Instant.read v else Instant.strict v with
    | ok i => rw [hi] at h; exact ⟨i, (pure_ok h).1⟩
    | error p => rw [hi] at h; exact absurd h reject_ok
  refine ⟨fun h t' => ?_, fun h _ _ => ?_⟩
  · obtain ⟨i, rfl⟩ := hinstant h
    cases convert <;> rfl
  · obtain ⟨i, rfl⟩ := hinstant h
    exact ⟨rfl, rfl⟩

/-- What an accepted text in a format is: one that is read as it is, and accepted again. -/
theorem formattedStep_ok {r : Rule} {empty? : Option Bool} {problem? : String → Option String}
    {v w : Value} {t u : Tally} (h : formattedStep r empty? problem? v t = (.ok w, u)) :
    ∃ a, w = .text a ∧ (∃ s, textStep r.tag r.common.convert v t = (.ok (.text a), s)) ∧
      ∀ t', formattedStep r empty? problem? (.text a) t' = (.ok (.text a), t') := by
  obtain ⟨x, s, hx, h⟩ := bind_ok h
  obtain ⟨a, rfl⟩ := textStep_ok hx
  dsimp only at h
  by_cases hempty : (((Value.text a).text?).getD "" = "" && empty? = some true) = true
  · rw [if_pos hempty] at h
    refine ⟨a, (pure_ok h).1, ⟨s, hx⟩, fun t' => ?_⟩
    rw [formattedStep, textStep_text, pure_bind, if_pos hempty]
    rfl
  · rw [if_neg hempty] at h
    cases hproblem : problem? (((Value.text a).text?).getD "") with
    | none =>
      simp only [hproblem] at h
      refine ⟨a, (pure_ok h).1, ⟨s, hx⟩, fun t' => ?_⟩
      rw [formattedStep, textStep_text, pure_bind, if_neg hempty]
      simp only [hproblem]
      rfl
    | some message =>
      simp only [hproblem] at h
      exact absurd h reject_ok

theorem emailStep_ok {convert trimming : Bool} {v w : Value} {t u : Tally}
    (h : emailStep convert trimming v t = (.ok w, u)) :
    ∃ a, w = .text a ∧ (∃ s, textStep .email convert v t = (.ok (.text a), s)) ∧
      ∀ t', emailStep convert trimming (.text a) t' = (.ok (.text a), t') := by
  obtain ⟨x, s, hx, h⟩ := bind_ok h
  obtain ⟨a, rfl⟩ := textStep_ok hx
  cases hcheck : Email.checkBare trimming (((Value.text a).text?).getD "") with
  | ok _ =>
    simp only [hcheck] at h
    refine ⟨a, (pure_ok h).1, ⟨s, hx⟩, fun t' => ?_⟩
    rw [emailStep, textStep_text, pure_bind]
    simp only [hcheck]
    rfl
  | error p? =>
    simp only [hcheck] at h
    cases p? <;> exact absurd h reject_ok

/-- A step that accepts texts alone, and these as they are. -/
theorem Step.projects_of_text {step : Step} (h : ∀ {v w t u}, step v t = (.ok w, u) →
    ∃ a, w = .text a ∧ ∀ t', step (.text a) t' = (.ok (.text a), t')) : step.Projects := by
  refine ⟨fun hw => ?_, fun hw _ _ => ?_⟩
  · obtain ⟨a, rfl, hagain⟩ := h hw
    exact hagain
  · obtain ⟨a, rfl, -⟩ := h hw
    exact ⟨rfl, rfl⟩

theorem formattedStep_projects (r : Rule) (empty? : Option Bool)
    (problem? : String → Option String) : Step.Projects (formattedStep r empty? problem?) := by
  refine Step.projects_of_text fun h => ?_
  obtain ⟨a, hw, -, hagain⟩ := formattedStep_ok h
  exact ⟨a, hw, hagain⟩

theorem emailStep_projects (convert trimming : Bool) :
    Step.Projects (emailStep convert trimming) := by
  refine Step.projects_of_text fun h => ?_
  obtain ⟨a, hw, -, hagain⟩ := emailStep_ok h
  exact ⟨a, hw, hagain⟩

theorem testStep_projects {b : Value → Bool} {check message : String} :
    Step.Projects fun v => if b v then pure v else failCheck check message := by
  refine Step.projects_of_id fun {v w t u} h => ?_
  by_cases hb : b v = true
  · rw [if_pos hb] at h
    refine ⟨(pure_ok h).1, fun t' => ?_⟩
    rw [if_pos hb]
    rfl
  · rw [if_neg hb] at h
    exact absurd h reject_ok

/-! ### Rules without rules inside -/

/-- Whether a rule changes a value, if at all, in a way that a second time changes nothing: it
fills no text up, normalises no address, makes no identity another, and is no union. -/
def Rule.isStable : Rule → Bool
  | .string _ o => o.padStart?.isNone && o.padEnd?.isNone
  | .email _ o => !o.normalize
  | .objectId _ _ conversion => conversion = .keep
  | .multi .. => false
  | _ => true

/-- **The preparation of a text** changes a prepared text no more. -/
theorem preparation_again (o : StringOptions) (a : String) :
    changed o.preparation (changed o.preparation a) = changed o.preparation a := by
  obtain ⟨f, hcase, hf⟩ : ∃ f, (∀ a, changed (if o.lowercase then [Text.lower] else
      if o.uppercase then [Text.upper] else []) a = f a) ∧ Text.KeepsEnds f := by
    by_cases hlower : o.lowercase = true
    · rw [if_pos hlower]
      exact ⟨_, fun _ => rfl, Text.KeepsEnds.lower⟩
    · rw [if_neg hlower]
      by_cases hupper : o.uppercase = true
      · rw [if_pos hupper]
        exact ⟨_, fun _ => rfl, Text.KeepsEnds.upper⟩
      · rw [if_neg hupper]
        exact ⟨_, fun _ => rfl, Text.KeepsEnds.id⟩
  have happend : ∀ (fs gs : List (String → String)) (a : String),
      changed (fs ++ gs) a = changed gs (changed fs a) := fun fs gs a => List.foldl_append
  suffices hcut : ∀ cut : List (String → String), (cut = [Text.trim] ∨ cut = [] ∨
      cut = [Text.trimStart] ∨ cut = [Text.trimEnd] ∨ cut = [Text.trimStart, Text.trimEnd]) →
      ∀ a, changed cut (f (changed cut a)) = f (changed cut a) by
    have hone := hcut (if o.trim then [Text.trim] else
      (if o.trimLeft then [Text.trimStart] else []) ++ (if o.trimRight then [Text.trimEnd] else []))
      (by cases o.trim <;> cases o.trimLeft <;> cases o.trimRight <;> simp) a
    rw [StringOptions.preparation, happend, happend, hcase, hcase, hone, hf.again]
  intro cut hcut a
  rcases hcut with rfl | rfl | rfl | rfl | rfl
  · exact hf.both a
  · rfl
  · exact hf.start _ (Text.trimStart_trimStart a)
  · exact hf.stop _ (Text.trimEnd_trimEnd a)
  · exact hf.both a

/-- The steps of rules without rules inside. -/
theorem scalarStep_projects (r : Rule) : Step.Projects r.scalarStep := by
  have hany : Step.Projects anyStep := Step.projects_of_id fun h => ⟨(pure_ok h).1, fun _ => rfl⟩
  cases r with
  | string c _ => exact textStep_projects _ _
  | number c _ => exact numberStep_projects _
  | boolean c =>
    refine readStep_projects (fun {v b} _ => ?_) fun b => ⟨rfl, rfl⟩
    cases c.convert <;> rfl
  | date c => exact instantStep_projects _
  | email c o => exact emailStep_projects _ _
  | currency c _ => exact textStep_projects _ _
  | «class» c k => exact testStep_projects
  | function c => exact testStep_projects
  | luhn c => exact textStep_projects _ _
  | mac c => exact textStep_projects _ _
  | url c empty? => rw [Rule.scalarStep]; exact formattedStep_projects _ _ _
  | uuid c empty? => rw [Rule.scalarStep]; exact formattedStep_projects _ _ _
  | objectId c identity _ =>
    rw [Rule.scalarStep]
    cases identity.identities? with
    | none => exact hany
    | some k => exact testStep_projects
  | any | enum | equal | forbidden | array | object | multi | tuple | record => exact hany

/-- **Rules without rules inside** that are stable give back what they have given. -/
theorem Rule.CompilesTo.simple_projects {r : Rule} {ctx : Strictness} {d : Validator}
    (h : r.CompilesTo ctx d) (hcomposite : r.tag.isComposite = false)
    (hforbidden : r.tag ≠ .forbidden) (hstable : r.isStable = true) : d.Projects := by
  obtain ⟨plan, s, rest, hplan, hd, hmade⟩ := h.planned hcomposite hforbidden
  have hfixed : r.isFixed = true → d.Projects := fun hfixed =>
    hmade.shape.projects (scalarStep_projects r) hd.stages (hmade.all_checks hplan hfixed)
  cases hplan with
  | @string c o checks _ _ _ _ =>
    -- the preparation of the text stands between its shape and its checks
    obtain ⟨_, tests, _, _, rfl, ⟨name, rfl⟩, htests, hothers, hafter⟩ := hmade.rest
    have hpadding : o.padding = [] := by
      simp only [Rule.isStable, Bool.and_eq_true, Option.isNone_iff_eq_none] at hstable
      rw [StringOptions.padding, hstable.1, hstable.2]
      rfl
    rw [hpadding] at hafter
    obtain rfl := hafter.eq_nil
    refine Validator.projects_of_text hmade.shape textStep_ok (textStep_text _ _)
      (preparation_again o) hd.stages ?_
    simp only [List.forall_mem_append]
    exact ⟨htests.all_checks, hothers.all_checks, no_stages⟩
  | _ => exact hfixed (by first | rfl | exact hstable)

/-- A rule that forbids values gives back what it has given, which is nothing. -/
theorem forbidden_projects {c : CommonOptions} {remove : Bool} {ctx : Strictness} {d : Validator}
    (h : (Rule.forbidden c remove).CompilesTo ctx d) : d.Projects := by
  obtain ⟨path, t, u, stages, hs, hd⟩ := h.simple rfl
  have hshape : ∀ {v w : Value} {t u : Tally},
      (pure (if v.isNull then .absent else v) : Eval StageRejection Value) t = (.ok w, u) →
        ∀ t', (pure (if w.isNull then .absent else w) : Eval StageRejection Value) t'
          = (.ok w, t') := by
    intro v w t u h t'
    rw [(pure_ok h).1]
    cases v <;> rfl
  cases remove with
  | false =>
    obtain ⟨ss, _, hss, hs⟩ := bind_ok hs
    exact Validator.projects_of_checks (hd.stages.trans (pure_ok hs).1) hshape
      (checkStages_ok hss).all_checks
  | true =>
    rintro v w ⟨t, u, hv⟩ t'
    obtain rfl : w = .absent := by
      rw [Validator.validate, hd.stages, (pure_ok hs).1] at hv
      obtain ⟨x, _, hx, hv⟩ := bind_ok hv
      have hx : x = if v.isNull then .absent else v := (pure_ok (mapReason_ok hx)).1
      change (if Validator.isSettled .shape x then pure x else _ : Eval _ Value) _ = _ at hv
      by_cases hsettled : Validator.isSettled .shape x = true
      · rw [if_pos hsettled] at hv
        rw [(pure_ok hv).1, hx]
        rw [hx] at hsettled
        cases v <;> first | rfl | cases hsettled
      · rw [if_neg hsettled] at hv
        exact (pure_ok hv).1
    rw [Rule.CompilesTo.forbidden_absent h]
    rfl

end RuleSchema
