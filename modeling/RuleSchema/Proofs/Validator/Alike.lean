import RuleSchema.Proofs.Order.Entries
import RuleSchema.Proofs.Validator.Presence

/-!
# Validators that do the same

Two validators do the same if they accept the same values and give the same for them, whatever they
say of the others.  What a rejection says never decides anything: a union looks at whether a branch
rejects a value, and not at why.  So larger validators do the same as soon as their parts do.

* `Eval.Alike`: two evaluations are the same but for the reasons of rejections.
* `alike_iff`: run by run they end in the same way.
* `Validator.Alike`, and `arrayStep_alike`, `objectStep_alike`, `tupleStep_alike` and
  `recordStep_alike` for the steps made of such validators.
* `Validator.alike_of_shapes`: shape stages with steps that do the same, and the same after them.
-/

namespace RuleSchema

open Eval

/-! ### Evaluations -/

namespace Eval

variable {ρ ρ' σ σ' τ τ' α β : Type}

/-- Two evaluations are the same but for the reasons of rejections. -/
def Alike (x : Eval ρ α) (y : Eval σ α) : Prop :=
  mapReason (fun _ => ()) x = mapReason (fun _ => ()) y

/-- Two runs end in the same way, but for the reason of a rejection. -/
inductive EndAlike : Except (Stop ρ) α × Tally → Except (Stop σ) α × Tally → Prop
  | result (a : α) (t : Tally) : EndAlike (.ok a, t) (.ok a, t)
  | rejection (e : ρ) (e' : σ) (t : Tally) :
    EndAlike (.error (.rejected e), t) (.error (.rejected e'), t)
  | fault (f : Fault) (t : Tally) : EndAlike (.error (.fault f), t) (.error (.fault f), t)

namespace EndAlike

variable {p : Except (Stop ρ) α × Tally} {q : Except (Stop σ) α × Tally}

theorem symm (h : EndAlike p q) : EndAlike q p := by
  cases h <;> constructor

theorem trans {r : Except (Stop τ) α × Tally} (h : EndAlike p q) (h' : EndAlike q r) :
    EndAlike p r := by
  cases h <;> cases h' <;> constructor

/-- There is one reason without content. -/
theorem eq {p q : Except (Stop Unit) α × Tally} (h : EndAlike p q) : p = q := by
  cases h <;> rfl

/-- Rephrasing rejections changes nothing but their reasons. -/
theorem mapReason (g : ρ → σ) (x : Eval ρ α) (t : Tally) :
    EndAlike (Eval.mapReason g x t) (x t) := by
  cases hx : x t with
  | mk r u =>
    cases r with
    | ok a => rw [mapReason_of_ok hx]; exact .result a u
    | error e =>
      cases e with
      | rejected e => rw [mapReason_of_rejected hx]; exact .rejection _ e u
      | fault f => rw [mapReason_of_fault hx]; exact .fault f u

end EndAlike

/-- **Evaluations are alike run by run.** -/
theorem alike_iff {x : Eval ρ α} {y : Eval σ α} : Alike x y ↔ ∀ t, EndAlike (x t) (y t) := by
  constructor
  · intro h t
    have hy := EndAlike.mapReason (fun _ => ()) y t
    rw [← h] at hy
    exact (EndAlike.mapReason _ x t).symm.trans hy
  · intro h
    funext t
    exact (((EndAlike.mapReason _ x t).trans (h t)).trans (EndAlike.mapReason _ y t).symm).eq

namespace Alike

variable {x : Eval ρ α} {y : Eval σ α}

theorem refl (x : Eval ρ α) : Alike x x := rfl

theorem symm (h : Alike x y) : Alike y x := Eq.symm h

theorem trans {z : Eval τ α} (h : Alike x y) (h' : Alike y z) : Alike x z := Eq.trans h h'

theorem reject (e : ρ) (e' : σ) :
    Alike (Eval.reject e : Eval ρ α) (Eval.reject e' : Eval σ α) := rfl

theorem bind {f : α → Eval ρ β} {g : α → Eval σ β} (h : Alike x y)
    (hfg : ∀ a, Alike (f a) (g a)) : Alike (x >>= f) (y >>= g) := by
  rw [Alike, mapReason_bind, mapReason_bind, h]
  exact congrArg _ (funext hfg)

theorem mapReason_self (f : ρ → ρ') (x : Eval ρ α) : Alike (Eval.mapReason f x) x :=
  alike_iff.mpr (EndAlike.mapReason f x)

theorem mapReason (h : Alike x y) (f : ρ → ρ') (g : σ → σ') :
    Alike (Eval.mapReason f x) (Eval.mapReason g y) :=
  ((mapReason_self f x).trans h).trans (mapReason_self g y).symm

/-- What comes after an attempt, whatever a rejection says. -/
theorem attempt_bind {k : Except ρ α → Eval τ β} {k' : Except σ α → Eval τ' β} (h : Alike x y)
    (hok : ∀ a, Alike (k (.ok a)) (k' (.ok a)))
    (herror : ∀ e e', Alike (k (.error e)) (k' (.error e'))) :
    Alike (attempt x >>= k) (attempt y >>= k') := by
  rw [alike_iff] at h ⊢
  intro t
  have ht := h t
  generalize hx : x t = p at ht
  generalize hy : y t = q at ht
  cases ht with
  | result a u =>
    rw [bind_of_ok (attempt_of_ok hx), bind_of_ok (attempt_of_ok hy)]
    exact alike_iff.mp (hok a) u
  | rejection e e' u =>
    rw [bind_of_ok (attempt_of_rejected hx), bind_of_ok (attempt_of_rejected hy)]
    exact alike_iff.mp (herror e e') u
  | fault f u =>
    rw [bind_of_error (attempt_of_fault hx), bind_of_error (attempt_of_fault hy)]
    exact .fault f u

end Alike

end Eval

/-! ### Steps -/

/-- Two validators do the same but for the reasons of rejections. -/
def Validator.Alike (d e : Validator) : Prop := ∀ v, Eval.Alike (d.validate v) (e.validate v)

theorem Validator.Alike.refl (d : Validator) : d.Alike d := fun _ => .refl _

section

variable {d e keys keys' values values' : Validator} {ds es : List Validator}

theorem part_alike {α : Type} {x y : Eval PayloadError α} (h : Eval.Alike x y) (k : Value) :
    Eval.Alike (part k x) (part k y) := h.mapReason _ _

theorem validateItems_alike (h : d.Alike e) : ∀ (i : Nat) (xs : List Value),
    Eval.Alike (validateItems d i xs) (validateItems e i xs)
  | _, [] => .refl _
  | i, x :: xs => (part_alike (h x) _).bind fun _ =>
    (validateItems_alike h (i + 1) xs).bind fun _ => .refl _

theorem arrayStep_alike (h : d.Alike e) (convert : Bool) (v : Value) :
    Eval.Alike (arrayStep convert d v) (arrayStep convert e v) := by
  unfold arrayStep
  cases v.items? with
  | some xs => exact (validateItems_alike h 0 xs).bind fun _ => .refl _
  | none =>
    dsimp only
    split
    · exact (validateItems_alike h 0 [v]).bind fun _ => .refl _
    · exact .refl _

theorem validateSlots_alike (h : List.Forall₂ Validator.Alike ds es) :
    ∀ (i : Nat) (xs : List Value), Eval.Alike (validateSlots i ds xs) (validateSlots i es xs) := by
  induction h with
  | nil => exact fun _ _ => .refl _
  | cons hd _ ih =>
    intro i xs
    cases xs with
    | nil => exact .refl _
    | cons x xs => exact (part_alike (hd x) _).bind fun _ => (ih (i + 1) xs).bind fun _ => .refl _

theorem tupleStep_alike (h : List.Forall₂ Validator.Alike ds es) (v : Value) :
    Eval.Alike (tupleStep ds v) (tupleStep es v) := by
  unfold tupleStep
  rw [h.length_eq]
  cases v.items? with
  | none => exact .refl _
  | some xs =>
    dsimp only
    split
    · exact (validateSlots_alike h 0 xs).bind fun _ => .refl _
    · exact .refl _

theorem validateEntries_alike (hkeys : keys.Alike keys') (hvalues : values.Alike values') :
    ∀ done rest : Entries Value, Eval.Alike (validateEntries keys values done rest)
      (validateEntries keys' values' done rest)
  | _, [] => .refl _
  | done, (k, x) :: rest => by
    refine (part_alike (hkeys k) k).bind fun key => (part_alike (hvalues x) k).bind fun value => ?_
    split
    · exact validateEntries_alike hkeys hvalues done rest
    · exact Eval.Alike.bind (.refl _) fun done => validateEntries_alike hkeys hvalues done rest

theorem recordStep_alike (hkeys : keys.Alike keys') (hvalues : values.Alike values') (v : Value) :
    Eval.Alike (recordStep keys values v) (recordStep keys' values' v) := by
  cases v with
  | mapping es => exact (validateEntries_alike hkeys hvalues [] es).bind fun _ => .refl _
  | _ => exact .refl _

end

section

variable {ds es : Entries Validator} {xs : Entries Value}

/-- Validators of the same properties that do the same. -/
abbrev PropertiesAlike (ds es : Entries Validator) : Prop :=
  List.Forall₂ (fun a b => a.1 = b.1 ∧ a.2.Alike b.2) ds es

theorem validateDeclared_alike (h : PropertiesAlike ds es) :
    Eval.Alike (validateDeclared xs ds) (validateDeclared xs es) := by
  induction h with
  | nil => exact .refl _
  | @cons a b _ _ hab _ ih =>
    obtain ⟨name, d⟩ := a
    obtain ⟨name', e⟩ := b
    obtain ⟨rfl, hde⟩ := hab
    exact ((hde _).mapReason _ _).bind fun _ => ih.bind fun _ => .refl _

theorem unknownEntries_alike (h : PropertiesAlike ds es) :
    unknownEntries ds xs = unknownEntries es xs := by
  have hkey : ∀ k, Entries.hasKey ds k = Entries.hasKey es k := by
    intro k
    induction h with
    | nil => rfl
    | cons hab _ ih => exact congrArg₂ or (congrArg _ hab.1) ih
  simp only [unknownEntries, hkey]

theorem PropertiesAlike.validated (h : PropertiesAlike ds es) (mode : UnknownKeys) :
    Eval.Alike (validateProperties xs ds mode) (validateProperties xs es mode) := by
  unfold validateProperties
  rw [unknownEntries_alike h]
  dsimp only
  by_cases hreject : (mode = .reject && !(unknownEntries es xs).isEmpty) = true
  · rw [if_pos hreject, if_pos hreject]
    exact .refl _
  · rw [if_neg hreject, if_neg hreject]
    exact (validateDeclared_alike h).bind fun _ => .refl _

theorem objectStep_alike (h : PropertiesAlike ds es) (mode : UnknownKeys) (v : Value) :
    Eval.Alike (objectStep ds mode v) (objectStep es mode v) := by
  cases v with
  | mapping xs => exact (h.validated mode).bind fun _ => .refl _
  | _ => exact .refl _

end

/-! ### Validators -/

section

variable {r q : Rule} {check check' : Step} {d e : Validator} {tag : Tag}

/-- **Shape stages** do the same if the steps of their types do with every value that is given. -/
theorem runShape_alike (hcommon : r.common = q.common) (hstand : r.standIn = q.standIn)
    (h : ∀ v : Value, v.IsGiven → Eval.Alike (check v) (check' v)) (v : Value) :
    Eval.Alike (runShape r check v) (runShape q check' v) := by
  have hpresent : (r.present v : Eval StageRejection Value) = q.present v := by
    rw [Rule.present, Rule.present, hstand]
  unfold runShape
  rw [hpresent, hcommon]
  refine Eval.Alike.bind (.refl _) fun w => ?_
  by_cases habsent : w.isAbsent = true
  · rw [if_pos habsent, if_pos habsent]
    exact .refl _
  · rw [if_neg habsent, if_neg habsent]
    by_cases hnull : w.isNull = true
    · rw [if_pos hnull, if_pos hnull]
      exact .refl _
    · rw [if_neg hnull, if_neg hnull]
      exact h w ⟨by simpa using habsent, by simpa using hnull⟩

/-- **Validators do the same** if the steps of their types do with every value that is given, and
the stages after them too. -/
theorem Validator.alike_of_shapes {shape shape' : Shape} {s s' : Stage} {rest rest' : List Stage}
    (hd : d.stages = s :: rest) (he : e.stages = s' :: rest') (hs : ShapeOf r shape s)
    (hs' : ShapeOf q shape' s') (hcommon : r.common = q.common) (hstand : r.standIn = q.standIn)
    (hcheck : ∀ v : Value, v.IsGiven → Eval.Alike (shape.check v) (shape'.check v))
    (hrest : ∀ v, Eval.Alike (Validator.runStages d.tag rest v)
      (Validator.runStages e.tag rest' v)) : d.Alike e := by
  intro v
  rw [Validator.validate, Validator.validate, hd, he, Validator.runStages, Validator.runStages,
    hs.run, hs'.run, hs.kind, hs'.kind]
  refine ((runShape_alike hcommon hstand hcheck v).mapReason _ _).bind fun w => ?_
  split
  · exact .refl _
  · exact hrest w

/-- What stages of checks do is told by the checks. -/
theorem ChecksOf.runStages_eq {kind : StageKind} {checks : List Check} {stages more : List Stage}
    (h : ChecksOf kind checks stages) (hkind : kind ≠ .shape) (v : Value) :
    Validator.runStages tag (stages ++ more) v
      = (mapReason (Validator.located tag kind) (Stage.runChecks checks v) >>= fun w =>
          Validator.runStages tag more w) := by
  cases h with
  | none hnil => rw [hnil]; rfl
  | @one s hk hrun _ =>
    have hsettled : ∀ w, Validator.isSettled s.kind w = false := fun w => by
      rw [Validator.isSettled, hk, decide_eq_false hkind, Bool.false_and]
    rw [List.singleton_append, Validator.runStages, hrun, hk]
    simp only [hk] at hsettled
    simp only [hsettled, Bool.false_eq_true, if_false]

/-- Stages of the same checks do the same. -/
theorem ChecksOf.alike {kind : StageKind} {checks : List Check} {ss ts more more' : List Stage}
    {tag tag' : Tag} (hs : ChecksOf kind checks ss) (ht : ChecksOf kind checks ts)
    (hkind : kind ≠ .shape)
    (hmore : ∀ v, Eval.Alike (Validator.runStages tag more v) (Validator.runStages tag' more' v))
    (v : Value) : Eval.Alike (Validator.runStages tag (ss ++ more) v)
      (Validator.runStages tag' (ts ++ more') v) := by
  rw [hs.runStages_eq hkind, ht.runStages_eq hkind]
  exact (Eval.Alike.mapReason (.refl _) _ _).bind hmore

end

end RuleSchema
