import Mathlib.Data.List.Forall2
import RuleSchema.Proofs.Evaluation

/-!
# Evaluations that call some functions only

The state of an evaluation is how often each counting function has been called, and a
call of one touches nothing but its own count.  An evaluation is *local* to a set of
functions if it calls no others: its outcome depends on their counts alone, and it
leaves all other counts as they are.  Two evaluations that are local to disjoint sets do
not notice each other, and one that is local to the empty set does not notice anything:
its outcome is a function of its inputs.

* `Eval.Local S Q x`: `x` is local to `S`, and its results have the property `Q`.
* `Local.bind`, `Local.attempt`, `Local.mapM` and so on: how larger evaluations inherit it.
* `Local.outcome_after`: what is local to other functions changes no outcome.
* `Local.eq_ofStop`: what calls no functions is its outcome, whatever has been called.
-/

namespace RuleSchema

/-- The counts of the functions of a set. -/
def Tally.inside (S : Nat → Bool) (t : Tally) : Tally := t.filter fun e => S e.1

/-- The counts of all other functions. -/
def Tally.outside (S : Nat → Bool) (t : Tally) : Tally := t.filter fun e => !S e.1

namespace Eval

variable {ρ σ α β : Type}

/-- What an evaluation ends with. -/
def outcome (x : Eval ρ α) (t : Tally) : Except (Stop ρ) α := Prod.fst (x t)

/-- The counts when an evaluation has ended. -/
def after (x : Eval ρ α) (t : Tally) : Tally := Prod.snd (x t)

theorem eq_outcome_after (x : Eval ρ α) (t : Tally) : x t = (x.outcome t, x.after t) := rfl

/-- An evaluation calls no functions but those of `S`, and its results have the property `Q`. -/
structure Local (S : Nat → Bool) (Q : α → Prop) (x : Eval ρ α) : Prop where
  outcome : ∀ t u : Tally, t.inside S = u.inside S → x.outcome t = x.outcome u
  inside : ∀ t u : Tally, t.inside S = u.inside S → (x.after t).inside S = (x.after u).inside S
  outside : ∀ t : Tally, (x.after t).outside S = t.outside S
  holds : ∀ (t : Tally) (a : α), x.outcome t = .ok a → Q a

variable {S : Nat → Bool} {Q : α → Prop} {R : β → Prop}

/-! ### Parts and wholes -/

theorem Local.mono {Q' : α → Prop} {x : Eval ρ α} (h : x.Local S Q) (hQ : ∀ a, Q a → Q' a) :
    x.Local S Q' :=
  ⟨h.outcome, h.inside, h.outside, fun t a ha => hQ a (h.holds t a ha)⟩

/-- What is known of a result is that the evaluation has given it. -/
theorem Local.ran {x : Eval ρ α} (h : x.Local S Q) :
    x.Local S fun a => ∃ t u, x t = (.ok a, u) :=
  ⟨h.outcome, h.inside, h.outside, fun t _ ha => ⟨t, x.after t, Prod.ext ha rfl⟩⟩

/-- What ends at once is local to every set. -/
theorem Local.ofStop {r : Except (Stop ρ) α} (h : ∀ a, r = .ok a → Q a) :
    (Eval.ofStop r : Eval ρ α).Local S Q := by
  have hrun : ∀ t, (Eval.ofStop r : Eval ρ α) t = (r, t) := by
    intro t
    cases r <;> rfl
  refine ⟨fun t u _ => ?_, fun t u htu => ?_, fun t => ?_, fun t a ha => ?_⟩
  · rw [Eval.outcome, Eval.outcome, hrun, hrun]
  · rw [Eval.after, Eval.after, hrun, hrun]
    exact htu
  · rw [Eval.after, hrun]
  · rw [Eval.outcome, hrun] at ha
    exact h a ha

theorem Local.pure {a : α} (h : Q a) : (pure a : Eval ρ α).Local S Q :=
  Local.ofStop (r := .ok a) fun _ hb => Except.ok.inj hb ▸ h

theorem Local.reject {r : ρ} : (Eval.reject r : Eval ρ α).Local S Q :=
  Local.ofStop (r := .error (.rejected r)) fun _ h => nomatch h

theorem Local.fault {f : Fault} : (Eval.fault f : Eval ρ α).Local S Q :=
  Local.ofStop (r := .error (.fault f)) fun _ h => nomatch h

theorem Local.ofFault {r : Except Fault α} (h : ∀ a, r = .ok a → Q a) :
    (Eval.ofFault r : Eval ρ α).Local S Q := by
  cases r with
  | ok a => exact Local.pure (h a rfl)
  | error f => exact Local.fault

theorem Local.ofExcept {r : Except ρ α} (h : ∀ a, r = .ok a → Q a) :
    (Eval.ofExcept r : Eval ρ α).Local S Q := by
  cases r with
  | ok a => exact Local.pure (h a rfl)
  | error e => exact Local.reject

/-- The outcome of a sequence from those of its parts. -/
theorem outcome_bind (x : Eval ρ α) (f : α → Eval ρ β) (t : Tally) :
    (x >>= f).outcome t = (x.outcome t).bind fun a => (f a).outcome (x.after t) := by
  have hx := x.eq_outcome_after t
  cases ho : x.outcome t with
  | ok a => rw [ho] at hx; rw [outcome, bind_of_ok hx]; rfl
  | error e => rw [ho] at hx; rw [outcome, bind_of_error hx]; rfl

theorem after_bind (x : Eval ρ α) (f : α → Eval ρ β) (t : Tally) :
    (x >>= f).after t = match x.outcome t with
      | .ok a => (f a).after (x.after t)
      | .error _ => x.after t := by
  have hx := x.eq_outcome_after t
  cases ho : x.outcome t with
  | ok a => rw [ho] at hx; rw [after, bind_of_ok hx]; rfl
  | error e => rw [ho] at hx; rw [after, bind_of_error hx]

/-- **A sequence** of local evaluations is local. -/
theorem Local.bind {x : Eval ρ α} {f : α → Eval ρ β} (hx : x.Local S Q)
    (hf : ∀ a, Q a → (f a).Local S R) : (x >>= f).Local S R := by
  refine ⟨fun t u htu => ?_, fun t u htu => ?_, fun t => ?_, fun t b hb => ?_⟩
  · rw [outcome_bind, outcome_bind, ← hx.outcome t u htu]
    cases ho : x.outcome t with
    | error e => rfl
    | ok a => exact (hf a (hx.holds t a ho)).outcome _ _ (hx.inside t u htu)
  · rw [after_bind, after_bind, ← hx.outcome t u htu]
    cases ho : x.outcome t with
    | error e => exact hx.inside t u htu
    | ok a => exact (hf a (hx.holds t a ho)).inside _ _ (hx.inside t u htu)
  · rw [after_bind]
    cases ho : x.outcome t with
    | error e => exact hx.outside t
    | ok a => exact ((hf a (hx.holds t a ho)).outside _).trans (hx.outside t)
  · rw [outcome_bind] at hb
    cases ho : x.outcome t with
    | error e => rw [ho] at hb; cases hb
    | ok a => rw [ho] at hb; exact (hf a (hx.holds t a ho)).holds _ b hb

/-- What an attempt ends with. -/
theorem outcome_attempt (x : Eval ρ α) (t : Tally) :
    (attempt x : Eval σ (Except ρ α)).outcome t = match x.outcome t with
      | .ok a => .ok (.ok a)
      | .error (.rejected reason) => .ok (.error reason)
      | .error (.fault f) => .error (.fault f) := by
  have hx := x.eq_outcome_after t
  rw [outcome, attempt, hx]
  rcases x.outcome t with (_ | _) | _ <;> rfl

theorem after_attempt (x : Eval ρ α) (t : Tally) :
    (attempt x : Eval σ (Except ρ α)).after t = x.after t := by
  have hx := x.eq_outcome_after t
  rw [after, attempt, hx]
  rcases x.outcome t with (_ | _) | _ <;> rfl

theorem Local.attempt {x : Eval ρ α} (h : x.Local S Q) :
    (Eval.attempt x : Eval σ (Except ρ α)).Local S fun r => ∀ a, r = .ok a → Q a := by
  refine ⟨fun t u htu => ?_, fun t u htu => ?_, fun t => ?_, fun t r hr a ha => ?_⟩
  · rw [outcome_attempt, outcome_attempt, h.outcome t u htu]
  · rw [after_attempt, after_attempt]
    exact h.inside t u htu
  · rw [after_attempt]
    exact h.outside t
  · rw [outcome_attempt] at hr
    cases ha
    refine h.holds t a ?_
    rcases ho : x.outcome t with (e | f) | b <;> rw [ho] at hr <;> cases hr
    rfl

/-- What an evaluation with rephrased rejections ends with. -/
theorem outcome_mapReason (f : ρ → σ) (x : Eval ρ α) (t : Tally) :
    (Eval.mapReason f x).outcome t = match x.outcome t with
      | .ok a => .ok a
      | .error (.rejected reason) => .error (.rejected (f reason))
      | .error (.fault g) => .error (.fault g) := by
  rw [Eval.mapReason, outcome_bind, outcome_attempt]
  rcases x.outcome t with (_ | _) | _ <;> rfl

theorem Local.mapReason {f : ρ → σ} {x : Eval ρ α} (h : x.Local S Q) :
    (Eval.mapReason f x).Local S Q := by
  refine Local.bind h.attempt fun r hr => ?_
  cases r with
  | ok a => exact Local.pure (hr a rfl)
  | error e => exact Local.reject

/-- A list computed item by item. -/
theorem Local.mapM {f : α → Eval ρ β} {P : α → β → Prop} : ∀ {xs : List α},
    (∀ x ∈ xs, (f x).Local S (P x)) → (xs.mapM f).Local S (List.Forall₂ P xs) := by
  intro xs
  induction xs with
  | nil => intro _; exact Local.pure .nil
  | cons x xs ih =>
    intro h
    rw [List.mapM_cons]
    refine Local.bind (h x List.mem_cons_self) fun y hy => ?_
    refine Local.bind (ih fun z hz => h z (List.mem_cons_of_mem _ hz)) fun ys hys => ?_
    exact Local.pure (.cons hy hys)

/-! ### Calls -/

theorem lookup_inside {n : Nat} (hn : S n = true) (t : Tally) :
    (t.inside S).lookup n = t.lookup n := by
  induction t with
  | nil => rfl
  | cons e t ih =>
    obtain ⟨m, c⟩ := e
    cases hm : n == m with
    | true =>
      obtain rfl : n = m := by simpa using hm
      simp [Tally.inside, hn]
    | false =>
      rw [List.lookup_cons, hm, ← ih]
      cases hS : S m with
      | true => simp [Tally.inside, hS, List.lookup_cons, hm]
      | false => simp [Tally.inside, hS]

/-- A local evaluation leaves the count of every other function as it is. -/
theorem Local.lookup_after {x : Eval ρ α} (h : x.Local S Q) {n : Nat} (hn : S n = false)
    (t : Tally) : (x.after t).lookup n = t.lookup n := by
  have houtside : ∀ t : Tally, (t.outside S).lookup n = t.lookup n :=
    lookup_inside (S := fun m => !S m) (by simp [hn])
  rw [← houtside (x.after t), h.outside t, houtside]

/-- The call of a counting function is local to it. -/
theorem Local.countCall {n : Nat} (hn : S n = true) :
    (countCall n : Eval ρ Nat).Local S fun _ => True := by
  have hrun : ∀ t : Tally, (RuleSchema.countCall n : Eval ρ Nat) t
      = (.ok ((t.lookup n).getD 0 + 1),
        (n, (t.lookup n).getD 0 + 1) :: t.filter fun e => e.1 != n) := fun _ => rfl
  refine ⟨fun t u htu => ?_, fun t u htu => ?_, fun t => ?_, fun _ _ _ => trivial⟩
  · rw [Eval.outcome, Eval.outcome, hrun t, hrun u, ← lookup_inside hn t, htu, lookup_inside hn]
  · rw [after, after, hrun, hrun]
    have hrest : ∀ t : Tally, Tally.inside S (t.filter fun e => e.1 != n)
        = (t.inside S).filter fun e => e.1 != n := by
      intro t
      rw [Tally.inside, Tally.inside, List.filter_filter, List.filter_filter]
      exact List.filter_congr fun _ _ => Bool.and_comm _ _
    have hhead : ∀ (c : Nat) (t : Tally), Tally.inside S ((n, c) :: t) = (n, c) :: t.inside S :=
      fun c t => List.filter_cons_of_pos hn
    rw [hhead, hhead, hrest, hrest, ← lookup_inside hn t, htu, lookup_inside hn]
  · rw [after, hrun, Tally.outside, Tally.outside, List.filter_cons_of_neg (by simp [hn]),
      List.filter_filter]
    refine List.filter_congr fun e _ => ?_
    cases hS : S e.1 with
    | true => rfl
    | false =>
      have hne : e.1 ≠ n := fun he => by rw [he, hn] at hS; cases hS
      simpa using hne

/-! ### What does not notice what -/

/-- The counts of one set are part of those outside a disjoint one. -/
theorem inside_of_outside {S' : Nat → Bool} (hS : ∀ n, S n = true → S' n = false) {t u : Tally}
    (h : t.outside S' = u.outside S') : t.inside S = u.inside S := by
  have hpart : ∀ t : Tally, t.inside S = (t.outside S').inside S := by
    intro t
    rw [Tally.inside, Tally.inside, Tally.outside, List.filter_filter]
    refine List.filter_congr fun e _ => ?_
    cases hn : S e.1 with
    | true => rw [hS e.1 hn]; rfl
    | false => rfl
  rw [hpart t, hpart u, h]

/-- **What calls other functions** changes no outcome. -/
theorem Local.outcome_after {S' : Nat → Bool} {x : Eval ρ α} {y : Eval σ β} (hx : x.Local S Q)
    (hy : y.Local S' R) (hS : ∀ n, S n = true → S' n = false) (t : Tally) :
    x.outcome (y.after t) = x.outcome t :=
  hx.outcome _ _ (inside_of_outside hS (hy.outside t))

open Classical in
/-- The functions with a property, as a set. -/
noncomputable def functionsThat (P : Nat → Prop) (n : Nat) : Bool := decide (P n)

theorem functionsThat_iff {P : Nat → Prop} {n : Nat} : functionsThat P n = true ↔ P n := by
  simp [functionsThat]

/-- **What calls other functions** changes no outcome, in terms of which functions these are. -/
theorem Local.outcome_after_others {P P' : Nat → Prop} {x : Eval ρ α} {y : Eval σ β}
    (hx : x.Local (functionsThat P) Q) (hy : y.Local (functionsThat P') R)
    (hP : ∀ n, P n → ¬ P' n) (t : Tally) : x.outcome (y.after t) = x.outcome t := by
  refine hx.outcome_after hy (fun n hn => ?_) t
  rw [← Bool.not_eq_true, functionsThat_iff]
  exact hP n (functionsThat_iff.mp hn)

/-- No functions. -/
def noCalls : Nat → Bool := fun _ => false

theorem inside_noCalls (t : Tally) : t.inside noCalls = [] :=
  List.filter_eq_nil_iff.mpr fun _ _ => Bool.false_ne_true

/-- **What calls no functions** is its outcome, whatever has been called before. -/
theorem Local.eq_ofStop {x : Eval ρ α} (h : x.Local noCalls Q) (t : Tally) :
    x = Eval.ofStop (x.outcome t) := by
  have houtside : ∀ t : Tally, t.outside noCalls = t := fun t => List.filter_eq_self.mpr (by
    simp [noCalls])
  funext u
  have houtcome : x.outcome u = x.outcome t :=
    h.outcome u t (by rw [inside_noCalls, inside_noCalls])
  have hafter : x.after u = u := by
    rw [← houtside (x.after u), h.outside u, houtside]
  rw [eq_outcome_after x u, houtcome, hafter]
  cases x.outcome t <;> rfl

/-- What calls no functions and has once given a result gives that result. -/
theorem Local.eq_pure {x : Eval ρ α} (hx : x.Local noCalls Q) {t u : Tally} {a : α}
    (h : x t = (.ok a, u)) : x = Pure.pure a := by
  have ho : x.outcome t = .ok a := congrArg Prod.fst h
  rw [hx.eq_ofStop t, ho]
  rfl

end Eval

end RuleSchema
