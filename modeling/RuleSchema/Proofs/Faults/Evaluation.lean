import Mathlib.Data.List.Forall2
import RuleSchema.Proofs.Calls.Local

/-!
# The faults of an evaluation

A rejection is a judgement and a fault is none: it is an operation that was asked of a
value that does not have it.  Here is what it takes to bound the faults of a composed
evaluation by those of its parts, together with what is known of its results.

* `Settles F Q r`: the outcome `r` is a rejection, a result with the property `Q`, or a
  fault among `F`.
* `Eval.FaultsIn F Q x`: every run of `x` ends so.
* `FaultsIn.bind`, `FaultsIn.attempt`, `FaultsIn.mapM` and so on: how larger evaluations
  inherit it.
-/

namespace RuleSchema

variable {ρ σ α β : Type}

/-- The outcome of a computation is a result with the property `Q`, a rejection, or a fault
among `F`. -/
inductive Settles (F : Fault → Prop) (Q : α → Prop) : Except (Stop ρ) α → Prop
  | result {a : α} : Q a → Settles F Q (.ok a)
  | rejected {e : ρ} : Settles F Q (.error (.rejected e))
  | fault {f : Fault} : F f → Settles F Q (.error (.fault f))

variable {F F' : Fault → Prop} {Q Q' : α → Prop} {R : β → Prop}

theorem Settles.mono {r : Except (Stop ρ) α} (h : Settles F Q r) (hF : ∀ f, F f → F' f)
    (hQ : ∀ a, Q a → Q' a) : Settles F' Q' r := by
  cases h with
  | result h => exact .result (hQ _ h)
  | rejected => exact .rejected
  | fault h => exact .fault (hF _ h)

theorem Settles.bind {r : Except (Stop ρ) α} {f : α → Except (Stop ρ) β} (hr : Settles F Q r)
    (hf : ∀ a, Q a → Settles F R (f a)) : Settles F R (r >>= f) := by
  cases hr with
  | result h => exact hf _ h
  | rejected => exact .rejected
  | fault h => exact .fault h

/-- What is known of a result may also be that it is one. -/
theorem Settles.of_ok {r : Except (Stop ρ) α} (h : Settles F Q r) :
    Settles F (fun a => Q a ∧ r = .ok a) r := by
  cases h with
  | result h => exact .result ⟨h, rfl⟩
  | rejected => exact .rejected
  | fault h => exact .fault h

theorem Settles.holds {a : α} (h : Settles F Q (.ok a : Except (Stop ρ) α)) : Q a := by
  cases h with
  | result h => exact h

theorem Settles.among {f : Fault} (h : Settles F Q (.error (.fault f) : Except (Stop ρ) α)) :
    F f := by
  cases h with
  | fault h => exact h

namespace Eval

/-- The faults of an evaluation are among `F`, and its results have the property `Q`. -/
def FaultsIn (F : Fault → Prop) (Q : α → Prop) (x : Eval ρ α) : Prop :=
  ∀ t, Settles F Q (x.outcome t)

theorem FaultsIn.mono {x : Eval ρ α} (h : x.FaultsIn F Q) (hF : ∀ f, F f → F' f)
    (hQ : ∀ a, Q a → Q' a) : x.FaultsIn F' Q' :=
  fun t => (h t).mono hF hQ

/-- What is known of a result may also be that some run gives it. -/
theorem FaultsIn.of_run {x : Eval ρ α} (h : x.FaultsIn F Q) :
    x.FaultsIn F fun a => Q a ∧ ∃ t u, x t = (.ok a, u) :=
  fun t => (h t).of_ok.mono (fun _ hf => hf) fun a ⟨ha, hrun⟩ =>
    ⟨ha, t, x.after t, by rw [x.eq_outcome_after t, hrun]⟩

theorem FaultsIn.ofStop {r : Except (Stop ρ) α} (h : Settles F Q r) :
    (Eval.ofStop r : Eval ρ α).FaultsIn F Q := by
  intro t
  rcases r with _ | _ <;> exact h

theorem FaultsIn.pure {a : α} (h : Q a) : (pure a : Eval ρ α).FaultsIn F Q := fun _ => .result h

theorem FaultsIn.reject {r : ρ} : (Eval.reject r : Eval ρ α).FaultsIn F Q := fun _ => .rejected

theorem FaultsIn.ofFault {r : Except Fault α} (hf : ∀ f, r = .error f → F f)
    (ha : ∀ a, r = .ok a → Q a) : (Eval.ofFault r : Eval ρ α).FaultsIn F Q := by
  intro t
  cases r with
  | ok a => exact .result (ha a rfl)
  | error f => exact .fault (hf f rfl)

/-- What has no fault has none in an evaluation. -/
theorem FaultsIn.ofFault_ok {r : Except Fault α} (h : ∃ a, r = .ok a ∧ Q a) :
    (Eval.ofFault r : Eval ρ α).FaultsIn F Q := by
  obtain ⟨a, rfl, ha⟩ := h
  exact FaultsIn.pure ha

theorem FaultsIn.ofExcept {r : Except ρ α} (ha : ∀ a, r = .ok a → Q a) :
    (Eval.ofExcept r : Eval ρ α).FaultsIn F Q := by
  cases r with
  | ok a => exact FaultsIn.pure (ha a rfl)
  | error e => exact FaultsIn.reject

/-- **A sequence** has the faults of its parts. -/
theorem FaultsIn.bind {x : Eval ρ α} {f : α → Eval ρ β} (hx : x.FaultsIn F Q)
    (hf : ∀ a, Q a → (f a).FaultsIn F R) : (x >>= f).FaultsIn F R := by
  intro t
  rw [outcome_bind]
  exact (hx t).bind fun a ha => hf a ha (x.after t)

theorem FaultsIn.attempt {x : Eval ρ α} (h : x.FaultsIn F Q) :
    (Eval.attempt x : Eval σ (Except ρ α)).FaultsIn F fun r => ∀ a, r = .ok a → Q a := by
  intro t
  rw [outcome_attempt]
  cases ho : x.outcome t with
  | ok a => exact .result fun b hb => Except.ok.inj hb ▸ (ho ▸ h t).holds
  | error e =>
    cases e with
    | rejected e => exact .result fun _ ha => nomatch ha
    | fault f => exact .fault (ho ▸ h t).among

theorem FaultsIn.mapReason {f : ρ → σ} {x : Eval ρ α} (h : x.FaultsIn F Q) :
    (Eval.mapReason f x).FaultsIn F Q := by
  refine FaultsIn.bind h.attempt fun r hr => ?_
  cases r with
  | ok a => exact FaultsIn.pure (hr a rfl)
  | error e => exact FaultsIn.reject

/-- A list computed item by item. -/
theorem FaultsIn.mapM {f : α → Eval ρ β} {P : α → β → Prop} : ∀ {xs : List α},
    (∀ x ∈ xs, (f x).FaultsIn F (P x)) → (xs.mapM f).FaultsIn F (List.Forall₂ P xs) := by
  intro xs
  induction xs with
  | nil => intro _; exact FaultsIn.pure .nil
  | cons x xs ih =>
    intro h
    rw [List.mapM_cons]
    refine FaultsIn.bind (h x List.mem_cons_self) fun y hy => ?_
    refine FaultsIn.bind (ih fun z hz => h z (List.mem_cons_of_mem _ hz)) fun ys hys => ?_
    exact FaultsIn.pure (.cons hy hys)

end Eval

end RuleSchema
