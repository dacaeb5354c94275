import RuleSchema.Proofs.Validator.Alike

/-!
# Unions as ordered choices

A union tries its branches in order on a value.  The first branch that does not reject it decides,
and if all of them reject it then so does the union, with what each branch has said.  A branch that
stops with a fault stops the union, since a fault is no rejection.

But for what rejections say, a union is the fold of its branches under `Eval.orElse`, which is
associative.  So the branches of a union inside a union can stand in its place, and a branch that
repeats an earlier one is never asked for more than another rejection.

* `firstAccepting_rejected`: branches that reject a value leave it to those after them.
* `rejectedBy_or_first`: branches that call nothing all reject a value, or one is the first that
  does not.
* `unionStep_first` and `unionStep_rejected`: **the first branch that does not reject a value
  decides**, and all rejections are one.
* `firstOf_append`, `firstOf_inline` and `firstOf_drop`: the laws of ordered choice.
-/

namespace RuleSchema

open Eval

/-! ### Evaluations that call nothing -/

namespace Eval

variable {ρ σ α : Type}

/-- An evaluation is a result, a rejection or a fault, whatever has been called. -/
inductive IsEnd (x : Eval ρ α) : Prop
  | result (a : α) : x = pure a → IsEnd x
  | rejection (e : ρ) : x = .reject e → IsEnd x
  | fault (f : Fault) : x = .fault f → IsEnd x

theorem pure_ne_reject {a : α} {e : ρ} : (pure a : Eval ρ α) ≠ .reject e := fun h => by
  cases congrArg (outcome · []) h

theorem fault_ne_reject {f : Fault} {e : ρ} : (.fault f : Eval ρ α) ≠ .reject e := fun h => by
  cases congrArg (outcome · []) h

theorem reject_injective {e e' : ρ} (h : (.reject e : Eval ρ α) = .reject e') : e = e' := by
  cases congrArg (outcome · []) h
  rfl

end Eval

/-- What a validator that calls nothing makes of a value. -/
theorem Validator.CallsWithin.isEnd {d : Validator} (h : d.CallsWithin noCalls) (v : Value) :
    (d.validate v).IsEnd := by
  have hstop := (h v).eq_ofStop []
  cases hoc : (d.validate v).outcome [] with
  | ok w => exact .result w (by rw [hstop, hoc]; rfl)
  | error e =>
    cases e with
    | rejected e => exact .rejection e (by rw [hstop, hoc]; rfl)
    | fault f => exact .fault f (by rw [hstop, hoc]; rfl)

/-! ### Branches in order -/

section

variable {v w : Value} {ds before rest : List Validator} {b : Validator} {es : List PayloadError}

/-- Some validators reject a value, each for one of some reasons. -/
def RejectedBy (v : Value) (ds : List Validator) (es : List PayloadError) : Prop :=
  List.Forall₂ (fun d e => d.validate v = .reject e) ds es

/-- **Branches that reject a value** leave it to those after them. -/
theorem firstAccepting_rejected (h : RejectedBy v before es) :
    firstAccepting v (before ++ rest) = (do
      return (← firstAccepting v rest).mapError (es.map PayloadError.text ++ ·)) := by
  have hid : ∀ r : Except (List String) Value, r.mapError ([] ++ ·) = r := by
    intro r
    cases r <;> rfl
  induction h with
  | nil =>
    simp only [List.map_nil, hid, bind_pure]
    rfl
  | @cons d e _ es hd _ ih =>
    have hcomp : ∀ r : Except (List String) Value,
        (r.mapError (es.map PayloadError.text ++ ·)).mapError (e.text :: ·) =
          r.mapError ((e :: es).map PayloadError.text ++ ·) := by
      intro r
      cases r <;> rfl
    rw [List.cons_append, firstAccepting, hd, attempt_reject, pure_bind, ih]
    simp only [bind_assoc, pure_bind, hcomp]

/-- What a union says of a value that no branch accepts. -/
def unionRejection (n : Nat) (es : List PayloadError) : StageRejection :=
  .failure ("Value does not match any of the " ++ toString n ++ " allowed rules: " ++
    Text.joinWith "; " (es.map PayloadError.text))
    "multi.union" [(.text "branches", .list (es.map fun e => .text e.text))]

theorem unionStep_rejected (h : RejectedBy v ds es) :
    unionStep ds v = .reject (unionRejection ds.length es) := by
  have hrun : firstAccepting v (ds ++ []) = _ := firstAccepting_rejected h
  rw [List.append_nil] at hrun
  rw [unionStep, hrun]
  simp only [firstAccepting, pure_bind, Except.mapError, List.append_nil, unionRejection,
    List.map_map]
  rfl

theorem unionStep_first (h : RejectedBy v before es) (hb : ∀ e, b.validate v ≠ .reject e)
    (hend : (b.validate v).IsEnd) (g : StageRejection → PayloadError) :
    mapReason g (unionStep (before ++ b :: rest) v) = b.validate v := by
  rw [unionStep, firstAccepting_rejected h, firstAccepting]
  cases hend with
  | result w hw => rw [hw]; rfl
  | rejection e he => exact absurd he (hb e)
  | fault f hf => rw [hf]; rfl

/-- Branches that call nothing all reject a value, or one of them is the first that does not. -/
theorem rejectedBy_or_first : ∀ {ds : List Validator}, (∀ d ∈ ds, (d.validate v).IsEnd) →
    (∃ es, RejectedBy v ds es) ∨ ∃ before b after es, ds = before ++ b :: after ∧
      RejectedBy v before es ∧ ∀ e, b.validate v ≠ .reject e := by
  intro ds
  induction ds with
  | nil => exact fun _ => .inl ⟨[], .nil⟩
  | cons d ds ih =>
    intro h
    have hfirst : (∀ e, d.validate v ≠ .reject e) → ∃ before b after es,
        d :: ds = before ++ b :: after ∧ RejectedBy v before es ∧ ∀ e, b.validate v ≠ .reject e :=
      fun hd => ⟨[], d, ds, [], rfl, .nil, hd⟩
    cases h d List.mem_cons_self with
    | result w hw => exact .inr (hfirst fun e => hw ▸ pure_ne_reject)
    | fault f hf => exact .inr (hfirst fun e => hf ▸ fault_ne_reject)
    | rejection e he =>
      rcases ih fun d hd => h d (List.mem_cons_of_mem _ hd) with
        ⟨es, hes⟩ | ⟨before, b, after, es, rfl, hes, hb⟩
      · exact .inl ⟨e :: es, .cons he hes⟩
      · exact .inr ⟨d :: before, b, after, e :: es, rfl, .cons he hes, hb⟩

end

/-! ### Ordered choice -/

namespace Eval

variable {ρ ρ' σ σ' τ α : Type}

/-- What an evaluation gives, or what another gives if it is rejected. -/
def orElse (x : Eval ρ α) (y : Eval σ α) : Eval σ α := do
  match ← attempt x with
  | .ok a => pure a
  | .error _ => y

section

variable {x : Eval ρ α} {y : Eval σ α} {t u : Tally}

theorem orElse_of_ok {a : α} (h : x t = (.ok a, u)) : x.orElse y t = (.ok a, u) := by
  rw [orElse, bind_of_ok (attempt_of_ok h)]
  rfl

theorem orElse_of_rejected {e : ρ} (h : x t = (.error (.rejected e), u)) : x.orElse y t = y u := by
  rw [orElse, bind_of_ok (attempt_of_rejected h)]

theorem orElse_of_fault {f : Fault} (h : x t = (.error (.fault f), u)) :
    x.orElse y t = (.error (.fault f), u) := by
  rw [orElse, bind_of_error (attempt_of_fault h)]

/-- **Ordered choice is associative.** -/
theorem orElse_assoc (x : Eval ρ α) (y : Eval σ α) (z : Eval τ α) :
    (x.orElse y).orElse z = x.orElse (y.orElse z) := by
  funext t
  cases hx : x t with
  | mk r u =>
    cases r with
    | ok a => rw [orElse_of_ok (orElse_of_ok hx), orElse_of_ok hx]
    | error e =>
      cases e with
      | fault f => rw [orElse_of_fault (orElse_of_fault hx), orElse_of_fault hx]
      | rejected e =>
        have hxy : (x.orElse y) t = y u := orElse_of_rejected hx
        rw [orElse_of_rejected hx]
        exact bind_congr_run (attempt_congr_run hxy)

theorem orElse_alike {x' : Eval ρ' α} {y' : Eval σ' α} (h : Alike x x') (h' : Alike y y') :
    Alike (x.orElse y) (x'.orElse y') :=
  h.attempt_bind (fun _ => rfl) fun _ _ => h'

end

end Eval

section

variable {v : Value} {ds before after bs : List Validator} {b : Validator}

/-- What the first branch that accepts a value makes of it. -/
def firstOf (v : Value) : List Validator → Eval Unit Value
  | [] => .reject ()
  | d :: ds => (d.validate v).orElse (firstOf v ds)

theorem firstAccepting_alike {k : Except (List String) Value → Eval StageRejection Value}
    (hok : ∀ w, k (.ok w) = pure w) (herror : ∀ texts, ∃ e, k (.error texts) = .reject e) :
    Eval.Alike (firstAccepting v ds >>= k) (firstOf v ds) := by
  induction ds generalizing k with
  | nil =>
    obtain ⟨e, he⟩ := herror []
    rw [firstAccepting, pure_bind, he]
    exact .reject e ()
  | cons d ds ih =>
    rw [firstAccepting, bind_assoc]
    refine Eval.Alike.attempt_bind (.refl _) (fun w => ?_) fun e _ => ?_
    · rw [pure_bind, hok]
      rfl
    · simp only [bind_assoc, pure_bind]
      exact ih hok fun texts => herror (e.text :: texts)

/-- **A union** is the ordered choice between its branches, but for what it says of rejections. -/
theorem unionStep_alike : Eval.Alike (unionStep ds v) (firstOf v ds) :=
  firstAccepting_alike (fun _ => rfl) fun _ => ⟨_, rfl⟩

theorem firstOf_append :
    firstOf v (before ++ after) = (firstOf v before).orElse (firstOf v after) := by
  induction before with
  | nil => rfl
  | cons d before ih => rw [List.cons_append, firstOf, firstOf, ih, orElse_assoc]

/-- **A branch that is itself a choice** can be replaced by what it chooses between. -/
theorem firstOf_inline (h : Eval.Alike (b.validate v) (firstOf v bs)) :
    Eval.Alike (firstOf v (before ++ b :: after)) (firstOf v (before ++ bs ++ after)) := by
  rw [firstOf_append, List.append_assoc, firstOf_append, firstOf_append]
  exact orElse_alike (.refl _) (orElse_alike h (.refl _))

/-- **A branch that repeats an earlier one** can be left out, if it calls nothing. -/
theorem firstOf_drop (hb : b ∈ before) (hend : (b.validate v).IsEnd) :
    firstOf v (before ++ b :: after) = firstOf v (before ++ after) := by
  induction before with
  | nil => exact absurd hb List.not_mem_nil
  | cons d before ih =>
    rw [List.cons_append, List.cons_append, firstOf, firstOf]
    rcases List.mem_cons.mp hb with rfl | hb
    · cases hend with
      | result w hw => rw [hw]; rfl
      | fault f hf => rw [hf]; rfl
      | rejection e he =>
        -- what has been rejected once is passed over the second time
        rw [firstOf_append, firstOf_append, firstOf, he]
        rfl
    · rw [ih hb]

end

end RuleSchema
