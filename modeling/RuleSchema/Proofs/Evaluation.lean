import RuleSchema.Evaluation

/-!
# Runs of evaluations

`Evaluation.lean` gives the type of evaluations; this file says how a run of a
composed one splits into the runs of its parts.

* `bind_ok`: a sequence that gives a result has a first part that gives one, and the
  rest runs on that.  Together with `mapReason_ok` and `attempt_ok` it takes any run
  apart.
* `bind_rejected` and `mapReason_rejected` do the same with a run that ends in a rejection.
* `bind_congr_ok` and `mapReason_bind`: sequences that go on in the same way are equal, and a
  sequence is rephrased part by part.
* `reject_bind`, `mapReason_pure`, `attempt_reject` and so on: an evaluation that is
  a result or a rejection outright stays one in a larger evaluation, so that such
  evaluations are computed by rewriting.
-/

namespace RuleSchema

/-- A sequence of results that may be faults gives a result only if both parts do. -/
theorem except_bind_ok {ε α β : Type} {x : Except ε α} {f : α → Except ε β} {b : β}
    (h : x >>= f = .ok b) : ∃ a, x = .ok a ∧ f a = .ok b := by
  cases x with
  | error e => cases h
  | ok a => exact ⟨a, rfl, h⟩

theorem except_bind_of_ok {ε α β : Type} {x : Except ε α} {f : α → Except ε β} {a : α} {b : β}
    (hx : x = .ok a) (hf : f a = .ok b) : x >>= f = .ok b := by
  rw [hx]
  exact hf

namespace Eval

variable {ρ σ α β : Type}

/-! ### Taking a run apart -/

/-- **A sequence that gives a result** gives it in two runs, one after the other. -/
theorem bind_ok {x : Eval ρ α} {f : α → Eval ρ β} {t u : Tally} {b : β}
    (h : (x >>= f) t = (.ok b, u)) : ∃ a s, x t = (.ok a, s) ∧ f a s = (.ok b, u) := by
  simp only [bind, ExceptT.bind, ExceptT.mk, StateT.bind] at h
  cases hx : x t with
  | mk r s =>
    rw [hx] at h
    cases r with
    | ok a => exact ⟨a, s, rfl, h⟩
    | error e => cases h

theorem bind_of_ok {x : Eval ρ α} {f : α → Eval ρ β} {t s : Tally} {a : α}
    (h : x t = (.ok a, s)) : (x >>= f) t = f a s := by
  simp only [bind, ExceptT.bind, ExceptT.mk, StateT.bind, h]
  rfl

theorem bind_ok_iff {x : Eval ρ α} {f : α → Eval ρ β} {t u : Tally} {b : β} :
    (x >>= f) t = (.ok b, u) ↔ ∃ a s, x t = (.ok a, s) ∧ f a s = (.ok b, u) :=
  ⟨bind_ok, fun ⟨_, _, hx, hf⟩ => (bind_of_ok hx).trans hf⟩

theorem bind_of_error {x : Eval ρ α} {f : α → Eval ρ β} {t s : Tally} {e : Stop ρ}
    (h : x t = (.error e, s)) : (x >>= f) t = (.error e, s) := by
  simp only [bind, ExceptT.bind, ExceptT.mk, StateT.bind, h]
  rfl

theorem pure_ok {t u : Tally} {a b : α} (h : (pure a : Eval ρ α) t = (.ok b, u)) :
    b = a ∧ u = t := by
  cases h; exact ⟨rfl, rfl⟩

theorem reject_ok {t u : Tally} {r : ρ} {a : α} (h : (reject r : Eval ρ α) t = (.ok a, u)) :
    False := by
  cases h

theorem ofFault_ok {x : Except Fault α} {t u : Tally} {a : α}
    (h : (ofFault x : Eval ρ α) t = (.ok a, u)) : x = .ok a ∧ u = t := by
  cases x with
  | ok b => cases h; exact ⟨rfl, rfl⟩
  | error f => cases h

theorem ofExcept_ok {x : Except ρ α} {t u : Tally} {a : α}
    (h : (ofExcept x : Eval ρ α) t = (.ok a, u)) : x = .ok a ∧ u = t := by
  cases x with
  | ok b => cases h; exact ⟨rfl, rfl⟩
  | error r => cases h

theorem ofStop_ok {x : Except (Stop ρ) α} {t u : Tally} {a : α}
    (h : (ofStop x : Eval ρ α) t = (.ok a, u)) : x = .ok a ∧ u = t := by
  cases x with
  | ok b => cases h; exact ⟨rfl, rfl⟩
  | error r => cases h

/-- An attempt that ends has run to a result or to a rejection. -/
theorem attempt_ok {x : Eval ρ α} {t u : Tally} {r : Except ρ α}
    (h : (attempt x : Eval σ (Except ρ α)) t = (.ok r, u)) :
    (∃ a, r = .ok a ∧ x t = (.ok a, u)) ∨
      (∃ e, r = .error e ∧ x t = (.error (.rejected e), u)) := by
  rw [attempt] at h
  split at h
  · next a s hx => cases h; exact .inl ⟨a, rfl, hx⟩
  · next e s hx => cases h; exact .inr ⟨e, rfl, hx⟩
  · cases h

theorem mapReason_ok {f : ρ → σ} {x : Eval ρ α} {t u : Tally} {a : α}
    (h : mapReason f x t = (.ok a, u)) : x t = (.ok a, u) := by
  obtain ⟨r, s, hr, h⟩ := bind_ok h
  rcases attempt_ok hr with ⟨b, rfl, hx⟩ | ⟨e, rfl, hx⟩
  · cases h; exact hx
  · cases h

/-! ### Attempts and rephrased runs -/

theorem attempt_of_ok {x : Eval ρ α} {t u : Tally} {a : α} (h : x t = (.ok a, u)) :
    (attempt x : Eval σ (Except ρ α)) t = (.ok (.ok a), u) := by
  simp only [attempt, h]

theorem attempt_of_rejected {x : Eval ρ α} {t u : Tally} {r : ρ}
    (h : x t = (.error (.rejected r), u)) :
    (attempt x : Eval σ (Except ρ α)) t = (.ok (.error r), u) := by
  simp only [attempt, h]

theorem attempt_of_fault {x : Eval ρ α} {t u : Tally} {f : Fault}
    (h : x t = (.error (.fault f), u)) :
    (attempt x : Eval σ (Except ρ α)) t = (.error (.fault f), u) := by
  simp only [attempt, h]

theorem mapReason_of_ok {f : ρ → σ} {x : Eval ρ α} {t u : Tally} {a : α}
    (h : x t = (.ok a, u)) : mapReason f x t = (.ok a, u) := by
  rw [mapReason, bind_of_ok (attempt_of_ok h)]
  rfl

theorem mapReason_of_rejected {f : ρ → σ} {x : Eval ρ α} {t u : Tally} {r : ρ}
    (h : x t = (.error (.rejected r), u)) : mapReason f x t = (.error (.rejected (f r)), u) := by
  rw [mapReason, bind_of_ok (attempt_of_rejected h)]
  rfl

theorem mapReason_of_fault {g : ρ → σ} {x : Eval ρ α} {t u : Tally} {f : Fault}
    (h : x t = (.error (.fault f), u)) : mapReason g x t = (.error (.fault f), u) := by
  rw [mapReason, bind_of_error (attempt_of_fault h)]

/-! ### Equal runs -/

/-- A sequence goes on from the run of its first part. -/
theorem bind_congr_run {x y : Eval ρ α} {f : α → Eval ρ β} {t u : Tally} (h : x t = y u) :
    (x >>= f) t = (y >>= f) u := by
  simp only [bind, ExceptT.bind, ExceptT.mk, StateT.bind, h]

theorem attempt_congr_run {x y : Eval ρ α} {t u : Tally} (h : x t = y u) :
    (attempt x : Eval σ (Except ρ α)) t = attempt y u := by
  simp only [attempt, h]

theorem mapReason_congr_run {f : ρ → σ} {x y : Eval ρ α} {t u : Tally} (h : x t = y u) :
    mapReason f x t = mapReason f y u :=
  bind_congr_run (attempt_congr_run h)

/-- A sequence is told by how it goes on from the results of its first part. -/
theorem bind_congr_ok {x : Eval ρ α} {f g : α → Eval ρ β}
    (h : ∀ t a u, x t = (.ok a, u) → f a = g a) : x >>= f = x >>= g := by
  funext t
  cases hx : x t with
  | mk y u =>
    cases y with
    | ok a => rw [bind_of_ok hx, bind_of_ok hx, h t a u hx]
    | error e => rw [bind_of_error hx, bind_of_error hx]

/-- Rephrasing what a sequence is rejected for. -/
theorem mapReason_bind {g : ρ → σ} {x : Eval ρ α} {k : α → Eval ρ β} :
    mapReason g (x >>= k) = (mapReason g x >>= fun a => mapReason g (k a)) := by
  funext t
  cases hx : x t with
  | mk y u =>
    cases y with
    | ok a =>
      rw [bind_of_ok (mapReason_of_ok hx)]
      exact mapReason_congr_run (bind_of_ok hx)
    | error e =>
      cases e with
      | rejected e =>
        rw [mapReason_of_rejected (bind_of_error hx), bind_of_error (mapReason_of_rejected hx)]
      | fault f => rw [mapReason_of_fault (bind_of_error hx), bind_of_error (mapReason_of_fault hx)]

/-! ### Taking a rejected run apart -/

/-- **A sequence that is rejected** is rejected in its first part, or after that has given a
result. -/
theorem bind_rejected {x : Eval ρ α} {f : α → Eval ρ β} {t u : Tally} {r : ρ}
    (h : (x >>= f) t = (.error (.rejected r), u)) :
    x t = (.error (.rejected r), u) ∨
      ∃ a s, x t = (.ok a, s) ∧ f a s = (.error (.rejected r), u) := by
  simp only [bind, ExceptT.bind, ExceptT.mk, StateT.bind] at h
  cases hx : x t with
  | mk y s =>
    rw [hx] at h
    cases y with
    | ok a => exact .inr ⟨a, s, rfl, h⟩
    | error e => cases h; exact .inl rfl

theorem pure_rejected {t u : Tally} {a : α} {r : ρ}
    (h : (pure a : Eval ρ α) t = (.error (.rejected r), u)) : False := by
  cases h

theorem reject_rejected {t u : Tally} {q r : ρ}
    (h : (reject q : Eval ρ α) t = (.error (.rejected r), u)) : r = q := by
  cases h; rfl

theorem ofFault_rejected {x : Except Fault α} {t u : Tally} {r : ρ}
    (h : (ofFault x : Eval ρ α) t = (.error (.rejected r), u)) : False := by
  cases x <;> cases h

/-- A result, if there is one, is all that an attempt makes of a rejection. -/
theorem attempt_rejected {x : Eval ρ α} {t u : Tally} {r : σ}
    (h : (attempt x : Eval σ (Except ρ α)) t = (.error (.rejected r), u)) : False := by
  rw [attempt] at h
  split at h <;> cases h

theorem mapReason_rejected {f : ρ → σ} {x : Eval ρ α} {t u : Tally} {r : σ}
    (h : mapReason f x t = (.error (.rejected r), u)) :
    ∃ q, x t = (.error (.rejected q), u) ∧ r = f q := by
  rcases bind_rejected h with h | ⟨y, s, hy, h⟩
  · exact absurd h attempt_rejected
  · rcases attempt_ok hy with ⟨a, rfl, -⟩ | ⟨q, rfl, hx⟩
    · exact absurd h pure_rejected
    · cases h; exact ⟨q, hx, rfl⟩

/-! ### Results and rejections outright -/

@[simp] theorem reject_bind (r : ρ) (f : α → Eval ρ β) :
    ((reject r : Eval ρ α) >>= f) = reject r := rfl

@[simp] theorem ofFault_ok_eq (a : α) : (ofFault (.ok a) : Eval ρ α) = pure a := rfl

@[simp] theorem attempt_pure (a : α) :
    (attempt (pure a : Eval ρ α) : Eval σ (Except ρ α)) = pure (.ok a) := rfl

@[simp] theorem attempt_reject (r : ρ) :
    (attempt (reject r : Eval ρ α) : Eval σ (Except ρ α)) = pure (.error r) := rfl

@[simp] theorem mapReason_pure (f : ρ → σ) (a : α) :
    mapReason f (pure a : Eval ρ α) = pure a := rfl

@[simp] theorem mapReason_reject (f : ρ → σ) (r : ρ) :
    mapReason f (reject r : Eval ρ α) = reject (f r) := rfl

/-- Rephrasing rejections does not touch the result. -/
theorem map_mapReason (f : α → β) (g : ρ → σ) (x : Eval ρ α) :
    f <$> mapReason g x = mapReason g (f <$> x) := by
  funext t
  simp only [mapReason, attempt, Functor.map, ExceptT.map, ExceptT.mk, bind, StateT.bind,
    ExceptT.bind]
  cases x t with
  | mk r u => rcases r with (_ | _) | _ <;> rfl

end Eval

end RuleSchema
