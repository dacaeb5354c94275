import RuleSchema.Proofs.Compile.Stages

/-!
# What an accepting run has done

A validator that accepts a value has run all its stages on it, and where the stages
contain other validators these have accepted the parts.  This file goes from a run that
gives a value to the runs inside it; it is to validation what `Compile/Stages.lean` is to
compilation.

* `Validator.Gives` is the relation between a value and what a validator makes of it,
  whatever has been called before.
* `validate_shape`: where only checks follow the shape stage, that stage gives the result.
* `validateItems_ok`, `validateSlots_ok`, `validateEntries_ok`, `validateDeclared_ok` and
  `firstAccepting_ok`: what stands in the result of each loop over the parts of a value.
* `Stage.Keeps`: the stages that keep a property of values, and `runStages_keeps`.
-/

namespace RuleSchema

open Eval

/-- A validator makes `w` of the value `v`. -/
def Validator.Gives (d : Validator) (v w : Value) : Prop := ∃ t u, d.validate v t = (.ok w, u)

theorem Value.eq_absent {v : Value} (h : v.isAbsent = true) : v = .absent := by
  cases v <;> first | rfl | cases h

/-! ### Stages -/

/-- A run of checks gives the value back, after each of them has passed. -/
theorem runChecks_ok : ∀ {cs : List Check} {v w : Value} {t u : Tally},
    Stage.runChecks cs v t = (.ok w, u) → w = v ∧ u = t ∧ ∀ c ∈ cs, c.test v = .ok true := by
  intro cs
  induction cs with
  | nil =>
    intro v w t u h
    obtain ⟨rfl, rfl⟩ := pure_ok h
    exact ⟨rfl, rfl, fun c hc => absurd hc List.not_mem_nil⟩
  | cons c cs ih =>
    intro v w t u h
    obtain ⟨b, s, hc, h⟩ := bind_ok h
    obtain ⟨hb, rfl⟩ := ofFault_ok hc
    cases b with
    | false => exact absurd h reject_ok
    | true =>
      obtain ⟨rfl, rfl, hcs⟩ := ih h
      refine ⟨rfl, rfl, fun c' hc' => ?_⟩
      rcases List.mem_cons.mp hc' with rfl | hc'
      · exact hb
      · exact hcs c' hc'

theorem ChecksOf.run_eq {kind : StageKind} {checks : List Check} {stages : List Stage}
    (h : ChecksOf kind checks stages) : ∀ s ∈ stages, s.run = Stage.runChecks checks := by
  intro s hs
  cases h with
  | none => exact absurd hs List.not_mem_nil
  | one _ hrun _ => rw [List.mem_singleton.mp hs]; exact hrun

theorem ChecksOf.all_checks {kind : StageKind} {checks : List Check} {stages : List Stage}
    (h : ChecksOf kind checks stages) : ∀ s ∈ stages, ∃ cs, s.run = Stage.runChecks cs :=
  fun s hs => ⟨checks, h.run_eq s hs⟩

theorem no_stages : ∀ s ∈ ([] : List Stage), ∃ cs, s.run = Stage.runChecks cs :=
  fun _ hs => absurd hs List.not_mem_nil

/-- Stages of checks give the value back. -/
theorem runStages_checks {tag : Tag} : ∀ {stages : List Stage} {v w : Value} {t u : Tally},
    (∀ s ∈ stages, ∃ cs, s.run = Stage.runChecks cs) →
      Validator.runStages tag stages v t = (.ok w, u) → w = v := by
  intro stages
  induction stages with
  | nil =>
    intro v w t u _ h
    exact (pure_ok h).1
  | cons s stages ih =>
    intro v w t u hs h
    obtain ⟨x, t', hx, h⟩ := bind_ok h
    obtain ⟨cs, hcs⟩ := hs s List.mem_cons_self
    have hrun := mapReason_ok hx
    rw [hcs] at hrun
    rw [← (runChecks_ok hrun).1]
    split at h
    · exact (pure_ok h).1
    · exact ih (fun s' hs' => hs s' (List.mem_cons_of_mem _ hs')) h

/-- **Where only checks follow the shape stage**, that stage gives the result. -/
theorem validate_shape {d : Validator} {shape : Stage} {rest : List Stage} {v w : Value}
    (hstages : d.stages = shape :: rest) (hrest : ∀ s ∈ rest, ∃ cs, s.run = Stage.runChecks cs)
    (h : d.Gives v w) : ∃ t u, shape.run v t = (.ok w, u) := by
  obtain ⟨t, u, h⟩ := h
  rw [Validator.validate, hstages] at h
  obtain ⟨x, s, hx, h⟩ := bind_ok h
  have hw : w = x := by
    split at h
    · exact (pure_ok h).1
    · exact runStages_checks hrest h
  rw [hw]
  exact ⟨t, s, mapReason_ok hx⟩

/-- What a shape stage gives: an absent or a null value as it is, where the rule admits one, and
otherwise what the check of the type gives. -/
theorem runShape_ok {r : Rule} {check : Step} {v w : Value} {t u : Tally}
    (h : runShape r check v t = (.ok w, u)) :
    ∃ a s, (r.present v : Eval StageRejection Value) t = (.ok a, s) ∧
      (w = a ∧ (a = .absent ∨ a = .null) ∨
        a.isAbsent = false ∧ a.isNull = false ∧ check a s = (.ok w, u)) := by
  obtain ⟨a, s, ha, h⟩ := bind_ok h
  refine ⟨a, s, ha, ?_⟩
  split at h
  · next habsent =>
    have habsent := Value.eq_absent habsent
    split at h
    · exact .inl ⟨(pure_ok h).1.trans habsent.symm, .inl habsent⟩
    · exact absurd h reject_ok
  · next hpresent =>
    split at h
    · next hnull =>
      have hnull : a = .null := by cases a <;> first | rfl | cases hnull
      split at h
      · exact .inl ⟨(pure_ok h).1.trans hnull.symm, .inr hnull⟩
      · exact absurd h reject_ok
    · next hnull => exact .inr ⟨by simpa using hpresent, by simpa using hnull, h⟩

/-- A present value stands for itself. -/
theorem present_ok {ρ : Type} {r : Rule} {v a : Value} {t u : Tally} (hv : v.isAbsent = false)
    (h : (r.present v : Eval ρ Value) t = (.ok a, u)) : a = v := by
  rw [Rule.present, hv] at h
  exact (pure_ok h).1

/-- What a shape stage makes of a present value is that value if it is null, and otherwise
what the check of the type makes of it. -/
theorem runShape_present {r : Rule} {check : Step} {v w : Value} {t u : Tally}
    (hv : v.isAbsent = false) (h : runShape r check v t = (.ok w, u)) :
    w = .null ∨ ∃ s, check v s = (.ok w, u) := by
  obtain ⟨a, s, ha, h⟩ := runShape_ok h
  rw [present_ok hv ha] at h
  rcases h with ⟨rfl, rfl | rfl⟩ | ⟨-, -, h⟩
  · cases hv
  · exact .inl rfl
  · exact .inr ⟨s, h⟩

/-- A stage gives a value with the property `P` whenever it receives one. -/
def Stage.Keeps (P : Value → Prop) (s : Stage) : Prop :=
  ∀ v w t u, P v → s.run v t = (.ok w, u) → P w

theorem runStages_keeps {P : Value → Prop} {tag : Tag} : ∀ {stages : List Stage} {v w : Value}
    {t u : Tally}, (∀ s ∈ stages, s.Keeps P) → P v →
      Validator.runStages tag stages v t = (.ok w, u) → P w := by
  intro stages
  induction stages with
  | nil =>
    intro v w t u _ hv h
    rw [(pure_ok h).1]
    exact hv
  | cons s stages ih =>
    intro v w t u hs hv h
    obtain ⟨x, t', hx, h⟩ := bind_ok h
    have hx : P x := hs s List.mem_cons_self v x t t' hv (mapReason_ok hx)
    split at h
    · rw [(pure_ok h).1]
      exact hx
    · exact ih (fun s' hs' => hs s' (List.mem_cons_of_mem _ hs')) hx h

/-! ### The loops over the parts of a value -/

theorem part_ok {α : Type} {key : Value} {x : Eval PayloadError α} {t u : Tally} {a : α}
    (h : part key x t = (.ok a, u)) : x t = (.ok a, u) :=
  mapReason_ok h

theorem part_ok_iff {α : Type} {key : Value} {x : Eval PayloadError α} {t u : Tally} {a : α} :
    part key x t = (.ok a, u) ↔ x t = (.ok a, u) :=
  ⟨part_ok, mapReason_of_ok⟩

/-- The items of an array that come out present. -/
theorem validateItems_ok {d : Validator} : ∀ {xs : List Value} {i : Nat} {ys : List Value}
    {t u : Tally}, validateItems d i xs t = (.ok ys, u) →
      ∀ y ∈ ys, y.isAbsent = false ∧ ∃ x ∈ xs, d.Gives x y := by
  intro xs
  induction xs with
  | nil =>
    intro i ys t u h y hy
    rw [(pure_ok h).1] at hy
    exact absurd hy List.not_mem_nil
  | cons x xs ih =>
    intro i ys t u h y hy
    obtain ⟨a, s, ha, h⟩ := bind_ok h
    obtain ⟨as, s', has, h⟩ := bind_ok h
    have hrest : y ∈ as → y.isAbsent = false ∧ ∃ z ∈ x :: xs, d.Gives z y := by
      intro hy
      obtain ⟨hp, z, hz, hg⟩ := ih has y hy
      exact ⟨hp, z, List.mem_cons_of_mem _ hz, hg⟩
    rw [(pure_ok h).1] at hy
    split at hy
    · exact hrest hy
    · next hpresent =>
      rcases List.mem_cons.mp hy with rfl | hy
      · exact ⟨by simpa using hpresent, x, List.mem_cons_self, t, s, part_ok ha⟩
      · exact hrest hy

/-- Every slot of a tuple gives one item. -/
theorem validateSlots_ok : ∀ {ds : List Validator} {xs : List Value} {i : Nat} {ys : List Value}
    {t u : Tally}, xs.length = ds.length → validateSlots i ds xs t = (.ok ys, u) →
      List.Forall₂ (fun e y => e.1.Gives e.2 y) (ds.zip xs) ys := by
  intro ds
  induction ds with
  | nil =>
    intro xs i ys t u _ h
    rw [(pure_ok h).1]
    exact .nil
  | cons d ds ih =>
    intro xs i ys t u hlen h
    cases xs with
    | nil => cases hlen
    | cons x xs =>
      obtain ⟨y, s, hy, h⟩ := bind_ok h
      obtain ⟨ys', s', hys, h⟩ := bind_ok h
      rw [(pure_ok h).1]
      exact .cons ⟨t, s, part_ok hy⟩ (ih (Nat.succ.inj hlen) hys)

theorem mem_put {es : Entries Value} {k v : Value} : ∀ {e : Value × Value}, e ∈ es.put k v →
    (e.1 = k ∨ e.1 ∈ es.keys) ∧ (e.2 = v ∨ e.2 ∈ es.map Prod.snd) := by
  induction es with
  | nil =>
    intro e he
    rw [List.mem_singleton.mp he]
    exact ⟨.inl rfl, .inl rfl⟩
  | cons f es ih =>
    obtain ⟨l, y⟩ := f
    intro e he
    rw [Entries.put] at he
    split at he
    · rcases List.mem_cons.mp he with rfl | he
      · exact ⟨.inr List.mem_cons_self, .inl rfl⟩
      · exact ⟨.inr (List.mem_cons_of_mem _ (List.mem_map_of_mem he)),
          .inr (List.mem_cons_of_mem _ (List.mem_map_of_mem he))⟩
    · rcases List.mem_cons.mp he with rfl | he
      · exact ⟨.inr List.mem_cons_self, .inr List.mem_cons_self⟩
      · obtain ⟨hk, hv⟩ := ih he
        exact ⟨hk.imp_right (List.mem_cons_of_mem _), hv.imp_right (List.mem_cons_of_mem _)⟩

/-- The entries of a record: each key and each value is what the validators have made of some
key and of some value. -/
theorem validateEntries_ok {keys values : Validator} : ∀ {es done out : Entries Value}
    {t u : Tally}, validateEntries keys values done es t = (.ok out, u) →
      ∀ e ∈ out, (e.1 ∈ done.keys ∨ ∃ f ∈ es, keys.Gives f.1 e.1) ∧
        (e.2 ∈ done.map Prod.snd ∨
          e.2.isAbsent = false ∧ ∃ f ∈ es, values.Gives f.2 e.2) := by
  intro es
  induction es with
  | nil =>
    intro done out t u h e he
    rw [(pure_ok h).1] at he
    exact ⟨.inl (List.mem_map_of_mem he), .inl (List.mem_map_of_mem he)⟩
  | cons f es ih =>
    obtain ⟨k, x⟩ := f
    intro done out t u h e he
    obtain ⟨key, s, hkey, h⟩ := bind_ok h
    obtain ⟨value, s', hvalue, h⟩ := bind_ok h
    split at h
    · obtain ⟨hk, hv⟩ := ih h e he
      exact ⟨hk.imp_right fun ⟨g, hg, h⟩ => ⟨g, List.mem_cons_of_mem _ hg, h⟩,
        hv.imp_right fun ⟨hp, g, hg, h⟩ => ⟨hp, g, List.mem_cons_of_mem _ hg, h⟩⟩
    · next hpresent =>
      obtain ⟨done', s'', hdone, h⟩ := bind_ok h
      have hput : done' = done.put key value := by
        have hdone := (ofFault_ok hdone).1
        rw [putEntry] at hdone
        split at hdone
        · cases hdone
        · cases hdone; rfl
      obtain ⟨hk, hv⟩ := ih h e he
      subst hput
      constructor
      · rcases hk with hk | ⟨g, hg, hk⟩
        · obtain ⟨g, hg, hge⟩ := List.mem_map.mp hk
          rcases (mem_put hg).1 with hg | hg
          · exact .inr ⟨(k, x), List.mem_cons_self, t, s, by rw [← hge, hg]; exact part_ok hkey⟩
          · exact .inl (by rw [← hge]; exact hg)
        · exact .inr ⟨g, List.mem_cons_of_mem _ hg, hk⟩
      · rcases hv with hv | ⟨hp, g, hg, hv⟩
        · obtain ⟨g, hg, hge⟩ := List.mem_map.mp hv
          rcases (mem_put hg).2 with hg | hg
          · rw [← hge, hg]
            exact .inr ⟨by simpa using hpresent, (k, x), List.mem_cons_self, s, s', part_ok hvalue⟩
          · exact .inl (by rw [← hge]; exact hg)
        · exact .inr ⟨hp, g, List.mem_cons_of_mem _ hg, hv⟩

/-- The declared properties of a mapping that come out present. -/
theorem validateDeclared_ok {entries : Entries Value} : ∀ {ds : Entries Validator}
    {out : Entries Value} {t u : Tally}, validateDeclared entries ds t = (.ok out, u) →
      ∀ e ∈ out, e.2.isAbsent = false ∧
        ∃ d, (e.1, d) ∈ ds ∧ d.Gives ((entries.find? e.1).getD .absent) e.2 := by
  intro ds
  induction ds with
  | nil =>
    intro out t u h e he
    rw [(pure_ok h).1] at he
    exact absurd he List.not_mem_nil
  | cons f ds ih =>
    obtain ⟨name, d⟩ := f
    intro out t u h e he
    obtain ⟨v, s, hv, h⟩ := bind_ok h
    obtain ⟨others, s', hothers, h⟩ := bind_ok h
    have hrest : e ∈ others → e.2.isAbsent = false ∧ ∃ d', (e.1, d') ∈ (name, d) :: ds ∧
        d'.Gives ((entries.find? e.1).getD .absent) e.2 := by
      intro he
      obtain ⟨hp, d', hd, hg⟩ := ih hothers e he
      exact ⟨hp, d', List.mem_cons_of_mem _ hd, hg⟩
    rw [(pure_ok h).1] at he
    split at he
    · exact hrest he
    · next hpresent =>
      rcases List.mem_cons.mp he with rfl | he
      · exact ⟨by simpa using hpresent, d, List.mem_cons_self, t, s, mapReason_ok hv⟩
      · exact hrest he

/-- The properties of a mapping: declared ones that come out present, and entries that are kept
because nothing is declared about their keys. -/
theorem validateProperties_ok {entries : Entries Value} {ds : Entries Validator}
    {mode : UnknownKeys} {out : Entries Value} {t u : Tally}
    (h : validateProperties entries ds mode t = (.ok out, u)) :
    ∀ e ∈ out, e ∈ entries ∨ e.2.isAbsent = false ∧
      ∃ d, (e.1, d) ∈ ds ∧ d.Gives ((entries.find? e.1).getD .absent) e.2 := by
  intro e he
  unfold validateProperties at h
  split at h
  · exact absurd h reject_ok
  · obtain ⟨declared, s, hdeclared, h⟩ := bind_ok h
    rw [(pure_ok h).1] at he
    split at he
    · rcases List.mem_append.mp he with he | he
      · exact .inr (validateDeclared_ok hdeclared e he)
      · exact .inl (List.mem_of_mem_filter he)
    · exact .inr (validateDeclared_ok hdeclared e he)

/-- The result of a union is that of one of its branches. -/
theorem firstAccepting_ok {v : Value} : ∀ {ds : List Validator} {r : Except (List String) Value}
    {t u : Tally}, firstAccepting v ds t = (.ok r, u) →
      ∀ w, r = .ok w → ∃ d ∈ ds, d.Gives v w := by
  intro ds
  induction ds with
  | nil =>
    intro r t u h w hw
    rw [(pure_ok h).1] at hw
    cases hw
  | cons d ds ih =>
    intro r t u h w hw
    obtain ⟨x, s, hx, h⟩ := bind_ok h
    rcases attempt_ok hx with ⟨a, rfl, ha⟩ | ⟨e, rfl, -⟩
    · rw [(pure_ok h).1] at hw
      cases hw
      exact ⟨d, List.mem_cons_self, t, s, ha⟩
    · obtain ⟨r', s', hr, h⟩ := bind_ok h
      rw [(pure_ok h).1] at hw
      cases r' with
      | error _ => cases hw
      | ok w' =>
        cases hw
        obtain ⟨d', hd', hg⟩ := ih hr w rfl
        exact ⟨d', List.mem_cons_of_mem _ hd', hg⟩

theorem unionStep_ok {ds : List Validator} {v w : Value} {t u : Tally}
    (h : unionStep ds v t = (.ok w, u)) : ∃ d ∈ ds, d.Gives v w := by
  obtain ⟨r, s, hr, h⟩ := bind_ok h
  cases r with
  | error _ => exact absurd h reject_ok
  | ok x =>
    rw [(pure_ok h).1]
    exact firstAccepting_ok hr x rfl

/-! ### The steps of composite rules -/

theorem arrayStep_ok {convert : Bool} {d : Validator} {v w : Value} {t u : Tally}
    (h : arrayStep convert d v t = (.ok w, u)) :
    ∃ xs ys s s', w = .list ys ∧ validateItems d 0 xs s = (.ok ys, s') ∧
      (v.items? = some xs ∨ xs = [v]) := by
  rw [arrayStep] at h
  cases hv : v.items? with
  | some xs =>
    rw [hv] at h
    obtain ⟨ys, s', hys, h⟩ := bind_ok h
    exact ⟨xs, ys, t, s', (pure_ok h).1, hys, .inl rfl⟩
  | none =>
    rw [hv] at h
    dsimp only at h
    split at h
    · obtain ⟨ys, s', hys, h⟩ := bind_ok h
      exact ⟨[v], ys, t, s', (pure_ok h).1, hys, .inr rfl⟩
    · exact absurd h reject_ok

theorem objectStep_ok {ds : Entries Validator} {mode : UnknownKeys} {v w : Value} {t u : Tally}
    (h : objectStep ds mode v t = (.ok w, u)) :
    ∃ es out s s', v = .mapping es ∧ w = .mapping out ∧
      validateProperties es ds mode s = (.ok out, s') := by
  cases v with
  | mapping es =>
    obtain ⟨out, s', hout, h⟩ := bind_ok h
    exact ⟨es, out, t, s', rfl, (pure_ok h).1, hout⟩
  | _ => exact absurd h reject_ok

theorem tupleStep_ok {ds : List Validator} {v w : Value} {t u : Tally}
    (h : tupleStep ds v t = (.ok w, u)) :
    ∃ xs ys, v.items? = some xs ∧ w = .list ys ∧
      List.Forall₂ (fun e y => e.1.Gives e.2 y) (ds.zip xs) ys ∧ xs.length = ds.length := by
  rw [tupleStep] at h
  cases hv : v.items? with
  | none => rw [hv] at h; exact absurd h reject_ok
  | some xs =>
    rw [hv] at h
    dsimp only at h
    split at h
    · next hlen =>
      obtain ⟨ys, s', hys, h⟩ := bind_ok h
      exact ⟨xs, ys, rfl, (pure_ok h).1, validateSlots_ok hlen hys, hlen⟩
    · exact absurd h reject_ok

theorem recordStep_ok {keys values : Validator} {v w : Value} {t u : Tally}
    (h : recordStep keys values v t = (.ok w, u)) :
    ∃ es out s s', v = .mapping es ∧ w = .mapping out ∧
      validateEntries keys values [] es s = (.ok out, s') := by
  cases v with
  | mapping es =>
    obtain ⟨out, s', hout, h⟩ := bind_ok h
    exact ⟨es, out, t, s', rfl, (pure_ok h).1, hout⟩
  | _ => exact absurd h reject_ok

end RuleSchema
