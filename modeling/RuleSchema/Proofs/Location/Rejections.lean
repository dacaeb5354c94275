import RuleSchema.Proofs.Schema.Names
import RuleSchema.Proofs.Validator.Absent

/-!
# Where a rejection comes from

A validator rejects a value for itself, or for its first part that is rejected.  In the second case
the rejection is that of the part, with the key of the part before its place, and all parts before
it have been accepted.

* `PayloadError.IsOf` are the rejections of a value for itself, and `under_of_plain` and
  `details_path` say how they are moved and reported.
* `validateItems_rejected`, `validateSlots_rejected`, `validateEntries_rejected` and
  `validateDeclared_rejected`: **the first part that is rejected**.
* `ShapeOf.rejected`, `Rule.CompilesTo.simple_rejected` and `Rule.CompilesTo.absent_rejects`: the
  rejections of a validator.
-/

namespace RuleSchema

open Eval

/-- A validator rejects a value. -/
def Validator.Rejects (d : Validator) (v : Value) (e : PayloadError) : Prop :=
  ∃ t u, d.validate v t = (.error (.rejected e), u)

/-! ### Rejections of a value for itself -/

/-- A rejection of a value for itself: it names no place, and it says that a value is required just
if there is none. -/
structure PayloadError.IsOf (e : PayloadError) (v : Value) : Prop where
  here : e.path = []
  required : e.check = some "required" ↔ v.isAbsent = true
  plain : ∀ entry ∈ e.extra, PayloadError.isOwnKey entry.1 = false

namespace PayloadError

variable {e : PayloadError} {k : Value}

/-- A rejection of a part, seen from the whole, differs in its place alone. -/
theorem under_of_plain (h : ∀ entry ∈ e.extra, isOwnKey entry.1 = false) :
    e.under k = { e with path := k :: e.path } := by
  have hextra : e.extra.filter (fun entry => !isOwnKey entry.1) = e.extra :=
    List.filter_eq_self.mpr fun entry hentry => by rw [h entry hentry]; rfl
  rw [under, hextra]

/-- Putting entries under keys that are not its own leaves the place as it is. -/
theorem at?_path_puts : ∀ {more es : Entries Value}, (∀ entry ∈ more, isOwnKey entry.1 = false) →
    (more.foldl (fun es entry => es.put entry.1 entry.2) es).at? "path" = es.at? "path" := by
  intro more
  induction more with
  | nil => exact fun _ => rfl
  | cons entry more ih =>
    intro es hmore
    obtain ⟨hentry, hmore⟩ := List.forall_mem_cons.mp hmore
    rw [isOwnKey, Bool.or_eq_false_iff, Bool.or_eq_false_iff] at hentry
    exact (ih hmore).trans (Schema.at?_put_other hentry.1.1)

/-- **The reported place** is the text of the place of the rejection. -/
theorem details_path (h : ∀ entry ∈ e.extra, isOwnKey entry.1 = false) :
    e.details.at? "path" = some (.text (formatPath e.path)) :=
  at?_path_puts h

/-- The keys that are there after some entries have been put. -/
theorem forall_key_puts {P : Value → Prop} : ∀ {more es : Entries Value},
    (∀ entry ∈ more, P entry.1) → (∀ entry ∈ es, P entry.1) →
      ∀ entry ∈ more.foldl (fun es entry => es.put entry.1 entry.2) es, P entry.1 := by
  intro more
  induction more with
  | nil => exact fun _ hes => hes
  | cons entry more ih =>
    intro es hmore hes
    obtain ⟨hentry, hmore⟩ := List.forall_mem_cons.mp hmore
    refine ih hmore fun other hother => ?_
    rcases (mem_put hother).1 with heq | hmem
    · rw [heq]
      exact hentry
    · obtain ⟨old, hold, heq⟩ := List.mem_map.mp hmem
      rw [← heq]
      exact hes old hold

end PayloadError

/-- A failed check of a present value rejects the value for itself. -/
theorem located_own {tag : Tag} {kind : StageKind} {f : StageRejection} {v : Value}
    (h : f.IsOwn) (hv : v.isAbsent = false) : (Validator.located tag kind f).IsOf v := by
  cases h with
  | failure hcheck hdetails =>
    refine ⟨rfl, ?_, ?_⟩
    · simpa [Validator.located, hv] using hcheck
    · exact PayloadError.forall_key_puts (P := fun k => PayloadError.isOwnKey k = false) hdetails
        (List.forall_mem_singleton.mpr
          (by decide : PayloadError.isOwnKey (.text "rule_type") = false))

/-! ### The first part that is rejected -/

theorem part_rejected {α : Type} {k : Value} {x : Eval PayloadError α} {t u : Tally}
    {f : StageRejection} (h : part k x t = (.error (.rejected f), u)) :
    ∃ e, x t = (.error (.rejected e), u) ∧ f = .inside (e.under k) :=
  mapReason_rejected h

/-- **The first item that is rejected.** -/
theorem validateItems_rejected {d : Validator} : ∀ {xs : List Value} {i : Nat} {t u : Tally}
    {f : StageRejection}, validateItems d i xs t = (.error (.rejected f), u) →
      ∃ before x after e, xs = before ++ x :: after ∧ (∀ y ∈ before, ∃ w, d.Gives y w) ∧
        d.Rejects x e ∧ f = .inside (e.under (indexKey (i + before.length))) := by
  intro xs
  induction xs with
  | nil => intro i t u f h; exact absurd h pure_rejected
  | cons x xs ih =>
    intro i t u f h
    rcases bind_rejected h with h | ⟨y, s, hy, h⟩
    · obtain ⟨e, he, rfl⟩ := part_rejected h
      exact ⟨[], x, xs, e, rfl, fun _ h => absurd h List.not_mem_nil, ⟨t, u, he⟩, rfl⟩
    · rcases bind_rejected h with h | ⟨ys, s', -, h⟩
      · obtain ⟨before, z, after, e, rfl, hbefore, he, rfl⟩ := ih h
        refine ⟨x :: before, z, after, e, rfl, ?_, he, ?_⟩
        · exact List.forall_mem_cons.mpr ⟨⟨y, t, s, part_ok hy⟩, hbefore⟩
        · rw [List.length_cons, Nat.add_right_comm, Nat.add_assoc]
      · exact absurd h pure_rejected

/-- **The first slot whose item is rejected.** -/
theorem validateSlots_rejected : ∀ {ds : List Validator} {xs : List Value} {i : Nat} {t u : Tally}
    {f : StageRejection}, validateSlots i ds xs t = (.error (.rejected f), u) →
      ∃ dsBefore d dsAfter before x after e, ds = dsBefore ++ d :: dsAfter ∧
        xs = before ++ x :: after ∧
        List.Forall₂ (fun d y => ∃ w, d.Gives y w) dsBefore before ∧
        d.Rejects x e ∧ f = .inside (e.under (indexKey (i + before.length))) := by
  intro ds
  induction ds with
  | nil => intro xs i t u f h; exact absurd h pure_rejected
  | cons d ds ih =>
    intro xs i t u f h
    cases xs with
    | nil => exact absurd h pure_rejected
    | cons x xs =>
      rcases bind_rejected h with h | ⟨y, s, hy, h⟩
      · obtain ⟨e, he, rfl⟩ := part_rejected h
        exact ⟨[], d, ds, [], x, xs, e, rfl, rfl, .nil, ⟨t, u, he⟩, rfl⟩
      · rcases bind_rejected h with h | ⟨ys, s', -, h⟩
        · obtain ⟨dsBefore, d', dsAfter, before, z, after, e, rfl, rfl, hbefore, he, rfl⟩ := ih h
          refine ⟨d :: dsBefore, d', dsAfter, x :: before, z, after, e, rfl, rfl, ?_, he, ?_⟩
          · exact .cons ⟨y, t, s, part_ok hy⟩ hbefore
          · rw [List.length_cons, Nat.add_right_comm, Nat.add_assoc]
        · exact absurd h pure_rejected

/-- **The first entry that is rejected**, for its key or else for its content. -/
theorem validateEntries_rejected {keys values : Validator} : ∀ {es done : Entries Value}
    {t u : Tally} {f : StageRejection},
    validateEntries keys values done es t = (.error (.rejected f), u) →
      ∃ before k x after e, es = before ++ (k, x) :: after ∧
        (∀ g ∈ before, (∃ w, keys.Gives g.1 w) ∧ ∃ w, values.Gives g.2 w) ∧
        (keys.Rejects k e ∨ (∃ w, keys.Gives k w) ∧ values.Rejects x e) ∧
        f = .inside (e.under k) := by
  intro es
  induction es with
  | nil => intro done t u f h; exact absurd h pure_rejected
  | cons g es ih =>
    obtain ⟨k, x⟩ := g
    intro done t u f h
    rcases bind_rejected h with h | ⟨key, s, hkey, h⟩
    · obtain ⟨e, he, rfl⟩ := part_rejected h
      exact ⟨[], k, x, es, e, rfl, fun _ h => absurd h List.not_mem_nil, .inl ⟨t, u, he⟩, rfl⟩
    have hkey : ∃ w, keys.Gives k w := ⟨key, t, s, part_ok hkey⟩
    rcases bind_rejected h with h | ⟨value, s', hvalue, h⟩
    · obtain ⟨e, he, rfl⟩ := part_rejected h
      exact ⟨[], k, x, es, e, rfl, fun _ h => absurd h List.not_mem_nil, .inr ⟨hkey, s, u, he⟩,
        rfl⟩
    have hrest : ∃ done t, validateEntries keys values done es t = (.error (.rejected f), u) := by
      by_cases habsent : value.isAbsent = true
      · rw [if_pos habsent] at h
        exact ⟨done, s', h⟩
      · rw [if_neg habsent] at h
        rcases bind_rejected h with h | ⟨done', s'', -, h⟩
        · exact absurd h ofFault_rejected
        · exact ⟨done', s'', h⟩
    obtain ⟨_, _, h⟩ := hrest
    obtain ⟨before, l, y, after, e, rfl, hbefore, he, rfl⟩ := ih h
    exact ⟨(k, x) :: before, l, y, after, e, rfl,
      List.forall_mem_cons.mpr ⟨⟨hkey, value, s, s', part_ok hvalue⟩, hbefore⟩, he, rfl⟩

/-- **The first declared property that is rejected.** -/
theorem validateDeclared_rejected {es : Entries Value} : ∀ {ds : Entries Validator} {t u : Tally}
    {f : StageRejection}, validateDeclared es ds t = (.error (.rejected f), u) →
      ∃ before name d after e, ds = before ++ (name, d) :: after ∧
        (∀ g ∈ before, ∃ w, g.2.Gives ((es.find? g.1).getD .absent) w) ∧
        d.Rejects ((es.find? name).getD .absent) e ∧ f = .inside (e.under name) := by
  intro ds
  induction ds with
  | nil => intro t u f h; exact absurd h pure_rejected
  | cons g ds ih =>
    obtain ⟨name, d⟩ := g
    intro t u f h
    rcases bind_rejected h with h | ⟨v, s, hv, h⟩
    · obtain ⟨e, he, rfl⟩ := mapReason_rejected h
      exact ⟨[], name, d, ds, e, rfl, fun _ h => absurd h List.not_mem_nil, ⟨t, u, he⟩, rfl⟩
    · rcases bind_rejected h with h | ⟨others, s', -, h⟩
      · obtain ⟨before, n, d', after, e, rfl, hbefore, he, rfl⟩ := ih h
        exact ⟨(name, d) :: before, n, d', after, e, rfl,
          List.forall_mem_cons.mpr ⟨⟨v, t, s, mapReason_ok hv⟩, hbefore⟩, he, rfl⟩
      · exact absurd h pure_rejected

/-- A mapping is rejected for its unknown keys, or for a declared property. -/
theorem validateProperties_rejected {es : Entries Value} {ds : Entries Validator}
    {mode : UnknownKeys} {t u : Tally} {f : StageRejection}
    (h : validateProperties es ds mode t = (.error (.rejected f), u)) :
    f.IsOwn ∨ ∃ t u, validateDeclared es ds t = (.error (.rejected f), u) := by
  unfold validateProperties at h
  split at h
  · rw [reject_rejected h]
    exact .inl (.failure (by decide) (List.forall_mem_singleton.mpr
      (by decide : PayloadError.isOwnKey (.text "unknown") = false)))
  · rcases bind_rejected h with h | ⟨_, _, -, h⟩
    · exact .inr ⟨t, u, h⟩
    · exact absurd h pure_rejected

/-! ### The steps of composite rules -/

section

variable {v : Value} {t u : Tally} {f : StageRejection}

theorem arrayStep_rejected {d : Validator}
    (h : arrayStep false d v t = (.error (.rejected f), u)) :
    f.IsOwn ∨
      ∃ xs t u, v.items? = some xs ∧ validateItems d 0 xs t = (.error (.rejected f), u) := by
  rw [arrayStep] at h
  cases hv : v.items? with
  | none => rw [hv] at h; exact .inl (failCheck_own (by decide) h)
  | some xs =>
    rw [hv] at h
    rcases bind_rejected h with h | ⟨_, _, -, h⟩
    · exact .inr ⟨xs, t, u, rfl, h⟩
    · exact absurd h pure_rejected

theorem objectStep_rejected {ds : Entries Validator} {mode : UnknownKeys}
    (h : objectStep ds mode v t = (.error (.rejected f), u)) :
    f.IsOwn ∨ ∃ es t u, v = .mapping es ∧ validateDeclared es ds t = (.error (.rejected f), u) := by
  cases v with
  | mapping es =>
    rcases bind_rejected h with h | ⟨_, _, -, h⟩
    · refine (validateProperties_rejected h).imp_right ?_
      rintro ⟨t, u, h⟩
      exact ⟨es, t, u, rfl, h⟩
    · exact absurd h pure_rejected
  | _ => exact .inl (failCheck_own (by decide) h)

/-- A union rejects values for themselves alone: its branches are not entered. -/
theorem unionStep_own (ds : List Validator) : Step.RejectsOwn (unionStep ds) := by
  intro v t u f h
  have hfirst : ∀ {ds : List Validator} {t u : Tally},
      firstAccepting v ds t ≠ (.error (.rejected f), u) := by
    intro ds
    induction ds with
    | nil => intro t u h; exact absurd h pure_rejected
    | cons d ds ih =>
      intro t u h
      rcases bind_rejected h with h | ⟨x, s, -, h⟩
      · exact absurd h attempt_rejected
      · cases x with
        | ok w => exact absurd h pure_rejected
        | error e =>
          rcases bind_rejected h with h | ⟨_, _, -, h⟩
          · exact ih h
          · exact absurd h pure_rejected
  rcases bind_rejected h with h | ⟨r, s, -, h⟩
  · exact absurd h hfirst
  · cases r with
    | ok w => exact absurd h pure_rejected
    | error texts =>
      rw [reject_rejected h]
      exact .failure (by decide) (List.forall_mem_singleton.mpr
        (by decide : PayloadError.isOwnKey (.text "branches") = false))

theorem tupleStep_rejected {ds : List Validator}
    (h : tupleStep ds v t = (.error (.rejected f), u)) :
    f.IsOwn ∨
      ∃ xs t u, v.items? = some xs ∧ validateSlots 0 ds xs t = (.error (.rejected f), u) := by
  rw [tupleStep] at h
  cases hv : v.items? with
  | none => rw [hv] at h; exact .inl (failCheck_own (by decide) h)
  | some xs =>
    rw [hv] at h
    dsimp only at h
    split at h
    · rcases bind_rejected h with h | ⟨_, _, -, h⟩
      · exact .inr ⟨xs, t, u, rfl, h⟩
      · exact absurd h pure_rejected
    · exact .inl (failCheck_own (by decide) h)

theorem recordStep_rejected {keys values : Validator}
    (h : recordStep keys values v t = (.error (.rejected f), u)) :
    f.IsOwn ∨ ∃ es t u, v = .mapping es ∧
      validateEntries keys values [] es t = (.error (.rejected f), u) := by
  cases v with
  | mapping es =>
    rcases bind_rejected h with h | ⟨_, _, -, h⟩
    · exact .inr ⟨es, t, u, rfl, h⟩
    · exact absurd h pure_rejected
  | _ => exact .inl (failCheck_own (by decide) h)

end

/-! ### Validators -/

section

variable {r : Rule} {ctx : Strictness} {d : Validator} {v : Value} {e : PayloadError}

theorem runStages_own {tag : Tag} : ∀ {stages : List Stage} {v : Value} {t u : Tally},
    (∀ s ∈ stages, Step.RejectsOwn s.run) →
      Validator.runStages tag stages v t = (.error (.rejected e), u) →
        ∃ kind f, StageRejection.IsOwn f ∧ e = Validator.located tag kind f := by
  intro stages
  induction stages with
  | nil => intro v t u _ h; exact absurd h pure_rejected
  | cons s stages ih =>
    intro v t u hstages h
    obtain ⟨hs, hstages⟩ := List.forall_mem_cons.mp hstages
    rcases bind_rejected h with h | ⟨w, t', -, h⟩
    · obtain ⟨f, hf, rfl⟩ := mapReason_rejected h
      exact ⟨s.kind, f, hs v t u f hf, rfl⟩
    · split at h
      · exact absurd h pure_rejected
      · exact ih hstages h

/-- **A rejection of a present value** is one of the value for itself, or one of the step of the
shape stage. -/
theorem ShapeOf.rejected {shape : Shape} {s : Stage} {rest : List Stage} (hs : ShapeOf r shape s)
    (hstages : d.stages = s :: rest) (hrest : ∀ s' ∈ rest, Step.RejectsOwn s'.run)
    (hv : v.isAbsent = false) (h : d.Rejects v e) :
    e.IsOf v ∨ ∃ t u f, shape.check v t = (.error (.rejected f), u) ∧
      e = Validator.located d.tag .shape f := by
  obtain ⟨t, u, h⟩ := h
  rw [Validator.validate, hstages] at h
  rcases bind_rejected h with h | ⟨w, t', -, h⟩
  · obtain ⟨f, hf, rfl⟩ := mapReason_rejected h
    rw [hs.run, runShape, Rule.present, hv] at hf
    rcases bind_rejected hf with hpresent | ⟨a, t', ha, hrun⟩
    · exact absurd hpresent pure_rejected
    · obtain ⟨rfl, -⟩ := pure_ok ha
      rw [hv, if_neg Bool.false_ne_true] at hrun
      split at hrun
      · split at hrun
        · exact absurd hrun pure_rejected
        · exact .inl (located_own (failCheck_own (by decide) hrun) hv)
      · rw [hs.kind]
        exact .inr ⟨t', u, f, hrun, rfl⟩
  · split at h
    · exact absurd h pure_rejected
    · obtain ⟨kind, f, hf, rfl⟩ := runStages_own hrest h
      exact .inl (located_own hf hv)

/-- The same where the step rejects values for themselves alone. -/
theorem ShapeOf.rejected_own {shape : Shape} {s : Stage} {rest : List Stage}
    (hs : ShapeOf r shape s) (hcheck : shape.check.RejectsOwn) (hstages : d.stages = s :: rest)
    (hrest : ∀ s' ∈ rest, Step.RejectsOwn s'.run) (hv : v.isAbsent = false) (h : d.Rejects v e) :
    e.IsOf v := by
  rcases hs.rejected hstages hrest hv h with h | ⟨t, u, f, hf, rfl⟩
  · exact h
  · exact located_own (hcheck v t u f hf) hv

namespace Rule.CompilesTo

/-- **A rule without rules inside** rejects present values for themselves. -/
theorem simple_rejected (h : r.CompilesTo ctx d) (hcomposite : r.tag.isComposite = false)
    (hv : v.isAbsent = false) (he : d.Rejects v e) : e.IsOf v := by
  by_cases hforbidden : r.tag = .forbidden
  · obtain ⟨c, remove, rfl⟩ := Rule.eq_forbidden hforbidden
    obtain ⟨path, t, u, stages, hstages, hd⟩ := h.simple hcomposite
    obtain ⟨t, u, he⟩ := he
    rw [Validator.validate, hd.stages] at he
    obtain ⟨kind, f, hf, rfl⟩ := runStages_own (forbiddenStages_own hstages) he
    exact located_own hf hv
  · obtain ⟨plan, s, rest, hplan, hd, hmade⟩ := h.planned hcomposite hforbidden
    exact hmade.shape.rejected_own (scalarStep_own r) hd.stages (hmade.own hplan) hv he

/-- **An absent value** without a default is rejected for itself, as one that is required. -/
theorem absent_rejects (h : r.CompilesTo ctx d) (hdefault : r.common.default? = none)
    (he : d.Rejects .absent e) : e.IsOf .absent := by
  by_cases hforbidden : r.tag = .forbidden
  · obtain ⟨c, remove, rfl⟩ := Rule.eq_forbidden hforbidden
    obtain ⟨t, u, he⟩ := he
    rw [h.forbidden_absent] at he
    exact absurd he pure_rejected
  obtain ⟨t, u, he⟩ := he
  rw [h.absent_eq hforbidden hdefault] at he
  split at he
  · exact absurd he pure_rejected
  · rw [reject_rejected he]
    exact ⟨rfl, by simp [Validator.located, Value.isAbsent], List.forall_mem_singleton.mpr
      (by decide : PayloadError.isOwnKey (.text "rule_type") = false)⟩

end Rule.CompilesTo

end

end RuleSchema
