import RuleSchema.Proofs.Projection.Stages
import RuleSchema.Proofs.Validator.Declared
import RuleSchema.Proofs.Value.Entries

/-!
# Validation as a projection

What validation has given is valid, and validated again it is given back.  Composite values are
put together from validated parts, and validating them takes the same parts apart again: the items
that are left of an array, the slots of a tuple, the entries of a record under their validated
keys, and the properties of an object, where a property that came out absent is absent the second
time and unknown keys are kept, dropped or missing as before.

* `validateItems_again`, `validateSlots_again`, `validateEntries_again` and
  `validateProperties_again`: a second run of each loop over parts.
* `validation_projects`: **validated values validate to themselves**.
-/

namespace RuleSchema

open Eval

/-! ### Items and slots -/

/-- Items that their validator gives back. -/
theorem validateItems_again {d : Validator} : ∀ {ys : List Value} {i : Nat},
    (∀ y ∈ ys, y.isAbsent = false ∧ d.Fixes y) → ∀ t, validateItems d i ys t = (.ok ys, t) := by
  intro ys
  induction ys with
  | nil => intro i _ t; rfl
  | cons y ys ih =>
    intro i h t
    obtain ⟨⟨hpresent, hy⟩, hys⟩ := List.forall_mem_cons.mp h
    have hitem : part (indexKey i) (d.validate y) t = (.ok y, t) := mapReason_of_ok (hy t)
    rw [validateItems, bind_of_ok hitem, bind_of_ok (ih hys t), hpresent, if_neg Bool.false_ne_true]
    rfl

theorem arrayStep_projects {d : Validator} (convert : Bool) (hd : d.Projects) :
    Step.Projects (arrayStep convert d) := by
  refine ⟨fun {v w t u} h t' => ?_, fun {v w t u} h _ _ => ?_⟩
  · obtain ⟨xs, ys, s, s', rfl, hys, -⟩ := arrayStep_ok h
    have hitems : ∀ y ∈ ys, y.isAbsent = false ∧ d.Fixes y := by
      intro y hy
      obtain ⟨hpresent, x, -, hx⟩ := validateItems_ok hys y hy
      exact ⟨hpresent, hd x y hx⟩
    rw [arrayStep]
    dsimp only [Value.items?]
    rw [bind_of_ok (validateItems_again hitems t')]
    rfl
  · obtain ⟨_, _, _, _, rfl, -, -⟩ := arrayStep_ok h
    exact ⟨rfl, rfl⟩

/-- Items that the validators of their slots give back. -/
theorem validateSlots_again {ds : List Validator} {ys : List Value}
    (h : List.Forall₂ Validator.Fixes ds ys) (t : Tally) :
    ∀ i, validateSlots i ds ys t = (.ok ys, t) := by
  induction h with
  | nil => intro i; rfl
  | @cons d y ds ys hy _ ih =>
    intro i
    have hitem : part (indexKey i) (d.validate y) t = (.ok y, t) := mapReason_of_ok (hy t)
    rw [validateSlots, bind_of_ok hitem, bind_of_ok (ih (i + 1))]
    rfl

theorem fixes_of_slots : ∀ {ds : List Validator} {xs ys : List Value}, xs.length = ds.length →
    (∀ d ∈ ds, d.Projects) → List.Forall₂ (fun e y => e.1.Gives e.2 y) (ds.zip xs) ys →
      List.Forall₂ Validator.Fixes ds ys := by
  intro ds
  induction ds with
  | nil =>
    intro xs ys _ _ h
    cases h
    exact .nil
  | cons d ds ih =>
    intro xs ys hlength hds h
    cases xs with
    | nil => cases hlength
    | cons x xs =>
      obtain ⟨hd, hds⟩ := List.forall_mem_cons.mp hds
      cases h with
      | cons hy hys => exact .cons (hd _ _ hy) (ih (Nat.succ.inj hlength) hds hys)

theorem tupleStep_projects {ds : List Validator} (hds : ∀ d ∈ ds, d.Projects) :
    Step.Projects (tupleStep ds) := by
  refine ⟨fun {v w t u} h t' => ?_, fun {v w t u} h _ _ => ?_⟩
  · obtain ⟨xs, ys, -, rfl, hys, hlength⟩ := tupleStep_ok h
    have hfixes := fixes_of_slots hlength hds hys
    rw [tupleStep]
    dsimp only [Value.items?]
    rw [if_pos hfixes.length_eq.symm, bind_of_ok (validateSlots_again hfixes t' 0)]
    rfl
  · obtain ⟨_, _, -, rfl, -, -⟩ := tupleStep_ok h
    exact ⟨rfl, rfl⟩

/-! ### Records -/

/-- Entries that a record may hold: their keys are given back, can be keys and are all different,
and so are their contents, which are present. -/
structure Entries.Recorded (keys values : Validator) (es : Entries Value) : Prop where
  keyed : ∀ e ∈ es, keys.Fixes e.1 ∧ e.1.unkeyable? = none
  filled : ∀ e ∈ es, values.Fixes e.2 ∧ e.2.isAbsent = false
  apart : es.Pairwise fun a b => b.1.equals a.1 = false

theorem Entries.Recorded.put {keys values : Validator} {es : Entries Value} {k x : Value}
    (h : es.Recorded keys values) (hk : keys.Fixes k) (hkey : k.unkeyable? = none)
    (hx : values.Fixes x) (hpresent : x.isAbsent = false) :
    Entries.Recorded keys values (es.put k x) := by
  refine ⟨fun e he => ?_, fun e he => ?_, ?_⟩
  · rcases (mem_put he).1 with heq | hmem
    · rw [heq]
      exact ⟨hk, hkey⟩
    · obtain ⟨f, hf, heq⟩ := List.mem_map.mp hmem
      rw [← heq]
      exact h.keyed f hf
  · rcases (mem_put he).2 with heq | hmem
    · rw [heq]
      exact ⟨hx, hpresent⟩
    · obtain ⟨f, hf, heq⟩ := List.mem_map.mp hmem
      rw [← heq]
      exact h.filled f hf
  · have hpairs : ∀ {fs : Entries Value}, fs.keys.Pairwise (fun a b => b.equals a = false) ↔
        fs.Pairwise fun a b => b.1.equals a.1 = false := List.pairwise_map
    rw [← hpairs]
    rcases keys_put es k x with hkeys | ⟨hnew, hkeys⟩
    · rw [hkeys]
      exact hpairs.mpr h.apart
    · rw [hkeys, List.pairwise_append]
      refine ⟨hpairs.mpr h.apart, List.pairwise_singleton _ _, fun a ha b hb => ?_⟩
      obtain ⟨e, he, rfl⟩ := List.mem_map.mp ha
      rw [List.mem_singleton.mp hb]
      exact hnew e he

/-- The entries of a validated record, put to others. -/
theorem validateEntries_recorded {keys values : Validator} (hkeys : keys.Projects)
    (hvalues : values.Projects) : ∀ {es done out : Entries Value} {t u : Tally},
      done.Recorded keys values → validateEntries keys values done es t = (.ok out, u) →
        out.Recorded keys values := by
  intro es
  induction es with
  | nil =>
    intro done out t u hdone h
    rw [(pure_ok h).1]
    exact hdone
  | cons e es ih =>
    obtain ⟨k, x⟩ := e
    intro done out t u hdone h
    obtain ⟨key, s, hkey, h⟩ := bind_ok h
    obtain ⟨value, s', hvalue, h⟩ := bind_ok h
    by_cases hpresent : value.isAbsent = true
    · rw [if_pos hpresent] at h
      exact ih hdone h
    · rw [if_neg hpresent] at h
      obtain ⟨done', _, hput, h⟩ := bind_ok h
      have hput := (ofFault_ok hput).1
      rw [putEntry] at hput
      cases hunkeyable : key.unkeyable? with
      | some kind => rw [hunkeyable] at hput; cases hput
      | none =>
        rw [hunkeyable] at hput
        cases hput
        refine ih (hdone.put (hkeys _ _ ⟨t, s, part_ok hkey⟩) hunkeyable
          (hvalues _ _ ⟨s, s', part_ok hvalue⟩) (by simpa using hpresent)) h

/-- Entries of a validated record are added as they are to others with different keys. -/
theorem validateEntries_again {keys values : Validator} : ∀ {es done : Entries Value},
    es.Recorded keys values → (∀ a ∈ done, ∀ b ∈ es, b.1.equals a.1 = false) →
      ∀ t, validateEntries keys values done es t = (.ok (done ++ es), t) := by
  intro es
  induction es with
  | nil =>
    intro done _ _ t
    rw [List.append_nil]
    rfl
  | cons e es ih =>
    obtain ⟨k, x⟩ := e
    intro done h hapart t
    obtain ⟨⟨hk, hkey⟩, hkeys⟩ := List.forall_mem_cons.mp h.keyed
    obtain ⟨⟨hx, hpresent⟩, hvalues⟩ := List.forall_mem_cons.mp h.filled
    obtain ⟨hnew, hpairs⟩ := List.pairwise_cons.mp h.apart
    have hput : putEntry done k x = .ok (done ++ [(k, x)]) := by
      rw [putEntry, hkey]
      exact congrArg Except.ok (put_new fun a ha => hapart a ha _ List.mem_cons_self)
    have hkpart : part k (keys.validate k) t = (.ok k, t) := mapReason_of_ok (hk t)
    have hxpart : part k (values.validate x) t = (.ok x, t) := mapReason_of_ok (hx t)
    rw [validateEntries, bind_of_ok hkpart, bind_of_ok hxpart, hpresent,
      if_neg Bool.false_ne_true, hput, ofFault_ok_eq, pure_bind,
      ih ⟨hkeys, hvalues, hpairs⟩, List.append_assoc]
    · rfl
    · intro a ha b hb
      rcases List.mem_append.mp ha with ha | ha
      · exact hapart a ha b (List.mem_cons_of_mem _ hb)
      · rw [List.mem_singleton.mp ha]
        exact hnew b hb

theorem recordStep_projects {keys values : Validator} (hkeys : keys.Projects)
    (hvalues : values.Projects) : Step.Projects (recordStep keys values) := by
  refine ⟨fun {v w t u} h t' => ?_, fun {v w t u} h _ _ => ?_⟩
  · obtain ⟨es, out, s, s', -, rfl, hout⟩ := recordStep_ok h
    have hnone : Entries.Recorded keys values [] :=
      ⟨fun e he => absurd he List.not_mem_nil, fun e he => absurd he List.not_mem_nil, .nil⟩
    have hrecorded := validateEntries_recorded hkeys hvalues hnone hout
    have hagain : validateEntries keys values [] out t' = (.ok ([] ++ out), t') :=
      validateEntries_again hrecorded (fun a ha => absurd ha List.not_mem_nil) t'
    rw [recordStep, bind_of_ok hagain]
    rfl
  · obtain ⟨_, _, _, _, -, rfl, -⟩ := recordStep_ok h
    exact ⟨rfl, rfl⟩

/-! ### Objects -/

section

variable {es out : Entries Value} {ds : Entries Validator} {mode : UnknownKeys} {t u : Tally}

/-- **Declared properties the second time**: it is enough that under each name stands what the first
time has given. -/
theorem validateDeclared_again : ∀ {ds : Entries Validator} {out es' : Entries Value} {t u : Tally},
    Distinct ds → (∀ e ∈ ds, e.2.Projects) → validateDeclared es ds t = (.ok out, u) →
      (∀ e ∈ ds, (es'.find? e.1).getD .absent = (out.find? e.1).getD .absent) →
        ∀ t', validateDeclared es' ds t' = (.ok out, t') := by
  intro ds
  induction ds with
  | nil =>
    intro out es' t u _ _ h _ t'
    rw [(pure_ok h).1]
    rfl
  | cons e ds ih =>
    obtain ⟨name, d⟩ := e
    intro out es' t u hdistinct hds h hfind t'
    obtain ⟨hd, hds⟩ := List.forall_mem_cons.mp hds
    obtain ⟨v, others, s, s', hv, hothers, hout, hself, hother⟩ :=
      validateDeclared_cons_ok hdistinct h
    have hagain : d.validate ((es'.find? name).getD .absent) t' = (.ok v, t') := by
      rw [hfind _ List.mem_cons_self, hself, getD_present]
      exact hd _ _ ⟨t, s, hv⟩ t'
    have hothers' : validateDeclared es' ds t' = (.ok others, t') := by
      refine ih hdistinct.tail hds hothers (fun e he => ?_) t'
      rw [hfind e (List.mem_cons_of_mem _ he), hother e he]
    rw [validateDeclared, bind_of_ok (mapReason_of_ok hagain), bind_of_ok hothers', hout]
    rfl

/-- **The properties of a validated mapping** are given back under each policy for unknown keys. -/
theorem validateProperties_again (hdistinct : Distinct ds) (hds : ∀ e ∈ ds, e.2.Projects)
    (h : validateProperties es ds mode t = (.ok out, u)) (t' : Tally) :
    validateProperties out ds mode t' = (.ok out, t') := by
  obtain ⟨hmode, declared, hdeclared, hout⟩ := validateProperties_split h
  have hknown : unknownEntries ds declared = [] := by
    refine List.filter_eq_nil_iff.mpr fun e he => ?_
    obtain ⟨-, d, hd, -⟩ := validateDeclared_ok hdeclared e he
    rw [hdistinct.hasKey hd]
    exact Bool.false_ne_true
  by_cases hpassthrough : mode = .passthrough
  · rw [if_pos hpassthrough] at hout
    have hunknown : unknownEntries ds out = unknownEntries ds es := by
      rw [hout, unknownEntries, List.filter_append]
      change unknownEntries ds declared ++ List.filter _ (List.filter _ es) = _
      rw [hknown, List.filter_filter, List.nil_append]
      simp only [Bool.and_self]
      rfl
    have hagain : validateDeclared out ds t' = (.ok declared, t') := by
      refine validateDeclared_again hdistinct hds hdeclared (fun e he => ?_) t'
      rw [hout, find?_append, find?_unknown hdistinct he, Option.or_none]
    rw [validateProperties_eq (by rw [hpassthrough]; exact Bool.false_ne_true),
      bind_of_ok hagain, if_pos hpassthrough, hunknown, ← hout]
    rfl
  · rw [if_neg hpassthrough] at hout
    have hagain : validateDeclared declared ds t' = (.ok declared, t') :=
      validateDeclared_again hdistinct hds hdeclared
        (fun _ _ => rfl) t'
    rw [hout, validateProperties_eq (by rw [hknown]; simp), bind_of_ok hagain,
      if_neg hpassthrough]
    rfl

theorem objectStep_projects (hdistinct : Distinct ds) (hds : ∀ e ∈ ds, e.2.Projects) :
    Step.Projects (objectStep ds mode) := by
  refine ⟨fun {v w t u} h t' => ?_, fun {v w t u} h _ _ => ?_⟩
  · obtain ⟨es, out, s, s', -, rfl, hout⟩ := objectStep_ok h
    rw [objectStep, bind_of_ok (validateProperties_again hdistinct hds hout t')]
    rfl
  · obtain ⟨_, _, _, _, -, rfl, -⟩ := objectStep_ok h
    exact ⟨rfl, rfl⟩

end

/-! ### Rules -/

/-- The validators of a rule give back what they have given, if all rules inside are stable. -/
def Rule.Projects (r : Rule) : Prop :=
  (∀ q ∈ r.nodes, q.isStable = true ∧ q.NamesApart) → ∀ ctx d, r.CompilesTo ctx d → d.Projects

theorem Rule.projects (r : Rule) : r.Projects := by
  refine Rule.induct ⟨?simple, ?array, ?object, ?multi, ?tuple, ?record⟩ r
  case simple =>
    intro r hcomposite hstable ctx d h
    by_cases hforbidden : r.tag = .forbidden
    · obtain ⟨c, remove, rfl⟩ := Rule.eq_forbidden hforbidden
      exact forbidden_projects h
    · exact h.simple_projects hcomposite hforbidden (hstable r r.self_mem_nodes).1
  case array =>
    intro c items o ih hstable ctx d h
    obtain ⟨di, _, shape, sizes, contents, checks, hdi, -, hs, hsizes, -, hcontents, hd⟩ := h.array
    have hitems := ih (fun q hq => hstable q (Rule.mem_nodes_array hq)) ctx di hdi
    exact hs.projects (arrayStep_projects _ hitems) hd.stages
      (List.forall_mem_append.mpr ⟨hsizes.all_checks, hcontents.all_checks⟩)
  case object =>
    intro c props o ih hstable ctx d h
    obtain ⟨ds, _, shape, sizes, hds, -, hs, hsizes, hd⟩ := h.object
    have hkeyed := keyed_of_props (R := fun q e => q.CompilesTo (ctx.override o.strict?) e) hds
      (hstable _ (Rule.self_mem_nodes _)).2
    refine hs.projects (objectStep_projects hkeyed.distinct ?_) hd.stages hsizes.all_checks
    intro e he
    obtain ⟨f, hf, rfl⟩ := List.mem_map.mp he
    obtain ⟨p, hp, -, hcompiles⟩ := exists_of_mem_right hds hf
    exact ih p hp (fun q hq => hstable q (Rule.mem_nodes_object hp hq)) _ _ hcompiles
  case multi =>
    intro c branches _ hstable
    cases (hstable _ (Rule.self_mem_nodes _)).1
  case tuple =>
    intro c slots ih hstable ctx d h
    obtain ⟨ds, _, shape, hds, -, hs, hd⟩ := h.tuple
    refine hs.projects (tupleStep_projects fun d' hd' => ?_) hd.stages no_stages
    obtain ⟨q, hq, hcompiles⟩ := exists_of_mem_right hds hd'
    exact ih q hq (fun p hp => hstable p (Rule.mem_nodes_tuple hq hp)) ctx d' hcompiles
  case record =>
    intro c key value ihkey ihvalue hstable ctx d h
    obtain ⟨keys, values, _, _, shape, hkeys, hvalues, -, -, hs, hd⟩ := h.record
    have hkey := ihkey (fun q hq => hstable q (Rule.mem_nodes_key hq)) ctx keys hkeys
    have hvalue := ihvalue (fun q hq => hstable q (Rule.mem_nodes_value hq)) ctx values hvalues
    exact hs.projects (recordStep_projects hkey hvalue) hd.stages no_stages

end RuleSchema
