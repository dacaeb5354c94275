import RuleSchema.Proofs.Absence.Fullness
import RuleSchema.Proofs.Rule.Induction
import RuleSchema.Proofs.Signature.Compiled

/-!
# Where the absent value escapes

A rule may turn a value into the absent one: a rule that forbids values does, and so does
a union that has such a branch.  Arrays, objects and the contents of a record leave such
values out.  The slots of a tuple and the keys of a record do not, and there the absent
value ends up inside the result.

* `Rule.Vanishes`: some full value comes out of a rule as absent.
* `Rule.Leaks`: the places of a result where the absent value may stand.  They are the
  slots and the keys whose rules vanish, and the results of rules whose default has it.
* `escapes_iff`: a present result is not full just when it leaks.
* `Rule.isSealed` is a condition on the rule alone that rules leaks out.
* `absent_escapes_exactly` says all this of the rules of an operation.
-/

namespace RuleSchema

open Eval

/-! ### Rules that make values absent -/

/-- Some full value comes out of a rule as absent. -/
def Rule.Vanishes (r : Rule) (ctx : Strictness) : Prop :=
  ∃ d v, r.CompilesTo ctx d ∧ v.isFull = true ∧ d.Gives v .absent

mutual

/-- Whether a rule forbids values, or is a union with a branch that does. -/
def Rule.mayVanish : Rule → Bool
  | .forbidden .. => true
  | .multi _ branches => Rule.someVanish branches
  | _ => false
termination_by structural r => r

/-- Whether one of some rules forbids values, or is a union with a branch that does. -/
def Rule.someVanish : List Rule → Bool
  | [] => false
  | r :: rules => Rule.mayVanish r || Rule.someVanish rules
termination_by structural rules => rules

end

theorem Rule.someVanish_of_mem {rules : List Rule} {r : Rule} (hr : r ∈ rules)
    (h : r.mayVanish = true) : Rule.someVanish rules = true := by
  induction rules with
  | nil => exact absurd hr List.not_mem_nil
  | cons q rules ih =>
    rw [Rule.someVanish, Bool.or_eq_true]
    rcases List.mem_cons.mp hr with rfl | hr
    · exact .inl h
    · exact .inr (ih hr)

/-- A rule without rules inside gives something full for a full value, unless it forbids
values. -/
theorem full_of_simple {r : Rule} {ctx : Strictness} {d : Validator} {v w : Value}
    (hcomposite : r.tag.isComposite = false) (hforbidden : r.tag ≠ .forbidden)
    (hd : r.CompilesTo ctx d) (hv : v.isFull = true) (h : d.Gives v w) : w.isFull = true := by
  refine hd.simple_keeps hcomposite hforbidden .full ?_ hv h
  intro v a t u hv ha
  rw [present_ok (Value.isAbsent_of_isFull hv) ha]
  exact hv

/-- What a shape stage that only checks follow makes of a full value: null, or what the check of
the type makes of it. -/
theorem shape_of_full {r : Rule} {shape : Shape} {s : Stage} {rest : List Stage} {d : Validator}
    {v w : Value} (hs : ShapeOf r shape s) (hstages : d.stages = s :: rest)
    (hrest : ∀ s ∈ rest, ∃ cs, s.run = Stage.runChecks cs) (hv : v.isFull = true)
    (h : d.Gives v w) : w = .null ∨ ∃ t u, shape.check v t = (.ok w, u) := by
  obtain ⟨t, u, h⟩ := validate_shape hstages hrest h
  rw [hs.run] at h
  rcases runShape_present (Value.isAbsent_of_isFull hv) h with rfl | ⟨s, h⟩
  · exact .inl rfl
  · exact .inr ⟨s, u, h⟩

/-- **Only rules that forbid values, and unions with such a branch, vanish.** -/
theorem Rule.mayVanish_of_vanishes (r : Rule) :
    ∀ ctx, r.Vanishes ctx → r.mayVanish = true := by
  refine Rule.induct (P := fun r => ∀ ctx, r.Vanishes ctx → r.mayVanish = true)
    { simple := ?simple, array := ?array, object := ?object, multi := ?multi, tuple := ?tuple
      record := ?record } r
  case simple =>
    intro r hcomposite ctx ⟨d, v, hd, hv, h⟩
    by_cases hforbidden : r.tag = .forbidden
    · cases r <;> first | rfl | cases hforbidden
    · cases full_of_simple hcomposite hforbidden hd hv h
  case array =>
    intro c items o _ ctx ⟨d, v, hd, hv, h⟩
    obtain ⟨_, _, s, sizes, contents, _, _, _, hs, hsizes, _, hcontents, hmade⟩ := hd.array
    rcases shape_of_full hs hmade.stages (List.forall_mem_append.mpr
      ⟨hsizes.all_checks, hcontents.all_checks⟩) hv h with h | ⟨_, _, h⟩
    · cases h
    · obtain ⟨_, _, _, _, h, _⟩ := arrayStep_ok h
      cases h
  case object =>
    intro c props o _ ctx ⟨d, v, hd, hv, h⟩
    obtain ⟨_, _, s, sizes, _, _, hs, hsizes, hmade⟩ := hd.object
    rcases shape_of_full hs hmade.stages hsizes.all_checks hv h with h | ⟨_, _, h⟩
    · cases h
    · obtain ⟨_, _, _, _, _, h, _⟩ := objectStep_ok h
      cases h
  case multi =>
    intro c branches ih ctx ⟨d, v, hd, hv, h⟩
    obtain ⟨ds, _, s, hds, _, hs, hmade⟩ := hd.multi
    rcases shape_of_full hs hmade.stages no_stages hv h with h | ⟨_, _, h⟩
    · cases h
    · obtain ⟨d', hd', h⟩ := unionStep_ok h
      obtain ⟨q, hq, hcompiles⟩ := exists_of_mem_right hds hd'
      exact Rule.someVanish_of_mem hq (ih q hq ctx ⟨d', v, hcompiles, hv, h⟩)
  case tuple =>
    intro c slots _ ctx ⟨d, v, hd, hv, h⟩
    obtain ⟨_, _, s, _, _, hs, hmade⟩ := hd.tuple
    rcases shape_of_full hs hmade.stages no_stages hv h with h | ⟨_, _, h⟩
    · cases h
    · obtain ⟨_, _, _, h, _⟩ := tupleStep_ok h
      cases h
  case record =>
    intro c key value _ _ ctx ⟨d, v, hd, hv, h⟩
    obtain ⟨_, _, _, _, s, _, _, _, _, hs, hmade⟩ := hd.record
    rcases shape_of_full hs hmade.stages no_stages hv h with h | ⟨_, _, h⟩
    · cases h
    · obtain ⟨_, _, _, _, _, h, _⟩ := recordStep_ok h
      cases h

/-- A rule that forbids values always compiles, and gives nothing for null. -/
theorem forbidden_vanishes (c : CommonOptions) (remove : Bool) (ctx : Strictness) :
    (Rule.forbidden c remove).Vanishes ctx := by
  obtain ⟨stages, hstages, hcompose, hnull, habsent⟩ : ∃ stages,
      forbiddenStages remove [] = (.ok stages, []) ∧
      Validator.compose stages .forbidden c.description? false
        = .ok { tag := .forbidden, stages, description? := c.description?, required := false } ∧
      Validator.runStages .forbidden stages .null [] = (.ok .absent, []) ∧
      Validator.runStages .forbidden stages .absent [] = (.ok .absent, []) := by
    cases remove <;> exact ⟨_, rfl, rfl, rfl, rfl⟩
  let d : Validator :=
    { tag := .forbidden, stages, description? := c.description?, required := false }
  have hdefault : checkWholeDefault (.forbidden c remove) d "" [] = (.ok (), []) := by
    rw [checkWholeDefault]
    cases (Rule.forbidden c remove).standIn with
    | fixed v =>
      dsimp only
      rw [bind_of_ok (mapReason_of_ok (x := d.validate .absent) habsent)]
      rfl
    | none => rfl
    | generated source => rfl
  have hfinish : finishValidator (.forbidden c remove) "" stages [] = (.ok d, []) := by
    change (Eval.ofExcept (Validator.compose stages .forbidden c.description? false) >>= _) [] = _
    rw [hcompose]
    change (checkWholeDefault (.forbidden c remove) d "" >>= _) [] = _
    rw [bind_of_ok hdefault]
    rfl
  refine ⟨d, .null, ⟨"", [], [], ?_⟩, rfl, [], [], hnull⟩
  change (forbiddenStages remove >>= finishValidator (.forbidden c remove) "") [] = _
  rw [bind_of_ok hstages]
  exact hfinish

/-! ### Leaks -/

/-- The places of a result of a rule where the absent value stands. -/
inductive Rule.Leaks : Rule → Strictness → Value → Prop
  /-- The default of the rule has it. -/
  | default {r : Rule} {ctx : Strictness} {w : Value} :
      r.hasFullDefault = false → w.isFull = false → Leaks r ctx w
  | item {c : CommonOptions} {items : Rule} {o : ArrayOptions} {ctx : Strictness}
      {ys : List Value} {y : Value} : y ∈ ys → Leaks items ctx y →
      Leaks (.array c items o) ctx (.list ys)
  | property {c : CommonOptions} {props : List (String × Rule)} {o : ObjectOptions}
      {ctx : Strictness} {es : Entries Value} {name : String} {r : Rule} {x : Value} :
      (name, r) ∈ props → (.text name, x) ∈ es → Leaks r (ctx.override o.strict?) x →
      Leaks (.object c props o) ctx (.mapping es)
  | branch {c : CommonOptions} {branches : List Rule} {ctx : Strictness} {r : Rule} {w : Value} :
      r ∈ branches → Leaks r ctx w → Leaks (.multi c branches) ctx w
  /-- The rule of a slot vanishes. -/
  | slot {c : CommonOptions} {slots : List Rule} {ctx : Strictness} {ys : List Value} {r : Rule} :
      (r, .absent) ∈ slots.zip ys → r.Vanishes ctx → Leaks (.tuple c slots) ctx (.list ys)
  | insideSlot {c : CommonOptions} {slots : List Rule} {ctx : Strictness} {ys : List Value}
      {r : Rule} {y : Value} : (r, y) ∈ slots.zip ys → Leaks r ctx y →
      Leaks (.tuple c slots) ctx (.list ys)
  /-- The rule of the keys vanishes. -/
  | key {c : CommonOptions} {key value : Rule} {ctx : Strictness} {es : Entries Value}
      {x : Value} : (.absent, x) ∈ es → key.Vanishes ctx →
      Leaks (.record c key value) ctx (.mapping es)
  | insideKey {c : CommonOptions} {key value : Rule} {ctx : Strictness} {es : Entries Value}
      {k x : Value} : (k, x) ∈ es → Leaks key ctx k →
      Leaks (.record c key value) ctx (.mapping es)
  | content {c : CommonOptions} {key value : Rule} {ctx : Strictness} {es : Entries Value}
      {k x : Value} : (k, x) ∈ es → Leaks value ctx x →
      Leaks (.record c key value) ctx (.mapping es)

theorem Value.not_full_list {xs : List Value} {x : Value} (hx : x ∈ xs) (h : x.isFull = false) :
    (Value.list xs).isFull = false := by
  rw [Bool.eq_false_iff]
  intro hfull
  rw [isFull_list.mp hfull x hx] at h
  cases h

theorem Value.not_full_mapping {es : Entries Value} {e : Value × Value} (he : e ∈ es)
    (h : e.1.isFull = false ∨ e.2.isFull = false) : (Value.mapping es).isFull = false := by
  rw [Bool.eq_false_iff]
  intro hfull
  obtain ⟨hk, hx⟩ := isFull_mapping.mp hfull e he
  rcases h with h | h
  · rw [hk] at h; cases h
  · rw [hx] at h; cases h

/-- A result that leaks is not full. -/
theorem Rule.Leaks.not_full {r : Rule} {ctx : Strictness} {w : Value} (h : r.Leaks ctx w) :
    w.isFull = false := by
  induction h with
  | default _ hw => exact hw
  | item hy _ ih => exact Value.not_full_list hy ih
  | property _ he _ ih => exact Value.not_full_mapping he (.inr ih)
  | branch _ _ ih => exact ih
  | slot he _ => exact Value.not_full_list (List.of_mem_zip he).2 rfl
  | insideSlot he _ ih => exact Value.not_full_list (List.of_mem_zip he).2 ih
  | key he _ => exact Value.not_full_mapping he (.inl rfl)
  | insideKey he _ ih => exact Value.not_full_mapping he (.inl ih)
  | content he _ ih => exact Value.not_full_mapping he (.inr ih)

/-- The validator of a rule gives full values and absent ones, or leaks. -/
def Rule.Contained (r : Rule) : Prop :=
  ∀ ctx d v w, r.CompilesTo ctx d → v.isFullOrAbsent = true → d.Gives v w →
    w.isFullOrAbsent = true ∨ r.Leaks ctx w

theorem Rule.Contained.full_or_leaks {r : Rule} (hr : r.Contained) {ctx : Strictness}
    {d : Validator} {v w : Value} (hd : r.CompilesTo ctx d) (hv : v.isFullOrAbsent = true)
    (h : d.Gives v w) (hw : w.isAbsent = false) : w.isFull = true ∨ r.Leaks ctx w :=
  (hr ctx d v w hd hv h).imp_left fun h => Value.isFull_of_present h hw

/-- What a shape stage that only checks follow gives: something full or absent, something that
leaks through the default, or what the check of the type makes of a full value. -/
theorem shape_contained {r : Rule} {ctx : Strictness} {shape : Shape} {s : Stage}
    {rest : List Stage} {d : Validator} {v w : Value} (hs : ShapeOf r shape s)
    (hstages : d.stages = s :: rest) (hrest : ∀ s ∈ rest, ∃ cs, s.run = Stage.runChecks cs)
    (hv : v.isFullOrAbsent = true) (h : d.Gives v w)
    (hcheck : ∀ a t u, a.isFull = true → shape.check a t = (.ok w, u) →
      w.isFull = true ∨ r.Leaks ctx w) : w.isFullOrAbsent = true ∨ r.Leaks ctx w := by
  cases hr : r.hasFullDefault with
  | false =>
    cases hw : w.isFull with
    | false => exact .inr (.default hr hw)
    | true => exact .inl (Value.isFullOrAbsent_of_isFull hw)
  | true =>
    obtain ⟨t, u, h⟩ := validate_shape hstages hrest h
    rw [hs.run] at h
    obtain ⟨a, s', ha, h⟩ := runShape_ok h
    have ha := present_full hr hv ha
    rcases h with ⟨rfl, -⟩ | ⟨hpresent, -, h⟩
    · exact .inl ha
    · exact (hcheck a s' u (Value.isFull_of_present ha hpresent) h).imp_left
        Value.isFullOrAbsent_of_isFull

/-- Some values are full, or one of them leaks. -/
theorem list_contained {ys : List Value} {L : Value → Prop}
    (h : ∀ y ∈ ys, y.isFull = true ∨ L y) :
    (Value.list ys).isFull = true ∨ ∃ y ∈ ys, L y := by
  by_cases hl : ∃ y ∈ ys, L y
  · exact .inr hl
  · refine .inl (Value.isFull_list.mpr fun y hy => ?_)
    rcases h y hy with h | h
    · exact h
    · exact absurd ⟨y, hy, h⟩ hl

/-- Some entries are full, or one of them leaks. -/
theorem mapping_contained {es : Entries Value} {L : Value × Value → Prop}
    (h : ∀ e ∈ es, e.1.isFull = true ∧ e.2.isFull = true ∨ L e) :
    (Value.mapping es).isFull = true ∨ ∃ e ∈ es, L e := by
  by_cases hl : ∃ e ∈ es, L e
  · exact .inr hl
  · refine .inl (Value.isFull_mapping.mpr fun e he => ?_)
    rcases h e he with h | h
    · exact h
    · exact absurd ⟨e, he, h⟩ hl

theorem find?_full {es : Entries Value} {k : Value}
    (h : ∀ e ∈ es, e.1.isFull = true ∧ e.2.isFull = true) :
    ((es.find? k).getD .absent).isFullOrAbsent = true := by
  rw [Entries.find?]
  cases hf : List.find? (fun e => k.equals e.1) es with
  | none => rfl
  | some e => exact Value.isFullOrAbsent_of_isFull (h e (List.mem_of_find?_eq_some hf)).2

/-- Each item of a tuple is what the validator of its slot has made of some item. -/
theorem slots_give {slots : List Rule} {ctx : Strictness} : ∀ {ds : List Validator}
    {xs ys : List Value}, List.Forall₂ (fun r d => r.CompilesTo ctx d) slots ds →
      List.Forall₂ (fun e y => e.1.Gives e.2 y) (ds.zip xs) ys → xs.length = ds.length →
      List.Forall₂ (fun r y => ∃ d, ∃ x ∈ xs, r.CompilesTo ctx d ∧ d.Gives x y) slots ys := by
  induction slots with
  | nil =>
    intro ds xs ys hds hys _
    cases hds
    cases hys
    exact .nil
  | cons r slots ih =>
    intro ds xs ys hds hys hlen
    cases hds with
    | @cons _ d _ ds hd hds =>
      cases xs with
      | nil => cases hlen
      | cons x xs =>
        cases hys with
        | cons hy hys =>
          refine .cons ⟨d, x, List.mem_cons_self, hd, hy⟩ ?_
          exact (ih hds hys (Nat.succ.inj hlen)).imp fun _ _ ⟨d, z, hz, h⟩ =>
            ⟨d, z, List.mem_cons_of_mem _ hz, h⟩

/-- The items of a tuple are full, or one of them leaks at its slot. -/
theorem slots_contained (slots : List Rule) {ys : List Value} {L : Rule → Value → Prop}
    (h : List.Forall₂ (fun r y => y.isFull = true ∨ L r y) slots ys) :
    (Value.list ys).isFull = true ∨ ∃ e ∈ slots.zip ys, L e.1 e.2 := by
  induction h with
  | nil => exact .inl rfl
  | @cons r y slots ys hy _ ih =>
    rw [List.zip_cons_cons]
    rcases hy with hy | hy
    · rcases ih with ih | ⟨e, he, h⟩
      · rw [Value.isFull_list] at ih ⊢
        exact .inl (List.forall_mem_cons.mpr ⟨hy, ih⟩)
      · exact .inr ⟨e, List.mem_cons_of_mem _ he, h⟩
    · exact .inr ⟨(r, y), List.mem_cons_self, hy⟩

/-- **Every validator gives full values and absent ones, or leaks.** -/
theorem Rule.contained (r : Rule) : r.Contained := by
  refine Rule.induct
    { simple := ?simple, array := ?array, object := ?object, multi := ?multi, tuple := ?tuple
      record := ?record } r
  case simple =>
    intro r hcomposite ctx d v w hd hv h
    by_cases hforbidden : r.tag = .forbidden
    · obtain ⟨c, remove, rfl⟩ := Rule.eq_forbidden hforbidden
      exact .inl (hd.forbidden_keeps (P := fun v => v.isFullOrAbsent = true) rfl hv h)
    · cases hr : r.hasFullDefault with
      | false =>
        cases hw : w.isFull with
        | false => exact .inr (.default hr hw)
        | true => exact .inl (Value.isFullOrAbsent_of_isFull hw)
      | true =>
        exact .inl (hd.simple_keeps hcomposite hforbidden .fullOrAbsent
          (fun v a t u hv ha => present_full hr hv ha) hv h)
  case array =>
    intro c items o ih ctx d v w hd hv h
    obtain ⟨di, _, s, sizes, contents, _, hdi, _, hs, hsizes, _, hcontents, hmade⟩ := hd.array
    refine shape_contained hs hmade.stages (List.forall_mem_append.mpr
      ⟨hsizes.all_checks, hcontents.all_checks⟩) hv h fun a t u ha h => ?_
    obtain ⟨xs, ys, s, s', rfl, hys, hxs⟩ := arrayStep_ok h
    have hfull : ∀ x ∈ xs, x.isFull = true := by
      intro x hx
      rcases hxs with hxs | rfl
      · exact Value.isFull_of_items ha hxs hx
      · rw [List.mem_singleton.mp hx]; exact ha
    refine (list_contained (L := fun y => items.Leaks ctx y) fun y hy => ?_).imp_right ?_
    · obtain ⟨hpresent, x, hx, hgives⟩ := validateItems_ok hys y hy
      exact ih.full_or_leaks hdi (Value.isFullOrAbsent_of_isFull (hfull x hx)) hgives hpresent
    · rintro ⟨y, hy, h⟩
      exact .item hy h
  case object =>
    intro c props o ih ctx d v w hd hv h
    obtain ⟨ds, _, s, sizes, hds, _, hs, hsizes, hmade⟩ := hd.object
    refine shape_contained hs hmade.stages hsizes.all_checks hv h fun a t u ha h => ?_
    obtain ⟨es, out, s, s', rfl, rfl, hout⟩ := objectStep_ok h
    have hes := Value.isFull_mapping.mp ha
    refine (mapping_contained (L := fun e => ∃ p ∈ props, e.1 = .text p.1 ∧
      p.2.Leaks (ctx.override o.strict?) e.2) fun e he => ?_).imp_right ?_
    · rcases validateProperties_ok hout e he with he | ⟨hpresent, d', hd', hgives⟩
      · exact .inl (hes e he)
      · obtain ⟨f, hf, hfe⟩ := List.mem_map.mp hd'
        obtain ⟨p, hp, hname, hcompiles⟩ := exists_of_mem_right hds hf
        obtain ⟨hkey, rfl⟩ := Prod.mk.inj hfe
        rw [hname] at hkey
        rcases (ih p hp).full_or_leaks hcompiles (find?_full hes) hgives hpresent with h | h
        · exact .inl ⟨by rw [← hkey]; rfl, h⟩
        · exact .inr ⟨p, hp, hkey.symm, h⟩
    · rintro ⟨⟨k, x⟩, he, ⟨name, q⟩, hp, hkey, h⟩
      dsimp only at hkey
      subst hkey
      exact .property hp he h
  case multi =>
    intro c branches ih ctx d v w hd hv h
    obtain ⟨ds, _, s, hds, _, hs, hmade⟩ := hd.multi
    rcases hw : w.isAbsent with _ | _
    · refine shape_contained hs hmade.stages no_stages hv h fun a t u ha h => ?_
      obtain ⟨d', hd', hgives⟩ := unionStep_ok h
      obtain ⟨q, hq, hcompiles⟩ := exists_of_mem_right hds hd'
      exact ((ih q hq).full_or_leaks hcompiles (Value.isFullOrAbsent_of_isFull ha) hgives
        hw).imp_right fun h => .branch hq h
    · rw [Value.eq_absent hw]
      exact .inl rfl
  case tuple =>
    intro c slots ih ctx d v w hd hv h
    obtain ⟨ds, _, s, hds, _, hs, hmade⟩ := hd.tuple
    refine shape_contained hs hmade.stages no_stages hv h fun a t u ha h => ?_
    obtain ⟨xs, ys, hxs, rfl, hys, hlen⟩ := tupleStep_ok h
    refine (slots_contained slots (L := fun r y => y = .absent ∧ r.Vanishes ctx ∨ r.Leaks ctx y)
      ?_).imp_right ?_
    · have hgive := (List.forall₂_and_left _ _).mpr ⟨ih, slots_give hds hys hlen⟩
      refine hgive.imp fun q y hgive => ?_
      obtain ⟨hq, d', x, hx, hcompiles, hgives⟩ := hgive
      have hx := Value.isFull_of_items ha hxs hx
      rcases hq ctx d' x y hcompiles (Value.isFullOrAbsent_of_isFull hx) hgives with h | h
      · cases habsent : y.isAbsent with
        | false => exact .inl (Value.isFull_of_present h habsent)
        | true =>
          have habsent := Value.eq_absent habsent
          exact .inr (.inl ⟨habsent, d', x, hcompiles, hx, habsent ▸ hgives⟩)
      · exact .inr (.inr h)
    · rintro ⟨⟨q, y⟩, he, ⟨habsent, hvanishes⟩ | hleak⟩
      · dsimp only at habsent
        subst habsent
        exact .slot he hvanishes
      · exact .insideSlot he hleak
  case record =>
    intro c key value ihkey ihvalue ctx d v w hd hv h
    obtain ⟨keys, values, _, _, s, hkeys, hvalues, _, _, hs, hmade⟩ := hd.record
    refine shape_contained hs hmade.stages no_stages hv h fun a t u ha h => ?_
    obtain ⟨es, out, s, s', rfl, rfl, hout⟩ := recordStep_ok h
    have hes := Value.isFull_mapping.mp ha
    refine (mapping_contained (L := fun e => e.1 = .absent ∧ key.Vanishes ctx ∨
      key.Leaks ctx e.1 ∨ value.Leaks ctx e.2) fun e he => ?_).imp_right ?_
    · obtain ⟨hk, hx⟩ := validateEntries_ok hout e he
      obtain ⟨f, hf, hgivesKey⟩ := hk.resolve_left List.not_mem_nil
      obtain ⟨hpresent, g, hg, hgivesValue⟩ := hx.resolve_left List.not_mem_nil
      rcases ihkey ctx keys _ _ hkeys (Value.isFullOrAbsent_of_isFull (hes f hf).1) hgivesKey with
        hkey | hkey
      · rcases ihvalue.full_or_leaks hvalues (Value.isFullOrAbsent_of_isFull (hes g hg).2)
          hgivesValue hpresent with hvalue | hvalue
        · cases habsent : e.1.isAbsent with
          | false => exact .inl ⟨Value.isFull_of_present hkey habsent, hvalue⟩
          | true =>
            have habsent := Value.eq_absent habsent
            exact .inr (.inl ⟨habsent, keys, f.1, hkeys, (hes f hf).1, habsent ▸ hgivesKey⟩)
        · exact .inr (.inr (.inr hvalue))
      · exact .inr (.inr (.inl hkey))
    · rintro ⟨⟨k, x⟩, he, ⟨habsent, hvanishes⟩ | hleak | hleak⟩
      · dsimp only at habsent
        subst habsent
        exact .key he hvanishes
      · exact .insideKey he hleak
      · exact .content he hleak

/-- **Where the absent value escapes.**  A present result is not full just when it leaks. -/
theorem escapes_iff {r : Rule} {ctx : Strictness} {d : Validator} {v w : Value}
    (hd : r.CompilesTo ctx d) (hv : v.isFullOrAbsent = true) (h : d.Gives v w)
    (hw : w.isAbsent = false) : w.isFull = false ↔ r.Leaks ctx w := by
  constructor
  · intro hfull
    rcases r.contained.full_or_leaks hd hv h hw with h | h
    · rw [hfull] at h; cases h
    · exact h
  · exact Rule.Leaks.not_full

/-- A rule that removes values makes all of them absent. -/
theorem gives_of_forbidden {c : CommonOptions} {ctx : Strictness} {d : Validator} {v w : Value}
    (hd : (Rule.forbidden c true).CompilesTo ctx d) (h : d.Gives v w) : w = .absent := by
  obtain ⟨path, t, u, stages, hstages, hmade⟩ := hd.simple rfl
  obtain ⟨t', u', h⟩ := h
  rw [Validator.validate, hmade.stages, (pure_ok hstages).1] at h
  obtain ⟨x, s, hx, h⟩ := bind_ok h
  have hx : x = if v.isNull then .absent else v := (pure_ok (mapReason_ok hx)).1
  change (if Validator.isSettled .shape x = true then pure x else Validator.runStages d.tag
    [.ofTransforms .manipulate "forbidden.remove" [fun _ => .ok .absent]] x) s = _ at h
  split at h
  · next hsettled =>
    rw [(pure_ok h).1]
    have hsettled : x.isAbsent = true ∨ x.isNull = true := by
      simpa [Validator.isSettled] using hsettled
    rw [hx] at hsettled ⊢
    cases v <;> simp_all [Value.isNull, Value.isAbsent]
  · rw [Validator.runStages] at h
    obtain ⟨y, s', hy, h⟩ := bind_ok h
    rw [(pure_ok (a := Value.absent) (mapReason_ok hy)).1] at h
    exact (pure_ok h).1

/-- **A tuple with a slot whose rule removes values leaks whatever list it accepts.** -/
theorem tuple_leaks {c options : CommonOptions} {slots : List Rule} {ctx : Strictness}
    {d : Validator} {xs ys : List Value} (hd : (Rule.tuple c slots).CompilesTo ctx d)
    (hxs : (Value.list xs).isFull = true) (h : d.Gives (.list xs) (.list ys)) :
    ys.length = slots.length ∧ ∀ y, (.forbidden options true, y) ∈ slots.zip ys → y = .absent := by
  obtain ⟨ds, _, s, hds, _, hs, hmade⟩ := hd.tuple
  rcases shape_of_full hs hmade.stages no_stages hxs h with h | ⟨_, _, h⟩
  · cases h
  · change tupleStep ds (.list xs) _ = (.ok (.list ys), _) at h
    obtain ⟨xs', ys', _, hys', hys, hlen⟩ := tupleStep_ok h
    cases hys'
    have hgive := slots_give hds hys hlen
    refine ⟨hgive.length_eq.symm, fun y hy => ?_⟩
    obtain ⟨d', x, _, hcompiles, hgives⟩ := List.forall₂_zip hgive hy
    exact gives_of_forbidden hcompiles hgives

/-! ### Rules that leak nothing -/

mutual

/-- Whether nothing can leak out of a rule: every default inside it is full, and no slot of a
tuple and no key of a record has a rule that vanishes. -/
def Rule.isSealed : Rule → Bool
  | .array c items o => (Rule.array c items o).hasFullDefault && items.isSealed
  | .object c props o => (Rule.object c props o).hasFullDefault && Rule.propsSealed props
  | .multi c branches => (Rule.multi c branches).hasFullDefault && Rule.allSealed branches
  | .tuple c slots =>
    (Rule.tuple c slots).hasFullDefault && Rule.allSealed slots && !Rule.someVanish slots
  | .record c key value =>
    (Rule.record c key value).hasFullDefault && key.isSealed && !key.mayVanish && value.isSealed
  | r => r.hasFullDefault
termination_by structural r => r

/-- Whether nothing can leak out of some named rules. -/
def Rule.propsSealed : List (String × Rule) → Bool
  | [] => true
  | (_, r) :: props => r.isSealed && Rule.propsSealed props
termination_by structural props => props

/-- Whether nothing can leak out of some rules. -/
def Rule.allSealed : List Rule → Bool
  | [] => true
  | r :: rules => r.isSealed && Rule.allSealed rules
termination_by structural rules => rules

end

theorem Rule.hasFullDefault_of_isSealed {r : Rule} (h : r.isSealed = true) :
    r.hasFullDefault = true := by
  cases r <;> simp only [isSealed, Bool.and_eq_true] at h <;> tauto

theorem Rule.propsSealed_iff {props : List (String × Rule)} :
    propsSealed props = true ↔ ∀ e ∈ props, e.2.isSealed = true := by
  induction props with
  | nil => simp [propsSealed]
  | cons e props ih => simp [propsSealed, ih]

theorem Rule.allSealed_iff {rules : List Rule} :
    allSealed rules = true ↔ ∀ r ∈ rules, r.isSealed = true := by
  induction rules with
  | nil => simp [allSealed]
  | cons r rules ih => simp [allSealed, ih]

/-- **Nothing leaks out of a sealed rule.** -/
theorem Rule.Leaks.not_sealed {r : Rule} {ctx : Strictness} {w : Value} (h : r.Leaks ctx w) :
    r.isSealed = false := by
  rw [Bool.eq_false_iff]
  intro hs
  induction h with
  | default hr _ => rw [hasFullDefault_of_isSealed hs] at hr; cases hr
  | item _ _ ih =>
    rw [isSealed, Bool.and_eq_true] at hs
    exact ih hs.2
  | property hp _ _ ih =>
    rw [isSealed, Bool.and_eq_true, propsSealed_iff] at hs
    exact ih (hs.2 _ hp)
  | branch hr _ ih =>
    rw [isSealed, Bool.and_eq_true, allSealed_iff] at hs
    exact ih (hs.2 _ hr)
  | slot he hvanishes =>
    rw [isSealed, Bool.and_eq_true, someVanish_of_mem (List.of_mem_zip he).1
      (mayVanish_of_vanishes _ _ hvanishes)] at hs
    cases hs.2
  | insideSlot he _ ih =>
    rw [isSealed, Bool.and_eq_true, Bool.and_eq_true, allSealed_iff] at hs
    exact ih (hs.1.2 _ (List.of_mem_zip he).1)
  | key _ hvanishes =>
    rw [isSealed, mayVanish_of_vanishes _ _ hvanishes] at hs
    simp at hs
  | insideKey _ _ ih =>
    simp only [isSealed, Bool.and_eq_true] at hs
    exact ih hs.1.1.2
  | content _ _ ih =>
    simp only [isSealed, Bool.and_eq_true] at hs
    exact ih hs.2

/-! ### The rules of an operation -/

/-- The places of a validated payload where the absent value stands, under the rules of an
operation. -/
inductive Compiler.Leaks (rules : Entries RuleSource) (ctx : Strictness) : Value → Prop
  | whole {r : Rule} {w : Value} : Compiler.meansWhole rules = true →
      (RuleSource.mapping (Compiler.ruleEntries rules)).Means "$" r → r.Leaks ctx w →
      Leaks rules ctx w
  /-- The name of a field has it. -/
  | name {es : Entries Value} {name x : Value} {source : RuleSource} :
      Compiler.meansWhole rules = false → (name, source) ∈ Compiler.ruleEntries rules →
      name.isFull = false → (name, x) ∈ es → Leaks rules ctx (.mapping es)
  | field {es : Entries Value} {name x : Value} {source : RuleSource} {r : Rule} :
      Compiler.meansWhole rules = false → (name, source) ∈ Compiler.ruleEntries rules →
      source.Means (fieldPath name) r → (name, x) ∈ es → r.Leaks ctx x →
      Leaks rules ctx (.mapping es)

/-- Nothing can leak out of the rules of an operation. -/
def Compiler.Sealed (rules : Entries RuleSource) : Prop :=
  if Compiler.meansWhole rules = true then
    ∀ r, (RuleSource.mapping (Compiler.ruleEntries rules)).Means "$" r → r.isSealed = true
  else
    ∀ e ∈ Compiler.ruleEntries rules, e.1.isFull = true ∧
      ∀ r, e.2.Means (fieldPath e.1) r → r.isSealed = true

theorem Compiler.Leaks.not_full {rules : Entries RuleSource} {ctx : Strictness} {w : Value}
    (h : Compiler.Leaks rules ctx w) : w.isFull = false := by
  cases h with
  | whole _ _ h => exact h.not_full
  | name _ _ hname he => exact Value.not_full_mapping he (.inl hname)
  | field _ _ _ he h => exact Value.not_full_mapping he (.inr h.not_full)

theorem Compiler.Leaks.not_sealed {rules : Entries RuleSource} {ctx : Strictness} {w : Value}
    (h : Compiler.Leaks rules ctx w) : ¬Compiler.Sealed rules := by
  intro hs
  rw [Compiler.Sealed] at hs
  cases h with
  | whole hwhole hr h =>
    rw [if_pos hwhole] at hs
    have hleak := h.not_sealed
    rw [hs _ hr] at hleak
    cases hleak
  | name hfields hp hname _ =>
    rw [hfields, if_neg Bool.false_ne_true] at hs
    rw [(hs _ hp).1] at hname
    cases hname
  | field hfields hp hr _ h =>
    rw [hfields, if_neg Bool.false_ne_true] at hs
    have hleak := h.not_sealed
    rw [(hs _ hp).2 _ hr] at hleak
    cases hleak

/-- A validated payload is full, leaks, or is absent as a whole. -/
theorem Signature.contained {s : Signature} {rules : Entries RuleSource}
    (hbody : s.body.MadeOf rules s.strictness) {payload w : Value} {t u : Tally}
    (hp : payload.isFull = true) (h : s.validate payload t = (.ok w, u)) :
    w.isFull = true ∨ Compiler.meansWhole rules = true ∧ w = .absent ∨
      Compiler.Leaks rules s.strictness w := by
  rw [Signature.validate, if_pos (Signature.isComplete_of_ok h)] at h
  cases hb : s.body with
  | whole d =>
    rw [hb] at h hbody
    cases hbody with
    | whole hwhole hd =>
      obtain ⟨r, hr, hd⟩ := hd
      rcases r.contained s.strictness d payload w hd (Value.isFullOrAbsent_of_isFull hp)
        ⟨t, u, mapReason_ok h⟩ with h | h
      · cases hw : w.isAbsent with
        | true => exact .inr (.inl ⟨hwhole, Value.eq_absent hw⟩)
        | false => exact .inl (Value.isFull_of_present h hw)
      · exact .inr (.inr (.whole hwhole hr h))
  | fields ds =>
    rw [hb] at h hbody
    cases hbody with
    | fields hfields hds =>
      have h := mapReason_ok h
      cases payload with
      | mapping es =>
        obtain ⟨out, s', hout, h⟩ := bind_ok h
        rw [(pure_ok h).1]
        have hout := mapReason_ok hout
        rw [Signature.validators, hb] at hout
        have hes := Value.isFull_mapping.mp hp
        refine (mapping_contained (L := fun e => ∃ p ∈ Compiler.ruleEntries rules, e.1 = p.1 ∧
          (e.1.isFull = false ∨ ∃ r, p.2.Means (fieldPath p.1) r ∧ r.Leaks s.strictness e.2))
          fun e he => ?_).imp_right ?_
        · rcases validateProperties_ok hout e he with he | ⟨hpresent, d, hd, hgives⟩
          · exact .inl (hes e he)
          · obtain ⟨p, hp, hname, r, hr, hcompiles⟩ := exists_of_mem_right hds hd
            cases hkey : e.1.isFull with
            | false => exact .inr ⟨p, hp, hname, .inl rfl⟩
            | true =>
              rcases r.contained.full_or_leaks hcompiles (find?_full hes) hgives hpresent with h | h
              · exact .inl ⟨rfl, h⟩
              · exact .inr ⟨p, hp, hname, .inr ⟨r, hr, h⟩⟩
        · rintro ⟨⟨k, x⟩, he, ⟨name, source⟩, hp, hname, h⟩
          dsimp only at hname
          subst hname
          rcases h with h | ⟨r, hr, h⟩
          · exact .inr (.name hfields hp h he)
          · exact .inr (.field hfields hp hr he h)
      | _ => exact absurd h reject_ok
  | brokenWhole => rw [hb] at hbody; cases hbody

/-- **Where the absent value escapes from a validated payload.**  The payload has it somewhere
just when it is absent as a whole, which only rules for the argument as a whole allow, or when it
leaks: through a slot or a key whose rule vanishes, or out of a default or a name that has it. -/
theorem absent_escapes_exactly {k : Compiler} (hk : k.treatments = Treatments.usual)
    {rules : Entries RuleSource} {inherited? : Option Strictness} {t u : Tally} {s : Signature}
    (hs : k.compile (.mapping rules) inherited? t = (.ok s, u)) {payload w : Value}
    {t' u' : Tally} (hp : payload.isFull = true) (hw : s.validate payload t' = (.ok w, u')) :
    (w.isFull = false ↔ Compiler.meansWhole rules = true ∧ w = .absent ∨
      Compiler.Leaks rules s.strictness w) ∧
    (Compiler.Sealed rules → w.isFull = true ∨ Compiler.meansWhole rules = true ∧ w = .absent) := by
  obtain ⟨_, _, _, hbody⟩ := Compiler.compile_ok hk hs (Signature.isComplete_of_ok hw)
  have hcontained := Signature.contained hbody hp hw
  refine ⟨⟨fun hfull => ?_, ?_⟩, fun hsealed => ?_⟩
  · rcases hcontained with h | h
    · rw [hfull] at h; cases h
    · exact h
  · rintro (⟨-, rfl⟩ | h)
    · rfl
    · exact h.not_full
  · rcases hcontained with h | h | h
    · exact .inl h
    · exact .inr h
    · exact absurd hsealed h.not_sealed

/-- The second slot of the tuple is forbidden, and what it removes is still there. -/
theorem absent_escapes_exactly_tuple :
    let rules : Entries RuleSource :=
      [(.text "pair", .ready (.tuple {} [.any {}, .forbidden {} true]))]
    let payload : Value := .mapping [(.text "pair", .list [.int 1, .int 2])]
    let w : Value := .mapping [(.text "pair", .list [.int 1, .absent])]
    ∃ s, Compiler.compile {} (.mapping rules) none [] = (.ok s, []) ∧ payload.isFull = true ∧
      s.validate payload [] = (.ok w, []) ∧ Compiler.Leaks rules s.strictness w := by
  intro rules payload w
  obtain ⟨s, hs, hw⟩ : ∃ s, Compiler.compile {} (.mapping rules) none [] = (.ok s, []) ∧
      s.validate payload [] = (.ok w, []) := ⟨_, rfl, rfl⟩
  refine ⟨s, hs, rfl, hw, ?_⟩
  rcases (absent_escapes_exactly rfl hs rfl hw).1.mp rfl with ⟨hwhole, -⟩ | h
  · cases hwhole
  · exact h

end RuleSchema
