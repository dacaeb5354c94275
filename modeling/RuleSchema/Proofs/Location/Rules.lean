import RuleSchema.Proofs.Location.Rejections
import RuleSchema.Proofs.Value.Document

/-!
# The place of a rejection

The place of a rejection is that of a part of the value, and a rule inside the rule is the one for
that part: walking down the value by the keys of the place, and at the same time down the rule,
leads to both.  The rule that is reached rejects the part in the same words.  Of several parts that
would be rejected the first is reported, and the branches of a union are not entered.

* `Rule.Leads` is the walk, past parts that are accepted, and `Leads.hasAt` says what it finds.
* `Rule.isBare` are the rules for which places are kept: a default would be put in the place of an
  absent value, and an array that converts makes an item of what is no array.
* `Rule.Explains` says that the walk leads to the reason of a rejection.
* `Rule.isExplained`: **every rejection is explained**.
-/

namespace RuleSchema

open Eval

/-! ### Walks -/

/-- A rule accepts a value under a policy for unknown keys. -/
def Rule.Accepts (r : Rule) (ctx : Strictness) (v : Value) : Prop :=
  ∃ d w, r.CompilesTo ctx d ∧ d.Gives v w

/-- The walk down a rule and a value by the keys of a path: to a rule inside the rule, with the
policy for unknown keys that is in force there, and to a part of the value, the key of an entry or
an absent property.  What comes before the part, at each level, is accepted. -/
inductive Rule.Leads : Rule → Strictness → Value → Path → Rule → Strictness → Value → Prop
  | here (r : Rule) (ctx : Strictness) (v : Value) : Leads r ctx v [] r ctx v
  | item {c : CommonOptions} {items : Rule} {o : ArrayOptions} {ctx : Strictness}
      {before after : List Value} {x : Value} {path : Path} {q : Rule} {ctx' : Strictness}
      {y : Value} : (∀ z ∈ before, items.Accepts ctx z) → Leads items ctx x path q ctx' y →
      Leads (.array c items o) ctx (.list (before ++ x :: after))
        (indexKey before.length :: path) q ctx' y
  | slot {c : CommonOptions} {slotsBefore slotsAfter : List Rule} {slot : Rule} {ctx : Strictness}
      {before after : List Value} {x : Value} {path : Path} {q : Rule} {ctx' : Strictness}
      {y : Value} : List.Forall₂ (fun r z => r.Accepts ctx z) slotsBefore before →
      Leads slot ctx x path q ctx' y →
      Leads (.tuple c (slotsBefore ++ slot :: slotsAfter)) ctx (.list (before ++ x :: after))
        (indexKey before.length :: path) q ctx' y
  | property {c : CommonOptions} {before after : List (String × Rule)} {name : String} {r : Rule}
      {o : ObjectOptions} {ctx : Strictness} {es : Entries Value} {path : Path} {q : Rule}
      {ctx' : Strictness} {y : Value} :
      (∀ p ∈ before, p.2.Accepts (ctx.override o.strict?) ((es.at? p.1).getD .absent)) →
      Leads r (ctx.override o.strict?) ((es.at? name).getD .absent) path q ctx' y →
      Leads (.object c (before ++ (name, r) :: after) o) ctx (.mapping es) (.text name :: path)
        q ctx' y
  | key {c : CommonOptions} {key value : Rule} {ctx : Strictness} {before after : Entries Value}
      {k x : Value} : (∀ e ∈ before, key.Accepts ctx e.1 ∧ value.Accepts ctx e.2) →
      Leads (.record c key value) ctx (.mapping (before ++ (k, x) :: after)) [k] key ctx k
  | content {c : CommonOptions} {key value : Rule} {ctx : Strictness} {before after : Entries Value}
      {k x : Value} {path : Path} {q : Rule} {ctx' : Strictness} {y : Value} :
      (∀ e ∈ before, key.Accepts ctx e.1 ∧ value.Accepts ctx e.2) → key.Accepts ctx k →
      Leads value ctx x path q ctx' y →
      Leads (.record c key value) ctx (.mapping (before ++ (k, x) :: after)) (k :: path) q ctx' y

section

variable {r q : Rule} {ctx ctx' : Strictness} {v y : Value} {path : Path}

/-- No walk goes into a text. -/
theorem Rule.Leads.of_text {s : String} (h : r.Leads ctx (.text s) path q ctx' y) :
    path = [] ∧ q = r ∧ ctx' = ctx ∧ y = .text s := by
  cases h
  exact ⟨rfl, rfl, rfl, rfl⟩

/-- No walk goes into an absent value. -/
theorem Rule.Leads.of_absent (h : r.Leads ctx .absent path q ctx' y) : path = [] ∧ y = .absent := by
  cases h
  exact ⟨rfl, rfl⟩

theorem part?_item {before after : List Value} {x : Value} :
    (Value.list (before ++ x :: after)).part? (indexKey before.length) = some x := by
  simp [Value.part?, indexKey]

theorem part?_entry {before after : Entries Value} {k x : Value}
    (h : Entries.IsKeyed (before ++ (k, x) :: after)) :
    Entries.find? (before ++ (k, x) :: after) k = some x := by
  obtain ⟨n, rfl⟩ := h.texts _ (List.mem_append_right _ List.mem_cons_self)
  exact h.at?_eq_some.mpr (List.mem_append_right _ List.mem_cons_self)

/-- **What a walk finds** is at its place. -/
theorem Rule.Leads.hasAt (h : r.Leads ctx v path q ctx' y) (hv : v.IsDocument) :
    v.HasAt path y := by
  induction h with
  | here r ctx v => exact .here v
  | item _ _ ih =>
    exact .part part?_item (ih (hv.item (List.mem_append_right _ List.mem_cons_self)))
  | slot _ _ ih =>
    exact .part part?_item (ih (hv.item (List.mem_append_right _ List.mem_cons_self)))
  | @property c before after name r o ctx es path q ctx' y _ hrest ih =>
    cases hfind : es.at? name with
    | none =>
      rw [hfind] at hrest
      obtain ⟨rfl, rfl⟩ := hrest.of_absent
      exact .missing hfind
    | some x =>
      rw [hfind] at ih
      obtain ⟨l, hl⟩ := Value.mem_of_find? hfind
      exact .part hfind (ih (hv.content hl))
  | key => exact .key (part?_entry hv.keyed)
  | content _ _ _ ih =>
    exact .part (part?_entry hv.keyed)
      (ih (hv.content (List.mem_append_right _ List.mem_cons_self)))

end

/-! ### Rejections and their reasons -/

/-- Whether a rule has no default, and does not make an array of what is none. -/
def Rule.isBare : Rule → Bool
  | .array c _ _ => c.default?.isNone && !c.convert
  | r => r.common.default?.isNone

theorem Rule.isBare_default {r : Rule} (h : r.isBare = true) : r.common.default? = none := by
  cases r <;> simp_all [Rule.isBare, Rule.common]

theorem Rule.isBare_generates {r : Rule} (h : r.isBare = true) : r.generates = false := by
  rw [Rule.generates, Rule.standIn_none (Rule.isBare_default h)]

/-- The walk by the keys of a rejection leads to a rule that rejects what it finds in the same
words, for itself. -/
def Rule.Explains (r : Rule) (ctx : Strictness) (v : Value) (e : PayloadError) : Prop :=
  ∃ q ctx' y d', r.Leads ctx v e.path q ctx' y ∧ q.CompilesTo ctx' d' ∧
    d'.validate y = .reject { e with path := [] } ∧ PayloadError.IsOf { e with path := [] } y

section

variable {r q : Rule} {ctx ctx' : Strictness} {d : Validator} {v w : Value} {e : PayloadError}

/-- Without generated defaults a value is rejected whatever has been called before. -/
theorem Rule.CompilesTo.reject_eq (h : r.CompilesTo ctx d) (hbare : ∀ q ∈ r.nodes, q.isBare = true)
    (he : d.Rejects v e) : d.validate v = .reject e := by
  obtain ⟨t, u, he⟩ := he
  have hcalls := h.calls_nothing fun q hq => Rule.isBare_generates (hbare q hq)
  have houtcome : (d.validate v).outcome t = .error (.rejected e) := congrArg Prod.fst he
  rw [(hcalls v).eq_ofStop t, houtcome]
  rfl

/-- A rejection of a value for itself is its own reason. -/
theorem Rule.CompilesTo.explains_here (h : r.CompilesTo ctx d)
    (hbare : ∀ q ∈ r.nodes, q.isBare = true) (he : d.Rejects v e) (hof : e.IsOf v) :
    r.Explains ctx v e := by
  have hhere : { e with path := [] } = e := by rw [← hof.here]
  refine ⟨r, ctx, v, d, ?_, h, ?_, ?_⟩
  · rw [hof.here]
    exact .here r ctx v
  · rw [hhere]
    exact h.reject_eq hbare he
  · rw [hhere]
    exact hof

/-- The rejection of an absent value is explained. -/
theorem Rule.CompilesTo.explains_absent (h : r.CompilesTo ctx d)
    (hbare : ∀ q ∈ r.nodes, q.isBare = true) (he : d.Rejects .absent e) :
    r.Explains ctx .absent e :=
  h.explains_here hbare he (h.absent_rejects (Rule.isBare_default (hbare r r.self_mem_nodes)) he)

/-- The reason of a rejection of a part is one of the rejection of the whole. -/
theorem Rule.Explains.under {k : Value} (h : q.Explains ctx' w e)
    (hleads : ∀ {q' : Rule} {ctx'' : Strictness} {y : Value}, q.Leads ctx' w e.path q' ctx'' y →
      r.Leads ctx v (k :: e.path) q' ctx'' y) : r.Explains ctx v (e.under k) := by
  obtain ⟨q', ctx'', y, d', hq, hd', he, hof⟩ := h
  have hplain : ∀ entry ∈ e.extra, PayloadError.isOwnKey entry.1 = false := hof.plain
  rw [PayloadError.under_of_plain hplain]
  exact ⟨q', ctx'', y, d', hleads hq, hd', he, hof⟩

end

/-! ### The steps of composite rules -/

/-- The member of a list that corresponds to a given member of another, and those before it. -/
theorem forall₂_around {α β : Type} {R : α → β → Prop} {after : List β} {b : β} :
    ∀ {before : List β} {as : List α}, List.Forall₂ R as (before ++ b :: after) →
      ∃ asBefore a asAfter, as = asBefore ++ a :: asAfter ∧ List.Forall₂ R asBefore before ∧
        R a b := by
  intro before
  induction before with
  | nil =>
    intro as h
    cases h with
    | cons hab _ => exact ⟨[], _, _, rfl, .nil, hab⟩
  | cons b' before ih =>
    intro as h
    cases h with
    | @cons a _ _ _ hab hrest =>
      obtain ⟨asBefore, a', asAfter, rfl, hbefore, ha'⟩ := ih hrest
      exact ⟨a :: asBefore, a', asAfter, rfl, .cons hab hbefore, ha'⟩

/-- The validators of a rule reject documents for reasons that the rule explains. -/
def Rule.ExplainedBy (r : Rule) (ctx : Strictness) (d : Validator) : Prop :=
  r.CompilesTo ctx d ∧ ∀ v e, v.IsDocument → d.Rejects v e → r.Explains ctx v e

section

variable {c : CommonOptions} {ctx : Strictness} {v : Value} {t u : Tally} {f : StageRejection}

theorem arrayStep_explains {items : Rule} {o : ArrayOptions} {d : Validator}
    (hd : items.ExplainedBy ctx d) (hv : v.IsDocument)
    (h : arrayStep false d v t = (.error (.rejected f), u)) :
    f.IsOwn ∨ ∃ e, f = .inside e ∧ (Rule.array c items o).Explains ctx v e := by
  refine (arrayStep_rejected h).imp_right ?_
  rintro ⟨xs, t, u, hxs, hitems⟩
  obtain ⟨before, x, after, e, rfl, hbefore, he, rfl⟩ := validateItems_rejected hitems
  cases hv with
  | list hitems =>
    obtain rfl := Option.some.inj hxs
    have hx := hitems x (List.mem_append_right _ List.mem_cons_self)
    refine ⟨_, rfl, (hd.2 x e hx he).under fun hleads => ?_⟩
    rw [Nat.zero_add]
    exact .item (fun z hz => (hbefore z hz).elim fun w hw => ⟨d, w, hd.1, hw⟩) hleads
  | _ => cases hxs

theorem tupleStep_explains {slots : List Rule} {ds : List Validator}
    (hds : List.Forall₂ (fun r d => r.CompilesTo ctx d) slots ds)
    (hall : ∀ r ∈ slots, ∀ d, r.CompilesTo ctx d → r.ExplainedBy ctx d) (hv : v.IsDocument)
    (h : tupleStep ds v t = (.error (.rejected f), u)) :
    f.IsOwn ∨ ∃ e, f = .inside e ∧ (Rule.tuple c slots).Explains ctx v e := by
  refine (tupleStep_rejected h).imp_right ?_
  rintro ⟨xs, t, u, hxs, hslots⟩
  obtain ⟨dsBefore, d, dsAfter, before, x, after, e, rfl, rfl, hgives, he, rfl⟩ :=
    validateSlots_rejected hslots
  obtain ⟨slotsBefore, slot, slotsAfter, rfl, hbefore, hd⟩ := forall₂_around hds
  have hslot := hall slot (List.mem_append_right _ List.mem_cons_self) d hd
  have haccepts : List.Forall₂ (fun r z => r.Accepts ctx z) slotsBefore before := by
    refine forall₂_transport (R := Eq) (List.forall₂_refl dsBefore) hbefore.flip hgives ?_
    rintro d' _ r z rfl hr ⟨w, hw⟩
    exact ⟨d', w, hr, hw⟩
  cases hv with
  | list hitems =>
    obtain rfl := Option.some.inj hxs
    have hx := hitems x (List.mem_append_right _ List.mem_cons_self)
    refine ⟨_, rfl, (hslot.2 x e hx he).under fun hleads => ?_⟩
    rw [Nat.zero_add]
    exact .slot haccepts hleads
  | _ => cases hxs

theorem objectStep_explains {props : List (String × Rule)} {o : ObjectOptions}
    {ds : List (String × Validator)} {mode : UnknownKeys}
    (hds : List.Forall₂ (fun p e => e.1 = p.1 ∧ p.2.CompilesTo (ctx.override o.strict?) e.2)
      props ds)
    (hall : ∀ p ∈ props, (∀ q ∈ p.2.nodes, q.isBare = true) ∧ ∀ d,
      p.2.CompilesTo (ctx.override o.strict?) d → p.2.ExplainedBy (ctx.override o.strict?) d)
    (hv : v.IsDocument)
    (h : objectStep (ds.map fun e => (Value.text e.1, e.2)) mode v t = (.error (.rejected f), u)) :
    f.IsOwn ∨ ∃ e, f = .inside e ∧ (Rule.object c props o).Explains ctx v e := by
  refine (objectStep_rejected h).imp_right ?_
  rintro ⟨es, t, u, rfl, hdeclared⟩
  obtain ⟨before, name, d, after, e, hsplit, hgives, he, rfl⟩ := validateDeclared_rejected hdeclared
  have hmap : List.Forall₂ (fun p e => e.1 = Value.text p.1 ∧
      p.2.CompilesTo (ctx.override o.strict?) e.2) props (before ++ (name, d) :: after) := by
    rw [← hsplit]
    exact List.forall₂_map_right_iff.mpr (hds.imp fun p e he => ⟨congrArg _ he.1, he.2⟩)
  obtain ⟨propsBefore, ⟨n, r⟩, propsAfter, rfl, hbefore, hname, hd⟩ := forall₂_around hmap
  obtain rfl : name = .text n := hname
  obtain ⟨hbare, hexplained⟩ := hall _ (List.mem_append_right _ List.mem_cons_self)
  have haccepts : ∀ p ∈ propsBefore,
      p.2.Accepts (ctx.override o.strict?) ((Entries.at? es p.1).getD .absent) := by
    intro p hp
    obtain ⟨g, hg, hkey, hcompiles⟩ := exists_of_mem_left hbefore hp
    obtain ⟨w, hw⟩ := hgives g hg
    rw [hkey] at hw
    exact ⟨g.2, w, hcompiles, hw⟩
  have hreason : r.Explains (ctx.override o.strict?) ((Entries.at? es n).getD .absent) e := by
    have he : d.Rejects ((Entries.at? es n).getD .absent) e := he
    cases hfind : Entries.at? es n with
    | none =>
      rw [hfind] at he
      exact hd.explains_absent hbare he
    | some x =>
      rw [hfind] at he
      obtain ⟨l, hl⟩ := Value.mem_of_find? hfind
      exact (hexplained d hd).2 x e (hv.content hl) he
  exact ⟨_, rfl, hreason.under fun hleads => .property haccepts hleads⟩

theorem recordStep_explains {key value : Rule} {keys values : Validator}
    (hkeys : key.ExplainedBy ctx keys) (hvalues : value.ExplainedBy ctx values)
    (hv : v.IsDocument) (h : recordStep keys values v t = (.error (.rejected f), u)) :
    f.IsOwn ∨ ∃ e, f = .inside e ∧ (Rule.record c key value).Explains ctx v e := by
  refine (recordStep_rejected h).imp_right ?_
  rintro ⟨es, t, u, rfl, hentries⟩
  obtain ⟨before, k, x, after, e, rfl, hgives, he, rfl⟩ := validateEntries_rejected hentries
  have hentry : (k, x) ∈ before ++ (k, x) :: after := List.mem_append_right _ List.mem_cons_self
  have haccepts : ∀ g ∈ before, key.Accepts ctx g.1 ∧ value.Accepts ctx g.2 := by
    intro g hg
    obtain ⟨⟨w, hw⟩, w', hw'⟩ := hgives g hg
    exact ⟨⟨keys, w, hkeys.1, hw⟩, values, w', hvalues.1, hw'⟩
  rcases he with he | ⟨⟨w, hw⟩, he⟩
  · obtain ⟨n, rfl⟩ : ∃ n, k = .text n := hv.keyed.texts _ hentry
    refine ⟨_, rfl, (hkeys.2 _ e (.text n) he).under fun hleads => ?_⟩
    -- A walk into a key ends there.
    obtain ⟨hpath, rfl, rfl, rfl⟩ := hleads.of_text
    rw [hpath]
    exact .key haccepts
  · exact ⟨_, rfl, (hvalues.2 x e (hv.content hentry) he).under fun hleads =>
      .content haccepts ⟨keys, w, hkeys.1, hw⟩ hleads⟩

end

/-! ### Rules -/

section

variable {r : Rule} {ctx : Strictness} {d : Validator} {v : Value} {e : PayloadError}

/-- The rejections of a validator are explained if those of the step of its shape stage are. -/
theorem ShapeOf.explains {shape : Shape} {s : Stage} {rest : List Stage} (hs : ShapeOf r shape s)
    (h : r.CompilesTo ctx d) (hbare : ∀ q ∈ r.nodes, q.isBare = true)
    (hstages : d.stages = s :: rest) (hrest : ∀ s' ∈ rest, Step.RejectsOwn s'.run)
    (hstep : ∀ v t u f, v.IsDocument → shape.check v t = (.error (.rejected f), u) →
      f.IsOwn ∨ ∃ e, f = .inside e ∧ r.Explains ctx v e) : r.ExplainedBy ctx d := by
  refine ⟨h, fun v e hv he => ?_⟩
  rcases hs.rejected hstages hrest hv.present he with hof | ⟨t, u, f, hf, rfl⟩
  · exact h.explains_here hbare he hof
  · rcases hstep v t u f hv hf with hown | ⟨e, rfl, hreason⟩
    · exact h.explains_here hbare he (located_own hown hv.present)
    · exact hreason

/-- The rejections of all validators of a rule are explained, if all rules inside are bare. -/
def Rule.IsExplained (r : Rule) : Prop :=
  (∀ q ∈ r.nodes, q.isBare = true) → ∀ ctx d, r.CompilesTo ctx d → r.ExplainedBy ctx d

/-- **Every rejection is explained.** -/
theorem Rule.isExplained (r : Rule) : r.IsExplained := by
  have hnone : ∀ s ∈ ([] : List Stage), Step.RejectsOwn s.run :=
    fun _ hs => absurd hs List.not_mem_nil
  refine Rule.induct ⟨?simple, ?array, ?object, ?multi, ?tuple, ?record⟩ r
  case simple =>
    intro r hcomposite hbare ctx d h
    exact ⟨h, fun v e hv he =>
      h.explains_here hbare he (h.simple_rejected hcomposite hv.present he)⟩
  case array =>
    intro c items o ih hbare ctx d h
    obtain ⟨di, _, shape, sizes, contents, checks, hdi, -, hs, hsizes, hchecks, hcontents, hd⟩ :=
      h.array
    have hitems := ih (fun q hq => hbare q (Rule.mem_nodes_array hq)) ctx di hdi
    have hself : (Rule.array c items o).isBare = true := hbare _ (Rule.self_mem_nodes _)
    have hconvert : c.convert = false := by
      simp only [Rule.isBare, Bool.and_eq_true, Bool.not_eq_true'] at hself
      exact hself.2
    refine hs.explains h hbare hd.stages (List.forall_mem_append.mpr
      ⟨hsizes.own (sizeChecks_qualified o), hcontents.own (contentChecks_qualified hchecks)⟩) ?_
    intro v t u f hv hf
    rw [hconvert] at hf
    exact arrayStep_explains hitems hv hf
  case object =>
    intro c props o ih hbare ctx d h
    obtain ⟨ds, _, shape, sizes, hds, -, hs, hsizes, hd⟩ := h.object
    refine hs.explains h hbare hd.stages (hsizes.own (propertyChecks_qualified o)) ?_
    intro v t u f hv hf
    refine objectStep_explains hds (fun p hp => ?_) hv hf
    have hprop : ∀ q ∈ p.2.nodes, q.isBare = true :=
      fun q hq => hbare q (Rule.mem_nodes_object hp hq)
    exact ⟨hprop, fun d h => ih p hp hprop _ d h⟩
  case multi =>
    intro c branches _ hbare ctx d h
    obtain ⟨ds, _, shape, hds, -, hs, hd⟩ := h.multi
    exact hs.explains h hbare hd.stages hnone
      fun v t u f _ hf => .inl (unionStep_own ds v t u f hf)
  case tuple =>
    intro c slots ih hbare ctx d h
    obtain ⟨ds, _, shape, hds, -, hs, hd⟩ := h.tuple
    refine hs.explains h hbare hd.stages hnone fun v t u f hv hf => tupleStep_explains hds ?_ hv hf
    exact fun r hr d h => ih r hr (fun q hq => hbare q (Rule.mem_nodes_tuple hr hq)) ctx d h
  case record =>
    intro c key value ihkey ihvalue hbare ctx d h
    obtain ⟨keys, values, _, _, shape, hkeys, hvalues, -, -, hs, hd⟩ := h.record
    have hkey := ihkey (fun q hq => hbare q (Rule.mem_nodes_key hq)) ctx keys hkeys
    have hvalue := ihvalue (fun q hq => hbare q (Rule.mem_nodes_value hq)) ctx values hvalues
    exact hs.explains h hbare hd.stages hnone
      fun v t u f hv hf => recordStep_explains hkey hvalue hv hf

end

end RuleSchema
