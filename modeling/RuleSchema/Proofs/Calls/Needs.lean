import RuleSchema.Proofs.Calls.Rules
import RuleSchema.Proofs.Compile.Ranks

/-!
# The functions that a rule needs

A function stands for an absent value and is called when a value turns out to be absent.  Which
values a rule looks at is decided by the value that it is given: its parts go to the rules inside
it, and what a fixed default puts in place of an absent value has parts too.  Compilation looks at
values in one case only, when it checks the fixed default of a rule: the rules inside see the parts
of the default, and those that it leaves out are absent.

* `Rule.Hands`: the parts of a value that a rule hands to the rules inside it.
* `Rule.Needs`: the functions that a rule needs for a value, all of them among those that stand in
  it (`Rule.Needs.exists_function`).
* `Rule.RunsEarly`: the functions that the fixed defaults in a rule need.
* `arrayStep_parts`, `objectStep_parts` and so on: the check of a type calls what the rules inside
  need for the parts.
* `compileRule_needs`: **compiling a rule** calls the functions that run early and no others, and
  its validator calls, for each value, those that the rule needs for it.
-/

namespace RuleSchema

open Eval

/-- A part of a value, and the rule inside a rule that it is handed to. -/
inductive Rule.Hands : Rule → Value → Rule → Value → Prop
  | item {c : CommonOptions} {items : Rule} {o : ArrayOptions} {v x : Value} :
      x ∈ v.asItems c.convert → Hands (.array c items o) v items x
  | property {c : CommonOptions} {props : List (String × Rule)} {o : ObjectOptions}
      {es : Entries Value} {e : String × Rule} : e ∈ props →
      Hands (.object c props o) (.mapping es) e.2 ((es.find? (.text e.1)).getD .absent)
  | branch {c : CommonOptions} {branches : List Rule} {r : Rule} {v : Value} : r ∈ branches →
      Hands (.multi c branches) v r v
  | slot {c : CommonOptions} {slots : List Rule} {v : Value} {xs : List Value} {e : Rule × Value} :
      v.items? = some xs → xs.length = slots.length → e ∈ slots.zip xs →
      Hands (.tuple c slots) v e.1 e.2
  | key {c : CommonOptions} {key value : Rule} {es : Entries Value} {e : Value × Value} :
      e ∈ es → Hands (.record c key value) (.mapping es) key e.1
  | value {c : CommonOptions} {key value : Rule} {es : Entries Value} {e : Value × Value} :
      e ∈ es → Hands (.record c key value) (.mapping es) value e.2

theorem Rule.Hands.isComposite {r q : Rule} {v x : Value} (h : r.Hands v q x) :
    r.tag.isComposite = true := by
  cases h <;> rfl

/-- A rule needs the function `n` for a value: the value is absent and `n` stands for it, or a rule
inside needs `n` for a part of what the rule sees. -/
inductive Rule.Needs (n : Nat) : Rule → Value → Prop
  | own {r : Rule} {v : Value} : v.isAbsent = true → r.function? = some n → r.Needs n v
  | part {r q : Rule} {v w x : Value} : r.Sees v w → r.Hands w q x → q.Needs n x → r.Needs n v

/-- The function `n` runs while a rule is compiled: a fixed default somewhere in it leaves out a
value that `n` stands for. -/
def Rule.RunsEarly (r : Rule) (n : Nat) : Prop :=
  ∃ p ∈ r.nodes, ∃ w q x, p.standIn = .fixed w ∧ p.Hands w q x ∧ q.Needs n x

theorem Rule.RunsEarly.mono {r q : Rule} {n : Nat} (h : q.RunsEarly n)
    (hnodes : ∀ p ∈ q.nodes, p ∈ r.nodes) : r.RunsEarly n := by
  obtain ⟨p, hp, hrest⟩ := h
  exact ⟨p, hnodes p hp, hrest⟩

/-- The rule that a part is handed to stands inside. -/
theorem Rule.Hands.mem_nodes {r q : Rule} {v x : Value} (h : r.Hands v q x) : q ∈ r.nodes := by
  cases h with
  | item => exact mem_nodes_array q.self_mem_nodes
  | property he => exact mem_nodes_object he (self_mem_nodes _)
  | branch hr => exact mem_nodes_multi hr q.self_mem_nodes
  | slot _ _ he => exact mem_nodes_tuple (List.of_mem_zip he).1 (self_mem_nodes _)
  | key => exact mem_nodes_key q.self_mem_nodes
  | value => exact mem_nodes_value q.self_mem_nodes

/-- **A function that a rule needs** stands in it. -/
theorem Rule.Needs.exists_function {n : Nat} {r : Rule} {v : Value} (h : r.Needs n v) :
    ∃ q ∈ r.nodes, q.function? = some n := by
  induction h with
  | @own r v _ hn => exact ⟨r, r.self_mem_nodes, hn⟩
  | part _ hhands _ ih =>
    obtain ⟨q, hq, hn⟩ := ih
    exact ⟨q, nodes_trans hhands.mem_nodes hq, hn⟩

/-- A function that runs early stands in the rule. -/
theorem Rule.RunsEarly.exists_function {n : Nat} {r : Rule} (h : r.RunsEarly n) :
    ∃ q ∈ r.nodes, q.function? = some n := by
  obtain ⟨p, hp, w, q, x, -, hhands, hneeds⟩ := h
  obtain ⟨q', hq', hn⟩ := hneeds.exists_function
  exact ⟨q', Rule.nodes_trans hp (Rule.nodes_trans hhands.mem_nodes hq'), hn⟩

/-! ### What a validator calls -/

/-- A validator calls, for each value, the functions that the rule needs for it. -/
def Rule.CallsAsNeeded (r : Rule) (d : Validator) : Prop :=
  ∀ (S : Nat → Bool) (v : Value), (∀ n, r.Needs n v → S n = true) →
    (d.validate v).Local S fun _ => True

/-- The check of a type calls what the rules inside need for the parts of a value. -/
def Rule.ChecksParts (r : Rule) (check : Step) : Prop :=
  ∀ (S : Nat → Bool) (v : Value), (∀ q x n, r.Hands v q x → q.Needs n x → S n = true) →
    (check v).Local S fun _ => True

section

variable {c : CommonOptions}

theorem arrayStep_parts {items : Rule} {o : ArrayOptions} {d : Validator}
    (hd : items.CallsAsNeeded d) :
    (Rule.array c items o).ChecksParts (arrayStep c.convert d) := by
  intro S v hS
  exact arrayStep_local fun x hx => hd S x fun n hn => hS items x n (.item hx) hn

theorem objectStep_parts {props : List (String × Rule)} {o : ObjectOptions}
    {ds : List (String × Validator)} (mode : UnknownKeys)
    (hds : List.Forall₂ (fun e f => f.1 = e.1 ∧ e.2.CallsAsNeeded f.2) props ds) :
    (Rule.object c props o).ChecksParts
      (objectStep (ds.map fun e => (Value.text e.1, e.2)) mode) := by
  intro S v hS
  refine objectStep_local mode fun es hv => List.forall_mem_map.mpr fun f hf => ?_
  obtain ⟨e, he, hname, hd⟩ := exists_of_mem_right hds hf
  rw [hname]
  exact hd S _ fun n hn => hS e.2 _ n (hv ▸ .property he) hn

theorem unionStep_parts {branches : List Rule} {ds : List Validator}
    (hds : List.Forall₂ Rule.CallsAsNeeded branches ds) :
    (Rule.multi c branches).ChecksParts (unionStep ds) := by
  intro S v hS
  refine unionStep_local fun d hd => ?_
  obtain ⟨r, hr, hneeds⟩ := exists_of_mem_right hds hd
  exact hneeds S v fun n hn => hS r v n (.branch hr) hn

/-- Each value goes to the validator of its slot. -/
theorem forall₂_zip {α β γ : Type} {R : α → β → Prop} {as : List α} {bs : List β}
    (h : List.Forall₂ R as bs) :
    ∀ {xs : List γ}, ∀ e ∈ bs.zip xs, ∃ a, (a, e.2) ∈ as.zip xs ∧ R a e.1 := by
  induction h with
  | nil => exact fun e he => absurd he List.not_mem_nil
  | @cons a b as bs hab _ ih =>
    intro xs e he
    cases xs with
    | nil => exact absurd he List.not_mem_nil
    | cons x xs =>
      rcases List.mem_cons.mp he with rfl | he
      · exact ⟨a, List.mem_cons_self, hab⟩
      · obtain ⟨a', ha', hR⟩ := ih e he
        exact ⟨a', List.mem_cons_of_mem _ ha', hR⟩

theorem tupleStep_parts {slots : List Rule} {ds : List Validator}
    (hds : List.Forall₂ Rule.CallsAsNeeded slots ds) :
    (Rule.tuple c slots).ChecksParts (tupleStep ds) := by
  intro S v hS
  refine tupleStep_local fun xs hxs hlength e he => ?_
  obtain ⟨r, hr, hneeds⟩ := forall₂_zip hds e he
  rw [← hds.length_eq] at hlength
  exact hneeds S e.2 fun n hn => hS r e.2 n (.slot hxs hlength hr) hn

theorem recordStep_parts {key value : Rule} {keys values : Validator}
    (hkeys : key.CallsAsNeeded keys) (hvalues : value.CallsAsNeeded values) :
    (Rule.record c key value).ChecksParts (recordStep keys values) := by
  intro S v hS
  refine recordStep_local fun es hv e he => ⟨?_, ?_⟩
  · exact hkeys S e.1 fun n hn => hS key e.1 n (hv ▸ .key he) hn
  · exact hvalues S e.2 fun n hn => hS value e.2 n (hv ▸ .value he) hn

end

/-! ### What the compilation of a rule calls -/

section

variable {r : Rule} {check : Step} {stages : List Stage} {S : Nat → Bool} {path : String}

/-- The check of the fixed default of a rule calls functions that run early. -/
theorem Rule.ChecksParts.default (h : r.ChecksParts check)
    (hS : ∀ n, r.RunsEarly n → S n = true) : r.ChecksDefaultWithin S check := by
  intro w hw
  exact h S w fun q x n hhands hn => hS n ⟨r, r.self_mem_nodes, w, q, x, hw, hhands, hn⟩

/-- A rule with a fixed default sees the default in place of an absent value. -/
theorem Rule.Sees.eq_default {w x : Value} (h : r.Sees .absent x) (hw : r.standIn = .fixed w) :
    x = w := by
  obtain ⟨⟨t, u, hx⟩, -, -⟩ := h
  rw [Rule.present, hw] at hx
  exact (pure_ok hx).1

/-- What a rule with a fixed default needs for an absent value runs early. -/
theorem Rule.Needs.early {n : Nat} {w : Value} (h : r.Needs n .absent)
    (hw : r.standIn = .fixed w) : r.RunsEarly n := by
  cases h with
  | own _ hn =>
    rw [Rule.function?, hw] at hn
    cases hn
  | part hsees hhands hneeds =>
    exact ⟨r, r.self_mem_nodes, w, _, _, hw, hsees.eq_default hw ▸ hhands, hneeds⟩

/-- Stages of which a validator can be made, and the check of the fixed default against it. -/
theorem finishValidator_needs (hS : ∀ n, r.RunsEarly n → S n = true)
    (h : ∀ d, Validator.compose stages r.tag r.common.description? r.isRequired = .ok d →
      r.CallsAsNeeded d) : (finishValidator r path stages).Local S r.CallsAsNeeded := by
  refine Local.bind (Q := r.CallsAsNeeded) (Local.ofExcept h) fun d hd => ?_
  refine Local.bind (Q := fun _ => True) ?_ fun _ _ => Local.pure hd
  unfold checkWholeDefault
  split
  · next w hw =>
    exact Local.bind (hd S .absent fun n hn => hS n (hn.early hw)).mapReason fun _ _ =>
      Local.pure trivial
  · exact Local.pure trivial

/-- Stages of which only the first calls anything make a validator that calls what is needed. -/
theorem StagesShapedBy.callsAsNeeded (h : StagesShapedBy r check stages)
    (hcheck : r.ChecksParts check) {d : Validator} (hd : d.stages = stages) :
    r.CallsAsNeeded d := by
  intro S v hneeds
  rw [Validator.validate, hd]
  refine h.run (fun habsent n hn => hneeds n (.own habsent hn)) fun w hw => ?_
  exact hcheck S w fun q x n hhands hn => hneeds n (.part hw hhands hn)

/-- **From the stages of a rule to the rule**, however its type is treated. -/
theorem compileRule_needs_of_stages {ts : Treatments} {ctx : Strictness}
    (hS : ∀ n, r.RunsEarly n → S n = true)
    (h : (ruleStages ts r ctx path).Local S fun stages =>
      ∃ check, r.ChecksParts check ∧ StagesShapedBy r check stages) :
    (compileRule ts r ctx path).Local S r.CallsAsNeeded := by
  rw [compileRule_eq_treat]
  cases ts r.tag with
  | standard =>
    refine Local.bind h fun stages ⟨check, hcheck, hstages⟩ => ?_
    refine finishValidator_needs hS fun d hd => ?_
    exact hstages.callsAsNeeded hcheck (congrArg Validator.stages (compose_ok hd))
  | missing => exact Local.reject
  | empty => exact finishValidator_needs hS fun d hd => nomatch hd
  | reversed =>
    -- what can be composed in reverse is the shape stage alone
    refine Local.bind h.ran fun stages ⟨t, u, hrun⟩ => finishValidator_needs hS fun d hd => ?_
    obtain ⟨check, hcheck, hstages⟩ := h.holds t stages (congrArg Prod.fst hrun)
    refine hstages.callsAsNeeded hcheck ?_
    rw [compose_ok hd]
    exact (ruleStages_wellStaged hrun).reverse_eq hd

end

/-- Compiling a rule calls what runs early, and its validator what the rule needs. -/
def Rule.CompilesAsNeeded (r : Rule) : Prop :=
  ∀ (S : Nat → Bool) (ts : Treatments) (ctx : Strictness) (path : String),
    (∀ n, r.RunsEarly n → S n = true) → (compileRule ts r ctx path).Local S r.CallsAsNeeded

theorem Rule.compilesAsNeeded_hereditary : Rule.Hereditary Rule.CompilesAsNeeded where
  simple r hr S ts ctx path hS := by
    refine compileRule_needs_of_stages hS ?_
    rw [ruleStages_scalar hr]
    exact (scalarStages_local hr).mono fun _ hs => ⟨anyStep, fun S v _ => anyStep_local v, hs⟩
  array c items o ih S ts ctx path hS := by
    have hitems := ih S ts ctx (path ++ "[]") fun n hn =>
      hS n (hn.mono fun _ => Rule.mem_nodes_array)
    refine compileRule_needs_of_stages hS (Local.bind hitems fun d hd => ?_)
    have hparts := arrayStep_parts (c := c) (o := o) hd
    exact (arrayStages_local (hparts.default hS)).mono fun _ hs => ⟨_, hparts, hs⟩
  object c props o ih S ts ctx path hS := by
    have hprops : ∀ e ∈ props, ∀ path,
        (compileRule ts e.2 (ctx.override o.strict?) path).Local S e.2.CallsAsNeeded :=
      fun e he path => ih e he S ts _ path fun n hn =>
        hS n (hn.mono fun _ => Rule.mem_nodes_object he)
    refine compileRule_needs_of_stages hS (Local.bind (compileProps_local hprops) fun ds hds => ?_)
    have hparts := objectStep_parts (c := c) (o := o) (ctx.override o.strict?).mode hds
    exact (objectStages_local (hparts.default hS)).mono fun _ hs => ⟨_, hparts, hs⟩
  multi c branches ih S ts ctx path hS := by
    have hbranches : ∀ r ∈ branches, ∀ path,
        (compileRule ts r ctx path).Local S r.CallsAsNeeded := fun r hr path =>
      ih r hr S ts ctx path fun n hn => hS n (hn.mono fun _ => Rule.mem_nodes_multi hr)
    refine compileRule_needs_of_stages hS
      (Local.bind (compileBranches_local 0 hbranches) fun ds hds => ?_)
    have hparts := unionStep_parts (c := c) hds
    exact (unionStages_local (hparts.default hS)).mono fun _ hs => ⟨_, hparts, hs⟩
  tuple c slots ih S ts ctx path hS := by
    have hslots : ∀ r ∈ slots, ∀ path,
        (compileRule ts r ctx path).Local S r.CallsAsNeeded := fun r hr path =>
      ih r hr S ts ctx path fun n hn => hS n (hn.mono fun _ => Rule.mem_nodes_tuple hr)
    refine compileRule_needs_of_stages hS
      (Local.bind (compileSlots_local 0 hslots) fun ds hds => ?_)
    have hparts := tupleStep_parts (c := c) hds
    exact (tupleStages_local (hparts.default hS)).mono fun _ hs => ⟨_, hparts, hs⟩
  record c key value ihk ihv S ts ctx path hS := by
    have hkey := ihk S ts ctx (path ++ "<key>") fun n hn =>
      hS n (hn.mono fun _ => Rule.mem_nodes_key)
    have hvalue := ihv S ts ctx (path ++ "<value>") fun n hn =>
      hS n (hn.mono fun _ => Rule.mem_nodes_value)
    refine compileRule_needs_of_stages hS (Local.bind hkey fun keys hkeys =>
      Local.bind hvalue fun values hvalues => ?_)
    have hparts := recordStep_parts (c := c) hkeys hvalues
    exact (recordStages_local (hparts.default hS)).mono fun _ hs => ⟨_, hparts, hs⟩

/-- **Compiling a rule** calls the functions that run early and no others.  Its validator calls,
for each value, the functions that the rule needs for it. -/
theorem compileRule_needs {r : Rule} {S : Nat → Bool} (hS : ∀ n, r.RunsEarly n → S n = true)
    (ts : Treatments) (ctx : Strictness) (path : String) :
    (compileRule ts r ctx path).Local S r.CallsAsNeeded :=
  Rule.induct Rule.compilesAsNeeded_hereditary r S ts ctx path hS

theorem Rule.CompilesTo.callsAsNeeded {r : Rule} {ctx : Strictness} {d : Validator}
    (h : r.CompilesTo ctx d) : r.CallsAsNeeded d := by
  obtain ⟨path, t, u, h⟩ := h
  exact (compileRule_needs (S := fun _ => true) (fun _ _ => rfl) _ ctx path).holds t d
    (congrArg Prod.fst h)

end RuleSchema
