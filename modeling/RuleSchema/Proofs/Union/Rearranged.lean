import RuleSchema.Proofs.Compile.Unique
import RuleSchema.Proofs.Union.Choice

/-!
# Rearranged unions

A union inside a union says no more than its branches in its place would, and a branch that repeats
an earlier one says nothing.  This holds wherever in a rule the union stands: the validators of the
two rules accept the same values and give the same for them.

* `Rule.Rearranges`: one such change, somewhere in a rule.
* `Rule.DoAlike`: the validators of two rules do the same.
* `Rearranges.doAlike`: **a rearranged rule** does the same.
* `union_ordered_choice`: **a union is an ordered choice**, and can be rearranged like one.
-/

namespace RuleSchema

open Eval

/-! ### Rearranging -/

/-- One rule is another after one change of a union somewhere in it: a branch that is itself a union
has been replaced by its branches, or a branch that repeats an earlier one has been left out. -/
inductive Rule.Rearranges : Rule → Rule → Prop
  | inline (c c' : CommonOptions) (before inner after : List Rule) :
    Rearranges (.multi c (before ++ .multi c' inner :: after)) (.multi c (before ++ inner ++ after))
  | drop (c : CommonOptions) {b : Rule} {before : List Rule} (after : List Rule) : b ∈ before →
    (∀ q ∈ b.nodes, q.generates = false) →
    Rearranges (.multi c (before ++ b :: after)) (.multi c (before ++ after))
  | items (c : CommonOptions) (o : ArrayOptions) {r r' : Rule} : Rearranges r r' →
    Rearranges (.array c r o) (.array c r' o)
  | property (c : CommonOptions) (o : ObjectOptions) (before after : List (String × Rule))
    (name : String) {r r' : Rule} : Rearranges r r' →
    Rearranges (.object c (before ++ (name, r) :: after) o)
      (.object c (before ++ (name, r') :: after) o)
  | branch (c : CommonOptions) (before after : List Rule) {r r' : Rule} : Rearranges r r' →
    Rearranges (.multi c (before ++ r :: after)) (.multi c (before ++ r' :: after))
  | slot (c : CommonOptions) (before after : List Rule) {r r' : Rule} : Rearranges r r' →
    Rearranges (.tuple c (before ++ r :: after)) (.tuple c (before ++ r' :: after))
  | key (c : CommonOptions) (value : Rule) {r r' : Rule} : Rearranges r r' →
    Rearranges (.record c r value) (.record c r' value)
  | value (c : CommonOptions) (key : Rule) {r r' : Rule} : Rearranges r r' →
    Rearranges (.record c key r) (.record c key r')

/-- The validators of two rules do the same, under every policy for unknown keys.  Both rules have
to compile: only a nullable union inside may be what a null default passes. -/
def Rule.DoAlike (r r' : Rule) : Prop :=
  ∀ (ctx : Strictness) (d d' : Validator), r.CompilesTo ctx d → r'.CompilesTo ctx d' → d.Alike d'

/-- A rule has one validator, which does the same as itself. -/
theorem Rule.DoAlike.refl (r : Rule) : r.DoAlike r := fun _ d _ hd hd' => by
  rw [← hd.unique hd']
  exact .refl d

/-! ### Lists of rules -/

/-- The validators of rules up to a place, and of those from there. -/
theorem forall₂_of_append {α β : Type} {R : α → β → Prop} {as bs : List α} {ys : List β}
    (h : List.Forall₂ R (as ++ bs) ys) :
    ∃ us vs, ys = us ++ vs ∧ List.Forall₂ R as us ∧ List.Forall₂ R bs vs :=
  ⟨ys.take as.length, ys.drop as.length, (List.take_append_drop _ _).symm,
    (List.forall₂_take_append _ _ _ h.flip).flip, (List.forall₂_drop_append _ _ _ h.flip).flip⟩

section

variable {rules rules' before after : List Rule} {r r' : Rule} {ctx : Strictness}
  {ds ds' : List Validator}

/-- Lists of rules that differ in one place. -/
theorem doAlike_around (h : r.DoAlike r') :
    List.Forall₂ Rule.DoAlike (before ++ r :: after) (before ++ r' :: after) :=
  List.rel_append (List.forall₂_same.mpr fun q _ => .refl q)
    (.cons h (List.forall₂_same.mpr fun q _ => .refl q))

/-- The validators of rules that do the same, one by one. -/
theorem validators_alike (h : List.Forall₂ Rule.DoAlike rules rules')
    (hds : List.Forall₂ (fun r d => r.CompilesTo ctx d) rules ds)
    (hds' : List.Forall₂ (fun r d => r.CompilesTo ctx d) rules' ds') :
    List.Forall₂ Validator.Alike ds ds' :=
  forall₂_transport h hds hds' fun hr hd hd' => hr ctx _ _ hd hd'

end

/-! ### Rules -/

section

variable {c : CommonOptions} {r r' : Rule}

theorem Rule.DoAlike.array {o : ArrayOptions} (h : r.DoAlike r') :
    (Rule.array c r o).DoAlike (.array c r' o) := by
  intro ctx d d' hd hd'
  obtain ⟨di, _, s, sizes, contents, checks, hdi, -, hs, hsizes, hchecks, hcontents, hmade⟩ :=
    hd.array
  obtain ⟨di', _, s', sizes', contents', checks', hdi', -, hs', hsizes', hchecks', hcontents',
    hmade'⟩ := hd'.array
  obtain rfl : checks = checks' := Except.ok.inj (hchecks.symm.trans hchecks')
  have hdone : ∀ v, Eval.Alike (Validator.runStages d.tag [] v) (Validator.runStages d'.tag [] v) :=
    fun v => .refl _
  have hlater := hsizes.alike hsizes' (by decide) (hcontents.alike hcontents' (by decide) hdone)
  simp only [List.append_nil] at hlater
  exact Validator.alike_of_shapes hmade.stages hmade'.stages hs hs' rfl rfl
    (fun v _ => arrayStep_alike (h ctx di di' hdi hdi') c.convert v) hlater

theorem Rule.DoAlike.object {o : ObjectOptions} {props props' : List (String × Rule)}
    (h : List.Forall₂ (fun p p' => p.1 = p'.1 ∧ p.2.DoAlike p'.2) props props') :
    (Rule.object c props o).DoAlike (.object c props' o) := by
  intro ctx d d' hd hd'
  obtain ⟨ds, _, s, sizes, hds, -, hs, hsizes, hmade⟩ := hd.object
  obtain ⟨ds', _, s', sizes', hds', -, hs', hsizes', hmade'⟩ := hd'.object
  have hproperties : PropertiesAlike (ds.map fun e => (Value.text e.1, e.2))
      (ds'.map fun e => (Value.text e.1, e.2)) := by
    refine List.forall₂_map_left_iff.mpr (List.forall₂_map_right_iff.mpr ?_)
    refine forall₂_transport h hds hds' ?_
    rintro p p' e e' ⟨hname, hp⟩ ⟨he, hc⟩ ⟨he', hc'⟩
    exact ⟨congrArg Value.text (he.trans (hname.trans he'.symm)), hp _ _ _ hc hc'⟩
  have hdone : ∀ v, Eval.Alike (Validator.runStages d.tag [] v) (Validator.runStages d'.tag [] v) :=
    fun v => .refl _
  have hlater := hsizes.alike hsizes' (by decide) hdone
  simp only [List.append_nil] at hlater
  exact Validator.alike_of_shapes hmade.stages hmade'.stages hs hs' rfl rfl
    (fun v _ => objectStep_alike hproperties _ v) hlater

theorem Rule.DoAlike.tuple {slots slots' : List Rule} (h : List.Forall₂ Rule.DoAlike slots slots') :
    (Rule.tuple c slots).DoAlike (.tuple c slots') := by
  intro ctx d d' hd hd'
  obtain ⟨ds, _, s, hds, -, hs, hmade⟩ := hd.tuple
  obtain ⟨ds', _, s', hds', -, hs', hmade'⟩ := hd'.tuple
  exact Validator.alike_of_shapes hmade.stages hmade'.stages hs hs' rfl rfl
    (fun v _ => tupleStep_alike (validators_alike h hds hds') v) fun v => .refl _

theorem Rule.DoAlike.record {key key' value value' : Rule} (hkey : key.DoAlike key')
    (hvalue : value.DoAlike value') :
    (Rule.record c key value).DoAlike (.record c key' value') := by
  intro ctx d d' hd hd'
  obtain ⟨keys, values, _, _, s, hkeys, hvalues, -, -, hs, hmade⟩ := hd.record
  obtain ⟨keys', values', _, _, s', hkeys', hvalues', -, -, hs', hmade'⟩ := hd'.record
  exact Validator.alike_of_shapes hmade.stages hmade'.stages hs hs' rfl rfl
    (fun v _ => recordStep_alike (hkey ctx _ _ hkeys hkeys') (hvalue ctx _ _ hvalues hvalues') v)
    fun v => .refl _

/-- **Unions** do the same if the choices between their branches do. -/
theorem Rule.DoAlike.multi {branches branches' : List Rule}
    (h : ∀ (ctx : Strictness) (ds ds' : List Validator),
      List.Forall₂ (fun r d => r.CompilesTo ctx d) branches ds →
      List.Forall₂ (fun r d => r.CompilesTo ctx d) branches' ds' → ∀ v : Value, v.IsGiven →
        Eval.Alike (firstOf v ds) (firstOf v ds')) :
    (Rule.multi c branches).DoAlike (.multi c branches') := by
  intro ctx d d' hd hd'
  obtain ⟨ds, _, s, hds, -, hs, hmade⟩ := hd.multi
  obtain ⟨ds', _, s', hds', -, hs', hmade'⟩ := hd'.multi
  exact Validator.alike_of_shapes hmade.stages hmade'.stages hs hs' rfl rfl
    (fun v hv => (unionStep_alike.trans (h ctx ds ds' hds hds' v hv)).trans unionStep_alike.symm)
    fun v => .refl _

end

theorem firstOf_alike {ds ds' : List Validator} (h : List.Forall₂ Validator.Alike ds ds')
    (v : Value) :
    Eval.Alike (firstOf v ds) (firstOf v ds') := by
  induction h with
  | nil => exact .refl _
  | cons hd _ ih => exact orElse_alike (hd v) ih

/-- **A branch that is itself a union** can be replaced by its branches. -/
theorem doAlike_inline (c c' : CommonOptions) (before inner after : List Rule) :
    (Rule.multi c (before ++ .multi c' inner :: after)).DoAlike
      (.multi c (before ++ inner ++ after)) := by
  refine .multi fun ctx ds ds' hds hds' v hv => ?_
  obtain ⟨us, _, rfl, hus, hrest⟩ := forall₂_of_append hds
  obtain ⟨_, ws, rfl, hrest', hws⟩ := forall₂_of_append hds'
  obtain ⟨us', ins', rfl, hus', hins'⟩ := forall₂_of_append hrest'
  cases hrest with
  | @cons _ u _ vs hu hvs =>
    obtain rfl := compilesTo_unique hus hus'
    obtain rfl := compilesTo_unique hvs hws
    obtain ⟨ins, _, s, hins, -, hs, hmade⟩ := hu.multi
    obtain rfl := compilesTo_unique hins hins'
    refine firstOf_inline ?_
    rw [validate_lone hmade.stages hs hv]
    exact (Eval.Alike.mapReason_self _ _).trans unionStep_alike

/-- **A branch that repeats an earlier one** can be left out. -/
theorem doAlike_drop (c : CommonOptions) {b : Rule} {before : List Rule} (after : List Rule)
    (hb : b ∈ before) (hquiet : ∀ q ∈ b.nodes, q.generates = false) :
    (Rule.multi c (before ++ b :: after)).DoAlike (.multi c (before ++ after)) := by
  refine .multi fun ctx ds ds' hds hds' v _ => ?_
  obtain ⟨us, _, rfl, hus, hrest⟩ := forall₂_of_append hds
  obtain ⟨us', ws, rfl, hus', hws⟩ := forall₂_of_append hds'
  cases hrest with
  | @cons _ u _ vs hu hvs =>
    obtain rfl := compilesTo_unique hus hus'
    obtain rfl := compilesTo_unique hvs hws
    obtain ⟨u', hmem, hu'⟩ := exists_of_mem_left hus hb
    obtain rfl := hu.unique hu'
    rw [firstOf_drop hmem ((hu.calls_nothing hquiet).isEnd v)]
    exact .refl _

/-- **A rearranged rule** does the same. -/
theorem Rule.Rearranges.doAlike {r r' : Rule} (h : r.Rearranges r') : r.DoAlike r' := by
  induction h with
  | inline c c' before inner after => exact doAlike_inline c c' before inner after
  | drop c after hb hquiet => exact doAlike_drop c after hb hquiet
  | items c o _ ih => exact .array ih
  | property c o before after name _ ih =>
    have hsame : ∀ props : List (String × Rule),
        List.Forall₂ (fun p p' => p.1 = p'.1 ∧ p.2.DoAlike p'.2) props props :=
      fun props => List.forall₂_same.mpr fun p _ => ⟨rfl, .refl p.2⟩
    exact .object (List.rel_append (hsame before) (.cons ⟨rfl, ih⟩ (hsame after)))
  | branch c before after _ ih =>
    exact .multi fun ctx ds ds' hds hds' v _ =>
      firstOf_alike (validators_alike (doAlike_around ih) hds hds') v
  | slot c before after _ ih => exact .tuple (doAlike_around ih)
  | key c value _ ih => exact .record ih (.refl value)
  | value c key _ ih => exact .record (.refl key) ih

example :
    let c : CommonOptions := { default? := some .null, nullable := true }
    let nested : Rule := .multi c [.string {} {}, .multi { nullable := true } [.boolean {}]]
    let flat : Rule := .multi c [.string {} {}, .boolean {}]
    nested.Rearranges flat ∧ (∃ d, nested.CompilesTo {} d) ∧
      ∃ e, (compileRule Treatments.usual flat {} "$").outcome [] = .error (.rejected e) :=
  ⟨.inline _ _ [.string {} {}] [.boolean {}] [], ⟨_, "$", [], [], rfl⟩, _, rfl⟩

/-! ### Ordered choice -/

/-- **A union is an ordered choice.**  Every branch gives a result, rejects a value or stops with a
fault, and the first branch that does not reject a value that is given decides what the union makes
of it.  The union rejects such a value just if every branch does, as a whole and in the shape stage,
and it reports what the branches have said, in their order.  So a union in the place of a branch can
be replaced by its branches, and a branch that repeats an earlier one can be left out, anywhere in a
rule. -/
theorem union_ordered_choice {c : CommonOptions} {branches : List Rule} {ctx : Strictness}
    {d : Validator} (h : (Rule.multi c branches).CompilesTo ctx d)
    (hquiet : ∀ b ∈ branches, ∀ q ∈ b.nodes, q.generates = false) :
    (∃ ds, List.Forall₂ (fun r d => r.CompilesTo ctx d) branches ds ∧ ∀ v : Value, v.IsGiven →
      (∀ b ∈ ds, (b.validate v).IsEnd) ∧
      (∀ before b after, ds = before ++ b :: after →
        (∀ b' ∈ before, ∃ e, b'.validate v = .reject e) → (∀ e, b.validate v ≠ .reject e) →
          d.validate v = b.validate v) ∧
      ((∃ e, d.validate v = .reject e) ↔ ∀ b ∈ ds, ∃ e, b.validate v = .reject e) ∧
      ∀ e, d.validate v = .reject e → e.OfShape "multi.union" ∧ ∃ es, RejectedBy v ds es ∧
        e.details.find? (.text "branches") = some (.list (es.map fun e' => .text e'.text))) ∧
    ∀ r r' : Rule, r.Rearranges r' → r.DoAlike r' := by
  refine ⟨?_, fun r r' hr => hr.doAlike⟩
  obtain ⟨ds, _, s, hds, -, hs, hmade⟩ := h.multi
  have hend : ∀ v, ∀ b ∈ ds, (b.validate v).IsEnd := by
    intro v b hb
    obtain ⟨r, hr, hb⟩ := exists_of_mem_right hds hb
    exact (hb.calls_nothing (hquiet r hr)).isEnd v
  refine ⟨ds, hds, fun v hv => ?_⟩
  have hunion := validate_lone hmade.stages hs hv
  have hfirst : ∀ before b after, ds = before ++ b :: after →
      (∀ b' ∈ before, ∃ e, b'.validate v = .reject e) → (∀ e, b.validate v ≠ .reject e) →
        d.validate v = b.validate v := by
    rintro before b after rfl hbefore hb
    obtain ⟨es, hes⟩ := exists_forall₂ hbefore
    rw [hunion]
    exact unionStep_first hes hb (hend v b (by simp)) _
  have hall : ∀ es, RejectedBy v ds es → d.validate v
      = .reject (Validator.located d.tag .shape (unionRejection ds.length es)) := by
    intro es hes
    rw [hunion, unionStep_rejected hes]
    rfl
  have hrejects : ∀ e, d.validate v = .reject e → ∃ es, RejectedBy v ds es := by
    intro e he
    rcases rejectedBy_or_first (hend v) with hes | ⟨before, b, after, es, hsplit, hes, hb⟩
    · exact hes
    · have hbefore : ∀ b' ∈ before, ∃ e, b'.validate v = .reject e := fun b' hb' => by
        obtain ⟨e', -, he'⟩ := exists_of_mem_left hes hb'
        exact ⟨e', he'⟩
      exact absurd ((hfirst before b after hsplit hbefore hb).symm.trans he) (hb e)
  refine ⟨hend v, hfirst, ⟨fun ⟨e, he⟩ b hb => ?_, fun hbs => ?_⟩, fun e he => ?_⟩
  · obtain ⟨es, hes⟩ := hrejects e he
    obtain ⟨e', -, he'⟩ := exists_of_mem_left hes hb
    exact ⟨e', he'⟩
  · obtain ⟨es, hes⟩ := exists_forall₂ hbs
    exact ⟨_, hall es hes⟩
  · obtain ⟨es, hes⟩ := hrejects e he
    obtain rfl := reject_injective (he.symm.trans (hall es hes))
    exact ⟨⟨rfl, rfl, rfl⟩, es, hes, rfl⟩

/-- A union with a union in it, whose branches can stand in its place; an array fits none of
them. -/
theorem union_ordered_choice_nested :
    let text : Rule := .string {} {}
    let inner : List Rule := [.boolean {}, .number {} { integer := true }]
    let nested : Rule := .multi {} [text, .multi { nullable := true } inner]
    ∃ d d', nested.CompilesTo {} d ∧ (Rule.multi {} (text :: inner)).CompilesTo {} d' ∧
      (∀ b ∈ [text, .multi { nullable := true } inner], ∀ q ∈ b.nodes, q.generates = false) ∧
      d.Alike d' ∧ ∃ e, d.validate (.list []) = .reject e ∧ e.OfShape "multi.union" := by
  intro text inner nested
  obtain ⟨d, hd, e, he⟩ : ∃ d, nested.CompilesTo {} d ∧ ∃ e, d.validate (.list []) = .reject e :=
    ⟨_, ⟨"$", [], [], rfl⟩, _, rfl⟩
  obtain ⟨d', hd'⟩ : ∃ d', (Rule.multi {} (text :: inner)).CompilesTo {} d' :=
    ⟨_, "$", [], [], rfl⟩
  have hquiet : ∀ b ∈ [text, .multi { nullable := true } inner], ∀ q ∈ b.nodes,
      q.generates = false := by
    simp [text, inner, Rule.nodes, Rule.nodesOfList, Rule.generates, Rule.standIn,
      CommonOptions.standIn, Rule.common]
  obtain ⟨⟨ds, -, hds⟩, hrearranged⟩ := union_ordered_choice hd hquiet
  obtain ⟨-, -, -, hrejected⟩ := hds (.list []) ⟨rfl, rfl⟩
  exact ⟨d, d', hd, hd', hquiet,
    hrearranged _ _ (.inline {} { nullable := true } [text] inner []) {} d d' hd hd',
    e, he, (hrejected e he).1⟩

end RuleSchema
