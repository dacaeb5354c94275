import RuleSchema.Proofs.Catalog.Settled

/-!
# What the metrics account for

Every rebuild reports what it registers and what it leaves out, and the metrics count what is
compiled.  The two agree: one compilation is counted for each operation that is handed to the
compiler, one success for each that is registered, one error for each failure that is reported.
There is one exception.  Rules that the compiler refuses at once, because their policy for unknown
keys is none or because they are no mapping, are reported as a failure but counted nowhere.

* `handed` and `handedAll` are the operations that rebuilds hand to the compiler.
* `Operation.isRefused` are those that are refused at once.
* `Counted` says what some operations have added to the metrics, by what has been reported of
  them; `enrol_counted` is one operation, `rebuild_counted` one rebuild.
* `metrics_account`: **the metrics account for every rebuild** but for the refusals.
-/

namespace RuleSchema

open Eval

/-! ### Counts -/

namespace LabelCounts

theorem count_cons (l : String) (n : Nat) (rest : LabelCounts) (l' : String) :
    count ((l, n) :: rest) l' = if l' = l then n else count rest l' := by
  rw [count, List.lookup_cons]
  by_cases h : l' = l
  · rw [if_pos h, beq_iff_eq.mpr h]
    rfl
  · rw [if_neg h, beq_eq_false_iff_ne.mpr h]
    rfl

theorem count_add (counts : LabelCounts) (l l' : String) :
    (counts.add l).count l' = counts.count l' + if l' = l then 1 else 0 := by
  induction counts with
  | nil =>
    rw [add, count_cons]
    split <;> rfl
  | cons e rest ih =>
    obtain ⟨k, n⟩ := e
    rw [add, count_cons]
    by_cases hk : k = l
    · rw [if_pos hk, count_cons, ← hk]
      by_cases h : l' = k <;> simp [h]
    · rw [if_neg hk, count_cons, ih]
      by_cases h : l' = k
      · rw [if_pos h, if_pos h, if_neg fun hl => hk (h.symm.trans hl), Nat.add_zero]
      · rw [if_neg h, if_neg h]

end LabelCounts

/-- One error is counted for each failure. -/
theorem fieldErrors_total (failures : List FieldFailure) (counts : LabelCounts) :
    (failures.foldl (fun counts f => counts.add f.error.kind) counts).total
      = counts.total + failures.length := by
  induction failures generalizing counts with
  | nil => rfl
  | cons f failures ih =>
    rw [List.foldl_cons, ih, LabelCounts.total_add, List.length_cons]
    omega

/-! ### What is handed to the compiler -/

/-- Whether a failure is reported because of a name that is taken. -/
def OperationFailure.isDuplicate (f : OperationFailure) : Bool := f.kind == "DuplicateToolName"

/-- Whether a compiler refuses the rules of an operation before it compiles any. -/
def Operation.isRefused (op : Operation) : Bool :=
  match op.params with
  | .mapping rules => !(Compiler.declaredStrictness rules).isOk
  | _ => true

/-- Whether a compilation has ended before it began. -/
def endedAtOnce : Except Rejected Signature → Bool
  | .error (.atOnce _) => true
  | _ => false

/-- The operations of a rebuild that are handed to the compiler, when some tools have been made:
those whose names are free. -/
def handed : List Tool → Catalog → List Operation → List Operation
  | _, _, [] => []
  | tools, c, op :: ops =>
    let made := ((enrol tools op c).1.toOption.bind Except.toOption).toList
    (if op.nameIn tools then [] else [op]) ++ handed (tools ++ made) (enrol tools op c).2 ops

/-- The operations that a sequence of rebuilds hands to the compiler. -/
def handedAll : Catalog → List (List Operation) → List Operation
  | _, [] => []
  | c, ops :: opss => handed [] c ops ++ handedAll (Prod.snd (rebuild ops c)) opss

/-- What is added to the metrics while some operations are offered, in terms of those handed to the
compiler, the number of registered ones, and the failures that are reported. -/
structure Counted (m m' : Metrics) (offered : Nat) (handed : List Operation) (registered : Nat)
    (failures : List OperationFailure) : Prop where
  offered : handed.length + failures.countP OperationFailure.isDuplicate = offered
  compilations : m'.compilations.total + handed.countP Operation.isRefused
    = m.compilations.total + handed.length
  successes : m'.compilations.count "success" = m.compilations.count "success" + registered
  errors : m'.fieldErrors.total + handed.countP Operation.isRefused
    = m.fieldErrors.total + failures.countP fun f => !f.isDuplicate

namespace Counted

variable {m m' m'' : Metrics} {a b r s : Nat} {ops ops' : List Operation}
  {fs fs' : List OperationFailure}

theorem nothing (m : Metrics) : Counted m m 0 [] 0 [] := ⟨rfl, rfl, rfl, rfl⟩

/-- One after the other. -/
theorem append (h : Counted m m' a ops r fs) (h' : Counted m' m'' b ops' s fs') :
    Counted m m'' (a + b) (ops ++ ops') (r + s) (fs ++ fs') := by
  obtain ⟨hoffered, hcompilations, hsuccesses, herrors⟩ := h
  obtain ⟨hoffered', hcompilations', hsuccesses', herrors'⟩ := h'
  refine ⟨?_, ?_, ?_, ?_⟩
  · rw [List.length_append, List.countP_append]
    omega
  · rw [List.length_append, List.countP_append]
    omega
  · omega
  · rw [List.countP_append, List.countP_append]
    omega

end Counted

/-! ### One operation -/

/-- No failure of a rule is reported as one of a name. -/
theorem RuleError.kind_ne (e : RuleError) : e.kind ≠ "DuplicateToolName" := by
  unfold RuleError.kind
  split <;> decide

section

variable {k : Compiler} {op : Operation} {tools : List Tool} {c c' : Catalog} {m : Metrics}

/-- The compiler refuses at once the operations that are refused, and no others. -/
theorem isRefused_eq {σ : Type} {t : Tally} {r : Except Rejected Signature}
    (h : (attempt (k.compile op.params none) : Eval σ _).outcome t = .ok r) :
    op.isRefused = endedAtOnce r := by
  rw [outcome_attempt] at h
  rw [Operation.isRefused]
  cases hparams : op.params with
  | mapping rules =>
    rw [hparams, Compiler.compile] at h
    dsimp only
    cases hstrictness : Compiler.declaredStrictness rules with
    | error e =>
      rw [hstrictness] at h
      cases h
      rfl
    | ok declared? =>
      rw [hstrictness] at h
      dsimp only at h
      rw [outcome_mapReason] at h
      generalize (k.compileUnder _ rules).outcome t = x at h
      rcases x with (e | f) | s <;> cases h <;> rfl
  | _ =>
    rw [hparams] at h
    cases h
    rfl

/-- What one operation that is handed to the compiler adds. -/
theorem Counted.one {m m' : Metrics} {registered : Nat} {fs : List OperationFailure}
    (hkind : ∀ f ∈ fs, f.isDuplicate = false)
    (hcompilations : m'.compilations.total + (if op.isRefused then 1 else 0)
      = m.compilations.total + 1)
    (hsuccesses : m'.compilations.count "success" = m.compilations.count "success" + registered)
    (herrors : m'.fieldErrors.total + (if op.isRefused then 1 else 0)
      = m.fieldErrors.total + fs.length) :
    Counted m m' 1 [op] registered fs := by
  have hduplicates : fs.countP OperationFailure.isDuplicate = 0 :=
    List.countP_eq_zero.mpr fun f hf => Bool.eq_false_iff.mp (hkind f hf)
  have hothers : (fs.countP fun f => !f.isDuplicate) = fs.length :=
    List.countP_eq_length.mpr fun f hf => by rw [hkind f hf]; rfl
  refine ⟨?_, ?_, hsuccesses, ?_⟩
  · rw [hduplicates]
    rfl
  · rw [List.countP_singleton, hcompilations]
    rfl
  · rw [List.countP_singleton, hothers, herrors]

/-- **One compilation** adds to the metrics what becomes of the operation. -/
theorem made_counted {t : Tally} {r : Except Rejected Signature} {fate : Fate}
    (h : (attempt (k.compile op.params none) : Eval (List FieldProblem) _).outcome t = .ok r)
    (hmade : op.made r = .ok fate) (m : Metrics) :
    Counted m (m.recordCompilation r) 1 [op] fate.toOption.toList.length (Fate.reported fate) := by
  have hrefused := isRefused_eq h
  have hkind : ∀ e : RuleError, (e.kind == "DuplicateToolName") = false :=
    fun e => beq_eq_false_iff_ne.mpr e.kind_ne
  rcases r with (e | e) | s
  · cases hmade
    refine .one (List.forall_mem_singleton.mpr (hkind e)) ?_ rfl ?_
    · rw [hrefused]
      rfl
    · rw [hrefused]
      rfl
  · cases hmade
    refine .one (List.forall_mem_singleton.mpr (hkind e)) ?_ ?_ ?_
    · rw [hrefused]
      exact LabelCounts.total_add _ _
    · exact LabelCounts.count_add _ _ _
    · rw [hrefused]
      exact LabelCounts.total_add _ _
  · rw [Operation.made] at hmade
    split at hmade
    · next hcomplete =>
      cases htool : makeTool op s with
      | error e => rw [htool] at hmade; cases hmade
      | ok tool =>
        rw [htool] at hmade
        cases hmade
        refine .one (List.forall_mem_nil _) ?_ ?_ ?_
        · rw [hrefused]
          exact LabelCounts.total_add _ _
        · rw [Metrics.recordCompilation, if_pos hcomplete]
          exact LabelCounts.count_add _ _ _
        · rw [hrefused, Metrics.recordCompilation, fieldErrors_total,
            List.isEmpty_iff.mp hcomplete]
          rfl
    · next hincomplete =>
      cases hmade
      refine .one (List.forall_mem_map.mpr fun f _ => hkind f.error) ?_ ?_ ?_
      · rw [hrefused]
        exact LabelCounts.total_add _ _
      · rw [Metrics.recordCompilation, if_neg hincomplete]
        exact LabelCounts.count_add _ _ _
      · rw [hrefused, Metrics.recordCompilation, fieldErrors_total]
        exact congrArg _ (List.length_map _).symm

/-- **One operation** of a rebuild adds what is reported of it. -/
theorem enrol_counted {fate : Fate} (hm : c.metrics? = some m)
    (h : enrol tools op c = (.ok fate, c')) :
    ∃ m', c'.metrics? = some m' ∧ Counted m m' 1 (if op.nameIn tools then [] else [op])
      fate.toOption.toList.length (Fate.reported fate) := by
  have htaken : ∀ b, isTaken tools op = .ok b → op.nameIn tools = b := by
    intro b hb
    rw [isTaken] at hb
    split at hb
    · cases hb
    · exact Except.ok.inj hb
  cases hb : isTaken tools op with
  | error f =>
    rw [enrol, hb] at h
    cases h
  | ok b =>
    rw [htaken b hb]
    cases b with
    | true =>
      rw [enrol, hb] at h
      cases h
      exact ⟨m, hm, rfl, rfl, rfl, rfl⟩
    | false =>
      rw [enrol_eq hb, compileOperation_eq] at h
      cases hr : (attempt (c.compiler.compile op.params none) :
          Eval (List FieldProblem) (Except Rejected Signature)).outcome c.tally with
      | error e => rw [hr] at h; cases h
      | ok r =>
        rw [hr] at h
        obtain ⟨hmade, rfl⟩ := Prod.mk.inj h
        exact ⟨m.recordCompilation r, congrArg (Option.map _) hm, made_counted hr hmade m⟩

end

/-! ### Rebuilds -/

section

variable {c c' : Catalog} {m : Metrics}

theorem enrolAll_counted : ∀ {ops : List Operation} {tools ts : List Tool}
    {failures fs : List OperationFailure} {c : Catalog} {m : Metrics}, c.metrics? = some m →
      enrolAll tools failures ops c = (.ok (ts, fs), c') →
        ∃ m' made reported, c'.metrics? = some m' ∧ ts = tools ++ made ∧ fs = failures ++ reported ∧
          Counted m m' ops.length (handed tools c ops) made.length reported := by
  intro ops
  induction ops with
  | nil =>
    intro tools ts failures fs c m hm h
    cases h
    exact ⟨m, [], [], hm, (List.append_nil _).symm, (List.append_nil _).symm, .nothing m⟩
  | cons op ops ih =>
    intro tools ts failures fs c m hm h
    rw [enrolAll, CatalogM.bind_run] at h
    rw [handed]
    cases henrol : enrol tools op c with
    | mk r c₁ =>
      rw [henrol] at h
      cases r with
      | error e => cases h
      | ok fate =>
        obtain ⟨m₁, hm₁, hone⟩ := enrol_counted hm henrol
        -- what the first operation has become goes to the lists of the others
        have hrest : enrolAll (tools ++ fate.toOption.toList) (failures ++ Fate.reported fate) ops
            c₁ = (.ok (ts, fs), c') := by
          cases fate with
          | ok t => exact (congrArg (enrolAll _ · ops c₁) (List.append_nil failures)).trans h
          | error gs => exact (congrArg (enrolAll · _ ops c₁) (List.append_nil tools)).trans h
        obtain ⟨m', made, reported, hm', rfl, rfl, hothers⟩ := ih hm₁ hrest
        refine ⟨m', _, _, hm', List.append_assoc .., List.append_assoc .., ?_⟩
        rw [List.length_append, List.length_cons, Nat.add_comm ops.length]
        exact hone.append hothers

/-- **One rebuild** adds what its report says, and the tools are counted anew. -/
theorem rebuild_counted {ops : List Operation} {b : Build} (hm : c.metrics? = some m)
    (h : rebuild ops c = (.ok b, c')) :
    ∃ m', c'.metrics? = some m' ∧ m'.tools = c'.tools.length ∧
      Counted m m' ops.length (handed [] c ops) b.registered.length b.failures := by
  rw [rebuild_run] at h
  cases henrol : enrolAll [] [] ops c with
  | mk r c₁ =>
    rw [henrol] at h
    cases r with
    | error e => cases h
    | ok p =>
      obtain ⟨tools, failures⟩ := p
      cases h
      obtain ⟨m₁, made, reported, hm₁, rfl, rfl, hcounted⟩ := enrolAll_counted hm henrol
      refine ⟨m₁.recordTools _, congrArg (Option.map _) hm₁, rfl, ?_⟩
      rw [List.length_map]
      exact ⟨hcounted.offered, hcounted.compilations, hcounted.successes, hcounted.errors⟩

/-- A sequence of rebuilds adds what the reports say together. -/
theorem rebuilds_counted : ∀ {opss : List (List Operation)} {bs : List Build} {c : Catalog}
    {m : Metrics}, c.metrics? = some m → m.tools = c.tools.length →
      opss.mapM rebuild c = (.ok bs, c') →
        ∃ m', c'.metrics? = some m' ∧ m'.tools = c'.tools.length ∧
          Counted m m' opss.flatten.length (handedAll c opss)
            (bs.flatMap Build.registered).length (bs.flatMap Build.failures) := by
  intro opss
  induction opss with
  | nil =>
    intro bs c m hm htools h
    cases h
    exact ⟨m, hm, htools, .nothing m⟩
  | cons ops opss ih =>
    intro bs c m hm _ h
    rw [List.mapM_cons, CatalogM.bind_run] at h
    rw [handedAll]
    cases hrun : rebuild ops c with
    | mk r c₁ =>
      rw [hrun] at h
      cases r with
      | error e => cases h
      | ok b =>
        obtain ⟨m₁, hm₁, htools₁, hfirst⟩ := rebuild_counted hm hrun
        dsimp only at h
        rw [CatalogM.bind_run] at h
        cases hrest : opss.mapM rebuild c₁ with
        | mk r c₂ =>
          rw [hrest] at h
          cases r with
          | error e => cases h
          | ok bs' =>
            cases h
            obtain ⟨m', hm', htools', hothers⟩ := ih hm₁ htools₁ hrest
            refine ⟨m', hm', htools', ?_⟩
            rw [List.flatten_cons, List.length_append, List.flatMap_cons, List.length_append,
              List.flatMap_cons]
            exact hfirst.append hothers

end

/-- **The metrics account for every rebuild**, but for the rules that are refused at once.  In any
sequence of rebuilds that starts with nothing counted, every operation that is offered is handed to
the compiler or reported as a duplicate.  Those handed to the compiler are the compilations that
are counted and the refusals; the failures that are no duplicates are the errors that are counted
and the refusals.  The successes are the registrations, and the tools are those of the catalog. -/
theorem metrics_account {k : Compiler} {t : Tally} {opss : List (List Operation)}
    {bs : List Build} {c : Catalog}
    (h : opss.mapM rebuild { compiler := k, tally := t, metrics? := some {} } = (.ok bs, c)) :
    let offered := opss.flatten
    let compiled := handedAll { compiler := k, tally := t, metrics? := some {} } opss
    let failures := bs.flatMap Build.failures
    ∃ m, c.metrics? = some m ∧
      compiled.length + failures.countP OperationFailure.isDuplicate = offered.length ∧
      m.compilations.total + compiled.countP Operation.isRefused = compiled.length ∧
      m.compilations.count "success" = (bs.flatMap Build.registered).length ∧
      m.fieldErrors.total + compiled.countP Operation.isRefused
        = failures.countP (fun f => !f.isDuplicate) ∧
      m.tools = c.tools.length := by
  obtain ⟨m, hm, htools, hcounted⟩ := rebuilds_counted rfl rfl h
  refine ⟨m, hm, hcounted.offered, ?_, ?_, ?_, htools⟩
  · rw [hcounted.compilations]
    exact Nat.zero_add _
  · rw [hcounted.successes]
    exact Nat.zero_add _
  · rw [hcounted.errors]
    exact Nat.zero_add _

/-- Of two operations that are handed to the compiler and reported, the one with a field of an
unknown type is counted as a compilation and as an error, and the one that is refused for its
policy is not counted. -/
theorem metrics_account_refused :
    let refused : Operation := {
      name := .text "refused"
      params := .mapping (RuleSource.ofEntries [(.text strictKey, .int 5)]) }
    let broken : Operation := {
      name := .text "broken"
      params := .mapping (RuleSource.ofEntries [(.text "code", .text "unknown")]) }
    let start : Catalog := { metrics? := some {} }
    ∃ bs c m, [[refused, broken]].mapM rebuild start = (.ok bs, c) ∧ c.metrics? = some m ∧
      handedAll start [[refused, broken]] = [refused, broken] ∧
      (bs.flatMap Build.failures).countP (fun f => !f.isDuplicate) = 2 ∧
      m.compilations.total = 1 ∧ m.fieldErrors.total = 1 := by
  intro refused broken start
  obtain ⟨bs, c, hrun, hhanded, hfailures⟩ : ∃ bs c,
      [[refused, broken]].mapM rebuild start = (.ok bs, c) ∧
        handedAll start [[refused, broken]] = [refused, broken] ∧
        (bs.flatMap Build.failures).countP (fun f => !f.isDuplicate) = 2 :=
    ⟨_, _, rfl, rfl, rfl⟩
  have hrefused : [refused, broken].countP Operation.isRefused = 1 := rfl
  obtain ⟨m, hm, -, hcompilations, -, herrors, -⟩ := metrics_account hrun
  rw [hhanded, hrefused] at hcompilations herrors
  rw [hfailures] at herrors
  exact ⟨bs, c, m, hrun, hm, hhanded, hfailures, Nat.succ.inj hcompilations, Nat.succ.inj herrors⟩

end RuleSchema
