import RuleSchema.Proofs.Calls.Generators
import RuleSchema.Proofs.Catalog.Rebuild

/-!
# One operation alone

An operation that is enrolled among others is either passed over, because its name is taken, or
ends as it would alone.  What it ends as depends on the compiler and on how often the functions have
been called that run early in its rules, not on the tools that have been made before or on what has
been counted elsewhere.

* `Operation.alone` is what an operation ends as alone.
* `Operation.RunsEarly` tells the functions that run while an operation is compiled; compiling it
  calls no others (`Operation.compile_local`), and a document calls none
  (`Operation.IsDocument.not_runsEarly`).
* `enrol_taken` and `enrol_free`: **what becomes of an operation among others**.
* `alone_becomes`: a tool under its name, or some failures of its own.
-/

namespace RuleSchema

open Eval

/-! ### The functions of an operation -/

/-- The function `n` runs while an operation is compiled. -/
def Operation.RunsEarly (op : Operation) (n : Nat) : Prop :=
  ∃ rules, op.params = .mapping rules ∧ RuleSchema.RunsEarly rules n

/-- **Compiling an operation** calls the functions that run early. -/
theorem Operation.compile_local {S : Nat → Bool} {op : Operation}
    (h : ∀ n, op.RunsEarly n → S n = true) (k : Compiler) (inherited? : Option Strictness) :
    (k.compile op.params inherited?).Local S fun _ => True := by
  cases hparams : op.params with
  | mapping rules => exact compile_calls (fun n hn => h n ⟨rules, hparams, hn⟩) k inherited?
  | _ => exact Local.reject

/-- A rule from a document has no function to run. -/
theorem Rule.IsPlain.not_runsEarly {r : Rule} (h : r.IsPlain) (n : Nat) : ¬ r.RunsEarly n := by
  intro hn
  obtain ⟨q, hq, hfunction⟩ := hn.exists_function
  rw [Rule.function?] at hfunction
  rcases q.standIn_json (h q hq) with hnone | ⟨d, -, hfixed⟩
  · rw [hnone] at hfunction
    cases hfunction
  · rw [hfixed] at hfunction
    cases hfunction

/-- **Compiling a document** calls nothing. -/
theorem Operation.IsDocument.not_runsEarly {op : Operation} (h : op.IsDocument) (n : Nat) :
    ¬ op.RunsEarly n := by
  rintro ⟨rules, hparams, r, htop, hn⟩
  obtain ⟨es, hes, hdocument⟩ := h.params
  obtain rfl := RuleSource.mapping.inj (hparams.symm.trans hdocument)
  have hplain : ∀ {path : String} {v : Value}, v.isJson = true →
      (RuleSource.ofValue v).Means path r → r.IsPlain := by
    intro path v hv hr
    have hrule := normalize_plain hv path
    rw [hr] at hrule
    exact hrule.holds
  refine Rule.IsPlain.not_runsEarly ?_ n hn
  cases htop with
  | whole _ hr =>
    obtain ⟨v, hv, hsource⟩ := ruleEntries_document hes
    exact hplain hv (hsource ▸ hr)
  | field _ he hr =>
    obtain ⟨-, v, hv, rfl⟩ := ruleEntries_documents hes _ he
    exact hplain hv hr

/-! ### Enrolling -/

namespace Operation

/-- An operation is to be called by a text. -/
def IsNamed (op : Operation) : Prop := ∃ n, op.exposedName = .text n

/-- What an operation ends as if there is no other. -/
def alone (k : Compiler) (t : Tally) (op : Operation) :
    Except (Stop (List FieldProblem)) (Except (List OperationFailure) Tool) :=
  Prod.fst (enrol [] op { compiler := k, tally := t })

/-- What is made of the compiled parameters of an operation. -/
def made (op : Operation) : Except Rejected Signature →
    Except (Stop (List FieldProblem)) (Except (List OperationFailure) Tool)
  | .error e => .ok (.error [compilationFailed op e.error])
  | .ok s =>
    if s.isComplete then (makeTool op s).map .ok
    else .ok (.error (s.failures.map (fieldFailed op)))

end Operation

section

variable {op : Operation} {name : String} {tools : List Tool} {c : Catalog}

/-- A catalog in which an operation has been compiled: nothing but what is counted is another. -/
structure Catalog.Compiled (op : Operation) (c c' : Catalog) : Prop where
  compiler : c'.compiler = c.compiler
  tools : c'.tools = c.tools
  tally : c'.tally = (c.compiler.compile op.params none).after c.tally

theorem CatalogM.ofEval_run {ρ α : Type} (x : Eval ρ α) (c : Catalog) :
    CatalogM.ofEval x c = (x.outcome c.tally, { c with tally := x.after c.tally }) := rfl

/-- Whether the name of an operation that has one is taken. -/
theorem isTaken_named (h : op.exposedName = .text name) (tools : List Tool) :
    isTaken tools op = .ok (tools.any fun t => name == t.name) := by
  rw [isTaken, h]
  rfl

/-- A compilation in a catalog, and what is counted of it. -/
theorem compileOperation_eq {ρ : Type} (op : Operation) (c : Catalog) :
    (compileOperation op : CatalogM ρ _) c
      = match (attempt (c.compiler.compile op.params none)).outcome c.tally with
        | .ok r => (.ok r, { c with
            metrics? := c.metrics?.map fun m => m.recordCompilation r
            tally := (c.compiler.compile op.params none).after c.tally })
        | .error e =>
          (.error e, { c with tally := (c.compiler.compile op.params none).after c.tally }) := by
  have hafter : (attempt (c.compiler.compile op.params none) :
      Eval ρ (Except Rejected Signature)).after c.tally
        = (c.compiler.compile op.params none).after c.tally := after_attempt _ _
  rw [← hafter]
  change (CatalogM.ofEval (attempt (c.compiler.compile op.params none)) >>= _) c = _
  rw [CatalogM.bind_run, CatalogM.ofEval_run]
  cases (attempt (c.compiler.compile op.params none) :
    Eval ρ (Except Rejected Signature)).outcome c.tally <;> rfl

theorem compileOperation_run {ρ : Type} (op : Operation) (c : Catalog) :
    ∃ c', (compileOperation op : CatalogM ρ _) c
        = ((attempt (c.compiler.compile op.params none)).outcome c.tally, c') ∧
      Catalog.Compiled op c c' := by
  rw [compileOperation_eq]
  cases (attempt (c.compiler.compile op.params none) :
      Eval ρ (Except Rejected Signature)).outcome c.tally with
  | ok r => exact ⟨_, rfl, rfl, rfl, rfl⟩
  | error e => exact ⟨_, rfl, rfl, rfl, rfl⟩

/-- **An operation whose name is taken** is not even compiled. -/
theorem enrol_taken (h : op.exposedName = .text name) (htaken : ∃ t ∈ tools, t.name = name) :
    enrol tools op c = (.ok (.error [nameTaken op]), c) := by
  have hany : (tools.any fun t => name == t.name) = true := by
    obtain ⟨t, ht, rfl⟩ := htaken
    exact List.any_eq_true.mpr ⟨t, ht, beq_self_eq_true _⟩
  rw [enrol, isTaken_named h, hany]
  rfl

/-- What enrolling an operation is when its name is free. -/
theorem enrol_eq (h : isTaken tools op = .ok false) (c : Catalog) :
    enrol tools op c = match compileOperation op c with
      | (.ok r, c') => (op.made r, c')
      | (.error e, c') => (.error e, c') := by
  rw [enrol, h]
  change (compileOperation op >>= _) c = _
  rw [CatalogM.bind_run]
  rcases compileOperation op c with ⟨e | r, c'⟩
  · rfl
  · cases r with
    | error e => rfl
    | ok s =>
      change (if s.isComplete = true then CatalogM.ofStop (makeTool op s) >>= fun t =>
          (pure (.ok t) : CatalogM (List FieldProblem) _)
        else pure (.error (s.failures.map (fieldFailed op)))) c' = (op.made (.ok s), c')
      rw [Operation.made]
      split
      · cases makeTool op s <;> rfl
      · rfl

/-- An operation whose name is free is compiled, and a tool made of it. -/
theorem enrol_run (h : op.exposedName = .text name) (hfree : ∀ t ∈ tools, t.name ≠ name)
    (c : Catalog) : ∃ c',
      enrol tools op c = (((attempt (c.compiler.compile op.params none)).outcome c.tally).bind
        op.made, c') ∧ Catalog.Compiled op c c' := by
  have hany : isTaken tools op = .ok false := by
    rw [isTaken_named h]
    refine congrArg Except.ok (List.any_eq_false.mpr fun t ht hname => hfree t ht ?_)
    exact (beq_iff_eq.mp hname).symm
  obtain ⟨c', hcompile, hc'⟩ := compileOperation_run (ρ := List FieldProblem) op c
  refine ⟨c', ?_, hc'⟩
  rw [enrol_eq hany, hcompile]
  cases (attempt (c.compiler.compile op.params none) :
    Eval (List FieldProblem) (Except Rejected Signature)).outcome c.tally <;> rfl

/-- **An operation whose name is free** ends as it would alone. -/
theorem enrol_free (h : op.exposedName = .text name) (hfree : ∀ t ∈ tools, t.name ≠ name) :
    ∃ c', enrol tools op c = (op.alone c.compiler c.tally, c') ∧ Catalog.Compiled op c c' := by
  obtain ⟨c', henrol, hc'⟩ := enrol_run h hfree c
  refine ⟨c', ?_, hc'⟩
  obtain ⟨_, halone, -⟩ := enrol_run h (List.forall_mem_nil _)
    ⟨c.compiler, [], none, c.tally⟩
  rw [henrol, Operation.alone, halone]

/-! ### What an operation becomes -/

theorem Operation.alone_eq {k : Compiler} (h : op.exposedName = .text name) (t : Tally) :
    op.alone k t = ((attempt (k.compile op.params none)).outcome t).bind op.made := by
  obtain ⟨_, henrol, -⟩ := enrol_run h (List.forall_mem_nil _) ⟨k, [], none, t⟩
  rw [Operation.alone, henrol]

/-- A description has the name that it is given. -/
theorem describeTool_name {s : Signature} {title description : Value} {d : ToolDescription}
    (h : describeTool s (.text name) title description = .ok d) : d.name = name := by
  rw [describeTool] at h
  split at h
  · cases h
  · cases h
  · split at h
    · cases h
    · split at h
      · next sorted _ t hread =>
        cases h
        obtain ⟨f, description?, hf, -, hd⟩ := Checked.seq_good hread
        obtain ⟨g, title?, hg, -, rfl⟩ := Checked.seq_good hf
        obtain ⟨n, hn, rfl⟩ := Checked.map_good hg
        rw [hd]
        rcases require_name name with ⟨-, problems, hbad⟩ | hgood
        · cases hbad.symm.trans hn
        · cases hgood.symm.trans hn
          rfl
      · cases h

/-- What a tool keeps of the operation and the signature that it is made of. -/
theorem makeTool_ok {s : Signature} {t : Tool} (hname : op.exposedName = .text name)
    (h : makeTool op s = .ok t) :
    t.operation = op.name ∧ t.name = name ∧ t.signature = s.described ∧
      t.description.fingerprint = .ok t.fingerprint := by
  obtain ⟨d, hd, h⟩ := except_bind_ok h
  obtain ⟨print, hprint, h⟩ := except_bind_ok h
  cases h
  rw [hname] at hd
  refine ⟨rfl, ?_, rfl, ?_⟩
  · cases hdescribe : describeTool s (.text name) op.title op.description with
    | error e => rw [hdescribe] at hd; cases hd
    | ok d' =>
      rw [hdescribe] at hd
      cases hd
      exact describeTool_name hdescribe
  · cases hfingerprint : d.fingerprint with
    | error f => rw [hfingerprint] at hprint; cases hprint
    | ok print' => rw [hfingerprint] at hprint; cases hprint; rfl

/-- What is registered: a tool whose signature lasts, with the fingerprint of its description. -/
structure Tool.Registered (t : Tool) : Prop where
  lasting : t.signature.Lasting
  fingerprint : t.description.fingerprint = .ok t.fingerprint

/-- **What an operation becomes alone**: a tool under its name, or some failures of its own. -/
theorem Operation.alone_becomes {k : Compiler} {t : Tally}
    {r : Except (List OperationFailure) Tool} (hk : k.treatments = Treatments.usual)
    (hname : op.exposedName = .text name) (h : op.alone k t = .ok r) :
    op.Becomes r ∧ ∀ tool, r = .ok tool → tool.Registered ∧ tool.name = name := by
  rw [Operation.alone_eq hname, outcome_attempt] at h
  have hrun := eq_outcome_after (k.compile op.params none) t
  generalize (k.compile op.params none).outcome t = compiled at h hrun
  rcases compiled with (e | f) | s
  · cases h
    exact ⟨.failed (List.cons_ne_nil _ _) (List.forall_mem_singleton.mpr rfl),
      fun _ h => by cases h⟩
  · cases h
  · change op.made (.ok s) = _ at h
    rw [Operation.made] at h
    split at h
    · next hcomplete =>
      cases hmake : makeTool op s with
      | error e => rw [hmake] at h; cases h
      | ok tool =>
        rw [hmake] at h
        cases h
        obtain ⟨hoperation, htool, hsignature, hprint⟩ := makeTool_ok hname hmake
        have hlasting := (compile_lasting hk hrun hcomplete).described
        rw [← hsignature] at hlasting
        refine ⟨.tool hoperation (htool ▸ hname) hlasting.complete, ?_⟩
        rintro _ ⟨⟩
        exact ⟨⟨hlasting, hprint⟩, htool⟩
    · next hincomplete =>
      cases h
      refine ⟨.failed (fun h => hincomplete ?_) (List.forall_mem_map.mpr fun _ _ => rfl),
        fun _ h => by cases h⟩
      exact List.isEmpty_iff.mpr (List.map_eq_nil_iff.mp h)

/-- An operation whose parameters compile becomes what its description allows. -/
theorem Operation.alone_pure {k : Compiler} {s : Signature} {t : Tally}
    (hname : op.exposedName = .text name) (hs : k.compile op.params none = pure s)
    (hcomplete : s.isComplete = true) : op.alone k t = (makeTool op s).map .ok := by
  rw [Operation.alone_eq hname, hs, attempt_pure]
  change op.made (.ok s) = _
  rw [Operation.made, if_pos hcomplete]

/-- It becomes a tool if its schema has no number that is too long. -/
theorem Operation.alone_short {k : Compiler} {s s' : Signature} {schema : Schema} (t : Tally)
    (hname : op.exposedName = .text name) (hnonempty : name ≠ "")
    (hs : k.compile op.params none = pure s) (hcomplete : s.isComplete = true)
    (hschema : s.inputSchema = .ok (schema, s')) (hjson : (Value.mapping schema).isJson = true)
    (hshort : (Value.mapping schema).holdsLong = false) (htitle : op.title.IsNote)
    (hdescription : op.description.IsNote) : ∃ tool, op.alone k t = .ok (.ok tool) := by
  obtain ⟨d, print, hdescribe, hprint⟩ :=
    describeTool_short hschema hjson hshort hnonempty htitle hdescription
  rw [Operation.alone_pure hname hs hcomplete]
  refine ⟨{ operation := op.name, description := d, fingerprint := print
            signature := s.described }, ?_⟩
  rw [makeTool, hname, hdescribe]
  change Except.map Except.ok ((d.fingerprint.mapError _) >>= _) = _
  rw [hprint]
  rfl

/-- **An operation without parameters** becomes a tool alone, whatever its name. -/
theorem Operation.alone_empty (k : Compiler) (t : Tally) (hname : op.exposedName = .text name)
    (hnonempty : name ≠ "") (hparams : op.params = .mapping []) (htitle : op.title.IsNote)
    (hdescription : op.description.IsNote) : ∃ tool, op.alone k t = .ok (.ok tool) := by
  have hcompile : k.compile (.mapping []) none
      = pure { body := .fields [], strictness := k.strictness.override none } := rfl
  have hinput : ∀ policy : Strictness,
      Signature.inputSchema { body := .fields [], strictness := policy }
        = .ok (fieldsSchema [] [] policy.mode, { body := .fields [], strictness := policy }) := by
    intro policy
    have hrequired : requiredFields [] = .ok [] := by
      rw [requiredFields_eq]
      exact congrArg Except.ok List.mergeSort_nil
    rw [Signature.inputSchema_fields]
    exact (Signature.schema_fields_iff rfl).mpr ⟨[], [], [], rfl, hrequired, rfl, rfl⟩
  have hdocument : ∀ mode : UnknownKeys, (Value.mapping (fieldsSchema [] [] mode)).isJson = true ∧
      (Value.mapping (fieldsSchema [] [] mode)).holdsLong = false := by
    intro mode
    cases mode <;> exact ⟨rfl, rfl⟩
  obtain ⟨hjson, hshort⟩ := hdocument (k.strictness.override none).mode
  exact Operation.alone_short t hname hnonempty (hparams ▸ hcompile) rfl (hinput _) hjson hshort
    htitle hdescription

/-! ### What an operation does not notice -/

/-- An operation ends alone in the same way if the functions that run early in it have been called
as often. -/
theorem Operation.alone_congr {S : Nat → Bool} {k : Compiler} {t u : Tally}
    (h : ∀ n, op.RunsEarly n → S n = true) (hname : op.exposedName = .text name)
    (htu : t.inside S = u.inside S) : op.alone k t = op.alone k u := by
  have hcompile := (op.compile_local h k none).outcome t u htu
  rw [Operation.alone_eq hname, Operation.alone_eq hname, outcome_attempt, outcome_attempt,
    hcompile]

end

end RuleSchema
