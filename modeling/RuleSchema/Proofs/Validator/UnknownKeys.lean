import RuleSchema.Proofs.Validator.Declared

/-!
# The policies for unknown keys

A mapping may have keys that no property declares, and there are three policies for them.  They part
at the unknown keys alone.  The declared properties are validated as if no other key were there, one
after the other; what the validators give is kept in that order, and the unknown entries come after
it or not at all.  A mapping with unknown keys that must have none is rejected at once.

* `declaredOutputs` is what the validators of the properties give, absent values included.
* `validateDeclared_eq`: the declared properties are the outputs that are present.
* `find?_outputs`: under a name stands what its validator has given, and nothing if that is absent.
* `declaredOutputs_congr`: nothing but the entries under the names is looked at.
* `unknown_keys_alone_differ`: **the three policies** side by side.
-/

namespace RuleSchema

open Eval

variable {es : Entries Value} {ds : Entries Validator} {t u : Tally}

/-! ### Outputs -/

/-- What the validators of properties give for a mapping, in order.  An output may be absent. -/
def declaredOutputs (es : Entries Value) (ds : Entries Validator) :
    Eval StageRejection (Entries Value) :=
  ds.mapM fun e => do return (e.1, ← part e.1 (e.2.validate ((es.find? e.1).getD .absent)))

/-- The entries whose values are present. -/
def Entries.present (es : Entries Value) : Entries Value := es.filter fun e => !e.2.isAbsent

theorem Entries.present_cons {k v : Value} :
    Entries.present ((k, v) :: es) = if v.isAbsent then es.present else (k, v) :: es.present := by
  rw [Entries.present, List.filter_cons]
  cases v.isAbsent <;> rfl

/-- **The declared properties** are the outputs that are present. -/
theorem validateDeclared_eq : ∀ ds : Entries Validator,
    validateDeclared es ds = (do return (← declaredOutputs es ds).present) := by
  intro ds
  induction ds with
  | nil => rfl
  | cons e ds ih =>
    obtain ⟨name, d⟩ := e
    rw [validateDeclared, ih, declaredOutputs, declaredOutputs, List.mapM_cons]
    simp only [bind_assoc, pure_bind, part, Entries.present_cons]

/-- There is one output for each property, in the order of declaration. -/
theorem keys_outputs {outputs : Entries Value} (h : declaredOutputs es ds t = (.ok outputs, u)) :
    outputs.keys = ds.keys := by
  have hruns := mapM_ok h
  clear h
  induction hruns with
  | nil => rfl
  | cons he _ ih =>
    obtain ⟨_, _, he⟩ := he
    obtain ⟨_, _, _, he⟩ := bind_ok he
    rw [(pure_ok he).1]
    exact congrArg (_ :: ·) ih

/-- **Under a name stands the output of its validator**, and nothing if that is absent. -/
theorem find?_outputs {rest : Entries Value} : ∀ {outputs : Entries Value}, Distinct outputs →
    (∀ e ∈ outputs, rest.find? e.1 = none) → ∀ e ∈ outputs,
      Entries.find? (outputs.present ++ rest) e.1 = if e.2.isAbsent then none else some e.2 := by
  intro outputs
  induction outputs with
  | nil => exact fun _ _ e he => absurd he List.not_mem_nil
  | cons f outputs ih =>
    obtain ⟨name, v⟩ := f
    intro hnames hrest
    obtain ⟨n, hn⟩ := hnames.text List.mem_cons_self
    have hn : name.text? = some n := hn
    obtain ⟨hfirst, -⟩ := List.pairwise_cons.mp hnames.different
    have hrest' := fun e he => hrest e (List.mem_cons_of_mem _ he)
    rw [Entries.present_cons]
    intro e he
    rcases List.mem_cons.mp he with rfl | he
    · by_cases habsent : v.isAbsent = true
      · have hnone : (Entries.present outputs).find? name = none := by
          refine find?_none fun g hg => Bool.eq_false_iff.mpr fun heq => ?_
          exact hfirst g (List.mem_of_mem_filter hg)
            (hn.trans ((Value.equals_iff_text hn).mp heq).symm)
        rw [if_pos habsent, if_pos habsent, find?_append, hnone, Option.none_or]
        exact hrest _ List.mem_cons_self
      · rw [if_neg habsent, if_neg habsent, List.cons_append, Entries.find?_cons,
          if_pos ((Value.equals_iff_text hn).mpr hn)]
    · have hne : ¬ e.1.equals name = true := by
        obtain ⟨m, hm⟩ := hnames.tail.text he
        rw [Value.equals_iff_text hm]
        exact fun heq => hfirst e he (heq.trans hm.symm)
      split
      · exact ih hnames.tail hrest' e he
      · rw [List.cons_append, Entries.find?_cons, if_neg hne]
        exact ih hnames.tail hrest' e he

/-- **Nothing but the entries under the names** is looked at. -/
theorem declaredOutputs_congr {es' : Entries Value} : ∀ {ds : Entries Validator},
    (∀ e ∈ ds, es'.find? e.1 = es.find? e.1) → declaredOutputs es' ds = declaredOutputs es ds := by
  intro ds
  induction ds with
  | nil => exact fun _ => rfl
  | cons e ds ih =>
    intro h
    have hrest := ih fun e he => h e (List.mem_cons_of_mem _ he)
    rw [declaredOutputs] at hrest ⊢
    rw [declaredOutputs, List.mapM_cons, List.mapM_cons, h e List.mem_cons_self, hrest]
    rfl

/-! ### The three policies -/

theorem validateProperties_remove :
    validateProperties es ds .remove = (do return (← declaredOutputs es ds).present) := by
  rw [validateProperties_eq (by simp), validateDeclared_eq]
  simp only [bind_assoc, pure_bind]
  rfl

theorem validateProperties_passthrough :
    validateProperties es ds .passthrough = (do
      return (← declaredOutputs es ds).present ++ unknownEntries ds es) := by
  rw [validateProperties_eq (by simp), validateDeclared_eq]
  simp only [bind_assoc, pure_bind]
  rfl

theorem validateProperties_reject (h : unknownEntries ds es ≠ []) :
    validateProperties es ds .reject
      = .reject (unknownProperties (unknownEntries ds es).keys) := by
  have hsome : (unknownEntries ds es).isEmpty = false := List.isEmpty_eq_false_iff.mpr h
  rw [validateProperties, hsome]
  rfl

/-- Without unknown keys there is nothing to reject. -/
theorem validateProperties_reject_nil (h : unknownEntries ds es = []) :
    validateProperties es ds .reject = validateProperties es ds .passthrough := by
  rw [validateProperties_passthrough, h,
    validateProperties_eq (by rw [h]; exact Bool.false_ne_true), validateDeclared_eq]
  simp only [bind_assoc, pure_bind, List.append_nil]
  rfl

/-- The declared part of a validated mapping. -/
theorem filter_declared {outputs : Entries Value} (hds : Distinct ds)
    (hkeys : outputs.keys = ds.keys) :
    List.filter (fun e => ds.hasKey e.1) (outputs.present ++ unknownEntries ds es)
      = outputs.present := by
  have hdeclared : ∀ e ∈ outputs.present, ds.hasKey e.1 = true := by
    intro e he
    have hkey : e.1 ∈ ds.keys := hkeys ▸ List.mem_map_of_mem (List.mem_of_mem_filter he)
    obtain ⟨f, hf, hfe⟩ := List.mem_map.mp hkey
    exact hfe ▸ hds.hasKey hf
  have hunknown : ∀ e ∈ unknownEntries ds es, ¬ ds.hasKey e.1 = true := by
    intro e he
    simpa using (List.mem_filter.mp he).2
  rw [List.filter_append, List.filter_eq_self.mpr hdeclared, List.filter_eq_nil_iff.mpr hunknown,
    List.append_nil]

/-- **Dropping unknown keys** gives what keeping them gives, without them. -/
theorem validateProperties_remove_eq (hds : Distinct ds) :
    validateProperties es ds .remove = (do
      return (← validateProperties es ds .passthrough).filter fun e => ds.hasKey e.1) := by
  rw [validateProperties_remove, validateProperties_passthrough]
  simp only [bind_assoc, pure_bind]
  funext t
  cases hrun : declaredOutputs es ds t with
  | mk r u =>
    cases r with
    | error e => rw [bind_of_error hrun, bind_of_error hrun]
    | ok outputs =>
      rw [bind_of_ok hrun, bind_of_ok hrun, filter_declared hds (keys_outputs hrun)]

/-- **The three policies for unknown keys** differ in the unknown keys alone.  Kept, they follow the
outputs that are present, as they are; dropped, nothing else changes; and where some have to be
rejected, no property is validated.  A name whose output is absent has no entry, and the declared
part is the same for every mapping with the same entries under the names. -/
theorem unknown_keys_alone_differ (hds : Distinct ds) (es : Entries Value) :
    let unknown := unknownEntries ds es
    validateProperties es ds .passthrough = (do
      return (← declaredOutputs es ds).present ++ unknown) ∧
    validateProperties es ds .remove = (do
      return (← validateProperties es ds .passthrough).filter fun e => ds.hasKey e.1) ∧
    (unknown = [] → validateProperties es ds .reject = validateProperties es ds .passthrough) ∧
    (unknown ≠ [] → ∃ message, validateProperties es ds .reject
      = .reject (.failure message "object.strict" [(.text "unknown", .list unknown.keys)])) ∧
    (∀ t u outputs, declaredOutputs es ds t = (.ok outputs, u) → outputs.keys = ds.keys ∧
      ∀ e ∈ outputs, Entries.find? (outputs.present ++ unknown) e.1
        = if e.2.isAbsent then none else some e.2) ∧
    ∀ es' : Entries Value, (∀ e ∈ ds, es'.find? e.1 = es.find? e.1) →
      validateProperties es' ds .remove = validateProperties es ds .remove ∧
      validateProperties es' ds .passthrough = (do
        return (← validateProperties es ds .remove) ++ unknownEntries ds es') := by
  intro unknown
  refine ⟨validateProperties_passthrough, validateProperties_remove_eq hds,
    validateProperties_reject_nil, fun h => ⟨_, validateProperties_reject h⟩, ?_, ?_⟩
  · intro t u outputs h
    have hkeys := keys_outputs h
    refine ⟨hkeys, find?_outputs (hds.of_keys hkeys) fun e he => ?_⟩
    have hkey : e.1 ∈ ds.keys := hkeys ▸ List.mem_map_of_mem he
    obtain ⟨f, hf, hfe⟩ := List.mem_map.mp hkey
    rw [← hfe]
    exact find?_unknown hds hf
  · intro es' h
    have houtputs := declaredOutputs_congr h
    rw [validateProperties_remove, validateProperties_remove, validateProperties_passthrough,
      houtputs]
    simp only [bind_assoc, pure_bind, and_self]

/-- A property whose validator drops it does not come back, although its key stands before the
others in the mapping. -/
theorem unknown_keys_alone_differ_dropped :
    let keep : Validator := { tag := .any, stages := [] }
    let drop : Validator :=
      { tag := .forbidden, stages := [.ofTransforms .manipulate "drop" [fun _ => .ok .absent]] }
    let ds : Entries Validator := [(.text "a", keep), (.text "b", drop)]
    let es : Entries Value :=
      [(.text "b", .int 2), (.text "x", .int 1), (.text "a", .int 3), (.text "y", .null)]
    Distinct ds ∧
      validateProperties es ds .passthrough
        = pure [(.text "a", .int 3), (.text "x", .int 1), (.text "y", .null)] ∧
      validateProperties es ds .remove = pure [(.text "a", .int 3)] ∧
      ∃ message, validateProperties es ds .reject = .reject (.failure message "object.strict"
        [(.text "unknown", .list [.text "x", .text "y"])]) := by
  intro keep drop ds es
  have hds : Distinct ds := ⟨by simp [ds, Value.text?], by simp [ds, Value.text?]⟩
  obtain ⟨hpassthrough, hremove, -, hreject, -⟩ := unknown_keys_alone_differ hds es
  have hkept : validateProperties es ds .passthrough
      = pure [(.text "a", .int 3), (.text "x", .int 1), (.text "y", .null)] :=
    hpassthrough.trans rfl
  refine ⟨hds, hkept, ?_, hreject (List.cons_ne_nil _ _)⟩
  rw [hremove, hkept]
  rfl

end RuleSchema
