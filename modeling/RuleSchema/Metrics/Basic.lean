import RuleSchema.Number.Notation
import RuleSchema.Signature.Compiler

/-!
# Metrics

What is counted while operations are compiled and called: the compilations by their outcome, the
numbers of compiled fields, the fields that failed by the kind of failure, the registered tools and
the calls by their outcome.

* `Metrics` is the type, `Metrics.recordCompilation`, `Metrics.recordCall` and
  `Metrics.recordTools` count.
* `Metrics.samples` are the samples that are shown, in order.
-/

namespace RuleSchema

/-- Counts under labels. -/
abbrev LabelCounts := List (String × Nat)

namespace LabelCounts

/-- Counts one more under a label. -/
def add (counts : LabelCounts) (label : String) : LabelCounts :=
  match counts with
  | [] => [(label, 1)]
  | (l, n) :: rest => if l = label then (l, n + 1) :: rest else (l, n) :: add rest label

/-- The count under a label. -/
def count (counts : LabelCounts) (label : String) : Nat := (counts.lookup label).getD 0

/-- The sum of all counts. -/
def total : LabelCounts → Nat
  | [] => 0
  | (_, n) :: rest => n + total rest

@[simp] theorem total_add (counts : LabelCounts) (label : String) :
    (counts.add label).total = counts.total + 1 := by
  induction counts with
  | nil => rfl
  | cons e rest ih =>
    obtain ⟨l, n⟩ := e
    by_cases h : l = label <;> simp_all [add, total] <;> omega

end LabelCounts

/-- What has been counted. -/
structure Metrics where
  /-- The compilations by their outcome. -/
  compilations : LabelCounts := []
  /-- How many fields each compiled signature has. -/
  fieldCounts : List Nat := []
  /-- The fields that failed by the kind of failure. -/
  fieldErrors : LabelCounts := []
  /-- How many tools are registered. -/
  tools : Nat := 0
  /-- The calls by their outcome. -/
  calls : LabelCounts := []

/-- A count under a name and labels. -/
structure Sample where
  name : String
  labels : List (String × String)
  value : Nat

namespace Metrics

/-- Counts a compilation, unless it was given no rules at all. -/
def recordCompilation (m : Metrics) : Except Rejected Signature → Metrics
  | .error (.atOnce _) => m
  | .error (.midway e) =>
    { m with
      compilations := m.compilations.add "error"
      fieldErrors := m.fieldErrors.add e.kind }
  | .ok s =>
    { m with
      compilations := m.compilations.add (if s.isComplete then "success" else "partial")
      fieldCounts := m.fieldCounts ++ [s.validators.length]
      fieldErrors := s.failures.foldl (fun counts f => counts.add f.error.kind) m.fieldErrors }

/-- Counts a call. -/
def recordCall (m : Metrics) (accepted : Bool) : Metrics :=
  { m with calls := m.calls.add (if accepted then "valid" else "invalid") }

/-- Notes how many tools are registered. -/
def recordTools (m : Metrics) (tools : Nat) : Metrics := { m with tools }

/-- The bounds of the classes into which the numbers of fields are sorted. -/
def fieldBounds : List Nat := [1, 2, 5, 10, 25, 50, 100]

/-- The samples of some counts. -/
def labelled (name label : String) (counts : LabelCounts) : List Sample :=
  (counts.mergeSort fun a b => !decide (b.1 < a.1)).map fun e => ⟨name, [(label, e.1)], e.2⟩

/-- A bound as a text. -/
def boundText (n : Nat) : String := toString n ++ ".0"

/-- How many signatures have at most so many fields, for each bound. -/
def fieldClasses (m : Metrics) : LabelCounts :=
  ("+Inf", m.fieldCounts.length) ::
    fieldBounds.map fun n => (boundText n, m.fieldCounts.countP (· ≤ n))

/-- The samples that are shown, by their names and then by their labels. -/
def samples (m : Metrics) : List Sample :=
  labelled "schema_compilations_total" "status" m.compilations ++
  labelled "schema_field_errors_total" "error_type" m.fieldErrors ++
  labelled "schema_fields_compiled_bucket" "le" m.fieldClasses ++
  [⟨"schema_fields_compiled_count", [], m.fieldCounts.length⟩,
    ⟨"schema_fields_compiled_sum", [], m.fieldCounts.foldl (· + ·) 0⟩] ++
  labelled "tool_argument_validations_total" "status" m.calls ++
  [⟨"tool_catalog_tools", [], m.tools⟩]

end Metrics

/-- The value of a sample as a text; it is shown as a double. -/
def Sample.text (s : Sample) : String :=
  match Binary64.ofInt? s.value with
  | some x => x.text
  | none => Binary64.text (.infinite false)

end RuleSchema
