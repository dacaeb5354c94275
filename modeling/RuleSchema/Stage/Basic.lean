import RuleSchema.Evaluation
import RuleSchema.Payload.Error
import RuleSchema.Schema.Merge

/-!
# Stages

A value is checked in stages.  Each stage has a kind, and the kinds run in a fixed order: the shape
of the value first, then what prepares it, the constraints on it, the constraints that compare it
with other values, and last what changes it.  A stage gives the value that the next one receives,
or rejects the one that it has received.  It also has a schema, which says in the words of an
interface description what the stage admits.

* `Stage` is the type, `StageKind` the kinds with their `rank`.
* `Stage.ofChecks` is the stage of some checks, `Stage.ofTransforms` the one of some changes.
-/

namespace RuleSchema

/-- The kinds of stages. -/
inductive StageKind where
  | shape | preProcess | validate | refine | manipulate
deriving DecidableEq

namespace StageKind

/-- The name of a kind. -/
def name : StageKind → String
  | .shape => "shape"
  | .preProcess => "pre_process"
  | .validate => "validate"
  | .refine => "refine"
  | .manipulate => "manipulate"

/-- The place of a kind in the order in which stages run. -/
def rank : StageKind → Nat
  | .shape => 0
  | .preProcess => 1
  | .validate => 2
  | .refine => 3
  | .manipulate => 4

/-- The kind with this name. -/
def ofName? (s : String) : Option StageKind :=
  [.shape, .preProcess, .validate, .refine, .manipulate].find? fun k => k.name = s

theorem ofName?_name (k : StageKind) : ofName? k.name = some k := by cases k <;> decide

theorem rank_injective {a b : StageKind} (h : a.rank = b.rank) : a = b := by
  cases a <;> cases b <;> first | rfl | simp [rank] at h

end StageKind

/-- Why a stage rejects a value. -/
inductive StageRejection where
  /-- The value itself fails a check. -/
  | failure (message check : String) (details : Entries Value)
  /-- A part of the value is rejected. -/
  | inside (e : PayloadError)

namespace StageRejection

/-- The message of a rejection. -/
def message : StageRejection → String
  | .failure message _ _ => message
  | .inside e => e.message

end StageRejection

/-- What happens to a value in a stage. -/
abbrev Step := Value → Eval StageRejection Value

/-- Rejects a value for failing a check. -/
def failCheck {α : Type} (check message : String) : Eval StageRejection α :=
  .reject (.failure message check [])

/-- A named test on values, with what it implies for the schema. -/
structure Check where
  name : String
  test : Value → Except Fault Bool
  message : String
  schema : Schema := []

/-- One stage of a validator. -/
structure Stage where
  kind : StageKind
  name : String
  run : Step
  schema : Schema := []

/-- A change of values. -/
abbrev Transform := Value → Except Fault Value

namespace Stage

/-- Tests a value with every check and gives it back unchanged. -/
def runChecks : List Check → Step
  | [], v => pure v
  | c :: cs, v => do
    if ← Eval.ofFault (c.test v) then runChecks cs v else failCheck c.name c.message

/-- The joint schema of some checks. -/
def checksSchema (checks : List Check) : Except Fault Schema :=
  checks.foldlM (fun schema c => mergeSchema schema c.schema) []

/-- The stage that tests a value with every check. -/
def ofChecks (kind : StageKind) (name : String) (checks : List Check) : Except Fault Stage := do
  return { kind, name, run := runChecks checks, schema := ← checksSchema checks }

/-- Changes a value with one transform after the other. -/
def runTransforms (transforms : List Transform) : Step := fun v =>
  Eval.ofFault (transforms.foldlM (fun v f => f v) v)

/-- The stage that changes a value with one transform after the other. -/
def ofTransforms (kind : StageKind) (name : String) (transforms : List Transform)
    (schema : Schema := []) : Stage :=
  { kind, name, run := runTransforms transforms, schema }

end Stage

end RuleSchema
