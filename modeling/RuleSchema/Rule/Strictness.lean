import RuleSchema.Value.Entries

/-!
# Unknown keys

What an object does with keys that it has no rule for, and how that is passed on to the objects
inside it.

* `Strictness.mode` is the effective policy: dropping unknown keys wins over rejecting them.
* `Strictness.override` applies what an object declares itself.
-/

namespace RuleSchema

/-- What is done with keys that have no rule. -/
inductive UnknownKeys where
  | passthrough | reject | remove
deriving DecidableEq

namespace UnknownKeys

/-- The spelling of a policy. -/
def name : UnknownKeys → String
  | .passthrough => "passthrough"
  | .reject => "reject"
  | .remove => "remove"

/-- The policy with this spelling. -/
def ofName? (s : String) : Option UnknownKeys :=
  [.passthrough, .reject, .remove].find? fun u => u.name = s

theorem ofName?_name (u : UnknownKeys) : ofName? u.name = some u := by cases u <;> decide

end UnknownKeys

/-- The policy that a rule inherits. -/
structure Strictness where
  strict : Bool := false
  removeUnknown : Bool := false
deriving DecidableEq

/-- The policy that an object declares for itself and the objects inside it. -/
inductive DeclaredStrictness where
  | strict (b : Bool)
  | remove
deriving DecidableEq

namespace DeclaredStrictness

/-- Reads a declaration: `"remove"`, nothing for null, and otherwise whether the value is true. -/
def ofValue? : Value → Option DeclaredStrictness
  | .null => none
  | v => some (if v.equals (.text "remove") then .remove else .strict v.isTruthy)

end DeclaredStrictness

namespace Strictness

/-- The effective policy. -/
def mode (c : Strictness) : UnknownKeys :=
  if c.removeUnknown then .remove else if c.strict then .reject else .passthrough

/-- The least settings with this effective policy. -/
def ofMode (u : UnknownKeys) : Strictness := ⟨u == .reject, u == .remove⟩

/-- The policy after a declaration, if there is one. -/
def override (c : Strictness) : Option DeclaredStrictness → Strictness
  | none => c
  | some .remove => ⟨false, true⟩
  | some (.strict b) => ⟨b, false⟩

theorem mode_ofMode (u : UnknownKeys) : (ofMode u).mode = u := by cases u <;> rfl

end Strictness

end RuleSchema
