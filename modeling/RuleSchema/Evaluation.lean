import RuleSchema.Value.Identity

/-!
# Evaluation

An evaluation gives a result, or stops: with a rejection, which is a judgement on its input, or
with a fault.  Its only state is how often each counting function has been called, because the
next call of one answers the next number.

* `Eval` is the type of evaluations.
* `Value.call` calls a function, a class or a callable object.
-/

namespace RuleSchema

/-- Why an evaluation stops. -/
inductive Stop (ρ : Type) where
  | rejected (reason : ρ)
  | fault (f : Fault)

/-- How often each counting function has been called, by its occurrence. -/
abbrev Tally := List (Nat × Nat)

/-- An evaluation that may be rejected for a reason of type `ρ`. -/
abbrev Eval (ρ : Type) := ExceptT (Stop ρ) (StateM Tally)

namespace Eval

variable {ρ σ α : Type}

/-- Stops with a rejection. -/
def reject (reason : ρ) : Eval ρ α := throw (.rejected reason)

/-- Stops with a fault. -/
def fault (f : Fault) : Eval ρ α := throw (.fault f)

/-- A result or a fault as an evaluation. -/
def ofFault (r : Except Fault α) : Eval ρ α :=
  match r with
  | .ok a => pure a
  | .error f => fault f

/-- A result or a rejection as an evaluation. -/
def ofExcept (r : Except ρ α) : Eval ρ α :=
  match r with
  | .ok a => pure a
  | .error reason => reject reason

/-- A result or a stop as an evaluation. -/
def ofStop (r : Except (Stop ρ) α) : Eval ρ α :=
  match r with
  | .ok a => pure a
  | .error stop => throw stop

/-- Runs an evaluation and hands its result or rejection on; a fault still stops. -/
def attempt (x : Eval ρ α) : Eval σ (Except ρ α) := fun tally =>
  match x tally with
  | (.ok a, tally) => (.ok (.ok a), tally)
  | (.error (.rejected reason), tally) => (.ok (.error reason), tally)
  | (.error (.fault f), tally) => (.error (.fault f), tally)

/-- The same evaluation, its rejections rephrased. -/
def mapReason (f : ρ → σ) (x : Eval ρ α) : Eval σ α := do
  match ← attempt x with
  | .ok a => pure a
  | .error reason => reject (f reason)

end Eval

/-- Counts one more call of a function and gives the new number of its calls. -/
def countCall {ρ : Type} (occurrence : Nat) : Eval ρ Nat := do
  let tally ← get
  let calls := (tally.lookup occurrence).getD 0 + 1
  set ((occurrence, calls) :: tally.filter fun e => e.1 != occurrence)
  return calls

/-- What a callable value answers when it is called without arguments. -/
def Value.call {ρ : Type} : Value → Eval ρ Value
  | .func _ _ (some v) => pure v
  | .func _ occurrence none => do
    let calls ← countCall occurrence
    return .int calls
  | .cls (.objects c) => Eval.ofFault (c.make .null)
  | .cls c => pure (Value.emptyOf c)
  | .object _ content => pure content
  | v => pure v

end RuleSchema
