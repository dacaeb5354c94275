import RuleSchema.Proofs.Compile.Stages
import RuleSchema.Signature.Compiler

/-!
# What a complete signature is made of

A compiler reads each field of its rules, and the validator of the field is that of the
rule that has been read.  In a complete signature nothing has been set aside, so that
every field has its validator, in order.

* `RuleSource.Means` relates a source at its place to the rule that is read from it.
* `SignatureBody.MadeOf` says what the validators of a signature are.
* `Compiler.compile_ok` reads them off a successful compilation.
-/

namespace RuleSchema

open Eval

/-- The source at `path` is read as a rule. -/
def RuleSource.Means (source : RuleSource) (path : String) (r : Rule) : Prop :=
  normalize source path = .ok r

theorem RuleSource.Means.unique {source : RuleSource} {path : String} {r q : Rule}
    (hr : source.Means path r) (hq : source.Means path q) : r = q :=
  Except.ok.inj (hr.symm.trans hq)

/-- The source at `path` has the validator `d` under an inherited policy. -/
def RuleSource.CompilesTo (source : RuleSource) (path : String) (ctx : Strictness)
    (d : Validator) : Prop :=
  ∃ r, source.Means path r ∧ r.CompilesTo ctx d

/-- The place of the rule of a field. -/
def fieldPath (name : Value) : String := "$." ++ name.plainText

/-- The validators of the rules of an operation: one of the argument as a whole if the rules
are meant for that, and otherwise one of each field. -/
inductive SignatureBody.MadeOf (rules : Entries RuleSource) (ctx : Strictness) :
    SignatureBody → Prop
  | whole {d : Validator} : Compiler.meansWhole rules = true →
      (RuleSource.mapping (Compiler.ruleEntries rules)).CompilesTo "$" ctx d →
      MadeOf rules ctx (.whole d)
  | fields {ds : Entries Validator} : Compiler.meansWhole rules = false →
      List.Forall₂ (fun p e => e.1 = p.1 ∧ p.2.CompilesTo (fieldPath p.1) ctx e.2)
        (Compiler.ruleEntries rules) ds →
      MadeOf rules ctx (.fields ds)

theorem compileSource_ok {source : RuleSource} {ctx : Strictness} {path : String} {t u : Tally}
    {d : Validator} (h : compileSource Treatments.usual source ctx path t = (.ok d, u)) :
    source.CompilesTo path ctx d := by
  obtain ⟨r, s, hr, h⟩ := bind_ok h
  exact ⟨r, (ofStop_ok hr).1, path, s, u, h⟩

namespace Compiler

variable {k : Compiler}

theorem compileOne_ok (hk : k.treatments = Treatments.usual) {source : RuleSource}
    {ctx : Strictness} {path : String} {t u : Tally} {d : Validator}
    (h : k.compileOne ctx source path t = (.ok (.ok d), u)) : source.CompilesTo path ctx d := by
  rw [compileOne, hk] at h
  split at h
  · obtain ⟨d', s, hd, h⟩ := bind_ok h
    cases (pure_ok h).1
    exact compileSource_ok hd
  · rcases attempt_ok h with ⟨d', hd, h⟩ | ⟨e, he, -⟩
    · cases hd
      exact compileSource_ok h
    · cases he

theorem compileFields_ok (hk : k.treatments = Treatments.usual) {ctx : Strictness} :
    ∀ {rules : Entries RuleSource} {t u : Tally} {ds : Entries Validator},
      k.compileFields ctx rules t = (.ok (ds, []), u) →
        List.Forall₂ (fun p e => e.1 = p.1 ∧ p.2.CompilesTo (fieldPath p.1) ctx e.2) rules ds := by
  intro rules
  induction rules with
  | nil =>
    intro t u ds h
    cases (pure_ok h).1
    exact .nil
  | cons p rules ih =>
    intro t u ds h
    obtain ⟨x, s, hx, h⟩ := bind_ok h
    obtain ⟨⟨ds', failures⟩, s', hds, h⟩ := bind_ok h
    cases x with
    | error e => cases (pure_ok h).1
    | ok d =>
      cases (pure_ok h).1
      exact .cons ⟨rfl, compileOne_ok hk hx⟩ (ih hds)

theorem compileUnder_ok (hk : k.treatments = Treatments.usual) {ctx : Strictness}
    {rules : Entries RuleSource} {t u : Tally} {s : Signature}
    (h : k.compileUnder ctx rules t = (.ok s, u)) (hs : s.isComplete = true) :
    s.strictness = ctx ∧ s.body.MadeOf rules ctx := by
  rw [compileUnder] at h
  split at h
  · next hwhole =>
    obtain ⟨x, t', hx, h⟩ := bind_ok h
    cases x with
    | error e => cases (pure_ok h).1; cases hs
    | ok d =>
      cases (pure_ok h).1
      exact ⟨rfl, .whole hwhole (compileOne_ok hk hx)⟩
  · next hfields =>
    obtain ⟨⟨ds, failures⟩, t', hx, h⟩ := bind_ok h
    cases (pure_ok h).1
    cases failures with
    | cons f failures => cases hs
    | nil => exact ⟨rfl, .fields (by simpa using hfields) (compileFields_ok hk hx)⟩

/-- **A complete signature** is made of the validators of the rules, under the policy that the
rules declare or else inherit. -/
theorem compile_ok (hk : k.treatments = Treatments.usual) {rules : Entries RuleSource}
    {inherited? : Option Strictness} {t u : Tally} {s : Signature}
    (h : k.compile (.mapping rules) inherited? t = (.ok s, u)) (hs : s.isComplete = true) :
    ∃ declared?, declaredStrictness rules = .ok declared? ∧
      s.strictness = (inherited?.getD k.strictness).override declared? ∧
      s.body.MadeOf rules s.strictness := by
  rw [compile] at h
  cases hd : declaredStrictness rules with
  | error e => rw [hd] at h; exact absurd h reject_ok
  | ok declared? =>
    rw [hd] at h
    obtain ⟨hstrictness, hbody⟩ := compileUnder_ok hk (mapReason_ok h) hs
    refine ⟨declared?, rfl, hstrictness, ?_⟩
    rw [hstrictness]
    exact hbody

end Compiler

/-- Only a complete signature accepts a payload. -/
theorem Signature.isComplete_of_ok {s : Signature} {payload w : Value} {t u : Tally}
    (h : s.validate payload t = (.ok w, u)) : s.isComplete = true := by
  rw [Signature.validate] at h
  split at h
  · assumption
  · exact absurd h reject_ok

end RuleSchema
