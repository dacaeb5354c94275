import RuleSchema.Proofs.Signature.Isolation
import RuleSchema.Proofs.Signature.Uses

/-!
# When generated defaults are made

A default that is a function stands for an absent value.  The rules of an operation are compiled
one by one, and the argument of the operation is handed to them, as a whole or field by field.  So
the functions that run while they are compiled are those that run early in one of them, and those
that run while an argument is validated are those that one of them needs for its part.

* `RunsEarly`: the functions that the fixed defaults in the rules of an operation need.
* `NeedsFor`: the functions that the rules of an operation need for an argument.
* `compile_calls` and `validate_calls`: **what runs**, while the rules are compiled and while an
  argument is validated.
* `generators_run_where_absent`: both for the counts of the functions.
-/

namespace RuleSchema

open Eval

/-- The function `n` runs while the rules of an operation are compiled. -/
def RunsEarly (rules : Entries RuleSource) (n : Nat) : Prop :=
  ∃ r, IsTop rules r ∧ r.RunsEarly n

/-- The rules of an operation need the function `n` for a payload. -/
inductive NeedsFor (rules : Entries RuleSource) (n : Nat) : Value → Prop
  | whole {r : Rule} {payload : Value} : Compiler.meansWhole rules = true →
      (RuleSource.mapping (Compiler.ruleEntries rules)).Means "$" r → r.Needs n payload →
      NeedsFor rules n payload
  | field {r : Rule} {name : Value} {source : RuleSource} {es : Entries Value} :
      Compiler.meansWhole rules = false → (name, source) ∈ Compiler.ruleEntries rules →
      source.Means (fieldPath name) r → r.Needs n ((es.find? name).getD .absent) →
      NeedsFor rules n (.mapping es)

section

variable {k : Compiler} {rules : Entries RuleSource} {inherited? : Option Strictness}
  {t u : Tally} {s : Signature} {S : Nat → Bool}

/-- The rule of a conversion is one of the rules at the top. -/
theorem IsTop.of_conversion {c : Conversion} {r : Rule} (hc : c ∈ Compiler.conversions rules)
    (hr : c.source.Means c.path r) : IsTop rules r := by
  by_cases hwhole : Compiler.meansWhole rules = true
  · rw [Compiler.conversions_whole hwhole, List.mem_singleton] at hc
    rw [hc] at hr
    exact .whole hwhole hr
  · rw [Compiler.conversions_fields hwhole] at hc
    obtain ⟨e, he, rfl⟩ := List.mem_map.mp hc
    exact .field (Bool.eq_false_iff.mpr hwhole) he hr

/-- **Compiling the rules of an operation** calls the functions that run early. -/
theorem compile_calls (hS : ∀ n, RunsEarly rules n → S n = true) (k : Compiler)
    (inherited? : Option Strictness) :
    (k.compile (.mapping rules) inherited?).Local S fun _ => True :=
  Compiler.compile_local (fun c hc ctx => c.compile_calls k ctx fun n ⟨r, hr, hn⟩ =>
    hS n ⟨r, .of_conversion hc hr, hn⟩) inherited?

/-- **Validating a payload** calls the functions that the rules need for it. -/
theorem validate_calls (hk : k.treatments = Treatments.usual)
    (h : k.compile (.mapping rules) inherited? t = (.ok s, u)) {payload : Value}
    (hS : ∀ n, NeedsFor rules n payload → S n = true) :
    (s.validate payload).Local S fun _ => True := by
  by_cases hs : s.isComplete = true
  swap
  · rw [Signature.validate, if_neg hs]
    exact Local.reject
  obtain ⟨-, -, -, hmade⟩ := Compiler.compile_ok hk h hs
  rw [Signature.validate, if_pos hs]
  cases hbody : s.body with
  | brokenWhole =>
    rw [hbody] at hmade
    cases hmade
  | whole d =>
    rw [hbody] at hmade
    cases hmade with
    | whole hwhole hd =>
      obtain ⟨r, hr, hd⟩ := hd
      exact (hd.callsAsNeeded S payload fun n hn => hS n (.whole hwhole hr hn)).mapReason
  | fields ds =>
    rw [hbody] at hmade
    cases hmade with
    | fields hfields hds =>
      refine Local.mapReason ?_
      cases payload with
      | mapping es =>
        have hvalidators : s.validators = ds := by rw [Signature.validators, hbody]
        rw [Signature.validateFields, hvalidators]
        refine Local.bind (Local.mapReason (Q := fun _ => True) ?_) fun _ _ => Local.pure trivial
        refine validateProperties_local _ fun e he => ?_
        obtain ⟨p, hp, hname, r, hr, hd⟩ := exists_of_mem_right hds he
        rw [hname]
        exact hd.callsAsNeeded S _ fun n hn => hS n (.field hfields hp hr hn)
      | _ => exact Local.reject

end

/-- **A generated default is made where its value is absent.**  Compiling the rules of an operation
leaves the count of every function as it is, unless a fixed default leaves out a value that the
function stands for.  Validating a payload leaves the count of every function as it is that stands
for no value that the payload leaves out.  So a payload that needs none of the functions that run
early is validated after the compilation as it would be before. -/
theorem generators_run_where_absent {k : Compiler} (hk : k.treatments = Treatments.usual)
    (rules : Entries RuleSource) (inherited? : Option Strictness) (t : Tally) :
    (∀ n, ¬ RunsEarly rules n →
      ((k.compile (.mapping rules) inherited?).after t).lookup n = t.lookup n) ∧
    ∀ s u, k.compile (.mapping rules) inherited? t = (.ok s, u) → ∀ payload,
      (∀ n t', ¬ NeedsFor rules n payload →
        ((s.validate payload).after t').lookup n = t'.lookup n) ∧
      ((∀ n, NeedsFor rules n payload → ¬ RunsEarly rules n) →
        (s.validate payload).outcome u = (s.validate payload).outcome t) := by
  have hcompile : (k.compile (.mapping rules) inherited?).Local (functionsThat (RunsEarly rules))
      fun _ => True := compile_calls (fun _ => functionsThat_iff.mpr) k inherited?
  have hother : ∀ {P : Nat → Prop} {n : Nat}, ¬ P n → functionsThat P n = false := fun hn =>
    Bool.eq_false_iff.mpr fun h => hn (functionsThat_iff.mp h)
  refine ⟨fun n hn => hcompile.lookup_after (hother hn) t, fun s u h payload => ?_⟩
  have hvalidate : (s.validate payload).Local (functionsThat (NeedsFor rules · payload))
      fun _ => True := validate_calls hk h fun _ hn => functionsThat_iff.mpr hn
  refine ⟨fun n t' hn => hvalidate.lookup_after (hother hn) t', fun hapart => ?_⟩
  have hu : u = (k.compile (.mapping rules) inherited?).after t := (congrArg Prod.snd h).symm
  rw [hu]
  exact hvalidate.outcome_after_others hcompile hapart t

/-- A counting function is not called while its rule is compiled, nor for a payload that has a value
in its place.  Inside an object whose default leaves its value out, it is called twice while the
rules are compiled. -/
theorem generators_run_where_absent_counter :
    let lone : Entries RuleSource :=
      [(.text "n", .mapping [(.text "type", .text "number"),
        (.text "default", .other (.func "count" 0 none))])]
    let nested : Entries RuleSource :=
      [(.text "o", .mapping [(.text "type", .text "object"),
        (.text "props", .mapping [(.text "n", .mapping [(.text "type", .text "number"),
          (.text "default", .other (.func "count" 0 none))])]),
        (.text "default", .mapping [])])]
    (∃ s, Compiler.compile {} (.mapping lone) none [] = (.ok s, []) ∧
      (∀ t, ((Compiler.compile {} (.mapping lone) none).after t).lookup 0 = t.lookup 0) ∧
      ∀ t, ((s.validate (.mapping [(.text "n", .int 5)])).after t).lookup 0 = t.lookup 0) ∧
    ∃ s, Compiler.compile {} (.mapping nested) none [] = (.ok s, [(0, 2)]) := by
  intro lone nested
  obtain ⟨s, hs⟩ : ∃ s, Compiler.compile {} (.mapping lone) none [] = (.ok s, []) := ⟨_, rfl⟩
  have hrule : ∀ e ∈ Compiler.ruleEntries lone, ∀ r, e.2.Means (fieldPath e.1) r →
      e.1 = .text "n" ∧ r = .number { default? := some (.func "count" 0 none) } {} := by
    intro e he r hr
    obtain rfl := List.mem_singleton.mp he
    exact ⟨rfl, (Except.ok.inj hr).symm⟩
  have hearly : ¬ RunsEarly lone 0 := by
    rintro ⟨r, ⟨hwhole, -⟩ | ⟨-, hmem, hr⟩, p, hp, w, q, x, hw, -⟩
    · cases hwhole
    · obtain ⟨-, rfl⟩ := hrule _ hmem r hr
      rw [List.mem_singleton.mp hp] at hw
      cases hw
  have hneeds : ¬ NeedsFor lone 0 (.mapping [(.text "n", .int 5)]) := by
    rintro (⟨hwhole, -⟩ | ⟨-, hmem, hr, hn⟩)
    · cases hwhole
    · obtain ⟨rfl, rfl⟩ := hrule _ hmem _ hr
      rcases hn with ⟨habsent, -⟩ | ⟨-, hhands, -⟩
      · cases habsent
      · cases hhands.isComposite
  have hlaw := generators_run_where_absent (k := {}) rfl lone none
  exact ⟨⟨s, hs, fun t => (hlaw t).1 0 hearly,
    fun t => ((hlaw []).2 s _ hs _).1 0 t hneeds⟩, _, rfl⟩

end RuleSchema
