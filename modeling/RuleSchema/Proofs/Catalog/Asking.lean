import RuleSchema.Catalog.Basic
import RuleSchema.Proofs.Catalog.Alone
import RuleSchema.Proofs.Json.Canonical

/-!
# Asking a catalog

The tools of a catalog are listed by their names, looked up and called.  As long as the names are
distinct, the tool under a name does not depend on the order in which tools are kept.  A call of a
tool that there is can be rejected for its arguments only, and one of any other tool is rejected as
such.  A call asks the tool whether its argument is wrapped, which may add to its schema, but leaves
it what it is to those who call it.

* `toolDocuments_eq`: the documents of tools are sorted by names.
* `Tool.find?_eq_some`: which tool is found under a name.
* `callTool_unknown` and `callTool_known` are the two kinds of calls.
* `Tool.Same` and `SameTools` say of tools that they are the same to those who call them.
* `ask_same`: **asking leaves all tools what they are**.
-/

namespace RuleSchema

/-! ### The order of tools -/

theorem toolDocuments_eq (c : Catalog) :
    toolDocuments c = (sortedBy Tool.name c.tools).map fun t => t.description.document := rfl

section

variable {tools tools' : List Tool}

/-- Among tools with distinct names there is at most one under a name. -/
theorem eq_of_toolName (h : (tools.map Tool.name).Nodup) {t u : Tool} (ht : t ∈ tools)
    (hu : u ∈ tools) (hname : t.name = u.name) : t = u :=
  List.inj_on_of_nodup_map h ht hu hname

theorem Tool.find?_name {n : String} {t : Tool} (h : Tool.find? tools n = some t) :
    t.name = n := by
  have hfound := List.find?_some h
  exact of_decide_eq_true hfound

theorem Tool.find?_eq_some (h : (tools.map Tool.name).Nodup) {n : String} {t : Tool} :
    Tool.find? tools n = some t ↔ t ∈ tools ∧ t.name = n := by
  constructor
  · intro hfind
    exact ⟨List.mem_of_find?_eq_some hfind, find?_name hfind⟩
  · rintro ⟨ht, hname⟩
    cases hfind : Tool.find? tools n with
    | none => exact absurd (decide_eq_true hname) (List.find?_eq_none.mp hfind t ht)
    | some u =>
      have hu : u.name = t.name := (find?_name hfind).trans hname.symm
      rw [eq_of_toolName h (List.mem_of_find?_eq_some hfind) ht hu]

end

open Eval

section

variable {c : Catalog} {n : String} {k : Compiler} {tools : List Tool}

/-! ### Calls -/

/-- Whatever stops a call, it is not that the signature is incomplete or that there is no tool. -/
def Judged (e : Stop Refusal) : Prop := ∀ r, e = .rejected r → ∃ p, r = .rejected p

theorem validate_judged {s : Signature} (h : s.isComplete = true) (payload : Value) (t : Tally) :
    Outcome Judged (fun _ => True) ((s.validate payload).outcome t) := by
  have hrejected : ∀ x : Eval PayloadError Value,
      Outcome Judged (fun _ => True) ((x.mapReason Refusal.rejected).outcome t) := by
    intro x
    rw [outcome_mapReason]
    rcases x.outcome t with (p | f) | v
    · rintro _ ⟨⟩
      exact ⟨p, rfl⟩
    · rintro _ ⟨⟩
    · trivial
  rw [Signature.validate, if_pos h]
  split
  · exact hrejected _
  · exact hrejected _

theorem validateCall_judged {s : Signature} (h : s.Lasting) (arguments : Value) (t : Tally) :
    Outcome Judged (fun _ => True) ((s.validateCall arguments).outcome t) := by
  obtain ⟨b, hwraps, -⟩ := h.wraps_ok
  rw [Signature.validateCall, hwraps]
  cases b with
  | false => exact validate_judged h.complete arguments t
  | true =>
    cases hunwrapped : unwrapped arguments with
    | error p =>
      rintro _ ⟨⟩
      exact ⟨p, rfl⟩
    | ok payload => exact validate_judged h.complete payload t

theorem CatalogM.Ends.throw {ρ α : Type} {P : Stop ρ → Prop} {Q : α → Prop} {e : Stop ρ}
    (h : P e) : (MonadExcept.throw e : CatalogM ρ α).Ends k P Q :=
  fun _ hc => ⟨hc, rfl, h⟩

/-- The arguments of a lasting signature are judged, and its tool stays. -/
theorem countedCall_ends {s : Signature} (h : s.Lasting) (arguments : Value) :
    (s.countedCall arguments).Ends k Judged fun _ => True := by
  refine .bind (Q := fun r => ∀ e, r = .error e → ∃ p, e = Refusal.rejected p)
    (.ofEval fun u => ?_) fun r hr => ?_
  · have hjudged := validateCall_judged h arguments u
    rw [outcome_attempt]
    generalize (s.validateCall arguments).outcome u = r at hjudged
    rcases r with (e | f) | v
    · rintro _ ⟨⟩
      exact hjudged e rfl
    · rintro _ ⟨⟩
    · rintro _ ⟨⟩
  · cases r with
    | ok v => exact .bind (.record _) fun _ _ => .pure trivial
    | error e =>
      obtain ⟨p, rfl⟩ := hr e rfl
      refine .bind (.record _) fun _ _ => .throw ?_
      rintro _ ⟨⟩
      exact ⟨p, rfl⟩

theorem findTool_run (n : String) (c : Catalog) :
    findTool n c = (match Tool.find? c.tools n with
      | some t => .ok t
      | none => .error (.rejected (.unknownTool n)), c) := by
  change (match Tool.find? c.tools n with
    | some t => (pure t : CatalogM Refusal Tool)
    | none => throw (Stop.rejected (Refusal.unknownTool n))) c = _
  cases Tool.find? c.tools n <;> rfl

/-- A call of a tool that there is not. -/
theorem callTool_unknown (h : Tool.find? c.tools n = none) (arguments : Value) :
    callTool n arguments c = (.error (.rejected (.unknownTool n)), c) := by
  change (findTool n >>= _) c = _
  rw [CatalogM.bind_run, findTool_run, h]

/-- A call of a tool that there is counts a call of its signature, and the tool has been asked. -/
theorem callTool_run {t : Tool} (h : Tool.find? c.tools n = some t) (arguments : Value) :
    callTool n arguments c = t.signature.countedCall
      (if arguments.isNull then .mapping [] else arguments)
      { c with tools := Tool.ask n c.tools } := by
  change (findTool n >>= _) c = _
  rw [CatalogM.bind_run, findTool_run, h]
  rfl

/-- A call of a tool that there is: its arguments are judged, and the tool has been asked. -/
theorem callTool_known {t : Tool} (h : Tool.find? c.tools n = some t) (ht : t.signature.Lasting)
    (arguments : Value) :
    (Prod.snd (callTool n arguments c)).compiler = c.compiler ∧
      (Prod.snd (callTool n arguments c)).tools = Tool.ask n c.tools ∧
        Outcome Judged (fun _ => True) (Prod.fst (callTool n arguments c)) := by
  rw [callTool_run h]
  exact countedCall_ends ht _ { c with tools := Tool.ask n c.tools } rfl

/-! ### What requests leave alone -/

/-- The same tool to those who call it. -/
structure Tool.Same (t u : Tool) : Prop where
  operation : u.operation = t.operation
  description : u.description = t.description
  fingerprint : u.fingerprint = t.fingerprint
  calls : ∀ arguments, u.signature.validateCall arguments = t.signature.validateCall arguments

/-- The same tools to those who call them. -/
abbrev SameTools : List Tool → List Tool → Prop := List.Forall₂ Tool.Same

theorem Tool.Same.refl (t : Tool) : t.Same t := ⟨rfl, rfl, rfl, fun _ => rfl⟩

theorem Tool.Same.trans {t u v : Tool} (h : t.Same u) (h' : u.Same v) : t.Same v :=
  ⟨h'.operation.trans h.operation, h'.description.trans h.description,
    h'.fingerprint.trans h.fingerprint, fun a => (h'.calls a).trans (h.calls a)⟩

theorem SameTools.refl (tools : List Tool) : SameTools tools tools :=
  List.forall₂_same.mpr fun t _ => Tool.Same.refl t

theorem SameTools.trans {ts us vs : List Tool} (h : SameTools ts us) (h' : SameTools us vs) :
    SameTools ts vs := by
  induction h generalizing vs with
  | nil => exact h'
  | cons htu _ ih =>
    cases h' with
    | cons huv hrest => exact .cons (htu.trans huv) (ih hrest)

theorem SameTools.names {ts us : List Tool} (h : SameTools ts us) :
    us.map Tool.name = ts.map Tool.name := by
  induction h with
  | nil => rfl
  | cons htu _ ih =>
    rw [List.map_cons, List.map_cons, ih, Tool.name, Tool.name, htu.description]

theorem Tool.Registered.asked {t : Tool} (h : t.Registered) :
    Tool.Registered { t with signature := t.signature.asked } :=
  ⟨h.lasting.asked.1, h.fingerprint⟩

/-- Asking a tool whether its argument is wrapped leaves all tools what they are. -/
theorem ask_same (n : String) (h : ∀ t ∈ tools, t.Registered) :
    SameTools tools (Tool.ask n tools) ∧ ∀ t ∈ Tool.ask n tools, t.Registered := by
  constructor
  · refine List.forall₂_map_right_iff.mpr (List.forall₂_same.mpr fun t ht => ?_)
    split
    · exact ⟨rfl, rfl, rfl, (h t ht).lasting.asked.2⟩
    · exact .refl t
  · refine List.forall_mem_map.mpr fun t ht => ?_
    split
    · exact (h t ht).asked
    · exact h t ht

end

end RuleSchema
