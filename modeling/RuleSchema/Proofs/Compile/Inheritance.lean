import RuleSchema.Proofs.Evaluation
import RuleSchema.Proofs.Rule.Induction
import RuleSchema.Signature.Compiler
import RuleSchema.Signature.Export

/-!
# Inherited policies for unknown keys

A compiler hands the policy for unknown keys down to the rules inside a rule, and an
object may declare one of its own.  This file says what that comes to.  `annotate`
writes the policy in force into every object of a rule, and then nothing is left to
inherit:

    compileRule ts (r.annotate c.mode) c' path = compileRule ts r c path

for every `c'` (`compileRule_annotate`).  The two sides are equal as evaluations, so
that the validators, their schemas and the errors are the same.

Two facts follow.  Only the mode of an inherited policy matters
(`compileRule_congr_mode`), and nothing of it when every outermost object declares one
(`compileRule_of_declares`).  `Compiler.behaviour_compile` carries the first over to the
rules of an operation.
-/

namespace RuleSchema

/-! ### The policy in force -/

/-- The policy that a declaration stands for. -/
def DeclaredStrictness.mode : DeclaredStrictness → UnknownKeys
  | .remove => .remove
  | .strict true => .reject
  | .strict false => .passthrough

/-- The declaration of a policy. -/
def UnknownKeys.declaration : UnknownKeys → DeclaredStrictness
  | .remove => .remove
  | .reject => .strict true
  | .passthrough => .strict false

/-- The policy in force at an object: the one it declares, and otherwise the one it
inherits. -/
def ObjectOptions.modeUnder (o : ObjectOptions) (inherited : UnknownKeys) : UnknownKeys :=
  (o.strict?.map DeclaredStrictness.mode).getD inherited

theorem UnknownKeys.mode_declaration (u : UnknownKeys) : u.declaration.mode = u := by
  cases u <;> rfl

theorem Strictness.mode_override (c : Strictness) (d? : Option DeclaredStrictness) :
    (c.override d?).mode = (d?.map DeclaredStrictness.mode).getD c.mode := by
  rcases d? with _ | ⟨_ | _⟩ | _ <;> rfl

/-- A declaration of a policy puts it in force, whatever is inherited. -/
theorem Strictness.mode_override_declaration (c : Strictness) (u : UnknownKeys) :
    (c.override (some u.declaration)).mode = u := by
  rw [mode_override, Option.map_some, Option.getD_some, u.mode_declaration]

/-! ### Annotated rules -/

namespace Rule

mutual

/-- A rule in which every object declares the policy in force at it. -/
def annotate (inherited : UnknownKeys) : Rule → Rule
  | .array c items o => .array c (annotate inherited items) o
  | .object c props o =>
    .object c (annotateProps (o.modeUnder inherited) props)
      { o with strict? := some (o.modeUnder inherited).declaration }
  | .multi c branches => .multi c (annotateList inherited branches)
  | .tuple c slots => .tuple c (annotateList inherited slots)
  | .record c key value => .record c (annotate inherited key) (annotate inherited value)
  | r => r
termination_by structural r => r

/-- Named rules in which every object declares the policy in force at it. -/
def annotateProps (inherited : UnknownKeys) : List (String × Rule) → List (String × Rule)
  | [] => []
  | (name, r) :: props => (name, annotate inherited r) :: annotateProps inherited props
termination_by structural props => props

/-- Rules in which every object declares the policy in force at it. -/
def annotateList (inherited : UnknownKeys) : List Rule → List Rule
  | [] => []
  | r :: rules => annotate inherited r :: annotateList inherited rules
termination_by structural rules => rules

end

mutual

/-- Whether every outermost object of a rule declares a policy. -/
def declaresOutermost : Rule → Bool
  | .array _ items _ => declaresOutermost items
  | .object _ _ o => o.strict?.isSome
  | .multi _ branches => allDeclareOutermost branches
  | .tuple _ slots => allDeclareOutermost slots
  | .record _ key value => declaresOutermost key && declaresOutermost value
  | _ => true
termination_by structural r => r

/-- Whether every outermost object of some rules declares a policy. -/
def allDeclareOutermost : List Rule → Bool
  | [] => true
  | r :: rules => declaresOutermost r && allDeclareOutermost rules
termination_by structural rules => rules

end

theorem annotate_simple (r : Rule) (h : r.tag.isComposite = false) (u : UnknownKeys) :
    r.annotate u = r := by
  cases r <;> first | rfl | cases h

end Rule

/-! ### Compiling an annotated rule -/

/-- The validator of a rule is not changed by annotating it, under any policy. -/
def KeepsValidator (ts : Treatments) (r : Rule) : Prop :=
  ∀ (c c' : Strictness) (path : String),
    compileRule ts (r.annotate c.mode) c' path = compileRule ts r c path

section
variable {ts : Treatments}

theorem compileProps_annotate : ∀ (props : List (String × Rule)),
    (∀ e ∈ props, KeepsValidator ts e.2) → ∀ (c c' : Strictness) (path : String),
      compileProps ts (Rule.annotateProps c.mode props) c' path = compileProps ts props c path := by
  intro props
  induction props with
  | nil => intro _ c c' path; rfl
  | cons e props ih =>
    intro h c c' path
    have hr : KeepsValidator ts e.2 := h e List.mem_cons_self
    have hprops := ih (fun e he => h e (List.mem_cons_of_mem _ he)) c c' path
    simp only [Rule.annotateProps, compileProps, hr c c' _, hprops]

theorem compileBranches_annotate : ∀ (rules : List Rule),
    (∀ r ∈ rules, KeepsValidator ts r) → ∀ (i : Nat) (c c' : Strictness) (path : String),
      compileBranches ts i (Rule.annotateList c.mode rules) c' path
        = compileBranches ts i rules c path := by
  intro rules
  induction rules with
  | nil => intro _ i c c' path; rfl
  | cons r rules ih =>
    intro h i c c' path
    have hr : KeepsValidator ts r := h r List.mem_cons_self
    have hrules := ih (fun r hr => h r (List.mem_cons_of_mem _ hr)) (i + 1) c c' path
    simp only [Rule.annotateList, compileBranches, hr c c' _, hrules]

theorem compileSlots_annotate : ∀ (rules : List Rule),
    (∀ r ∈ rules, KeepsValidator ts r) → ∀ (i : Nat) (c c' : Strictness) (path : String),
      compileSlots ts i (Rule.annotateList c.mode rules) c' path
        = compileSlots ts i rules c path := by
  intro rules
  induction rules with
  | nil => intro _ i c c' path; rfl
  | cons r rules ih =>
    intro h i c c' path
    have hr : KeepsValidator ts r := h r List.mem_cons_self
    have hrules := ih (fun r hr => h r (List.mem_cons_of_mem _ hr)) (i + 1) c c' path
    simp only [Rule.annotateList, compileSlots, hr c c' _, hrules]

/-- An annotated object is compiled under the policy that it declares, which is the one
in force at the object before. -/
theorem keepsValidator_object (c : CommonOptions) (props : List (String × Rule))
    (o : ObjectOptions) (h : ∀ e ∈ props, KeepsValidator ts e.2) :
    KeepsValidator ts (.object c props o) := by
  intro ctx ctx' path
  have hmode : (ctx.override o.strict?).mode = o.modeUnder ctx.mode := ctx.mode_override _
  have hmode' : (ctx'.override (some (o.modeUnder ctx.mode).declaration)).mode
      = o.modeUnder ctx.mode := ctx'.mode_override_declaration _
  have hprops := compileProps_annotate props h (ctx.override o.strict?)
    (ctx'.override (some (o.modeUnder ctx.mode).declaration)) path
  rw [hmode] at hprops
  simp only [Rule.annotate, compileRule, hprops, hmode, hmode']
  rfl

/-- **What is inherited can be written down.**  A rule whose objects all declare the
policy in force has, under every policy, the validator of the rule as it was. -/
theorem compileRule_annotate (ts : Treatments) : ∀ r : Rule, KeepsValidator ts r := by
  apply Rule.induct
  refine ⟨?simple, ?array, keepsValidator_object, ?multi, ?tuple, ?record⟩
  case simple =>
    intro r hr c c' path
    rw [r.annotate_simple hr]
    cases r <;> first | rfl | cases hr
  case array =>
    intro c items o h ctx ctx' path
    simp only [Rule.annotate, compileRule, h ctx ctx' _]
    rfl
  case multi =>
    intro c branches h ctx ctx' path
    simp only [Rule.annotate, compileRule, compileBranches_annotate branches h 0 ctx ctx' path]
    rfl
  case tuple =>
    intro c slots h ctx ctx' path
    simp only [Rule.annotate, compileRule, compileSlots_annotate slots h 0 ctx ctx' path]
    rfl
  case record =>
    intro c key value hkey hvalue ctx ctx' path
    simp only [Rule.annotate, compileRule, hkey ctx ctx' _, hvalue ctx ctx' _]
    rfl

/-- Only the mode of an inherited policy matters. -/
theorem compileRule_congr_mode (r : Rule) {c c' : Strictness} (h : c'.mode = c.mode)
    (path : String) : compileRule ts r c' path = compileRule ts r c path := by
  rw [← compileRule_annotate ts r c' c path, h, compileRule_annotate ts r c c path]

end

/-! ### Rules that inherit nothing -/

namespace Rule

/-- The annotated form of a rule does not depend on what it inherits. -/
def InheritsNothing (r : Rule) : Prop :=
  r.declaresOutermost = true → ∀ u u' : UnknownKeys, r.annotate u = r.annotate u'

theorem annotateList_of_declares : ∀ (rules : List Rule), (∀ r ∈ rules, r.InheritsNothing) →
    allDeclareOutermost rules = true →
      ∀ u u' : UnknownKeys, annotateList u rules = annotateList u' rules := by
  intro rules
  induction rules with
  | nil => intro _ _ u u'; rfl
  | cons r rules ih =>
    intro h hd u u'
    rw [allDeclareOutermost, Bool.and_eq_true] at hd
    rw [annotateList, annotateList, h r List.mem_cons_self hd.1 u u',
      ih (fun r hr => h r (List.mem_cons_of_mem _ hr)) hd.2 u u']

theorem annotate_of_declares : ∀ r : Rule, r.InheritsNothing := by
  apply induct
  refine ⟨?simple, ?array, ?object, ?multi, ?tuple, ?record⟩
  case simple =>
    intro r hr _ u u'
    rw [r.annotate_simple hr, r.annotate_simple hr]
  case array =>
    intro c items o h hd u u'
    rw [annotate, annotate, h hd u u']
  case object =>
    intro c props o _ hd u u'
    obtain ⟨d, hd⟩ := Option.isSome_iff_exists.mp hd
    have hmode : o.modeUnder u = o.modeUnder u' := by
      rw [ObjectOptions.modeUnder, ObjectOptions.modeUnder, hd]
      rfl
    rw [annotate, annotate, hmode]
  case multi =>
    intro c branches h hd u u'
    rw [annotate, annotate, annotateList_of_declares branches h hd u u']
  case tuple =>
    intro c slots h hd u u'
    rw [annotate, annotate, annotateList_of_declares slots h hd u u']
  case record =>
    intro c key value hkey hvalue hd u u'
    rw [declaresOutermost, Bool.and_eq_true] at hd
    rw [annotate, annotate, hkey hd.1 u u', hvalue hd.2 u u']

end Rule

theorem compileRule_of_declares {ts : Treatments} {r : Rule} (h : r.declaresOutermost = true)
    (c c' : Strictness) (path : String) : compileRule ts r c' path = compileRule ts r c path := by
  rw [← compileRule_annotate ts r c' c path, r.annotate_of_declares h c'.mode c.mode,
    compileRule_annotate ts r c c path]

/-! ### The rules of an operation -/

section
variable (k : Compiler) {c c' : Strictness} (h : c'.mode = c.mode)
include h

theorem compileSource_congr_mode (ts : Treatments) (source : RuleSource) (path : String) :
    compileSource ts source c' path = compileSource ts source c path := by
  simp only [compileSource, compileRule_congr_mode _ h]

theorem Compiler.compileFields_congr_mode (rules : Entries RuleSource) :
    k.compileFields c' rules = k.compileFields c rules := by
  induction rules with
  | nil => rfl
  | cons e rules ih =>
    simp only [Compiler.compileFields, Compiler.compileOne, compileSource_congr_mode h, ih]

/-- The policy is kept in the signature, and nothing else of a signature depends on more
than its mode. -/
theorem Compiler.compileUnder_congr_mode (rules : Entries RuleSource) :
    k.compileUnder c' rules
      = (fun s => { s with strictness := c' }) <$> k.compileUnder c rules := by
  simp only [Compiler.compileUnder, Compiler.compileOne, compileSource_congr_mode h,
    Compiler.compileFields_congr_mode k h]
  split
  · simp only [map_bind]
    congr 1
    funext d
    cases d <;> rfl
  · simp only [map_bind, map_pure]

end

/-- What a signature does: its judgement on every payload, and its schema. -/
def Signature.behaviour (s : Signature) :
    (Value → Eval Refusal Value) × Except (Stop RuleError) Schema :=
  (s.validate, s.schema.map Prod.fst)

/-- The schema of a signature depends on its policy only through the mode. -/
theorem Signature.schema_congr_mode (body : SignatureBody) (failures : List FieldFailure)
    {c c' : Strictness} (h : c'.mode = c.mode) :
    (Signature.mk body c' failures).schema.map Prod.fst
      = (Signature.mk body c failures).schema.map Prod.fst := by
  cases failures with
  | cons f failures => rfl
  | nil =>
    rcases body with vs | d | _
    · show Except.map Prod.fst (exporting (exportEntries vs) >>= _) =
        Except.map Prod.fst (exporting (exportEntries vs) >>= _)
      cases exporting (exportEntries vs) with
      | error e => rfl
      | ok x =>
        simp only [h, bind, Except.bind]
        cases exporting (requiredFields x.2) <;> rfl
    · show Except.map Prod.fst (exporting d.export >>= _) =
        Except.map Prod.fst (exporting d.export >>= _)
      cases exporting d.export <;> rfl
    · show Except.map Prod.fst (.ok _) = Except.map Prod.fst (.ok _)
      rw [h]
      rfl

/-- What a signature does depends on its policy only through the mode. -/
theorem Signature.behaviour_congr_mode (s : Signature) {c c' : Strictness}
    (h : c'.mode = c.mode) :
    { s with strictness := c' }.behaviour = { s with strictness := c }.behaviour := by
  have hvalidate : { s with strictness := c' }.validate = { s with strictness := c }.validate := by
    funext payload
    simp only [Signature.validate, Signature.validateFields, h]
    rfl
  rw [Signature.behaviour, Signature.behaviour, hvalidate,
    Signature.schema_congr_mode s.body s.failures h]

theorem Compiler.behaviour_compileUnder (k : Compiler) (rules : Entries RuleSource)
    {c c' : Strictness} (h : c'.mode = c.mode) :
    Signature.behaviour <$> k.compileUnder c' rules
      = Signature.behaviour <$> k.compileUnder c rules := by
  rw [k.compileUnder_congr_mode h, k.compileUnder_congr_mode (rfl : c.mode = c.mode),
    Functor.map_map, Functor.map_map, Functor.map_map]
  congr 1
  funext s
  exact s.behaviour_congr_mode h

theorem Compiler.behaviour_compile (k : Compiler) (rules : RuleSource) {c c' : Strictness}
    (h : c'.mode = c.mode) :
    Signature.behaviour <$> k.compile rules (some c')
      = Signature.behaviour <$> k.compile rules (some c) := by
  cases rules with
  | mapping es =>
    simp only [Compiler.compile, Option.getD_some]
    cases Compiler.declaredStrictness es with
    | error e => rfl
    | ok d? =>
      have hd : (c'.override d?).mode = (c.override d?).mode := by
        rw [c'.mode_override, c.mode_override, h]
      simp only [Eval.map_mapReason]
      rw [k.behaviour_compileUnder es hd]
  | ready r => rfl
  | text s => rfl
  | list xs => rfl
  | other v => rfl

/-- **A policy is inherited unchanged.**  Writing the policy in force into every object
of a rule leaves nothing to inherit; only the mode of an inherited policy matters; and
none of it matters to a rule whose outermost objects declare one.  Of the rules of an
operation the second holds as well, for all that a signature does. -/
theorem policy_inherited_unchanged (ts : Treatments) (r : Rule) (c c' : Strictness) :
    (∀ path, compileRule ts (r.annotate c.mode) c' path = compileRule ts r c path) ∧
    (c'.mode = c.mode → ∀ path, compileRule ts r c' path = compileRule ts r c path) ∧
    (r.declaresOutermost = true →
      ∀ path, compileRule ts r c' path = compileRule ts r c path) ∧
    (c'.mode = c.mode → ∀ (k : Compiler) (rules : RuleSource),
      Signature.behaviour <$> k.compile rules (some c')
        = Signature.behaviour <$> k.compile rules (some c)) :=
  ⟨compileRule_annotate ts r c c', fun h => compileRule_congr_mode r h,
    fun h => compileRule_of_declares h c c', fun h k rules => k.behaviour_compile rules h⟩

/-- Two flags at once mean that unknown keys are removed, as deep as objects go that declare
nothing. -/
theorem policy_inherited_unchanged_nested :
    let inner : Rule := .object {} [("id", .number {} {})] {}
    let r : Rule := .object {} [("items", .array {} inner {})] {}
    r.annotate .remove
        = .object {} [("items", .array {} (.object {} [("id", .number {} {})]
            { strict? := some .remove }) {})] { strict? := some .remove } ∧
      compileRule Treatments.usual (r.annotate .remove) ⟨true, false⟩ "$"
        = compileRule Treatments.usual r ⟨true, true⟩ "$" ∧
      compileRule Treatments.usual r ⟨false, true⟩ "$"
        = compileRule Treatments.usual r ⟨true, true⟩ "$" ∧
      compileRule Treatments.usual (r.annotate .remove) {} "$"
        = compileRule Treatments.usual (r.annotate .remove) ⟨true, true⟩ "$" :=
  ⟨rfl, (policy_inherited_unchanged _ _ ⟨true, true⟩ _).1 "$",
    (policy_inherited_unchanged _ _ _ _).2.1 rfl "$",
    (policy_inherited_unchanged _ _ _ _).2.2.1 rfl "$"⟩

end RuleSchema
