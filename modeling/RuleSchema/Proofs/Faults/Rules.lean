import RuleSchema.Proofs.Absence.Escape
import RuleSchema.Proofs.Export.Arrays
import RuleSchema.Proofs.Faults.Steps
import RuleSchema.Proofs.Number.Whole

/-!
# The faults of rules

A rule from a document is validated and compiled with few faults.  A rule for whole numbers
compares a number with the double nearest to it, which a large number does not have; and a
record whose keys are turned into lists asks for a mapping with such keys.  A pattern may ask
for more repetitions than can be counted.  Nothing else can go wrong.

* `Rule.Meets` are the faults of validating by a rule, apart from those of the rules inside.
* `Rule.RefusesPattern` says that a pattern of a rule cannot be read.
* `Rule.CompilesTo.makesKeys`: what a rule makes of a text can be a key, unless the rule
  gives lists.
* `compileRule_sound`: **compiling a rule from a document** has its faults among these, and
  so has the validator that it gives.
* `wholeNumber_faults`, `recordStep_faults_of_list`: such rules do have these faults.
-/

namespace RuleSchema

open Eval

/-! ### Where faults come from -/

mutual

/-- Whether a rule makes lists of other values, or is a union with a branch that does. -/
def Rule.givesLists : Rule → Bool
  | .array c _ _ => c.convert
  | .multi _ branches => Rule.someGiveLists branches
  | _ => false
termination_by structural r => r

/-- Whether one of some rules makes lists of other values, or is a union with a branch that
does. -/
def Rule.someGiveLists : List Rule → Bool
  | [] => false
  | r :: rules => Rule.givesLists r || Rule.someGiveLists rules
termination_by structural rules => rules

end

theorem Rule.someGiveLists_of_mem {rules : List Rule} {r : Rule} (hr : r ∈ rules)
    (h : r.givesLists = true) : Rule.someGiveLists rules = true := by
  induction rules with
  | nil => exact absurd hr List.not_mem_nil
  | cons q rules ih =>
    rw [Rule.someGiveLists, Bool.or_eq_true]
    rcases List.mem_cons.mp hr with rfl | hr
    · exact .inl h
    · exact .inr (ih hr)

/-- Whether a number passes what a rule compares numbers with. -/
def NumberOptions.compares (o : NumberOptions) (n : Number) : Bool :=
  match o.equal? with
  | some m => n.equals m
  | none => o.min?.all (·.atMost n) && o.max?.all n.atMost

/-- The faults that validating by a rule may meet, apart from those of the rules inside it. -/
inductive Rule.Meets : Rule → Fault → Prop
  /-- A whole number without a double passes what it is compared with. -/
  | wholeNumber {c : CommonOptions} {o : NumberOptions} {n : Int} : o.integer = true →
      o.compares (.int n) = true → Binary64.ofInt? n = none →
      Meets (.number c o) .tooLargeForFloat
  /-- A key becomes a list. -/
  | listKey {c : CommonOptions} {key value : Rule} : key.givesLists = true →
      Meets (.record c key value) (.unkeyable "list")

/-- The source of a pattern. -/
def PatternSpec.text : PatternSpec → String
  | .source s => s
  | .compiled s _ => s

/-- The sources of the patterns that compiling a rule reads. -/
def Rule.patternSources : Rule → List String
  | .string _ o => (o.pattern?.map PatternSpec.text).toList ++ o.charsets.map Charset.source ++
      (match o.enum? with
        | some (a :: as) => [Pattern.enumSource (a :: as)]
        | _ => [])
  | .currency _ o => [match o.customRegex? with
      | some spec => spec.text
      | none => Pattern.currencySource (o.symbol?.getD "") o.symbolOptional o.thousandSeparator
          o.decimalSeparator]
  | .mac _ => [macSource]
  | _ => []

/-- A pattern of a rule asks for more repetitions than can be counted. -/
def Rule.RefusesPattern (r : Rule) : Prop :=
  ∃ source ∈ r.patternSources, ∃ flags, Pattern.ofSource source flags = .error .repetitionTooLarge

/-! ### Keys -/

/-- A value that is present and can be a key. -/
def Value.IsKey (v : Value) : Prop := v.isAbsent = false ∧ v.unkeyable? = none

theorem ScalarProperty.key : ScalarProperty Value.IsKey :=
  ⟨fun _ => ⟨rfl, rfl⟩, fun _ => ⟨rfl, rfl⟩, fun _ => ⟨rfl, rfl⟩, fun _ => ⟨rfl, rfl⟩,
    fun _ _ => ⟨rfl, rfl⟩⟩

/-- A rule without rules inside makes keys of texts. -/
theorem key_of_simple {r : Rule} {ctx : Strictness} {d : Validator} {s : String} {w : Value}
    (hcomposite : r.tag.isComposite = false) (hd : r.CompilesTo ctx d)
    (h : d.Gives (.text s) w) : w.unkeyable? = none := by
  by_cases hforbidden : r.tag = .forbidden
  · -- a forbidden text is made absent, which can be a key as well
    obtain ⟨c, remove, rfl⟩ := Rule.eq_forbidden hforbidden
    exact hd.forbidden_keeps (P := fun v => v.unkeyable? = none) rfl rfl h
  · refine (hd.simple_keeps hcomposite hforbidden .key ?_ ⟨rfl, rfl⟩ h).2
    intro v a t u hv ha
    rw [present_ok hv.1 ha]
    exact hv

/-- What a shape stage that only checks follow makes of a text: null, or what the check of the
type makes of it. -/
theorem shape_of_text {r : Rule} {shape : Shape} {stage : Stage} {rest : List Stage}
    {d : Validator} {s : String} {w : Value} (hs : ShapeOf r shape stage)
    (hstages : d.stages = stage :: rest)
    (hrest : ∀ s ∈ rest, ∃ cs, s.run = Stage.runChecks cs) (h : d.Gives (.text s) w) :
    w = .null ∨ ∃ t u, shape.check (.text s) t = (.ok w, u) :=
  shape_of_full hs hstages hrest rfl h

/-- **What a rule makes of a text can be a key**, unless the rule gives lists. -/
theorem Rule.key_kind (r : Rule) : ∀ {ctx : Strictness} {d : Validator} {s : String} {w : Value}
    {kind : String}, r.CompilesTo ctx d → d.Gives (.text s) w → w.unkeyable? = some kind →
      kind = "list" ∧ r.givesLists = true := by
  refine Rule.induct (P := fun r => ∀ {ctx : Strictness} {d : Validator} {s : String} {w : Value}
    {kind : String}, r.CompilesTo ctx d → d.Gives (.text s) w → w.unkeyable? = some kind →
      kind = "list" ∧ r.givesLists = true)
    { simple := ?simple, array := ?array, object := ?object, multi := ?multi, tuple := ?tuple
      record := ?record } r
  case simple =>
    intro r hcomposite ctx d s w kind hd h hw
    rw [key_of_simple hcomposite hd h] at hw
    cases hw
  case array =>
    intro c items o _ ctx d s w kind hd h hw
    obtain ⟨_, _, _, sizes, contents, _, _, _, hs, hsizes, _, hcontents, hmade⟩ := hd.array
    rcases shape_of_text hs hmade.stages (List.forall_mem_append.mpr
      ⟨hsizes.all_checks, hcontents.all_checks⟩) h with rfl | ⟨t, u, h⟩
    · cases hw
    · dsimp only at h
      cases hc : c.convert with
      | true =>
        obtain ⟨_, ys, _, _, rfl, _⟩ := arrayStep_ok h
        exact ⟨(Option.some.inj hw).symm, hc⟩
      | false =>
        rw [hc] at h
        exact absurd h reject_ok
  case object =>
    intro c props o _ ctx d s w kind hd h hw
    obtain ⟨_, _, _, sizes, _, _, hs, hsizes, hmade⟩ := hd.object
    rcases shape_of_text hs hmade.stages hsizes.all_checks h with rfl | ⟨_, _, h⟩
    · cases hw
    · dsimp only at h
      obtain ⟨_, _, _, _, h, _⟩ := objectStep_ok h
      cases h
  case multi =>
    intro c branches ih ctx d s w kind hd h hw
    obtain ⟨ds, _, _, hds, _, hs, hmade⟩ := hd.multi
    rcases shape_of_text hs hmade.stages no_stages h with rfl | ⟨_, _, h⟩
    · cases hw
    · obtain ⟨d', hd', h⟩ := unionStep_ok h
      obtain ⟨q, hq, hcompiles⟩ := exists_of_mem_right hds hd'
      obtain ⟨hkind, hlists⟩ := ih q hq hcompiles h hw
      exact ⟨hkind, Rule.someGiveLists_of_mem hq hlists⟩
  case tuple =>
    intro c slots _ ctx d s w kind hd h hw
    obtain ⟨_, _, _, _, _, hs, hmade⟩ := hd.tuple
    rcases shape_of_text hs hmade.stages no_stages h with rfl | ⟨_, _, h⟩
    · cases hw
    · dsimp only at h
      obtain ⟨_, _, h, _⟩ := tupleStep_ok h
      cases h
  case record =>
    intro c key value _ _ ctx d s w kind hd h hw
    obtain ⟨_, _, _, _, _, _, _, _, _, hs, hmade⟩ := hd.record
    rcases shape_of_text hs hmade.stages no_stages h with rfl | ⟨_, _, h⟩
    · cases hw
    · dsimp only at h
      obtain ⟨_, _, _, _, h, _⟩ := recordStep_ok h
      cases h

variable {F G : Fault → Prop}

theorem Rule.CompilesTo.makesKeys {r : Rule} {ctx : Strictness} {d : Validator}
    (h : r.CompilesTo ctx d) (hd : d.Sound F)
    (hF : r.givesLists = true → F (.unkeyable "list")) : d.MakesKeys F := by
  intro s
  refine (hd.validate (v := .text s) rfl).of_run.mono (fun _ hf => hf) ?_
  intro w ⟨_, t, u, hw⟩ kind hkind
  obtain ⟨rfl, hlists⟩ := r.key_kind h ⟨t, u, hw⟩ hkind
  exact hF hlists

/-! ### The stages of simple rules -/

/-- What is asked of a rule, apart from the rules inside it: it comes from a document, what
validating by it may meet is among `F`, and a pattern that it refuses is among `G`. -/
structure Rule.Bounded (F G : Fault → Prop) (r : Rule) : Prop where
  json : r.holdsJson = true
  meets : ∀ f, r.Meets f → F f
  patterns : r.RefusesPattern → G .repetitionTooLarge

theorem compile_faults {source : String}
    (h : ∀ flags, Pattern.ofSource source flags = .error .repetitionTooLarge →
      G .repetitionTooLarge) (flags : PatternFlags) (letters path : String) :
    Settles G (fun _ => True) (Pattern.compile source flags letters path) := by
  unfold Pattern.compile
  split
  · exact .rejected
  · next more _ =>
    split
    · exact .result trivial
    · exact .rejected
    · next hp => exact .fault (h _ hp)

theorem patternSpec_faults {spec : PatternSpec}
    (h : ∀ flags, Pattern.ofSource spec.text flags = .error .repetitionTooLarge →
      G .repetitionTooLarge) (letters? : Option String) (path : String) :
    (spec.compile letters? path).FaultsIn G fun _ => True := by
  cases spec <;> exact FaultsIn.ofStop (compile_faults h _ _ _)

theorem keyword_bound {n : String} (hn : n ∉ combining) (k : Nat) :
    Writable (keyword n (bound k)) :=
  .keyword hn rfl

theorem typeSchema_writable (type : String) : Writable (typeSchema type) :=
  .keyword (by decide) rfl

theorem texts_json (ss : List String) : ∀ x ∈ ss.map Value.text, x.isJson = true :=
  List.forall_mem_map.mpr fun _ _ => rfl

theorem onText_calm {p : String → Bool} {name message : String} {schema : Schema}
    (hs : Writable schema) : Check.Calm F ⟨name, onText p, message, schema⟩ :=
  .of_ok (fun _ => ⟨_, rfl⟩) hs

theorem lengthChecks_calm (tag : Tag) (empty? : Option Bool) (min? max? : Option Nat) :
    ∀ c ∈ lengthChecks tag empty? min? max?, c.Calm F := by
  refine List.forall_mem_append.mpr ⟨List.forall_mem_append.mpr ⟨?_, ?_⟩, ?_⟩
  · split
    · exact List.forall_mem_singleton.mpr (onText_calm (.keyword (by decide) rfl))
    · exact fun _ h => absurd h List.not_mem_nil
  · cases min? with
    | none => exact fun _ h => absurd h List.not_mem_nil
    | some n => exact List.forall_mem_singleton.mpr (onText_calm (keyword_bound (by decide) n))
  · cases max? with
    | none => exact fun _ h => absurd h List.not_mem_nil
    | some n => exact List.forall_mem_singleton.mpr (onText_calm (keyword_bound (by decide) n))

/-- At most one check. -/
theorem option_calm {α : Type} {x? : Option α} {f : α → Check} (h : ∀ x, (f x).Calm F) :
    ∀ c ∈ (x?.map f).toList, c.Calm F := by
  intro c hc
  obtain ⟨x, -, rfl⟩ := Option.map_eq_some_iff.mp (Option.mem_toList.mp hc)
  exact h x

theorem ite_calm {b : Bool} {c : Check} (h : c.Calm F) :
    ∀ c' ∈ (if b then [c] else []), c'.Calm F := by
  cases b with
  | true => exact List.forall_mem_singleton.mpr h
  | false => exact fun _ h => absurd h List.not_mem_nil

theorem patternSchema_writable (source : String) : Writable (patternSchema source) :=
  .keyword (by decide) rfl

theorem stringChecks_calm {c : CommonOptions} {o : StringOptions}
    (h : (Rule.string c o).RefusesPattern → G .repetitionTooLarge) (path : String) :
    (o.checks path).FaultsIn G fun checks => ∀ c ∈ checks, c.Calm F := by
  have hsource : ∀ source ∈ (Rule.string c o).patternSources, ∀ flags,
      Pattern.ofSource source flags = .error .repetitionTooLarge → G .repetitionTooLarge :=
    fun source hs flags hf => h ⟨source, hs, flags, hf⟩
  have hclasses : (o.charsets.mapM (charsetCheck path)).FaultsIn G
      fun checks => ∀ c ∈ checks, c.Calm F := by
    refine (FaultsIn.mapM (P := fun _ c => Check.Calm F c) fun k hk => ?_).mono (fun _ hf => hf)
      fun checks hchecks c hc => ?_
    · refine FaultsIn.bind (FaultsIn.ofStop (compile_faults (hsource k.source ?_) _ _ _))
        fun p _ => FaultsIn.pure (onText_calm (patternSchema_writable _))
      exact List.mem_append_left _ (List.mem_append_right _ (List.mem_map_of_mem hk))
    · obtain ⟨_, -, hcalm⟩ := exists_of_mem_right hchecks hc
      exact hcalm
  have hlengths : ∀ c ∈ lengthChecks .string o.empty? o.min? o.max? ++
      (o.length?.map exactLength).toList, c.Calm F :=
    List.forall_mem_append.mpr ⟨lengthChecks_calm _ _ _ _, option_calm fun n =>
      onText_calm ((keyword_bound (by decide) n).append (keyword_bound (by decide) n))⟩
  have hrest : ∀ pattern : List Check, (∀ c ∈ pattern, c.Calm F) →
      (do
        let classes ← o.charsets.mapM (charsetCheck path)
        match o.enum? with
        | some (a :: as) => do
          let choices ← do pure [← oneOfTexts path (a :: as)]
          pure (lengthChecks .string o.empty? o.min? o.max? ++ (o.length?.map exactLength).toList ++
            pattern ++ (o.contains?.map containsText).toList ++ classes ++ choices)
        | _ => do
          let choices ← pure []
          pure (lengthChecks .string o.empty? o.min? o.max? ++ (o.length?.map exactLength).toList ++
            pattern ++ (o.contains?.map containsText).toList ++ classes ++ choices)
        : Eval RuleError (List Check)).FaultsIn G fun checks => ∀ c ∈ checks, c.Calm F := by
    intro pattern hpattern
    refine FaultsIn.bind hclasses fun classes hc => ?_
    have hall : ∀ choices : List Check, (∀ c ∈ choices, c.Calm F) → ∀ c ∈
        lengthChecks .string o.empty? o.min? o.max? ++ (o.length?.map exactLength).toList ++
          pattern ++ (o.contains?.map containsText).toList ++ classes ++ choices, c.Calm F := by
      intro choices hchoices
      refine List.forall_mem_append.mpr ⟨List.forall_mem_append.mpr ⟨List.forall_mem_append.mpr
        ⟨List.forall_mem_append.mpr ⟨hlengths, hpattern⟩, option_calm fun part => ?_⟩, hc⟩,
          hchoices⟩
      exact onText_calm (patternSchema_writable _)
    split
    · next a as henum =>
      refine FaultsIn.bind (Q := fun c => c.Calm F) ?_ fun c hc =>
        FaultsIn.pure (hall [c] (List.forall_mem_singleton.mpr hc))
      refine FaultsIn.bind (FaultsIn.ofStop (compile_faults (hsource _ ?_) _ _ _)) fun p _ =>
        FaultsIn.pure (onText_calm (.listing (texts_json _)))
      refine List.mem_append_right _ ?_
      rw [henum]
      exact List.mem_cons_self
    · exact FaultsIn.pure (hall [] fun _ h => absurd h List.not_mem_nil)
  unfold StringOptions.checks
  cases hpattern : o.pattern? with
  | none => exact hrest [] fun _ h => absurd h List.not_mem_nil
  | some spec =>
    refine FaultsIn.bind (patternSpec_faults (hsource spec.text ?_) _ _) fun p _ =>
      hrest _ (List.forall_mem_singleton.mpr (onText_calm (patternSchema_writable _)))
    refine List.mem_append_left _ (List.mem_append_left _ ?_)
    rw [hpattern]
    exact List.mem_cons_self

theorem onNumber_calm {p : Number → Bool} {name message : String} {schema : Schema}
    (hs : Writable schema) :
    Check.Calm F ⟨name, onNumber fun v => .ok (p v), message, schema⟩ := by
  refine .of_ok (fun v => ?_) hs
  cases hv : v.numeric? with
  | none => exact ⟨false, by simp only [onNumber, hv]⟩
  | some n => exact ⟨p n, by simp only [onNumber, hv]⟩

/-- The checks that compare a number with others. -/
def NumberOptions.comparisons (o : NumberOptions) : List Check :=
  match o.equal? with
  | some n => [equalTo n]
  | none => (o.min?.map atLeast).toList ++ (o.max?.map noMoreThan).toList

theorem comparisons_calm (o : NumberOptions) : ∀ c ∈ o.comparisons, c.Calm F := by
  have hnumber : ∀ {n : String} (m : Number), n ∉ combining → Writable (keyword n (.number m)) :=
    fun m hn => .keyword hn rfl
  unfold NumberOptions.comparisons
  split
  · next n _ => exact List.forall_mem_singleton.mpr (onNumber_calm (hnumber n (by decide)))
  · exact List.forall_mem_append.mpr ⟨option_calm fun n => onNumber_calm (hnumber n (by decide)),
      option_calm fun n => onNumber_calm (hnumber n (by decide))⟩

/-- A number that passes the comparisons passes them all. -/
theorem compares_of_passed {o : NumberOptions} {n : Number}
    (h : ∀ c ∈ o.comparisons, c.test (.number n) = .ok true) : o.compares n = true := by
  unfold NumberOptions.comparisons at h
  unfold NumberOptions.compares
  split
  · next m hm =>
    rw [hm] at h
    exact Except.ok.inj (h _ List.mem_cons_self)
  · next hm =>
    rw [hm] at h
    obtain ⟨hmin, hmax⟩ := List.forall_mem_append.mp h
    rw [Bool.and_eq_true]
    constructor
    · cases hm : o.min? with
      | none => rfl
      | some m => rw [hm] at hmin; exact Except.ok.inj (hmin _ List.mem_cons_self)
    · cases hm : o.max? with
      | none => rfl
      | some m => rw [hm] at hmax; exact Except.ok.inj (hmax _ List.mem_cons_self)

/-- Only a whole number without a double cannot be judged. -/
theorem wholeNumber_fault {v : Value} {f : Fault} (h : wholeNumber.test v = .error f) :
    ∃ n : Int, v = .number (.int n) ∧ Binary64.ofInt? n = none ∧ f = .tooLargeForFloat := by
  change onNumber isWhole v = _ at h
  unfold onNumber at h
  cases v with
  | bool b =>
    have hsome : (Binary64.ofInt? b.toNat).isSome = true := by cases b <;> decide +kernel
    change (if (Binary64.ofInt? b.toNat).isSome = true then _ else _) = _ at h
    rw [if_pos hsome] at h
    cases h
  | number n =>
    cases n with
    | float x => cases h
    | int n =>
      change (if (Binary64.ofInt? n).isSome = true then _ else _) = _ at h
      split at h
      · cases h
      · next hnone =>
        cases h
        exact ⟨n, rfl, by simpa using hnone, rfl⟩
  | _ => cases h

theorem numberChecks_calm {c : CommonOptions} {o : NumberOptions}
    (h : ∀ f, (Rule.number c o).Meets f → F f) : CalmChecks F o.checks := by
  have hzero : ∀ {n : String}, n ∉ combining → Writable (keyword n (.int 0)) :=
    fun hn => .keyword hn rfl
  have hsigns : ∀ c ∈ (if o.positive then [aboveZero] else []) ++
      (if o.negative then [belowZero] else []), c.Calm F :=
    List.forall_mem_append.mpr ⟨ite_calm (onNumber_calm (hzero (by decide))),
      ite_calm (onNumber_calm (hzero (by decide)))⟩
  have hchecks : o.checks = o.comparisons ++ ((if o.integer then [wholeNumber] else []) ++
      ((if o.positive then [aboveZero] else []) ++ (if o.negative then [belowZero] else []))) := by
    rw [← List.append_assoc, ← List.append_assoc]
    rfl
  rw [hchecks]
  refine ⟨fun v => ?_, ?_⟩
  · refine runChecks_append_faults (fun c hc => (comparisons_calm o c hc).test v) fun hpassed => ?_
    refine runChecks_append_faults (fun c hc f hf => ?_) fun _ => (CalmChecks.of_each hsigns).run v
    cases hinteger : o.integer with
    | false => rw [hinteger] at hc; exact absurd hc List.not_mem_nil
    | true =>
      rw [hinteger] at hc
      rw [List.mem_singleton.mp hc] at hf
      obtain ⟨n, rfl, hn, rfl⟩ := wholeNumber_fault hf
      exact h _ (.wholeNumber hinteger (compares_of_passed hpassed) hn)
  · refine List.forall_mem_append.mpr ⟨fun c hc => (comparisons_calm (F := F) o c hc).schema,
      List.forall_mem_append.mpr ⟨?_, fun c hc => (hsigns c hc).schema⟩⟩
    split
    · exact List.forall_mem_singleton.mpr .nil
    · exact fun _ h => absurd h List.not_mem_nil

/-- A single check. -/
theorem one_calm {c : Check} (h : c.Calm F) : CalmChecks F [c] :=
  .of_each (List.forall_mem_singleton.mpr h)

theorem shownKeyword_writable {n : String} {v : Value} (hn : n ∉ combining)
    (hv : v.isJson = true) : ∃ s, shownKeyword n v = .ok s ∧ Writable s := by
  obtain ⟨form, hform, hjson⟩ := jsonForm?_of_json hv
  exact ⟨keyword n form, by rw [shownKeyword, hform]; rfl, .keyword hn hjson⟩

theorem formattedStages_sound {r : Rule} (hFG : ∀ f, F f → G f) (hr : r.holdsJson = true)
    (empty? : Option Bool) (problem? : String → Option String) (format path : String) :
    (formattedStages r empty? problem? format path).FaultsIn G (SoundStages F) := by
  refine stages_sound hFG hr (fun v _ => formattedStep_faults r empty? problem? v)
    ((typeSchema_writable _).append (.keyword (by decide) rfl)) (checkStages_calm (.of_each ?_))
  split
  · exact List.forall_mem_singleton.mpr (onText_calm (.keyword (by decide) rfl))
  · exact fun _ h => absurd h List.not_mem_nil

theorem forbiddenStages_sound (remove : Bool) :
    (forbiddenStages remove).FaultsIn G (SoundStages F) := by
  have hnothing : Writable nothingSchema := .keyword (by decide) rfl
  cases remove with
  | true =>
    refine FaultsIn.pure (.cons ⟨fun _ _ => FaultsIn.pure trivial, .nil⟩ ?_)
    exact List.forall_mem_singleton.mpr
      ⟨fun v => FaultsIn.ofFault_ok ⟨.absent, rfl, trivial⟩, .nil⟩
  | false =>
    refine FaultsIn.bind (checkStages_calm (F := F) (one_calm
      (.of_ok (fun _ => ⟨_, rfl⟩) .nil))) fun ss hss => ?_
    exact FaultsIn.pure (.cons ⟨fun _ _ => FaultsIn.pure trivial, hnothing⟩ hss)

/-- **The stages of a rule without rules inside.** -/
theorem scalarStages_sound {r : Rule} (hFG : ∀ f, F f → G f) (hr : r.Bounded F G)
    (hcomposite : r.tag.isComposite = false) (path : String) :
    (scalarStages r path).FaultsIn G (SoundStages F) := by
  have hjson := hr.json
  have hpatterns : ∀ source ∈ r.patternSources, ∀ flags,
      Pattern.ofSource source flags = .error .repetitionTooLarge → G .repetitionTooLarge :=
    fun source hs flags hf => hr.patterns ⟨source, hs, flags, hf⟩
  cases r with
  | string c o =>
    refine FaultsIn.bind (shapeStage_sound hFG hjson (fun v _ => readStep_faults _ _ _ v)
      (typeSchema_writable _) path) fun s hs => ?_
    refine FaultsIn.bind (stringChecks_calm (F := F) hr.patterns path) fun checks hchecks => ?_
    refine FaultsIn.bind (checkStages_calm (.of_each hchecks)) fun ss hss =>
      FaultsIn.pure (.cons hs ?_)
    exact List.forall_mem_append.mpr ⟨List.forall_mem_append.mpr
      ⟨transformStages_calm (mapTexts_ok _), hss⟩, transformStages_calm (mapTexts_ok _)⟩
  | number c o =>
    refine FaultsIn.bind (shapeStage_sound hFG hjson (fun v _ => readStep_faults _ _ _ v)
      (typeSchema_writable _) path) fun s hs => ?_
    refine FaultsIn.bind (checkStages_calm (numberChecks_calm hr.meets)) fun ss hss => ?_
    refine FaultsIn.bind (checkStages_calm (F := F) (.of_each (option_calm fun n =>
      onNumber_calm (.keyword (by decide) rfl)))) fun ss' hss' =>
        FaultsIn.pure (.cons hs (List.forall_mem_append.mpr ⟨hss, hss'⟩))
  | boolean c =>
    exact stage_sound hFG hjson (fun v _ => readStep_faults _ _ _ v) (typeSchema_writable _)
  | date c =>
    refine stage_sound hFG hjson (fun v _ => instantStep_faults _ v)
      (.ite (fun _ => ?_) fun _ => ?_)
    · exact Writable.append (.listing (List.forall_mem_cons.mpr
        ⟨rfl, List.forall_mem_singleton.mpr rfl⟩)) (.keyword (by decide) rfl)
    · exact .keyword (by decide) rfl
  | any c => exact stage_sound hFG hjson (fun _ _ => FaultsIn.pure trivial) .nil
  | email c o =>
    refine FaultsIn.bind (shapeStage_sound hFG hjson (fun v _ => emailStep_faults _ _ v)
      ((typeSchema_writable _).append (.keyword (by decide) rfl)) path) fun s hs => ?_
    refine FaultsIn.bind (checkStages_calm (F := F) (.of_each (lengthChecks_calm _ _ _ _)))
      fun ss hss => FaultsIn.pure (.cons hs (List.forall_mem_append.mpr ⟨?_, hss⟩))
    exact transformStages_calm (mapTexts_ok _)
  | currency c o =>
    refine FaultsIn.bind (shapeStage_sound hFG hjson (fun v _ => readStep_faults _ _ _ v)
      (typeSchema_writable _) path) fun s hs => ?_
    refine FaultsIn.bind (Q := fun _ => True) ?_ fun p _ => ?_
    · have hsource := hpatterns _ (List.mem_singleton.mpr rfl)
      unfold CurrencyOptions.pattern
      split
      · next spec hspec =>
        rw [hspec] at hsource
        exact FaultsIn.bind (patternSpec_faults hsource _ _) fun _ _ => FaultsIn.pure trivial
      · next hspec =>
        rw [hspec] at hsource
        exact FaultsIn.bind (FaultsIn.ofStop (compile_faults hsource _ _ _)) fun _ _ =>
          FaultsIn.pure trivial
    · refine FaultsIn.bind (checkStages_calm (F := F) (one_calm
        (onText_calm (patternSchema_writable _)))) fun ss hss => FaultsIn.pure (.cons hs hss)
  | «class» c k => cases hjson
  | enum c values =>
    have hvalues : (Value.list values).isJson = true := (Bool.and_eq_true_iff.mp hjson).2
    refine FaultsIn.bind (FaultsIn.ofFault_ok (shownKeyword_writable (by decide) hvalues))
      fun schema hschema => ?_
    exact stages_sound hFG hjson (fun _ _ => FaultsIn.pure trivial) .nil
      (checkStages_calm (one_calm (.of_ok (fun _ => ⟨_, rfl⟩) hschema)))
  | equal c value strict =>
    have hvalue : value.isJson = true := (Bool.and_eq_true_iff.mp hjson).2
    refine FaultsIn.bind (FaultsIn.ofFault_ok (shownKeyword_writable (by decide) hvalue))
      fun schema hschema => ?_
    exact stages_sound hFG hjson (fun _ _ => FaultsIn.pure trivial) .nil
      (checkStages_calm (one_calm (.of_ok (fun _ => ⟨_, rfl⟩) hschema)))
  | forbidden c remove => exact forbiddenStages_sound remove
  | function c => exact stage_sound hFG hjson (fun v _ => testStep_faults _ _ _ v) .nil
  | luhn c =>
    exact stages_sound hFG hjson (fun v _ => readStep_faults _ _ _ v) (typeSchema_writable _)
      (checkStages_calm (one_calm (onText_calm .nil)))
  | mac c =>
    refine FaultsIn.bind (FaultsIn.ofStop
      (compile_faults (hpatterns _ (List.mem_singleton.mpr rfl)) _ _ _)) fun p _ => ?_
    exact stages_sound hFG hjson (fun v _ => readStep_faults _ _ _ v) (typeSchema_writable _)
      (checkStages_calm (one_calm (onText_calm (patternSchema_writable _))))
  | url c empty? => exact formattedStages_sound hFG hjson empty? _ _ path
  | uuid c empty? => exact formattedStages_sound hFG hjson empty? _ _ path
  | objectId c identity conversion => cases hjson
  | array | object | multi | tuple | record => cases hcomposite

/-! ### Composite rules -/

theorem sizeChecks_calm (o : ArrayOptions) : ∀ c ∈ o.sizeChecks, c.Calm F := by
  have hcalm : ∀ {p : List Value → Bool} {name message : String} {schema : Schema},
      Writable schema → Check.Calm F ⟨name, onItems p, message, schema⟩ :=
    fun hs => .of_ok (fun _ => ⟨_, rfl⟩) hs
  refine List.forall_mem_append.mpr ⟨List.forall_mem_append.mpr
    ⟨List.forall_mem_append.mpr ⟨?_, option_calm fun n => ?_⟩, option_calm fun n => ?_⟩,
      option_calm fun n => ?_⟩
  · split
    · exact fun _ h => absurd h List.not_mem_nil
    · exact List.forall_mem_singleton.mpr (hcalm (.keyword (by decide) rfl))
  · exact hcalm ((keyword_bound (by decide) n).append (keyword_bound (by decide) n))
  · exact hcalm (keyword_bound (by decide) n)
  · exact hcalm (keyword_bound (by decide) n)

/-- A schema of one keyword with a value of a document can be shown. -/
theorem shownSchema_writable {n : String} {v : Value} (hv : v.isJson = true)
    (hform : ∀ form, v.jsonForm = .ok form → form.isJson = true → WritableEntry (.text n, form)) :
    ∃ s, shownSchema (keyword n v) = .ok s ∧ Writable s := by
  obtain ⟨form, hv, hjson⟩ := jsonForm_of_json hv
  refine ⟨keyword n form, ?_, List.forall_mem_singleton.mpr (hform form hv hjson)⟩
  rw [shownSchema, Value.jsonForm?, jsonForm_keyword, hv]
  rfl

theorem isJson_containing {v : Value} (hv : v.isJson = true) :
    (Value.mapping (containing v)).isJson = true := by
  refine Value.isJson_mapping.mpr (.cons (Value.isJson_mapping.mpr (.cons hv .nil)) .nil)

theorem containsCheck_calm {wanted : Value} (hw : wanted.isJson = true) :
    ∃ c, containsCheck wanted = .ok c ∧ c.Calm F := by
  by_cases hlist : ∃ xs, wanted = .list xs
  · obtain ⟨xs, rfl⟩ := hlist
    have hxs := Value.isJson_list.mp hw
    obtain ⟨s, hs, hsw⟩ := shownSchema_writable (n := "allOf")
      (v := .list (xs.map fun x => .mapping (containing x)))
      (Value.isJson_list.mpr (List.forall_mem_map.mpr fun x hx => isJson_containing (hxs x hx)))
      fun form hform hjson => by
        obtain ⟨forms, -, hforms⟩ := except_bind_ok hform
        cases hforms
        exact .list (Value.isJson_list.mp hjson)
    change ∃ c, (shownSchema _ >>= _) = .ok c ∧ _
    rw [hs]
    exact ⟨_, rfl, .of_ok (fun _ => ⟨_, rfl⟩) hsw⟩
  · obtain ⟨s, hs, hsw⟩ := shownSchema_writable (n := "contains")
      (v := .mapping (keyword "const" wanted)) (Value.isJson_mapping.mpr (.cons hw .nil))
      fun form _ hjson => .plain (by decide) hjson
    rw [containsCheck]
    · change ∃ c, (shownSchema (keyword "contains" _) >>= _) = .ok c ∧ _
      rw [hs]
      exact ⟨_, rfl, .of_ok (fun _ => ⟨_, rfl⟩) hsw⟩
    · exact fun xs hxs => hlist ⟨xs, hxs⟩

theorem itemsAmong_calm {allowed : List Value} (ha : Value.allJson allowed = true) :
    ∃ c, itemsAmong allowed = .ok c ∧ c.Calm F := by
  obtain ⟨s, hs, hsw⟩ := shownSchema_writable (n := "items")
    (v := .mapping (keyword "enum" (.list allowed)))
    (Value.isJson_mapping.mpr (.cons (Value.isJson_list.mpr (Value.allJson_iff.mp ha)) .nil))
    fun form _ hjson => .plain (by decide) hjson
  change ∃ c, (shownSchema _ >>= _) = .ok c ∧ _
  rw [hs]
  exact ⟨_, rfl, .of_ok (fun _ => ⟨_, rfl⟩) hsw⟩

/-- At most one check that is made of a value. -/
theorem option_mapM_calm {α : Type} {x? : Option α} {f : α → Except Fault Check}
    (h : ∀ x, x? = some x → ∃ c, f x = .ok c ∧ c.Calm F) :
    ∃ cs, x?.toList.mapM f = .ok cs ∧ ∀ c ∈ cs, c.Calm F := by
  cases x? with
  | none => exact ⟨[], rfl, fun _ h => absurd h List.not_mem_nil⟩
  | some x =>
    obtain ⟨c, hc, hcalm⟩ := h x rfl
    refine ⟨[c], ?_, List.forall_mem_singleton.mpr hcalm⟩
    rw [Option.toList_some, List.mapM_cons, hc]
    rfl

theorem contentChecks_calm {o : ArrayOptions} (hcontains : o.contains?.all Value.isJson = true)
    (henum : o.enum?.all Value.allJson = true) :
    ∃ checks, o.contentChecks = .ok checks ∧ ∀ c ∈ checks, c.Calm F := by
  have hwanted : ∀ x, o.contains? = some x → ∃ c, containsCheck x = .ok c ∧ c.Calm F := by
    intro x hx
    rw [hx] at hcontains
    exact containsCheck_calm hcontains
  have hchoices : ∀ xs, o.enum? = some xs → ∃ c, itemsAmong xs = .ok c ∧ c.Calm F := by
    intro xs hxs
    rw [hxs] at henum
    exact itemsAmong_calm henum
  obtain ⟨wanted, hwanted, hw⟩ := option_mapM_calm hwanted
  obtain ⟨choices, hchoices, hc⟩ := option_mapM_calm hchoices
  refine ⟨wanted ++ (if o.unique then [differentItems] else []) ++ choices, ?_, ?_⟩
  · unfold ArrayOptions.contentChecks
    rw [hwanted]
    change (o.enum?.toList.mapM itemsAmong >>= _) = _
    rw [hchoices]
    rfl
  refine List.forall_mem_append.mpr ⟨List.forall_mem_append.mpr ⟨hw, ite_calm ?_⟩, hc⟩
  exact .of_ok (fun _ => ⟨_, rfl⟩) (.keyword (by decide) rfl)

theorem finishValidator_sound {r : Rule} (hFG : ∀ f, F f → G f) (hr : r.holdsJson = true)
    (path : String) {stages : List Stage} (h : SoundStages F stages) :
    (finishValidator r path stages).FaultsIn G (Validator.Sound F) := by
  refine FaultsIn.bind (Q := Validator.Sound F) (FaultsIn.ofExcept fun d hd => ?_) fun d hd => ?_
  · rw [compose_ok hd]
    exact h
  · refine FaultsIn.bind (Q := fun _ => True) ?_ fun _ _ => FaultsIn.pure hd
    unfold checkWholeDefault
    rcases r.standIn_json hr with h | ⟨d, -, h⟩
    · rw [h]
      exact FaultsIn.pure trivial
    · rw [h]
      exact FaultsIn.bind ((hd.validate (v := .absent) rfl).mono hFG fun _ h => h).mapReason
        fun _ _ => FaultsIn.pure trivial

theorem treat_sound {r : Rule} (hFG : ∀ f, F f → G f) (hr : r.holdsJson = true) {path : String}
    {x : Eval RuleError (List Stage)} (h : x.FaultsIn G (SoundStages F)) :
    (treat .standard r path x).FaultsIn G (Validator.Sound F) :=
  FaultsIn.bind h fun _ hs => finishValidator_sound hFG hr path hs

/-- The schemas of sound validators as values. -/
theorem schemaValues_sound {ds : List Validator} (hds : ∀ d ∈ ds, d.Sound F) :
    (ds.mapM Validator.schemaValue).FaultsIn G fun vs => ∀ v ∈ vs, v.isJson = true :=
  (FaultsIn.mapM (P := fun _ v => v.isJson = true) fun d hd =>
    (hds d hd).schemaValue).mono (fun _ hf => hf) fun vs hvs v hv => by
      obtain ⟨_, -, h⟩ := exists_of_mem_right hvs hv
      exact h

theorem objectSchema_sound {ds : List (String × Validator)} (hds : ∀ e ∈ ds, e.2.Sound F)
    (mode : UnknownKeys) : (objectSchema ds mode).FaultsIn G Writable := by
  refine FaultsIn.bind (FaultsIn.mapM (P := fun _ p => (∃ n, p.1 = .text n) ∧ p.2.isJson = true)
    fun e he => FaultsIn.bind (hds e he).schemaValue fun v hv =>
      FaultsIn.pure ⟨⟨e.1, rfl⟩, hv⟩) fun properties hproperties => FaultsIn.pure ?_
  have hjson : Entries.HoldsJson properties := fun p hp => by
    obtain ⟨_, -, h⟩ := exists_of_mem_right hproperties hp
    exact h
  refine (((typeSchema_writable _).append (.keyword (by decide)
    (Value.isJson_mapping.mpr hjson))).append (.ite (fun _ => .nil) fun _ => ?_)).append
      (.ite (fun _ => .keyword (by decide) rfl) fun _ => .nil)
  exact .listing (texts_json _)

/-- The compilation of a rule from a document has bounded faults, and so has its validator. -/
def Rule.CompilesSoundly (r : Rule) : Prop :=
  ∀ (F G : Fault → Prop) (ctx : Strictness) (path : String), (∀ f, F f → G f) →
    (∀ q ∈ r.nodes, q.Bounded F G) →
      (compileRule Treatments.usual r ctx path).FaultsIn G (Validator.Sound F)

section

variable {ctx : Strictness} {path : String}

theorem compileProps_sound : ∀ {props : List (String × Rule)},
    (∀ e ∈ props, ∀ path,
      (compileRule Treatments.usual e.2 ctx path).FaultsIn G (Validator.Sound F)) →
      (compileProps Treatments.usual props ctx path).FaultsIn G fun ds => ∀ e ∈ ds, e.2.Sound F
  | [], _ => FaultsIn.pure fun _ h => absurd h List.not_mem_nil
  | _ :: _, h =>
    FaultsIn.bind (h _ List.mem_cons_self _) fun _ hd =>
      FaultsIn.bind (compileProps_sound fun e he => h e (List.mem_cons_of_mem _ he)) fun _ hds =>
        FaultsIn.pure (List.forall_mem_cons.mpr ⟨hd, hds⟩)

theorem compileBranches_sound : ∀ {rules : List Rule} (i : Nat),
    (∀ r ∈ rules, ∀ path,
      (compileRule Treatments.usual r ctx path).FaultsIn G (Validator.Sound F)) →
      (compileBranches Treatments.usual i rules ctx path).FaultsIn G fun ds => ∀ d ∈ ds, d.Sound F
  | [], _, _ => FaultsIn.pure fun _ h => absurd h List.not_mem_nil
  | r :: _, i, h =>
    FaultsIn.bind (h r List.mem_cons_self _) fun _ hd =>
      FaultsIn.bind (compileBranches_sound (i + 1) fun q hq => h q (List.mem_cons_of_mem _ hq))
        fun _ hds => FaultsIn.pure (List.forall_mem_cons.mpr ⟨hd, hds⟩)

theorem compileSlots_sound : ∀ {rules : List Rule} (i : Nat),
    (∀ r ∈ rules, ∀ path,
      (compileRule Treatments.usual r ctx path).FaultsIn G (Validator.Sound F)) →
      (compileSlots Treatments.usual i rules ctx path).FaultsIn G fun ds => ∀ d ∈ ds, d.Sound F
  | [], _, _ => FaultsIn.pure fun _ h => absurd h List.not_mem_nil
  | r :: _, i, h =>
    FaultsIn.bind (h r List.mem_cons_self _) fun _ hd =>
      FaultsIn.bind (compileSlots_sound (i + 1) fun q hq => h q (List.mem_cons_of_mem _ hq))
        fun _ hds => FaultsIn.pure (List.forall_mem_cons.mpr ⟨hd, hds⟩)

end

theorem Rule.compilesSoundly_hereditary : Rule.Hereditary Rule.CompilesSoundly where
  simple r hr F G ctx path hFG h := by
    have hc : compileRule Treatments.usual r ctx path
        = treat .standard r path (scalarStages r path) := by
      cases r <;> first | rfl | cases hr
    have hself := h r (Rule.self_mem_nodes r)
    rw [hc]
    exact treat_sound hFG hself.json (scalarStages_sound hFG hself hr path)
  array c items o ih F G ctx path hFG h := by
    have hjson := (h _ (Rule.self_mem_nodes _)).json
    refine treat_sound hFG hjson (FaultsIn.bind
      (ih F G ctx _ hFG fun q hq => h q (Rule.mem_nodes_array hq)) fun d hd => ?_)
    refine FaultsIn.bind hd.schemaValue fun schema hschema => ?_
    refine FaultsIn.bind (shapeStage_sound hFG hjson (arrayStep_faults _ hd)
      ((typeSchema_writable _).append (.keyword (by decide) hschema)) path) fun s hs => ?_
    refine FaultsIn.bind (checkStages_calm (.of_each (sizeChecks_calm (F := F) o))) fun ss hss => ?_
    obtain ⟨hc, henum⟩ := Bool.and_eq_true_iff.mp hjson
    refine FaultsIn.bind (FaultsIn.ofFault_ok
      (contentChecks_calm (F := F) (Bool.and_eq_true_iff.mp hc).2 henum)) fun checks hchecks => ?_
    refine FaultsIn.bind (checkStages_calm (.of_each hchecks)) fun ss' hss' =>
      FaultsIn.pure (.cons hs ?_)
    exact List.forall_mem_append.mpr ⟨hss, hss'⟩
  object c props o ih F G ctx path hFG h := by
    have hjson := (h _ (Rule.self_mem_nodes _)).json
    refine treat_sound hFG hjson (FaultsIn.bind (compileProps_sound fun e he path =>
      ih e he F G _ path hFG fun q hq => h q (Rule.mem_nodes_object he hq)) fun ds hds => ?_)
    have hentries : ∀ e ∈ ds.map fun e => (Value.text e.1, e.2), e.2.Sound F :=
      List.forall_mem_map.mpr hds
    refine FaultsIn.bind (objectSchema_sound hds _) fun schema hschema => ?_
    refine FaultsIn.bind (shapeStage_sound hFG hjson (objectStep_faults _ hentries) hschema path)
      fun s hs => ?_
    refine FaultsIn.bind (checkStages_calm (F := F) (.of_each ?_)) fun ss hss =>
      FaultsIn.pure (.cons hs hss)
    refine List.forall_mem_append.mpr ⟨option_calm fun n => ?_, option_calm fun n => ?_⟩
    · exact .of_ok (fun _ => ⟨_, rfl⟩) (keyword_bound (by decide) n)
    · exact .of_ok (fun _ => ⟨_, rfl⟩) (keyword_bound (by decide) n)
  multi c branches ih F G ctx path hFG h := by
    have hjson := (h _ (Rule.self_mem_nodes _)).json
    refine treat_sound hFG hjson (FaultsIn.bind (compileBranches_sound 0 fun r hr path =>
      ih r hr F G ctx path hFG fun q hq => h q (Rule.mem_nodes_multi hr hq)) fun ds hds => ?_)
    refine FaultsIn.bind (schemaValues_sound hds) fun vs hvs => ?_
    exact stage_sound hFG hjson (unionStep_faults hds) (.listing hvs)
  tuple c slots ih F G ctx path hFG h := by
    have hjson := (h _ (Rule.self_mem_nodes _)).json
    refine treat_sound hFG hjson (FaultsIn.bind (compileSlots_sound 0 fun r hr path =>
      ih r hr F G ctx path hFG fun q hq => h q (Rule.mem_nodes_tuple hr hq)) fun ds hds => ?_)
    refine FaultsIn.bind (schemaValues_sound hds) fun vs hvs => ?_
    refine stage_sound hFG hjson (tupleStep_faults hds) ?_
    exact ((((typeSchema_writable _).append (.listing hvs)).append
      (.keyword (by decide) rfl)).append (keyword_bound (by decide) _)).append
        (keyword_bound (by decide) _)
  record c key value ihk ihv F G ctx path hFG h := by
    have hself := h _ (Rule.self_mem_nodes _)
    refine treat_sound hFG hself.json (FaultsIn.bind
      (ihk F G ctx _ hFG fun q hq => h q (Rule.mem_nodes_key hq)).of_run fun keys hkeys => ?_)
    obtain ⟨hkeys, t, u, hrun⟩ := hkeys
    have hmakes : keys.MakesKeys F :=
      Rule.CompilesTo.makesKeys (r := key) ⟨_, t, u, hrun⟩ hkeys fun hlists =>
        hself.meets _ (.listKey hlists)
    refine FaultsIn.bind (ihv F G ctx _ hFG fun q hq => h q (Rule.mem_nodes_value hq))
      fun values hvalues => ?_
    refine FaultsIn.bind hvalues.schemaValue fun valueSchema hvs => ?_
    refine FaultsIn.bind hkeys.schemaValue fun keySchema hks => ?_
    refine stage_sound hFG hself.json (recordStep_faults hmakes hvalues) ?_
    exact ((typeSchema_writable _).append (.keyword (by decide) hvs)).append
      (.keyword (by decide) hks)

/-- **Compiling a rule from a document** meets no faults but those of the rules in it and of their
patterns, and the validator that it gives none but the former. -/
theorem compileRule_sound {r : Rule} (hFG : ∀ f, F f → G f) (h : ∀ q ∈ r.nodes, q.Bounded F G)
    (ctx : Strictness) (path : String) :
    (compileRule Treatments.usual r ctx path).FaultsIn G (Validator.Sound F) :=
  Rule.induct Rule.compilesSoundly_hereditary r F G ctx path hFG h

/-! ### Rules that meet a fault -/

/-- **A record** does meet a key that is made a list, where its value is not left out. -/
theorem recordStep_faults_of_list {keys values : Validator} {s : String} {x w : Value}
    {xs : List Value} {es : Entries Value} {t t' u : Tally}
    (hkey : keys.validate (.text s) t = (.ok (.list xs), t'))
    (hvalue : values.validate x t' = (.ok w, u)) (hw : w.isAbsent = false) :
    (recordStep keys values (.mapping ((.text s, x) :: es))).outcome t
      = .error (.fault (.unkeyable "list")) := by
  have hloop : (validateEntries keys values [] ((.text s, x) :: es)) t
      = (.error (.fault (.unkeyable "list")), u) := by
    rw [validateEntries, part, part, bind_of_ok (mapReason_of_ok hkey),
      bind_of_ok (mapReason_of_ok hvalue), hw]
    rfl
  exact congrArg Prod.fst (bind_of_error hloop)

end RuleSchema
