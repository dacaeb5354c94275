import RuleSchema.Proofs.Pattern.Classes
import RuleSchema.Proofs.Text.Search
import RuleSchema.Proofs.Validator.Texts

/-!
# Rules for texts

A rule for texts prepares a text, tests it, and pads what has passed.  What it tests for is said
here option by option, without the patterns that it compiles for the classes and for the choice
between texts.

* `StringOptions.Admits`: what the options ask of a prepared text.
* `string_exact`: **a rule for texts accepts what its options admit**, and rejects all else.
* `class_flags_exact`: what a flag for a class adds to the other options.
* `listed_texts_exact`: what a list of texts adds to them.
-/

namespace RuleSchema

open Eval

/-! ### What is asked of a text -/

/-- A text of a class, or one with a line feed after it. -/
def Charset.Accepts (k : Charset) (s : String) : Prop :=
  s.toList ∈ k.Contains ∨ ∃ w, s.toList = w ++ ['\n'] ∧ w ∈ k.Contains

namespace StringOptions

/-- A text as it is tested. -/
def prepared (o : StringOptions) (s : String) : String := Text.changed o.preparation s

/-- What is given for a text that has passed. -/
def padded (o : StringOptions) (s : String) : String := Text.changed o.padding s

/-- What the options of a rule ask of a prepared text. -/
structure Admits (o : StringOptions) (s : String) : Prop where
  notBlank : o.empty? = some false → Text.trim s ≠ ""
  min : ∀ n, o.min? = some n → n ≤ s.length
  max : ∀ n, o.max? = some n → s.length ≤ n
  length : ∀ n, o.length? = some n → s.length = n
  pattern : ∀ spec p path, o.pattern? = some spec →
    spec.compile o.patternFlags? path = pure p → p.searches s = true
  contains : ∀ part, o.contains? = some part → part.toList <:+: s.toList
  classes : ∀ k ∈ o.charsets, k.Accepts s
  listed : ∀ texts, o.enum? = some texts → texts ≠ [] → s ∈ texts

end StringOptions

/-! ### The checks on a text -/

section

variable {o : StringOptions} {s path : String} {c : Check} {checks : List Check} {t u : Tally}

theorem asks_notBlank (tag : Tag) : ChecksAsk [notBlank tag] s (Text.trim s ≠ "") :=
  (asks_one rfl).congr bne_iff_ne.symm

theorem asks_minLength (tag : Tag) (n : Nat) : ChecksAsk [minLength tag n] s (n ≤ s.length) :=
  (asks_one rfl).congr decide_eq_true_iff.symm

theorem asks_maxLength (tag : Tag) (n : Nat) : ChecksAsk [maxLength tag n] s (s.length ≤ n) :=
  (asks_one rfl).congr decide_eq_true_iff.symm

theorem asks_exactLength (n : Nat) : ChecksAsk [exactLength n] s (s.length = n) :=
  (asks_one rfl).congr decide_eq_true_iff.symm

theorem asks_containsText (part : String) :
    ChecksAsk [containsText part] s (part.toList <:+: s.toList) :=
  (asks_one rfl).congr Text.occursIn_iff.symm

theorem asks_lengths (tag : Tag) (empty? : Option Bool) (min? max? : Option Nat) :
    ChecksAsk (lengthChecks tag empty? min? max?) s
      (((empty? = some false → Text.trim s ≠ "") ∧ ∀ n, min? = some n → n ≤ s.length) ∧
        ∀ n, max? = some n → s.length ≤ n) :=
  asks_append (asks_append (asks_ite (asks_notBlank tag)) (asks_option (asks_minLength tag)))
    (asks_option (asks_maxLength tag))

/-- A pattern that compiles does so wherever its rule stands, and to the same. -/
theorem Pattern.compile_anywhere {source : String} {flags : PatternFlags} {letters : String}
    {p : Pattern} (h : Pattern.compile source flags letters path = .ok p) (path' : String) :
    Pattern.compile source flags letters path' = .ok p := by
  rw [Pattern.compile] at h ⊢
  cases hletters : letterFlags letters.toList with
  | error c => rw [hletters] at h; cases h
  | ok more =>
    rw [hletters] at h
    dsimp only at h ⊢
    cases hsource : ofSource source (flags.union more) with
    | ok q => rwa [hsource] at h
    | error e => rw [hsource] at h; cases e <;> cases h

theorem PatternSpec.compile_anywhere {spec : PatternSpec} {letters? : Option String} {p : Pattern}
    (h : spec.compile letters? path t = (.ok p, u)) (path' : String) :
    spec.compile letters? path' = pure p := by
  cases spec with
  | source source =>
    have hp := Pattern.compile_anywhere (ofStop_ok h).1 path'
    rw [PatternSpec.compile, hp]
    rfl
  | compiled source flags =>
    have hp := Pattern.compile_anywhere (ofStop_ok h).1 path'
    rw [PatternSpec.compile, hp]
    rfl

theorem asks_pattern (h : PatternOf o path checks) : ChecksAsk checks s
    (∀ spec p path, o.pattern? = some spec → spec.compile o.patternFlags? path = pure p →
      p.searches s = true) := by
  cases h with
  | none hnone => exact asks_none.congr (iff_true_intro (by simp [hnone]))
  | @some spec p t _ hspec hp =>
    have hcompile := PatternSpec.compile_anywhere hp
    refine (asks_one rfl).congr ⟨fun h => h spec p path hspec (hcompile path), ?_⟩
    intro hsearches spec' p' path' hspec' hp'
    obtain rfl : spec = spec' := Option.some.inj (hspec.symm.trans hspec')
    obtain ⟨rfl, -⟩ := pure_ok (congrFun ((hcompile path').symm.trans hp') t)
    exact hsearches

/-- The check of a class, which always compiles. -/
theorem charsetCheck_eq (path : String) (k : Charset) :
    ∃ c, charsetCheck path k = pure c ∧ c.schema = patternSchema k.source ∧
      ∀ s, ChecksAsk [c] s (k.Accepts s) := by
  rw [charsetCheck, compilePattern, Pattern.compile_of_parse (Pattern.parse_class k)]
  exact ⟨_, rfl, rfl, fun s => (asks_one rfl).congr (Pattern.matchStart_class k s.toList).symm⟩

theorem asks_classes
    (h : List.Forall₂ (fun k c => ∃ s s', charsetCheck path k s = (.ok c, s')) o.charsets checks) :
    ChecksAsk checks s (∀ k ∈ o.charsets, k.Accepts s) := by
  refine asks_each (h.imp fun k c ⟨t, u, hc⟩ => ?_)
  obtain ⟨c', hc', -, hasks⟩ := charsetCheck_eq path k
  rw [hc'] at hc
  rw [(pure_ok hc).1]
  exact hasks s

/-- The check that a text is one of a list, which always compiles. -/
theorem oneOfTexts_eq (path : String) {texts : List String} (h : texts ≠ []) :
    ∃ c, oneOfTexts path texts = pure c ∧ c.schema = keyword "enum" (.list (texts.map .text)) ∧
      ∀ s, c.test (.text s) = .ok (decide (s ∈ texts)) := by
  obtain ⟨a, as, rfl⟩ := List.exists_cons_of_ne_nil h
  rw [oneOfTexts, compilePattern, Pattern.compile_of_parse (Pattern.parse_enumSource a as)]
  refine ⟨_, rfl, rfl, fun s => congrArg Except.ok ?_⟩
  rw [← List.contains_eq_mem]
  exact Pattern.fullMatch_choice a as s

theorem asks_choices (h : ChoicesOf o path checks) : ChecksAsk checks s
    (∀ texts, o.enum? = some texts → texts ≠ [] → s ∈ texts) := by
  cases h with
  | none hnone =>
    refine asks_none.congr (iff_true_intro fun texts htexts hne => ?_)
    rcases hnone with hnone | hnone
    · exact nomatch hnone.symm.trans htexts
    · exact absurd (Option.some.inj (htexts.symm.trans hnone)) hne
  | @some a as c _ _ henum hc =>
    obtain ⟨c', hc', -, htest⟩ := oneOfTexts_eq path (List.cons_ne_nil a as)
    rw [hc'] at hc
    rw [(pure_ok hc).1]
    refine (asks_one (htest s)).congr (Iff.trans ?_ decide_eq_true_iff.symm)
    refine ⟨fun h => h _ henum (List.cons_ne_nil a as), fun h texts htexts _ => ?_⟩
    rwa [← Option.some.inj (henum.symm.trans htexts)]

/-- **The checks on a text** ask what the options of its rule do. -/
theorem stringChecks_ask (h : o.checks path t = (.ok checks, u)) :
    ChecksAsk checks s (o.Admits s) := by
  obtain ⟨pattern, classes, choices, hpattern, hclasses, hchoices, rfl⟩ := stringChecks_ok h
  refine (asks_append (asks_append (asks_append (asks_append (asks_append
    (asks_lengths .string o.empty? o.min? o.max?) (asks_option asks_exactLength))
    (asks_pattern hpattern)) (asks_option asks_containsText)) (asks_classes hclasses))
    (asks_choices hchoices)).congr ?_
  constructor
  · rintro ⟨hnotBlank, hmin, hmax, hlength, hpattern, hcontains, hclasses, hlisted⟩
    exact ⟨⟨⟨⟨⟨⟨⟨hnotBlank, hmin⟩, hmax⟩, hlength⟩, hpattern⟩, hcontains⟩, hclasses⟩, hlisted⟩
  · rintro ⟨⟨⟨⟨⟨⟨⟨hnotBlank, hmin⟩, hmax⟩, hlength⟩, hpattern⟩, hcontains⟩, hclasses⟩, hlisted⟩
    exact ⟨hnotBlank, hmin, hmax, hlength, hpattern, hcontains, hclasses, hlisted⟩

end

/-! ### Rules for texts -/

section

variable {c : CommonOptions} {o : StringOptions} {ctx : Strictness} {d : Validator}

/-- **A rule for texts accepts what its options admit**, after the text is prepared, and rejects
every other text. -/
theorem string_exact (h : (Rule.string c o).CompilesTo ctx d) (s : String) :
    (d.validate (.text s)).GivesIf (.text (o.padded (o.prepared s))) (o.Admits (o.prepared s)) := by
  obtain ⟨shape, checks, tests, hshape, ⟨_, _, _, hchecks⟩, htests, hd⟩ := h.string
  have hpads : (Validator.runStages d.tag (transformStages .manipulate "string.pad"
      (o.padding.map mapText)) (.text (o.prepared s))).GivesIf
        (.text (o.padded (o.prepared s))) True := by
    rw [← List.append_nil (transformStages _ _ _), runStages_changes]
    exact givesIf_pure _
  rw [validate_text hd.stages hshape, runStages_changes]
  exact (runStages_asks htests (stringChecks_ask hchecks) hpads).congr
    (and_iff_left trivial).symm

/-- A rule for texts without a default compiles if it changes nothing and makes one check. -/
theorem string_compiles {check : Check} {name : String} {v : Value} (hdefault : c.default? = none)
    (hpreparation : o.preparation = []) (hpadding : o.padding = [])
    (hchecks : o.checks "$" = pure [check]) (hschema : check.schema = keyword name v) :
    ∃ d, (Rule.string c o).CompilesTo ctx d := by
  have hstages : stringStages (.string c o) o "$"
      = checkedStages (.string c o) .validate "string.constraints" check "$" := by
    simp [stringStages, checkedStages, transformStages, hchecks, hpreparation, hpadding]
  exact compilesTo_of_check rfl hdefault hstages hschema

end

/-! ### Flags for classes -/

namespace StringOptions

/-- Whether a rule asks that a text is of a class. -/
def asks (o : StringOptions) : Charset → Bool
  | .alpha => o.alpha
  | .numeric => o.numeric
  | .alphanum => o.alphanum
  | .alphadash => o.alphadash
  | .hex => o.hex
  | .singleLine => o.singleLine
  | .base64 => o.base64

/-- The options with the flag for one class set or cleared. -/
def setClass (o : StringOptions) (b : Bool) : Charset → StringOptions
  | .alpha => { o with alpha := b }
  | .numeric => { o with numeric := b }
  | .alphanum => { o with alphanum := b }
  | .alphadash => { o with alphadash := b }
  | .hex => { o with hex := b }
  | .singleLine => { o with singleLine := b }
  | .base64 => { o with base64 := b }

variable {o : StringOptions} {s : String} {j k : Charset}

theorem mem_charsets : k ∈ o.charsets ↔ o.asks k = true := by
  cases k <;> simp [charsets, asks]

theorem asks_setClass (b : Bool) : (o.setClass b k).asks j = if j = k then b else o.asks j := by
  cases k <;> cases j <;> rfl

/-- **What a flag adds** to the other options. -/
theorem admits_setClass (hk : k ∈ o.charsets) :
    o.Admits s ↔ (o.setClass false k).Admits s ∧ k.Accepts s := by
  have hothers : ∀ j, j ∈ (o.setClass false k).charsets ↔ j ∈ o.charsets ∧ j ≠ k := by
    intro j
    rw [mem_charsets, mem_charsets, asks_setClass]
    by_cases hjk : j = k <;> simp [hjk]
  constructor
  · intro h
    have hclasses : ∀ j ∈ (o.setClass false k).charsets, j.Accepts s :=
      fun j hj => h.classes j ((hothers j).mp hj).1
    refine ⟨?_, h.classes k hk⟩
    cases k <;>
      exact ⟨h.notBlank, h.min, h.max, h.length, h.pattern, h.contains, hclasses, h.listed⟩
  · rintro ⟨h, haccepts⟩
    have hclasses : ∀ j ∈ o.charsets, j.Accepts s := by
      intro j hj
      by_cases hjk : j = k
      · rwa [hjk]
      · exact h.classes j ((hothers j).mpr ⟨hj, hjk⟩)
    cases k <;>
      exact ⟨h.notBlank, h.min, h.max, h.length, h.pattern, h.contains, hclasses, h.listed⟩

/-- **What a list of texts adds** to the other options. -/
theorem admits_listed {texts : List String} (hlist : o.enum? = some texts) (h : texts ≠ []) :
    o.Admits s ↔ ({ o with enum? := none } : StringOptions).Admits s ∧ s ∈ texts := by
  constructor
  · intro hs
    exact ⟨⟨hs.notBlank, hs.min, hs.max, hs.length, hs.pattern, hs.contains, hs.classes,
      fun _ hnone => nomatch hnone⟩, hs.listed texts hlist h⟩
  · rintro ⟨hs, hmem⟩
    refine ⟨hs.notBlank, hs.min, hs.max, hs.length, hs.pattern, hs.contains, hs.classes, ?_⟩
    intro texts' heq _
    rwa [← Option.some.inj (hlist.symm.trans heq)]

/-- Without options nothing is asked. -/
theorem admits_nothing : ({} : StringOptions).Admits s where
  notBlank := fun h => nomatch h
  min := fun _ h => nomatch h
  max := fun _ h => nomatch h
  length := fun _ h => nomatch h
  pattern := fun _ _ _ h => nomatch h
  contains := fun _ h => nomatch h
  classes := fun _ hk => absurd hk List.not_mem_nil
  listed := fun _ h => nomatch h

end StringOptions

/-- The options of a rule that asks for one class and nothing else. -/
def Charset.flag (k : Charset) : StringOptions := ({} : StringOptions).setClass true k

/-- **A flag for a class adds just its class**, with a line feed that may stand after a text of it:
to a rule that asks for nothing else, which always compiles, as to any other rule for texts. -/
theorem class_flags_exact (k : Charset) (c : CommonOptions) (ctx : Strictness) :
    (c.default? = none → ∃ d, (Rule.string c k.flag).CompilesTo ctx d) ∧
    (∀ d, (Rule.string c k.flag).CompilesTo ctx d → ∀ s : String,
      (d.validate (.text s)).GivesIf (.text s) (k.Accepts s)) ∧
    ∀ o d, k ∈ o.charsets → (Rule.string c o).CompilesTo ctx d → ∀ s : String,
      (d.validate (.text s)).GivesIf (.text (o.padded (o.prepared s)))
        ((o.setClass false k).Admits (o.prepared s) ∧ k.Accepts (o.prepared s)) := by
  have hflag : k ∈ k.flag.charsets := by cases k <;> decide
  refine ⟨fun hdefault => ?_, fun d hd s => ?_, fun o d hk hd s => ?_⟩
  · obtain ⟨check, hcheck, hschema, -⟩ := charsetCheck_eq "$" k
    have hclasses : k.flag.charsets.mapM (charsetCheck "$") = pure [check] := by
      have hone : k.flag.charsets = [k] := by cases k <;> rfl
      rw [hone, List.mapM_cons, hcheck, pure_bind, List.mapM_nil, pure_bind]
    have hchecks : k.flag.checks "$" = pure [check] := by
      rw [StringOptions.checks, hclasses]
      cases k <;> rfl
    exact string_compiles hdefault (by cases k <;> rfl) (by cases k <;> rfl) hchecks hschema
  · have hclear : k.flag.setClass false k = {} := by cases k <;> rfl
    have hsame : k.flag.padded (k.flag.prepared s) = s ∧ k.flag.prepared s = s := by
      cases k <;> exact ⟨rfl, rfl⟩
    have hexact := string_exact hd s
    rw [hsame.1, hsame.2] at hexact
    refine hexact.congr ?_
    rw [StringOptions.admits_setClass hflag, hclear]
    exact (and_iff_right StringOptions.admits_nothing).symm
  · exact (string_exact hd s).congr (StringOptions.admits_setClass hk).symm

/-- A rule for letters: what it accepts with and without a line feed, and what it rejects. -/
theorem class_flags_exact_letters :
    ∃ d, (Rule.string {} Charset.alpha.flag).CompilesTo {} d ∧
      d.validate (.text "abc") = pure (.text "abc") ∧
      d.validate (.text "abc\n") = pure (.text "abc\n") ∧
      (∃ e, d.validate (.text "ab1") = .reject e) ∧ ∃ e, d.validate (.text "") = .reject e := by
  obtain ⟨hcompiles, hexact, hbeside⟩ := class_flags_exact .alpha {} {}
  obtain ⟨d, hd⟩ := hcompiles rfl
  have hletters : ∀ w, w ∈ Charset.alpha.Contains ↔ w ≠ [] ∧ w.all Char.isAlpha = true :=
    fun w => and_congr_right fun _ => List.all_eq_true.symm
  refine ⟨d, hd, (hexact d hd "abc").accepts (.inl ?_), (hexact d hd "abc\n").accepts (.inr ?_),
    (hexact d hd "ab1").rejects ?_, (hbeside _ d (by decide) hd "").rejects ?_⟩
  · exact (hletters _).mpr (by decide)
  · exact ⟨"abc".toList, by decide, (hletters _).mpr (by decide)⟩
  · rintro (h | ⟨w, hs, h⟩)
    · exact absurd ((hletters _).mp h).2 (by decide)
    · have hlast := congrArg List.getLast? hs
      rw [List.getLast?_concat] at hlast
      exact absurd hlast (by decide)
  · rintro ⟨-, h | ⟨w, hs, h⟩⟩
    · exact absurd ((hletters _).mp h).1 (by decide)
    · have hempty : [] = w ++ ['\n'] := hs
      simp at hempty

/-! ### Lists of texts -/

/-- **A list of texts adds just that a text is one of it**, whatever the texts are: to a rule that
asks for nothing else, which always compiles, as to any other rule for texts. -/
theorem listed_texts_exact {texts : List String} (h : texts ≠ []) (c : CommonOptions)
    (ctx : Strictness) :
    (∀ path, ∃ check, oneOfTexts path texts = pure check ∧
      ∀ s, check.test (.text s) = .ok (decide (s ∈ texts))) ∧
    (c.default? = none → ∃ d, (Rule.string c { enum? := some texts }).CompilesTo ctx d) ∧
    (∀ d, (Rule.string c { enum? := some texts }).CompilesTo ctx d → ∀ s : String,
      (d.validate (.text s)).GivesIf (.text s) (s ∈ texts)) ∧
    ∀ o d, o.enum? = some texts → (Rule.string c o).CompilesTo ctx d → ∀ s : String,
      (d.validate (.text s)).GivesIf (.text (o.padded (o.prepared s)))
        (({ o with enum? := none } : StringOptions).Admits (o.prepared s) ∧
          o.prepared s ∈ texts) := by
  refine ⟨fun path => ?_, fun hdefault => ?_, fun d hd s => ?_, fun o d hlist hd s => ?_⟩
  · obtain ⟨check, hcheck, -, htest⟩ := oneOfTexts_eq path h
    exact ⟨check, hcheck, htest⟩
  · obtain ⟨check, hcheck, hschema, -⟩ := oneOfTexts_eq "$" h
    have hchecks : ({ enum? := some texts } : StringOptions).checks "$" = pure [check] := by
      obtain ⟨a, as, rfl⟩ := List.exists_cons_of_ne_nil h
      rw [StringOptions.checks]
      dsimp only
      rw [hcheck]
      rfl
    exact string_compiles hdefault rfl rfl hchecks hschema
  · refine (string_exact hd s).congr ?_
    rw [StringOptions.admits_listed rfl h]
    exact (and_iff_right StringOptions.admits_nothing).symm
  · exact (string_exact hd s).congr (StringOptions.admits_listed hlist h).symm

/-- A list of texts some of which mean something else as patterns, are empty, or start another. -/
theorem listed_texts_exact_special :
    let texts := ["a.b", "", "a", "a\n"]
    ∃ d, (Rule.string {} { enum? := some texts }).CompilesTo {} d ∧
      d.validate (.text "") = pure (.text "") ∧ d.validate (.text "a\n") = pure (.text "a\n") ∧
      (∃ e, d.validate (.text "axb") = .reject e) ∧ ∃ e, d.validate (.text "\n") = .reject e := by
  intro texts
  obtain ⟨-, hcompiles, hexact, hbeside⟩ := listed_texts_exact (List.cons_ne_nil "a.b" _) {} {}
  obtain ⟨d, hd⟩ := hcompiles rfl
  exact ⟨d, hd, (hexact d hd "").accepts (by decide), (hexact d hd "a\n").accepts (by decide),
    (hexact d hd "axb").rejects (by decide),
    (hbeside _ d rfl hd "\n").rejects fun h => absurd h.2 (by decide)⟩

end RuleSchema
