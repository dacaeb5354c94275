import RuleSchema.Proofs.Number.Numerals
import RuleSchema.Proofs.Pattern.Amounts
import RuleSchema.Proofs.Validator.Texts

/-!
# Amounts of money

A rule for amounts of money searches a text for the pattern that is made of its symbol and its
separators.  It finds every amount with the symbol before it, with a minus sign on either side of
the symbol or without one.  Symbol and separators may be any texts, with line feeds and characters
that mean something in a pattern among them; but a symbol may hold no line feed, and neither it nor
the separator of thousands may hold a placeholder of the template that is filled in later.

* `IsAmount`: an amount without its symbol.
* `search_signed`: an amount after a symbol and a sign is found.
* `amounts_found`: **what a rule for amounts of money finds.**
-/

namespace RuleSchema

open Eval Pattern Language
open scoped Computability

/-! ### Amounts -/

/-- A number of digits of ASCII between two. -/
structure AreDigits (least most : Nat) (w : List Char) : Prop where
  least : least ≤ w.length
  most : w.length ≤ most
  digits : ∀ c ∈ w, c.isDigit = true

instance {least most : Nat} {w : List Char} : Decidable (AreDigits least most w) :=
  decidable_of_iff (least ≤ w.length ∧ w.length ≤ most ∧ w.all Char.isDigit = true)
    ⟨fun ⟨hleast, hmost, h⟩ => ⟨hleast, hmost, List.all_eq_true.mp h⟩,
      fun h => ⟨h.least, h.most, List.all_eq_true.mpr h.digits⟩⟩

/-- One to three digits, any number of groups of three digits with a separator before each, and
maybe one or two digits after another separator. -/
def IsAmount (t d amount : String) : Prop :=
  ∃ (first : List Char) (groups : List (List Char)) (decimals? : Option (List Char)),
    AreDigits 1 3 first ∧ (∀ g ∈ groups, AreDigits 3 3 g) ∧ (∀ f ∈ decimals?, AreDigits 1 2 f) ∧
    amount.toList = first ++ groups.flatMap (t.toList ++ ·) ++
      (decimals?.map (d.toList ++ ·)).getD []

section

variable {s t d : String} {isOptional : Bool} {least most : Nat} {u w : List Char}

theorem AreDigits.mem_digitWords (h : AreDigits least most w) : w ∈ digitWords least most :=
  ⟨h.least, h.most, fun c hc => Text.isDigit_of_ascii (h.digits c hc)⟩

/-- **The pattern admits an amount** after its symbol. -/
theorem IsAmount.mem {amount : String} (h : IsAmount t d amount) :
    amount.toList ∈ (1 + wholeNumberLanguage t) * (1 + {d.toList} * digitWords 1 2) := by
  obtain ⟨first, groups, decimals?, hfirst, hgroups, hdecimals, hamount⟩ := h
  rw [hamount, mem_mul]
  refine ⟨_, .inr (.inl ?_), _, ?_, rfl⟩
  · cases first with
    | nil => exact absurd hfirst.least (by decide)
    | cons c first =>
      have hrest : AreDigits 0 2 first := ⟨Nat.zero_le _, Nat.le_of_succ_le_succ hfirst.most,
        fun e he => hfirst.digits e (List.mem_cons_of_mem _ he)⟩
      have hthousands : groups.flatMap (t.toList ++ ·) ∈ ({t.toList} * digitWords 3 3)∗ := by
        refine mem_kstar.mpr ⟨groups.map (t.toList ++ ·), List.flatMap_def .., ?_⟩
        intro w hw
        obtain ⟨g, hg, rfl⟩ := List.mem_map.mp hw
        exact ⟨_, rfl, g, (hgroups g hg).mem_digitWords, rfl⟩
      exact ⟨[c], ⟨c, hfirst.digits c List.mem_cons_self, rfl⟩, _,
        ⟨first, hrest.mem_digitWords, _, hthousands, rfl⟩, rfl⟩
  · cases decimals? with
    | none => exact .inl rfl
    | some f => exact .inr ⟨_, rfl, f, (hdecimals f rfl).mem_digitWords, rfl⟩

/-- An amount starts with a digit. -/
theorem IsAmount.starts {amount : String} (h : IsAmount t d amount) :
    ∃ c v, amount.toList = c :: v ∧ Text.isDigit c = true := by
  obtain ⟨first, groups, decimals?, hfirst, -, -, hamount⟩ := h
  cases first with
  | nil => exact absurd hfirst.least (by decide)
  | cons c first =>
    exact ⟨c, _, hamount, Text.isDigit_of_ascii (hfirst.digits c List.mem_cons_self)⟩

/-! ### Symbols -/

theorem mem_symbol (s : String) (isOptional : Bool) : s.toList ∈ symbolLanguage s isOptional := by
  cases isOptional
  · exact rfl
  · exact .inr rfl

/-- **An amount after a symbol** and a sign is found. -/
theorem search_signed {amount : String} (h : IsAmount t d amount)
    (hu : u ∈ signedLanguage s isOptional) (hline : '\n' ∉ u) :
    (currencyNode s isOptional t d).search (u ++ amount.toList) = true := by
  obtain ⟨c, v, hstart, hc⟩ := h.starts
  refine search_currency.mpr ⟨.inl ⟨u, hu, _, h.mem, rfl⟩, u, c, v, ?_, hline, hc⟩
  rw [hstart]

/-- A symbol that must be there is part of what stands before an amount. -/
theorem symbol_subset (hw : w ∈ amountLanguage s false t d) : s.toList ⊆ w := by
  obtain ⟨u, hu, v, -, rfl⟩ := hw
  rcases hu with ⟨x, -, _, rfl, rfl⟩ | ⟨_, rfl, x, -, rfl⟩
  · intro c hc
    simp [hc]
  · intro c hc
    simp [hc]

/-- **An amount without its symbol** is found only if the symbol may be left out, unless symbol and
amount have characters in common. -/
theorem search_unsigned {amount : String} (h : IsAmount t d amount) (hs : s ≠ "")
    (hapart : ∀ c ∈ s.toList, c ∉ amount.toList) :
    (currencyNode s isOptional t d).search amount.toList = true ↔ isOptional = true := by
  cases isOptional with
  | true =>
    have hempty : ([] : List Char) ∈ signedLanguage s true :=
      .inl ⟨[], .inl rfl, [], .inl rfl, rfl⟩
    exact iff_of_true (search_signed h hempty List.not_mem_nil) rfl
  | false =>
    have hne : s.toList ≠ [] := fun hnil => hs (String.toList_eq_nil_iff.mp hnil)
    obtain ⟨c, hc⟩ := List.exists_mem_of_ne_nil _ hne
    refine iff_of_false (fun hfound => ?_) Bool.false_ne_true
    obtain ⟨hw | ⟨w, hamount, hw⟩, -⟩ := search_currency.mp hfound
    · exact hapart c hc (symbol_subset hw hc)
    · refine hapart c hc ?_
      rw [hamount]
      exact List.mem_append_left _ (symbol_subset hw hc)

end

/-! ### The rule -/

/-- The options of a rule for amounts with a symbol and separators. -/
def amountOptions (s : String) (isOptional : Bool) (t d : String) : CurrencyOptions :=
  { symbol? := some s, symbolOptional := isOptional, thousandSeparator := t, decimalSeparator := d }

section

variable {s t d : String} {isOptional : Bool} {p : Pattern} {c : CommonOptions} {ctx : Strictness}

/-- The check that a text contains an amount. -/
def amountCheck (p : Pattern) : Check where
  name := "currency.pattern"
  test := onText p.searches
  message := "The value does not match the currency pattern"
  schema := patternSchema p.source

theorem currencyStages_eq (r : Rule) (path : String)
    (hp : Pattern.compile (currencySource s isOptional t d) {} "" path = .ok p) :
    currencyStages r (amountOptions s isOptional t d) path
      = checkedStages r .validate "currency.constraints" (amountCheck p) path := by
  have hpattern : (amountOptions s isOptional t d).pattern path
      = pure (p, "The value does not match the currency pattern") := by
    change (compilePattern (currencySource s isOptional t d) path >>= _) = _
    rw [compilePattern, hp]
    rfl
  rw [currencyStages, hpattern]
  rfl

/-- **A rule for amounts searches for its pattern.** -/
theorem currency_exact
    (hp : ∀ path, Pattern.compile (currencySource s isOptional t d) {} "" path = .ok p) :
    (c.default? = none →
      ∃ v, (Rule.currency c (amountOptions s isOptional t d)).CompilesTo ctx v) ∧
    ∀ v, (Rule.currency c (amountOptions s isOptional t d)).CompilesTo ctx v → ∀ text : String,
      (v.validate (.text text)).GivesIf (.text text) (p.searches text = true) := by
  let r := Rule.currency c (amountOptions s isOptional t d)
  have hstages : ∀ path, scalarStages r path = _ := fun path => currencyStages_eq r path (hp path)
  exact ⟨fun hdefault => compilesTo_of_check rfl hdefault (hstages "$") rfl,
    fun v hv text => validate_checked rfl hstages hv (asks_one rfl)⟩

end

/-- **Symbol and separators stand for themselves**, unless they hold a placeholder that is filled
in later.  The pattern that is made of them compiles, and it finds every amount after its symbol,
with a minus sign before or after the symbol or without one; an amount without its symbol it finds
only if that is optional, where the two have no characters in common.  A rule with such a symbol
and separators compiles, and it accepts just the texts in which the pattern is found. -/
theorem amounts_found {s t : String} (hs : s ≠ "") (hline : '\n' ∉ s.toList)
    (h2 : ¬ "~2".toList <:+: s.toList) (h3 : ¬ "~3".toList <:+: s.toList)
    (ht : ¬ "~3".toList <:+: t.toList) (isOptional : Bool) (d : String) :
    ∃ p : Pattern,
      (∀ path, Pattern.compile (currencySource s isOptional t d) {} "" path = .ok p) ∧
      (∀ amount : String, IsAmount t d amount →
        p.searches (s ++ amount) = true ∧ p.searches ("-" ++ s ++ amount) = true ∧
        p.searches (s ++ "-" ++ amount) = true ∧
        ((∀ c ∈ s.toList, c ∉ amount.toList) → (p.searches amount = true ↔ isOptional = true))) ∧
      ∀ (c : CommonOptions) (ctx : Strictness),
        (c.default? = none →
          ∃ v, (Rule.currency c (amountOptions s isOptional t d)).CompilesTo ctx v) ∧
        ∀ v, (Rule.currency c (amountOptions s isOptional t d)).CompilesTo ctx v →
          ∀ text : String,
            (v.validate (.text text)).GivesIf (.text text) (p.searches text = true) := by
  have hparse := parse_currency hs (Text.lacks_of_not_infix h2) (Text.lacks_of_not_infix h3)
    (Text.lacks_of_not_infix ht) isOptional d
  have hcompile := compile_of_parse hparse
  refine ⟨_, hcompile, fun amount h => ⟨?_, ?_, ?_, search_unsigned h hs⟩,
    fun c ctx => currency_exact hcompile⟩
  · have hsigned : s.toList ∈ signedLanguage s isOptional :=
      .inl ⟨[], .inl rfl, _, mem_symbol s isOptional, rfl⟩
    rw [Pattern.searches, String.toList_append]
    exact search_signed h hsigned hline
  · have hsigned : '-' :: s.toList ∈ signedLanguage s isOptional :=
      .inl ⟨['-'], .inr rfl, _, mem_symbol s isOptional, rfl⟩
    rw [Pattern.searches, String.toList_append, String.toList_append]
    exact search_signed h hsigned (by simpa using hline)
  · have hsigned : s.toList ++ ['-'] ∈ signedLanguage s isOptional :=
      .inr ⟨_, mem_symbol s isOptional, ['-'], .inr rfl, rfl⟩
    rw [Pattern.searches, String.toList_append, String.toList_append]
    exact search_signed h hsigned (by simpa using hline)

/-- An amount in kroner, whose symbol has a point in it as its decimal separator has. -/
theorem amounts_found_kroner :
    IsAmount "." "," "12.345,50" ∧ ∃ v,
      (Rule.currency {} (amountOptions "kr." false "." ",")).CompilesTo {} v ∧
      v.validate (.text "kr.12.345,50") = pure (.text "kr.12.345,50") := by
  have hamount : IsAmount "." "," "12.345,50" :=
    ⟨['1', '2'], [['3', '4', '5']], some ['5', '0'], by decide, by decide, by decide, rfl⟩
  obtain ⟨p, -, hfound, hrule⟩ := amounts_found (s := "kr.") (t := ".") (by decide) (by decide)
    (by decide) (by decide) (by decide) false ","
  obtain ⟨hcompiles, haccepts⟩ := hrule {} {}
  obtain ⟨v, hv⟩ := hcompiles rfl
  exact ⟨hamount, v, hv, (haccepts v hv "kr.12.345,50").accepts (hfound _ hamount).1⟩

end RuleSchema
