import RuleSchema.Proofs.Pattern.Texts
import RuleSchema.Proofs.Text.Search

/-!
# Patterns of amounts

The pattern of an amount of money is made by putting a symbol and two separators into a template,
one after the other.  A backslash before what means something keeps these texts as they are; but it
does not keep a text from being taken for a placeholder that is filled in later.  Where the symbol
holds neither of the later placeholders, and the separator of thousands not the last one, the
pattern is read as the template means it.

* `symbol_lacks`: the pattern of a symbol holds a placeholder only if the symbol does.
* `currencySource_eq`: **the filled template**, `parse_currency`: what it is read as.
* `search_currency`: what the pattern finds.
-/

namespace RuleSchema.Pattern

open Language Text
open scoped Computability

/-! ### Placeholders -/

/-- The pattern of a symbol, character by character. -/
def symbolChars (s : String) (isOptional : Bool) : List Char :=
  (if 1 < s.length then '(' :: (['?', ':'] ++ s.toList.flatMap escapeChar ++ [')'])
    else s.toList.flatMap escapeChar) ++ (if isOptional then ['?'] else [])

section

variable {y : Char} {s t d : String} {u : List Char} {isOptional : Bool}

theorem symbolSource_eq (hs : s ≠ "") (isOptional : Bool) :
    (symbolSource s isOptional).toList = symbolChars s isOptional := by
  rw [symbolSource, if_neg hs, symbolChars]
  cases isOptional <;> split <;> simp [escapeText]

/-- The first character of a text with backslashes, which is none of an ordinary `y` unless the text
starts with `y`. -/
theorem escape_head (hy : y ∉ specialChars) (h : u.head? ≠ some y) :
    (u.flatMap escapeChar).head? ≠ some y := by
  cases u with
  | nil => exact nofun
  | cons c u =>
    rw [List.flatMap_cons, escapeChar]
    split
    · exact fun heq => hy (Option.some.inj heq ▸ by decide)
    · exact h

/-- A text with backslashes has a tilde before an ordinary `y` only where the text has. -/
theorem escape_lacks (hy : y ∉ specialChars) (h : Lacks '~' y u) :
    Lacks '~' y (u.flatMap escapeChar) := by
  induction u with
  | nil => exact .nil
  | cons c u ih =>
    have hone : Lacks '~' y (escapeChar c) := by
      rw [escapeChar]
      split
      · exact List.isChain_cons_cons.mpr ⟨fun h => absurd h.1 (by decide), .singleton c⟩
      · exact .singleton c
    have hlast : (escapeChar c).getLast? = some c := by
      rw [escapeChar]
      split <;> rfl
    refine hone.append (ih h.tail) ?_
    rw [hlast, or_iff_not_imp_left, not_not]
    intro hc
    refine escape_head hy fun hhead => ?_
    cases u with
    | nil => cases hhead
    | cons e u => exact (List.isChain_cons_cons.mp h).1 ⟨Option.some.inj hc, Option.some.inj hhead⟩

/-- **The pattern of a symbol** has a tilde before an ordinary `y` only where the symbol has. -/
theorem symbol_lacks (hy : y ∉ specialChars) (h : Lacks '~' y s.toList) :
    Lacks '~' y (symbolChars s isOptional) := by
  have hescaped := escape_lacks hy h
  have hmark : ∀ c ∈ specialChars, ∀ v : List Char, (c :: v).head? ≠ some y :=
    fun c hc v heq => hy (Option.some.inj heq ▸ hc)
  have hgroup : Lacks '~' y ('(' :: (['?', ':'] ++ s.toList.flatMap escapeChar ++ [')'])) := by
    have hopen : Lacks '~' y ['(', '?', ':'] := by simp [Lacks]
    exact hopen.append (hescaped.append (.singleton ')') (.inr (hmark _ (by decide) _)))
      (.inl (by decide))
  have hoptional : Lacks '~' y (if isOptional then ['?'] else []) := by
    cases isOptional
    · exact .nil
    · exact .singleton '?'
  have hhead : (if isOptional then ['?'] else []).head? ≠ some y := by
    cases isOptional
    · exact nofun
    · exact hmark _ (by decide) _
  rw [symbolChars]
  split
  · exact hgroup.append hoptional (.inr hhead)
  · exact hescaped.append hoptional (.inr hhead)

end

/-! ### The filled template -/

/-- The template up to the first symbol. -/
def beforeSymbol : List Char := ['(', '?', '=', '.', '*', '\\', 'd', ')', '^', '(', '-', '?']

/-- The template from the second symbol to the separator of thousands. -/
def beforeThousands : List Char :=
  ['-', '?', ')', '(', '(', '[', '0', '-', '9', ']', '\\', 'd', '\x7b', '0', ',', '2', '\x7d', '(']

/-- The template between the separators. -/
def beforeDecimal : List Char :=
  ['\\', 'd', '\x7b', '3', '\x7d', ')', '*', ')', '|', '0', ')', '?', '(']

/-- The template after the decimal separator. -/
def afterDecimal : List Char :=
  ['\\', 'd', '\x7b', '1', ',', '2', '\x7d', ')', '?', '$']

/-- The template with a symbol and separators. -/
def currencyChars (symbol thousands decimal : List Char) : List Char :=
  beforeSymbol ++ (symbol ++ ('|' :: (symbol ++ (beforeThousands ++
    (thousands ++ (beforeDecimal ++ (decimal ++ afterDecimal)))))))

/-- What is filled in up to the separator of thousands holds a later placeholder only if the symbol
or what follows does. -/
theorem filled_lacks {y : Char} {symbol v : List Char} (hy : y ∈ ['2', '3'])
    (hsymbol : Lacks '~' y symbol) (hv : Lacks '~' y v) :
    Lacks '~' y (beforeSymbol ++ (symbol ++ ('|' :: (symbol ++ (beforeThousands ++ v))))) := by
  obtain ⟨hbefore, hafter, hhead, hbar⟩ : Lacks '~' y beforeSymbol ∧
      Lacks '~' y beforeThousands ∧ some '-' ≠ some y ∧ some '|' ≠ some y := by
    obtain rfl | rfl : y = '2' ∨ y = '3' := by simpa using hy
    · decide
    · decide
  have hrest : Lacks '~' y (beforeThousands ++ v) := hafter.append hv (.inl (by decide))
  have hsecond : Lacks '~' y (['|'] ++ (symbol ++ (beforeThousands ++ v))) :=
    Lacks.append (.singleton '|') (hsymbol.append hrest (.inr hhead)) (.inl (by decide))
  exact hbefore.append (hsymbol.append hsecond (.inr hbar)) (.inl (by decide))

section

variable {s t : String} {isOptional : Bool}

theorem fill_symbol (hs : s ≠ "") : substitute "~1" (symbolSource s isOptional) currencyTemplate
    = String.ofList (beforeSymbol ++ (symbolChars s isOptional ++ ('|' ::
        (symbolChars s isOptional ++ (beforeThousands ++
          '~' :: '2' :: (beforeDecimal ++ '~' :: '3' :: afterDecimal)))))) := by
  have htemplate : currencyTemplate.toList = beforeSymbol ++ '~' :: '1' :: (['|'] ++ '~' :: '1' ::
      (beforeThousands ++ '~' :: '2' :: (beforeDecimal ++ '~' :: '3' :: afterDecimal))) := by
    decide
  have hmark : "~1".toList = ['~', '1'] := rfl
  rw [substitute, symbolSource_eq hs, htemplate, hmark, replaceAll_pair (by decide) (by decide),
    replaceAll_pair (by decide) (by decide), replaceAll_lacks (by decide)]
  rfl

/-- A separator is filled in where its placeholder stands, and nowhere else. -/
theorem fill_separator {y : Char} {u v : List Char} (separator : String) (hy : '~' ≠ y)
    (hu : Lacks '~' y u) (hv : Lacks '~' y v) :
    substitute (String.ofList ['~', y]) (escapeText separator)
        (String.ofList (u ++ '~' :: y :: v))
      = String.ofList (u ++ (separator.toList.flatMap escapeChar ++ v)) := by
  rw [substitute, escapeText, String.toList_ofList, String.toList_ofList, String.toList_ofList,
    replaceAll_pair hy hu, replaceAll_lacks hv]

/-- **The template is filled** as it is meant, if no text that is put into it holds a placeholder
that is filled in later. -/
theorem currencySource_eq (hs : s ≠ "") (h2 : Lacks '~' '2' s.toList) (h3 : Lacks '~' '3' s.toList)
    (ht : Lacks '~' '3' t.toList) (d : String) : currencySource s isOptional t d
      = String.ofList (currencyChars (symbolChars s isOptional) (t.toList.flatMap escapeChar)
          (d.toList.flatMap escapeChar)) := by
  have htwo : Lacks '~' '2' (symbolChars s isOptional) := symbol_lacks (by decide) h2
  have hthree : Lacks '~' '3' (symbolChars s isOptional) := symbol_lacks (by decide) h3
  have hthousands : Lacks '~' '3' (t.toList.flatMap escapeChar) := escape_lacks (by decide) ht
  have hmarks : "~2" = String.ofList ['~', '2'] ∧ "~3" = String.ofList ['~', '3'] := ⟨rfl, rfl⟩
  have hbefore := filled_lacks (y := '2') (v := []) (by decide) htwo .nil
  have hbetween := filled_lacks (by decide) hthree
    (hthousands.append (v := beforeDecimal) (by decide) (.inr (by decide)))
  have hfirst := fill_separator t (by decide) hbefore
    (v := beforeDecimal ++ '~' :: '3' :: afterDecimal) (by decide)
  have hsecond := fill_separator d (by decide) hbetween (v := afterDecimal) (by decide)
  simp only [List.append_assoc, List.cons_append, List.nil_append] at hfirst hsecond
  rw [currencySource, fill_symbol hs, hmarks.1, hfirst, hmarks.2, hsecond, currencyChars]

end

-- A symbol that is a later placeholder is lost: the separator of thousands stands where it stood.
example : currencySource "~2" false "," "." =
    "(?=.*\\d)^(-?(?:\\,)|(?:\\,)-?)" ++
    "(([0-9]\\d\x7b0,2\x7d(,\\d\x7b3\x7d)*)|0)?(\\.\\d\x7b1,2\x7d)?$" := by
  decide +kernel

/-! ### The pattern -/

/-- The pattern of a symbol. -/
def symbolNode (s : String) (isOptional : Bool) : Node :=
  if isOptional then .repeat .greedy 0 (some 1) (textNode s) else textNode s

/-- A minus sign, if there is one. -/
def signNode : Node := .repeat .greedy 0 (some 1) (charNode '-')

/-- A symbol with a sign before or after it. -/
def signedNode (s : String) (isOptional : Bool) : Node :=
  .alt (.seq signNode (symbolNode s isOptional)) (.seq (symbolNode s isOptional) signNode)

/-- Some digits. -/
def digitsNode (least most : Nat) : Node := .repeat .greedy least (some most) digitNode

/-- A text and some digits after it. -/
def fractionNode (s : String) (least most : Nat) : Node :=
  sequenceOf (charParts s.toList ++ [⟨digitsNode least most, false⟩])

/-- The digits before the decimal separator. -/
def wholeNumberNode (t : String) : Node :=
  .alt (.group 3 (.seq (.set ⟨false, .exact, [.range 48 57]⟩) (.seq (digitsNode 0 2)
    (.repeat .greedy 0 none (.group 4 (fractionNode t 3 3)))))) (charNode '0')

/-- Some characters of a line and a digit. -/
def digitAheadNode : Node := .seq (.repeat .greedy 0 none (.set (.any false))) digitNode

/-- The pattern of an amount after its look ahead. -/
def amountNode (s : String) (isOptional : Bool) (t d : String) : Node :=
  .seq (.anchor .textStart) (.seq (.group 1 (signedNode s isOptional))
    (.seq (.repeat .greedy 0 (some 1) (.group 2 (wholeNumberNode t)))
      (.seq (.repeat .greedy 0 (some 1) (.group 5 (fractionNode d 1 2))) (.anchor .lastLineEnd))))

/-- The pattern of an amount. -/
def currencyNode (s : String) (isOptional : Bool) (t d : String) : Node :=
  .seq (.ahead false digitAheadNode) (amountNode s isOptional t d)

section

variable {s t d : String} {isOptional : Bool} {g : Nat}

/-- **The pattern of a symbol** is read as one part, which may be left out as a whole. -/
theorem adds_symbol (hs : s ≠ "") (isOptional : Bool) (g : Nat) :
    ∃ grouped, Adds (symbolChars s isOptional) g [⟨symbolNode s isOptional, grouped⟩] g := by
  obtain ⟨cs, grouped, hitem, hcs, hrepeatable⟩ : ∃ cs grouped, Item cs g ⟨textNode s, grouped⟩ g ∧
      (if 1 < s.length then '(' :: (['?', ':'] ++ s.toList.flatMap escapeChar ++ [')'])
        else s.toList.flatMap escapeChar) = cs ∧
      Part.isRepeatable ⟨textNode s, grouped⟩ = true := by
    by_cases hlength : 1 < s.length
    · exact ⟨_, true, (adds_text s.toList g).choice.plain, if_pos hlength, rfl⟩
    · obtain ⟨c, hc⟩ : ∃ c, s.toList = [c] := by
        have hne : s.toList ≠ [] := fun h => hs (String.toList_eq_nil_iff.mp h)
        have hpos := List.length_pos_iff.mpr hne
        rw [String.length_toList] at hpos
        exact List.length_eq_one_iff.mp (by rw [String.length_toList]; omega)
      have hnode : textNode s = charNode c := by rw [textNode, hc]; rfl
      rw [if_neg hlength, hnode, hc, List.flatMap_singleton]
      exact ⟨_, false, item_char c g, rfl, rfl⟩
  rw [symbolChars, symbolNode, hcs]
  cases isOptional with
  | true => exact ⟨false, hitem.optional hrepeatable⟩
  | false =>
    rw [if_neg Bool.false_ne_true, if_neg Bool.false_ne_true, List.append_nil]
    exact ⟨grouped, hitem.adds⟩

theorem adds_sign (g : Nat) : Adds ['-', '?'] g [⟨signNode, false⟩] g :=
  (item_plain g (by decide)).optional rfl

theorem item_signed (hs : s ≠ "") (isOptional : Bool) (g : Nat) :
    Item ('(' :: ((['-', '?'] ++ symbolChars s isOptional) ++ '|' ::
      (symbolChars s isOptional ++ ['-', '?']) ++ [')'])) g
        ⟨.group g (signedNode s isOptional), true⟩ (g + 1) := by
  obtain ⟨grouped, hsymbol⟩ := adds_symbol hs isOptional (g + 1)
  exact (((adds_sign _).append hsymbol).or (hsymbol.append (adds_sign _)).choice).group

/-- Some digits between two numbers of them. -/
theorem adds_digits (g : Nat) {a b : Char} (ha : a.isDigit = true) (hb : b.isDigit = true)
    (hab : digitNumber a ≤ digitNumber b) :
    Adds ['\\', 'd', '\x7b', a, ',', b, '\x7d'] g
      [⟨digitsNode (digitNumber a) (digitNumber b), false⟩] g :=
  (item_digit g).between rfl ha hb hab

/-- A separator and three digits. -/
theorem item_thousands (t : String) (g : Nat) :
    Item ('(' :: (t.toList.flatMap escapeChar ++ ['\\', 'd', '\x7b', '3', '\x7d'] ++ [')'])) g
      ⟨.group g (fractionNode t 3 3), true⟩ (g + 1) :=
  ((adds_text t.toList (g + 1)).append ((item_digit (g + 1)).times rfl (by decide))).choice.group

/-- A separator and one digit or two. -/
theorem item_decimals (d : String) (g : Nat) :
    Item ('(' :: (d.toList.flatMap escapeChar ++ ['\\', 'd', '\x7b', '1', ',', '2', '\x7d'] ++
      [')'])) g ⟨.group g (fractionNode d 1 2), true⟩ (g + 1) :=
  ((adds_text d.toList (g + 1)).append
    (adds_digits (g + 1) (by decide) (by decide) (by decide))).choice.group

/-- The digits before the decimal separator, which are grouped or are a zero. -/
theorem adds_wholeNumber (t : String) : ∃ cs, Adds cs 2
    [⟨.repeat .greedy 0 (some 1) (.group 2 (wholeNumberNode t)), false⟩] 5 ∧
      cs = ['(', '(', '[', '0', '-', '9', ']', '\\', 'd', '\x7b', '0', ',', '2', '\x7d', '('] ++
        (t.toList.flatMap escapeChar ++
          ['\\', 'd', '\x7b', '3', '\x7d', ')', '*', ')', '|', '0', ')', '?']) := by
  have hfirst := (item_digitRange 4).adds.append
    ((adds_digits 4 (a := '0') (b := '2') (by decide) (by decide) (by decide)).append
      ((item_thousands t 4).star rfl))
  have hzero : Choice ['0'] 5 (charNode '0') 5 := (item_plain 5 (by decide)).adds.choice
  refine ⟨_, ((hfirst.choice.group.adds.or hzero).group).optional rfl, ?_⟩
  simp

/-- **The filled template is read** as the pattern of an amount. -/
theorem adds_currency (hs : s ≠ "") (isOptional : Bool) (t d : String) : ∃ parts,
    Adds (currencyChars (symbolChars s isOptional) (t.toList.flatMap escapeChar)
      (d.toList.flatMap escapeChar)) 1 parts 6 ∧
        sequenceOf parts = currencyNode s isOptional t d := by
  have hahead := (((item_any 1).star rfl).append (item_digit 1).adds).choice.ahead
  obtain ⟨cs, hwhole, hcs⟩ := adds_wholeNumber t
  have hall := hahead.adds.append ((item_textStart 1).adds.append
    ((item_signed hs isOptional 1).adds.append (hwhole.append
      (((item_decimals d 5).optional rfl).append (item_lastLineEnd 6).adds))))
  refine ⟨_, Eq.mp (congrArg (fun cs => Adds cs 1 _ 6) ?_) hall, rfl⟩
  rw [hcs]
  simp [currencyChars, beforeSymbol, beforeThousands, beforeDecimal, afterDecimal]

/-- **The pattern of an amount compiles**, and to the pattern that the template means, if no text
that is put into the template holds a placeholder that is filled in later. -/
theorem parse_currency (hs : s ≠ "") (h2 : Lacks '~' '2' s.toList) (h3 : Lacks '~' '3' s.toList)
    (ht : Lacks '~' '3' t.toList) (isOptional : Bool) (d : String) :
    parse (currencySource s isOptional t d) {} = .ok (currencyNode s isOptional t d, {}) := by
  obtain ⟨parts, hparts, hnode⟩ := adds_currency hs isOptional t d
  rw [currencySource_eq hs h2 h3 ht, ← hnode]
  exact parse_of_adds hparts

end

/-! ### What the pattern finds -/

/-- The digits of all scripts, so many of them. -/
def digitWords (least most : Nat) : Language Char :=
  {w | least ≤ w.length ∧ w.length ≤ most ∧ ∀ c ∈ w, Text.isDigit c = true}

/-- A symbol, or nothing where it may be left out. -/
def symbolLanguage (s : String) (isOptional : Bool) : Language Char :=
  if isOptional then 1 + {s.toList} else {s.toList}

/-- A symbol with a sign before or after it. -/
def signedLanguage (s : String) (isOptional : Bool) : Language Char :=
  (1 + {['-']}) * symbolLanguage s isOptional + symbolLanguage s isOptional * (1 + {['-']})

/-- The digits before the decimal separator. -/
def wholeNumberLanguage (t : String) : Language Char :=
  oneChar Char.isDigit * (digitWords 0 2 * ({t.toList} * digitWords 3 3)∗) + {['0']}

/-- The amounts in a currency. -/
def amountLanguage (s : String) (isOptional : Bool) (t d : String) : Language Char :=
  signedLanguage s isOptional * ((1 + wholeNumberLanguage t) * (1 + {d.toList} * digitWords 1 2))

section

variable {s t d : String} {isOptional : Bool} {w : List Char}

theorem spells_digit : digitNode.Spells (oneChar Text.isDigit) := by
  refine (spells_set _).congr fun w => exists_congr fun c => and_congr_left fun _ => ?_
  simp [exact_holds, SetItem.holds, Category.holds]

theorem spells_digits {least most : Nat} (h : least ≤ most) :
    (digitsNode least most).Spells (digitWords least most) := by
  refine (spells_digit.chars .greedy fun m hm => ?_).congr fun w => ?_
  · rwa [← Option.some.inj hm]
  · refine and_congr_right fun _ => and_congr_left fun _ => ?_
    simp

theorem spells_fraction (s : String) {least most : Nat} (h : least ≤ most) :
    (fractionNode s least most).Spells ({s.toList} * digitWords least most) := by
  have hlast : (⟨digitsNode least most, false⟩ : Part).node.Spells (digitWords least most) :=
    spells_digits h
  have hparts := List.rel_append (spells_charParts s.toList) (List.Forall₂.cons hlast .nil)
  have hspells := spells_sequenceOf hparts
  rwa [List.prod_append, charLanguages_prod, List.prod_singleton] at hspells

theorem spells_signed (s : String) (isOptional : Bool) :
    (signedNode s isOptional).Spells (signedLanguage s isOptional) := by
  have hsymbol : (symbolNode s isOptional).Spells (symbolLanguage s isOptional) := by
    cases isOptional
    · exact spells_text s
    · exact (spells_text s).optional .greedy
  have hsign : signNode.Spells (1 + {['-']}) := (spells_char '-').optional .greedy
  exact (hsign.seq hsymbol).alt (hsymbol.seq hsign)

theorem spells_wholeNumber (t : String) :
    (wholeNumberNode t).Spells (wholeNumberLanguage t) := by
  have hfirst : (Node.set ⟨false, .exact, [.range 48 57]⟩).Spells (oneChar Char.isDigit) := by
    refine (spells_set _).congr fun w => exists_congr fun c => and_congr_left fun _ => ?_
    simp [exact_holds, range_holds, isDigit_iff]
  have hgroups := (spells_fraction t (Nat.le_refl 3)).star .greedy
  exact (hfirst.seq ((spells_digits (Nat.zero_le 2)).seq hgroups)).alt (spells_char '0')

/-- The pattern of an amount reads these, as whole texts. -/
theorem spells_amount (s : String) (isOptional : Bool) (t d : String) :
    (amountNode s isOptional t d).SpellsWhole (amountLanguage s isOptional t d) :=
  ((spells_signed s isOptional).seqLast (((spells_wholeNumber t).optional .greedy).seqLast
    ((spells_fraction d (by decide)).optional .greedy).last)).whole

/-- Some characters of a line, and a digit after them. -/
theorem reads_digitAhead {before rest : List Char} : digitAheadNode.Reads before w rest ↔
    ∃ u c, w = u ++ [c] ∧ '\n' ∉ u ∧ Text.isDigit c = true := by
  have hany : (Node.set (.any false)).Spells (oneChar (· != '\n')) := by
    refine (spells_set _).congr fun w => exists_congr fun c => and_congr_left fun _ => ?_
    have hline : c = '\n' ↔ c.toNat = 10 := Char.toNat_inj.symm
    simp [CharSet.any, exact_holds, range_holds, hline]
  refine (((hany.manyChars .greedy 0).seq spells_digit) before w rest).trans ?_
  constructor
  · rintro ⟨u, ⟨-, hu⟩, _, ⟨c, hc, rfl⟩, rfl⟩
    exact ⟨u, c, rfl, fun hmem => absurd (hu _ hmem) (by decide), hc⟩
  · rintro ⟨u, c, rfl, hu, hc⟩
    refine ⟨u, ⟨Nat.zero_le _, fun e he => ?_⟩, [c], ⟨c, hc, rfl⟩, rfl⟩
    exact bne_iff_ne.mpr fun heq => hu (heq ▸ he)

theorem currency_regular (s : String) (isOptional : Bool) (t d : String) :
    (currencyNode s isOptional t d).isRegular = true := by
  have htext : (textNode s).isRegular = true := sequenceOf_regular (charParts_regular s.toList)
  have hsymbol : (symbolNode s isOptional).isRegular = true := by
    cases isOptional
    · exact htext
    · exact htext
  have hfraction : ∀ (s : String) (least most : Nat),
      (fractionNode s least most).isRegular = true := by
    intro s least most
    refine sequenceOf_regular (List.forall_mem_append.mpr ⟨charParts_regular s.toList, ?_⟩)
    rintro p hp
    rw [List.mem_singleton.mp hp]
    rfl
  simp [currencyNode, amountNode, signedNode, wholeNumberNode, digitAheadNode, signNode, digitsNode,
    digitNode, charNode, Node.isRegular, hsymbol, hfraction]

/-- **What the pattern of an amount finds**: an amount that is the whole text, or all of it but a
line feed at the end, if there is a digit in the first line of the text. -/
theorem search_currency {text : List Char} :
    (currencyNode s isOptional t d).search text = true ↔
      (text ∈ amountLanguage s isOptional t d ∨
        ∃ w, text = w ++ ['\n'] ∧ w ∈ amountLanguage s isOptional t d) ∧
      ∃ u c v, text = u ++ c :: v ∧ '\n' ∉ u ∧ Text.isDigit c = true := by
  have hwhole := spells_amount s isOptional t d
  have hahead : ∀ {before rest}, (∃ u v, rest = u ++ v ∧ digitAheadNode.Reads before u v) ↔
      ∃ u c v, rest = u ++ c :: v ∧ '\n' ∉ u ∧ Text.isDigit c = true := by
    intro before rest
    constructor
    · rintro ⟨_, v, rfl, h⟩
      obtain ⟨u, c, rfl, hu, hc⟩ := reads_digitAhead.mp h
      exact ⟨u, c, v, by simp, hu, hc⟩
    · rintro ⟨u, c, v, rfl, hu, hc⟩
      exact ⟨u ++ [c], v, by simp, reads_digitAhead.mpr ⟨u, c, rfl, hu, hc⟩⟩
  have hregular := currency_regular s isOptional t d
  have hamount : (amountNode s isOptional t d).isRegular = true :=
    (Bool.and_eq_true_iff.mp hregular).2
  rw [search_iff hregular, ← hwhole.matchStart hamount, matchStart_iff hamount]
  constructor
  · rintro ⟨a, _, rest, rfl, _, w, rfl, ⟨rfl, hlook⟩, hw⟩
    -- the anchor at the start leaves nothing before
    obtain ⟨ha, -⟩ := (hwhole _ _ _).mp hw
    obtain rfl : a = [] := List.reverse_eq_nil_iff.mp ha
    exact ⟨⟨w, rest, rfl, hw⟩, hahead.mp (hlook.mpr rfl)⟩
  · rintro ⟨⟨w, rest, rfl, hw⟩, hlook⟩
    exact ⟨[], w, rest, rfl, [], w, rfl, ⟨rfl, iff_of_true (hahead.mpr hlook) rfl⟩, hw⟩

end

end RuleSchema.Pattern
