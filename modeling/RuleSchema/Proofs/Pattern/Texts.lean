import RuleSchema.Proofs.Pattern.Languages
import RuleSchema.Proofs.Pattern.Reader

/-!
# Patterns of texts

The pattern of a list of texts is read as the choice between them: a character with a backslash
before it, if it means something in a pattern, is read as itself.  And the choice matches a whole
text just when the text is one of the list.

* `adds_text`: the pattern of a text is read as its characters, `spells_text`: these spell the text.
* `choice_texts` and `spells_choice` say the same of a choice between texts.
* `parse_enumSource`: the pattern compiles, whatever the texts are.
* `fullMatch_choice`: **the pattern of some texts matches exactly these.**
-/

namespace RuleSchema.Pattern

/-! ### Texts -/

/-- The parts of the pattern of a text. -/
def charParts (cs : List Char) : List Part := cs.map fun c => ⟨charNode c, false⟩

/-- The pattern of a text. -/
def textNode (s : String) : Node := sequenceOf (charParts s.toList)

/-- **A text**, with backslashes before what means something, is read as its characters. -/
theorem adds_text (cs : List Char) (g : Nat) : Adds (cs.flatMap escapeChar) g (charParts cs) g := by
  induction cs with
  | nil => exact adds_nil
  | cons c cs ih => exact (item_char c g).adds.append ih

theorem single_holds (c d : Char) : (CharSet.single .exact c.toNat).holds d = decide (c = d) := by
  have hitem : (CharSet.single .exact c.toNat).holds d
      = decide (c.toNat ≤ d.toNat ∧ d.toNat ≤ c.toNat) := by
    simp [CharSet.single, exact_holds, range_holds]
  rw [hitem]
  refine decide_eq_decide.mpr ⟨fun h => Char.toNat_inj.mp (Nat.le_antisymm h.1 h.2), ?_⟩
  rintro rfl
  exact ⟨Nat.le_refl _, Nat.le_refl _⟩

theorem spells_char (c : Char) : (charNode c).Spells {[c]} := by
  refine (spells_set _).congr fun w => ?_
  constructor
  · rintro rfl
    exact ⟨c, by simp [single_holds], rfl⟩
  · rintro ⟨d, hd, rfl⟩
    rw [single_holds, decide_eq_true_iff] at hd
    rw [hd]
    rfl

/-- The languages of the characters of a text. -/
def charLanguages (cs : List Char) : List (Language Char) := cs.map fun c => {[c]}

theorem spells_charParts (cs : List Char) :
    List.Forall₂ (fun p L => p.node.Spells L) (charParts cs) (charLanguages cs) := by
  induction cs with
  | nil => exact .nil
  | cons c cs ih => exact .cons (spells_char c) ih

theorem charLanguages_prod (cs : List Char) : (charLanguages cs).prod = {cs} := by
  induction cs with
  | nil => rfl
  | cons c cs ih =>
    rw [charLanguages, List.map_cons, List.prod_cons, ← charLanguages, ih]
    exact Set.image2_singleton

/-- **The pattern of a text** spells it. -/
theorem spells_text (s : String) : (textNode s).Spells {s.toList} := by
  rw [← charLanguages_prod]
  exact spells_sequenceOf (spells_charParts s.toList)

theorem sequenceOf_regular {parts : List Part} (h : ∀ p ∈ parts, p.node.isRegular = true) :
    (sequenceOf parts).isRegular = true := by
  induction parts with
  | nil => rfl
  | cons p parts ih =>
    obtain ⟨hp, hparts⟩ := List.forall_mem_cons.mp h
    cases parts with
    | nil => exact hp
    | cons q parts => exact Bool.and_eq_true_iff.mpr ⟨hp, ih hparts⟩

theorem charParts_regular (cs : List Char) : ∀ p ∈ charParts cs, p.node.isRegular = true := by
  intro p hp
  obtain ⟨c, -, rfl⟩ := List.mem_map.mp hp
  rfl

/-! ### Choices -/

/-- The pattern of some texts, one of which is there. -/
def choiceNode : String → List String → Node
  | v, [] => textNode v
  | v, w :: vs => .alt (textNode v) (choiceNode w vs)

/-- The source of the pattern of some texts. -/
def choiceChars : String → List String → List Char
  | v, [] => v.toList.flatMap escapeChar
  | v, w :: vs => v.toList.flatMap escapeChar ++ '|' :: choiceChars w vs

/-- **A choice between texts** is read as one. -/
theorem choice_texts (g : Nat) : ∀ (vs : List String) (v : String),
    Choice (choiceChars v vs) g (choiceNode v vs) g := by
  intro vs
  induction vs with
  | nil => exact fun v => (adds_text v.toList g).choice
  | cons w vs ih => exact fun v => (adds_text v.toList g).or (ih w)

theorem spells_choice : ∀ (vs : List String) (v : String),
    (choiceNode v vs).Spells {w | ∃ u ∈ v :: vs, w = u.toList} := by
  intro vs
  induction vs with
  | nil =>
    intro v
    refine (spells_text v).congr fun w => ?_
    change (∃ u ∈ [v], w = u.toList) ↔ w = v.toList
    simp
  | cons w vs ih =>
    intro v
    refine ((spells_text v).alt (ih w)).congr fun s => ?_
    change (∃ u ∈ v :: w :: vs, s = u.toList) ↔ s = v.toList ∨ ∃ u ∈ w :: vs, s = u.toList
    simp

theorem choice_regular : ∀ (vs : List String) (v : String), (choiceNode v vs).isRegular = true := by
  intro vs
  induction vs with
  | nil => exact fun v => sequenceOf_regular (charParts_regular v.toList)
  | cons w vs ih =>
    exact fun v => Bool.and_eq_true_iff.mpr ⟨sequenceOf_regular (charParts_regular v.toList), ih w⟩

/-! ### Whole texts -/

/-- The pattern of a whole choice. -/
def wholeNode (v : String) (vs : List String) : Node :=
  .seq (.anchor .textStart) (.seq (choiceNode v vs) (.anchor .lastLineEnd))

/-- The source of a choice, character by character. -/
theorem enumSource_eq (v : String) (vs : List String) : enumSource (v :: vs)
    = String.ofList (['^'] ++ ('(' :: (['?', ':'] ++ choiceChars v vs ++ [')']) ++ ['$'])) := by
  have hchoice : ∀ v : String, (Text.joinWith "|" ((v :: vs).map escapeText)).toList
      = choiceChars v vs := by
    induction vs with
    | nil => intro v; simp [Text.joinWith, choiceChars, escapeText]
    | cons w vs ih =>
      intro v
      rw [choiceChars, ← ih w]
      simp [Text.joinWith, escapeText]
  rw [← String.toList_inj, enumSource, String.toList_append, String.toList_append, hchoice,
    String.toList_ofList]
  simp

/-- **The pattern of some texts compiles.** -/
theorem parse_enumSource (v : String) (vs : List String) :
    parse (enumSource (v :: vs)) {} = .ok (wholeNode v vs, {}) := by
  rw [enumSource_eq]
  exact parse_of_adds ((item_textStart 1).adds.append
    ((choice_texts 1 vs v).plain.adds.append (item_lastLineEnd 1).adds))

/-- **The pattern of some texts matches exactly these.**  Its last anchor would stand before a line
feed that ends the text as well, but then that line feed is left over. -/
theorem fullMatch_choice (v : String) (vs : List String) (s : String) :
    (wholeNode v vs).fullMatch s.toList = (v :: vs).contains s := by
  have hregular : (wholeNode v vs).isRegular = true := by
    simp [wholeNode, Node.isRegular, choice_regular]
  have hwhole : (wholeNode v vs).SpellsWhole {w | ∃ u ∈ v :: vs, w = u.toList} :=
    (spells_choice vs v).last.whole
  rw [Bool.eq_iff_iff, hwhole.fullMatch hregular, List.contains_iff_mem]
  constructor
  · rintro ⟨u, hu, hs⟩
    rwa [String.toList_inj.mp hs]
  · exact fun h => ⟨s, h, rfl⟩

end RuleSchema.Pattern
