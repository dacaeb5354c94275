import RuleSchema.Compile.Text
import RuleSchema.Proofs.Pattern.Texts

/-!
# Patterns of classes

The texts of each class, said without any pattern, and that the pattern of the class matches them.
Each of these patterns stands between the anchors of a whole text, and the last anchor also stands
before a line feed that ends the text; so each matches the texts of its class with a line feed
after them as well.

* `Charset.Contains`: the texts of a class, `IsBase64` those in Base64.
* `parse_class`: what the pattern of a class is read as, `matchStart_class`: **what it matches**.
-/

namespace RuleSchema

open Pattern Language
open scoped Computability

/-! ### The texts of a class -/

/-- The characters of a class; those of Base64 without the sign that fills up the last group. -/
def Charset.holds : Charset → Char → Bool
  | .alpha, c => c.isAlpha
  | .numeric, c => c.isDigit
  | .alphanum, c => c.isAlphanum
  | .alphadash, c => c.isAlphanum || c == '-' || c == '_'
  | .hex, c => c.isDigit || ('a' ≤ c && c ≤ 'f') || ('A' ≤ c && c ≤ 'F')
  | .singleLine, c => c != '\r' && c != '\n'
  | .base64, c => c.isAlphanum || c == '+' || c == '/'

/-- Groups of four characters, the last of which may end in one or two equality signs. -/
inductive IsBase64 : List Char → Prop
  | nil : IsBase64 []
  | oneSign {u : List Char} : u.length = 3 → (∀ c ∈ u, Charset.base64.holds c = true) →
      IsBase64 (u ++ ['='])
  | twoSigns {u : List Char} : u.length = 2 → (∀ c ∈ u, Charset.base64.holds c = true) →
      IsBase64 (u ++ ['=', '='])
  | group {u w : List Char} : u.length = 4 → (∀ c ∈ u, Charset.base64.holds c = true) →
      IsBase64 w → IsBase64 (u ++ w)

/-- The texts of a class. -/
def Charset.Contains : Charset → Language Char
  | .singleLine => {w | '\r' ∉ w ∧ '\n' ∉ w}
  | .base64 => {w | IsBase64 w}
  | k => {w | w ≠ [] ∧ ∀ c ∈ w, k.holds c = true}

namespace Pattern

/-! ### The pattern of a class -/

/-- The set of the characters of a class. -/
def classSet : Charset → CharSet
  | .alpha => ⟨false, .exact, [.range 65 90, .range 97 122]⟩
  | .numeric => ⟨false, .exact, [.range 48 57]⟩
  | .alphanum => ⟨false, .exact, [.range 65 90, .range 97 122, .range 48 57]⟩
  | .alphadash =>
    ⟨false, .exact, [.range 65 90, .range 97 122, .range 48 57, .range 95 95, .range 45 45]⟩
  | .hex => ⟨false, .exact, [.range 48 57, .range 97 102, .range 65 70]⟩
  | .singleLine => ⟨true, .exact, [.range 13 13, .range 10 10]⟩
  | .base64 =>
    ⟨false, .exact, [.range 65 90, .range 97 122, .range 48 57, .range 43 43, .range 47 47]⟩

/-- Some characters of Base64. -/
def base64Chars (n : Nat) : Node := .repeat .greedy n (some n) (.set (classSet .base64))

/-- The last group of Base64, if it is filled up. -/
def base64Filled : Node :=
  .alt (.seq (base64Chars 2) (.seq (charNode '=') (charNode '=')))
    (.seq (base64Chars 3) (charNode '='))

/-- The pattern of a class after its first anchor. -/
def classTail : Charset → Node
  | .singleLine =>
    .seq (.repeat .greedy 0 none (.set (classSet .singleLine))) (.anchor .lastLineEnd)
  | .base64 => .seq (.repeat .greedy 0 none (base64Chars 4))
      (.seq (.repeat .greedy 0 (some 1) base64Filled) (.anchor .lastLineEnd))
  | k => .seq (.repeat .greedy 1 none (.set (classSet k))) (.anchor .lastLineEnd)

/-- The pattern of a class. -/
def classNode (k : Charset) : Node := .seq (.anchor .textStart) (classTail k)

/-- What the pattern of a class is read as. -/
theorem parse_class (k : Charset) : parse k.source {} = .ok (classNode k, {}) := by
  cases k <;> decide +kernel

/-- **The set of a class** holds its characters: both are read as ranges of code points. -/
theorem classSet_holds (k : Charset) (c : Char) : (classSet k).holds c = k.holds c := by
  have hchar : ∀ d : Char, c = d ↔ c.toNat = d.toNat := fun d => Char.toNat_inj.symm
  have hle : ∀ d e : Char, d ≤ e ↔ d.toNat ≤ e.toNat := fun d e => Iff.rfl
  rw [Bool.eq_iff_iff]
  cases k <;> simp [classSet, Charset.holds, exact_holds, range_holds, hchar, hle, isAlpha_iff,
    isDigit_iff, Char.isAlphanum]
  -- what is left differs in how the ranges are put together
  all_goals omega

theorem spells_classSet (k : Charset) : (Node.set (classSet k)).Spells (oneChar k.holds) :=
  (spells_set (classSet k)).congr fun w => by simp only [oneChar, classSet_holds]

/-! ### Base64 -/

/-- The words of `n` characters of Base64. -/
theorem spells_base64Chars (n : Nat) :
    (base64Chars n).Spells (oneChar Charset.base64.holds ^ n) :=
  (spells_classSet .base64).times .greedy n

/-- The languages of the groups of Base64. -/
def base64Language : Language Char :=
  (oneChar Charset.base64.holds ^ 4)∗ *
    (1 + (oneChar Charset.base64.holds ^ 2 * ({['=']} * {['=']}) +
      oneChar Charset.base64.holds ^ 3 * {['=']}))

theorem mem_filled {w : List Char} {n : Nat} {signs : List Char} :
    w ∈ oneChar Charset.base64.holds ^ n * ({signs} : Language Char) ↔
      ∃ u, (u.length = n ∧ ∀ c ∈ u, Charset.base64.holds c = true) ∧ w = u ++ signs := by
  rw [mem_mul]
  constructor
  · rintro ⟨u, hu, _, rfl, rfl⟩
    exact ⟨u, mem_oneChar_pow.mp hu, rfl⟩
  · rintro ⟨u, hu, rfl⟩
    exact ⟨u, mem_oneChar_pow.mpr hu, signs, rfl, rfl⟩

/-- Groups before a text in Base64 make one. -/
theorem isBase64_flatten {groups : List (List Char)} {w : List Char} (hw : IsBase64 w)
    (h : ∀ u ∈ groups, u ∈ oneChar Charset.base64.holds ^ 4) : IsBase64 (groups.flatten ++ w) := by
  induction groups with
  | nil => exact hw
  | cons u groups ih =>
    obtain ⟨hu, hgroups⟩ := List.forall_mem_cons.mp h
    obtain ⟨hlength, hu⟩ := mem_oneChar_pow.mp hu
    rw [List.flatten_cons, List.append_assoc]
    exact .group hlength hu (ih hgroups)

/-- **Base64 is groups and a last one** that may be filled up. -/
theorem mem_base64Language {w : List Char} : w ∈ base64Language ↔ IsBase64 w := by
  have hsigns : ({['=']} * {['=']} : Language Char) = {['=', '=']} := Set.image2_singleton
  rw [base64Language, hsigns, mem_mul]
  constructor
  · rintro ⟨u, hu, v, hv, rfl⟩
    obtain ⟨groups, rfl, hgroups⟩ := mem_kstar.mp hu
    refine isBase64_flatten ?_ hgroups
    rcases hv with rfl | hv | hv
    · exact .nil
    · obtain ⟨u, ⟨hlength, hu⟩, rfl⟩ := mem_filled.mp hv
      exact .twoSigns hlength hu
    · obtain ⟨u, ⟨hlength, hu⟩, rfl⟩ := mem_filled.mp hv
      exact .oneSign hlength hu
  · intro h
    induction h with
    | nil => exact ⟨[], nil_mem_kstar _, [], .inl rfl, rfl⟩
    | @oneSign u hlength hu =>
      exact ⟨[], nil_mem_kstar _, _, .inr (.inr (mem_filled.mpr ⟨u, ⟨hlength, hu⟩, rfl⟩)), rfl⟩
    | @twoSigns u hlength hu =>
      exact ⟨[], nil_mem_kstar _, _, .inr (.inl (mem_filled.mpr ⟨u, ⟨hlength, hu⟩, rfl⟩)), rfl⟩
    | @group u w hlength hu _ ih =>
      obtain ⟨v, hv, last, hlast, rfl⟩ := ih
      obtain ⟨groups, rfl, hgroups⟩ := mem_kstar.mp hv
      have hu : u ∈ oneChar Charset.base64.holds ^ 4 := mem_oneChar_pow.mpr ⟨hlength, hu⟩
      refine ⟨u ++ groups.flatten, mem_kstar.mpr ⟨u :: groups, rfl, ?_⟩, last, hlast,
        List.append_assoc ..⟩
      exact List.forall_mem_cons.mpr ⟨hu, hgroups⟩

/-- The last group, or nothing. -/
theorem spells_base64Filled : base64Filled.Spells
    (oneChar Charset.base64.holds ^ 2 * ({['=']} * {['=']}) +
      oneChar Charset.base64.holds ^ 3 * {['=']}) :=
  ((spells_base64Chars 2).seq ((spells_char '=').seq (spells_char '='))).alt
    ((spells_base64Chars 3).seq (spells_char '='))

/-! ### What the pattern of a class matches -/

/-- The pattern of a class reads its texts up to the end. -/
theorem spells_classTail (k : Charset) : (classTail k).SpellsLast k.Contains := by
  have hsome : ∀ k : Charset, (Node.seq (.repeat .greedy 1 none (.set (classSet k)))
      (.anchor .lastLineEnd)).SpellsLast {w | w ≠ [] ∧ ∀ c ∈ w, k.holds c = true} := by
    intro k
    refine (((spells_classSet k).manyChars .greedy 1).congr fun w => ?_).last
    exact and_congr_left fun _ => List.length_pos_iff.symm
  cases k with
  | singleLine =>
    refine (((spells_classSet .singleLine).manyChars .greedy 0).congr fun w => ?_).last
    change ('\r' ∉ w ∧ '\n' ∉ w) ↔ 0 ≤ w.length ∧ ∀ c ∈ w, (c != '\r' && c != '\n') = true
    simp only [Bool.and_eq_true, bne_iff_ne, Nat.zero_le, true_and]
    exact ⟨fun h c hc => ⟨fun heq => h.1 (heq ▸ hc), fun heq => h.2 (heq ▸ hc)⟩,
      fun h => ⟨fun hc => (h _ hc).1 rfl, fun hc => (h _ hc).2 rfl⟩⟩
  | base64 =>
    have hlanguage : base64Language = Charset.base64.Contains :=
      Set.ext fun w => mem_base64Language
    rw [← hlanguage]
    exact ((spells_base64Chars 4).star .greedy).seqLast
      (spells_base64Filled.optional .greedy).last
  | alpha => exact hsome .alpha
  | numeric => exact hsome .numeric
  | alphanum => exact hsome .alphanum
  | alphadash => exact hsome .alphadash
  | hex => exact hsome .hex

/-- **The pattern of a class** matches its texts, and these with a line feed after them. -/
theorem matchStart_class (k : Charset) (s : List Char) : (classNode k).matchStart s = true ↔
    s ∈ k.Contains ∨ ∃ w, s = w ++ ['\n'] ∧ w ∈ k.Contains :=
  (spells_classTail k).whole.matchStart (by cases k <;> rfl)

end Pattern

end RuleSchema
