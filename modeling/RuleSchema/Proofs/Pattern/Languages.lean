import Mathlib.Computability.Language
import RuleSchema.Pattern.Parser
import RuleSchema.Proofs.Pattern.Meaning

/-!
# Patterns that spell a language

A pattern without anchors and without looks ahead reads a text or does not, whatever stands around
it: the texts it reads are a language.  The languages of patterns are put together as the patterns
are, by products, sums and powers.

* `Node.Spells`: a pattern reads just the words of a language.
* `Spells.seq`, `Spells.alt`, `Spells.rounds` and so on, one for each way to put patterns together.
* `Spells.chars`: some number of characters with a property.
* `spells_sequenceOf`: a sequence spells the product of the languages of its parts.
* `Node.SpellsLast` and `Node.SpellsWhole`: the same up to the end of a text, and as a whole text.
* `SpellsWhole.matchStart`: **a pattern between the anchors of a whole text** matches the words of
  its language, and these with a line feed after them.
-/

namespace RuleSchema.Pattern

open Language
open scoped Computability

/-- A pattern reads the words of a language and no others, whatever stands around them. -/
def Node.Spells (n : Node) (L : Language Char) : Prop :=
  ∀ before w rest, n.Reads before w rest ↔ w ∈ L

/-! ### Sets of characters -/

/-- A set that compares characters as they are. -/
theorem exact_holds (negated : Bool) (items : List SetItem) (c : Char) :
    (⟨negated, .exact, items⟩ : CharSet).holds c
      = ((items.any fun item => item.holds .exact c.toNat) != negated) := rfl

theorem range_holds (first last n : Nat) : (SetItem.range first last).holds .exact n
    = (decide (first ≤ n) && decide (n ≤ last)) := Bool.or_false _

theorem isAlpha_iff {c : Char} : c.isAlpha = true ↔
    65 ≤ c.toNat ∧ c.toNat ≤ 90 ∨ 97 ≤ c.toNat ∧ c.toNat ≤ 122 := by
  have hcases : c.isAlpha = (decide (c.val ≥ 'A'.val ∧ c.val ≤ 'Z'.val) ||
      (decide (c.val ≥ 'a'.val) && decide (c.val ≤ 'z'.val))) := rfl
  rw [hcases, Bool.or_eq_true, Bool.and_eq_true, decide_eq_true_eq, decide_eq_true_eq,
    decide_eq_true_eq]
  rfl

theorem isDigit_iff {c : Char} : c.isDigit = true ↔ 48 ≤ c.toNat ∧ c.toNat ≤ 57 := by
  simp only [Char.isDigit, Bool.and_eq_true, decide_eq_true_eq]
  rfl

/-- The characters with a property, as words. -/
def oneChar (p : Char → Bool) : Language Char := {w | ∃ c, p c = true ∧ w = [c]}

/-- The words of `n` characters with a property. -/
theorem mem_oneChar_pow {p : Char → Bool} : ∀ {n : Nat} {w : List Char},
    w ∈ oneChar p ^ n ↔ w.length = n ∧ ∀ c ∈ w, p c = true := by
  intro n
  induction n with
  | zero =>
    intro w
    rw [pow_zero, mem_one]
    constructor
    · rintro rfl
      exact ⟨rfl, fun c hc => absurd hc List.not_mem_nil⟩
    · exact fun h => List.length_eq_zero_iff.mp h.1
  | succ n ih =>
    intro w
    rw [pow_succ', mem_mul]
    constructor
    · rintro ⟨_, ⟨c, hc, rfl⟩, w, hw, rfl⟩
      obtain ⟨hlength, hw⟩ := ih.mp hw
      exact ⟨congrArg (· + 1) hlength, List.forall_mem_cons.mpr ⟨hc, hw⟩⟩
    · rintro ⟨hlength, hw⟩
      cases w with
      | nil => cases hlength
      | cons c w =>
        obtain ⟨hc, hw⟩ := List.forall_mem_cons.mp hw
        exact ⟨[c], ⟨c, hc, rfl⟩, w, ih.mpr ⟨Nat.succ.inj hlength, hw⟩, rfl⟩

/-! ### Ways to put patterns together -/

section

variable {a b n : Node} {K L : Language Char}

theorem Node.Spells.congr (h : n.Spells L) (hKL : ∀ w, w ∈ K ↔ w ∈ L) : n.Spells K :=
  fun before w rest => (h before w rest).trans (hKL w).symm

theorem spells_set (s : CharSet) : (Node.set s).Spells (oneChar s.holds) := fun _ _ _ => Iff.rfl

theorem Node.Spells.seq (ha : a.Spells K) (hb : b.Spells L) : (Node.seq a b).Spells (K * L) := by
  intro before w rest
  rw [mem_mul]
  constructor
  · rintro ⟨u, v, rfl, hu, hv⟩
    exact ⟨u, (ha _ _ _).mp hu, v, (hb _ _ _).mp hv, rfl⟩
  · rintro ⟨u, hu, v, hv, rfl⟩
    exact ⟨u, v, rfl, (ha _ _ _).mpr hu, (hb _ _ _).mpr hv⟩

theorem Node.Spells.alt (ha : a.Spells K) (hb : b.Spells L) : (Node.alt a b).Spells (K + L) :=
  fun before w rest => or_congr (ha before w rest) (hb before w rest)

/-- Rounds of a pattern spell powers of its language. -/
theorem Node.Spells.rounds (h : n.Spells L) : ∀ {k : Nat} {before w rest : List Char},
    Rounds n.Reads k before w rest ↔ w ∈ L ^ k := by
  intro k
  induction k with
  | zero =>
    intro before w rest
    rw [pow_zero, mem_one]
    rfl
  | succ k ih =>
    intro before w rest
    rw [pow_succ', mem_mul]
    constructor
    · rintro ⟨u, v, rfl, hu, hv⟩
      exact ⟨u, (h _ _ _).mp hu, v, ih.mp hv, rfl⟩
    · rintro ⟨u, hu, v, hv, rfl⟩
      exact ⟨u, v, rfl, (h _ _ _).mpr hu, ih.mpr hv⟩

/-- **A repetition** spells the powers of a language from the least to the most. -/
theorem Node.Spells.repeat (h : n.Spells L) (greed : Greed) (least : Nat) (most? : Option Nat) :
    (Node.repeat greed least most? n).Spells
      {w | ∃ k, (∀ most, most? = some most → k ≤ most - least) ∧ w ∈ L ^ (least + k)} :=
  fun _ _ _ => exists_congr fun _ => and_congr_right fun _ => h.rounds

/-- A number of rounds that is given. -/
theorem Node.Spells.times (h : n.Spells L) (greed : Greed) (k : Nat) :
    (Node.repeat greed k (some k) n).Spells (L ^ k) := by
  refine (h.repeat greed k (some k)).congr fun w => ?_
  constructor
  · intro hw
    exact ⟨0, fun _ _ => Nat.zero_le _, hw⟩
  · rintro ⟨j, hj, hw⟩
    have hzero : j = 0 := by
      have := hj k rfl
      omega
    rwa [hzero] at hw

/-- Any number of rounds. -/
theorem Node.Spells.star (h : n.Spells L) (greed : Greed) :
    (Node.repeat greed 0 none n).Spells L∗ := by
  refine (h.repeat greed 0 none).congr fun w => ?_
  rw [kstar_eq_iSup_pow, mem_iSup]
  refine exists_congr fun k => ?_
  rw [Nat.zero_add]
  exact ⟨fun hw => ⟨fun _ hnone => (nomatch hnone), hw⟩, And.right⟩

/-- One round or none. -/
theorem Node.Spells.optional (h : n.Spells L) (greed : Greed) :
    (Node.repeat greed 0 (some 1) n).Spells (1 + L) := by
  refine (h.repeat greed 0 (some 1)).congr fun w => ?_
  rw [mem_add]
  constructor
  · rintro (hw | hw)
    · exact ⟨0, fun _ _ => Nat.zero_le _, by rwa [pow_zero]⟩
    · exact ⟨1, fun _ h1 => by cases h1; exact Nat.le_refl 1, by rwa [Nat.zero_add, pow_one]⟩
  · rintro ⟨k, hk, hw⟩
    have hle : k ≤ 1 := hk 1 rfl
    rcases Nat.le_one_iff_eq_zero_or_eq_one.mp hle with rfl | rfl
    · exact .inl hw
    · rw [Nat.zero_add, pow_one] at hw
      exact .inr hw

/-- **Some characters with a property**, at least and at most so many. -/
theorem Node.Spells.chars {p : Char → Bool} (h : n.Spells (oneChar p)) (greed : Greed)
    {least : Nat} {most? : Option Nat} (hmost : ∀ most, most? = some most → least ≤ most) :
    (Node.repeat greed least most? n).Spells {w | least ≤ w.length ∧
      (∀ most, most? = some most → w.length ≤ most) ∧ ∀ c ∈ w, p c = true} := by
  refine (h.repeat greed least most?).congr fun w => ?_
  constructor
  · rintro ⟨hleast, hlength, hw⟩
    refine ⟨w.length - least, fun most h => ?_, mem_oneChar_pow.mpr ⟨by omega, hw⟩⟩
    have := hlength most h
    omega
  · rintro ⟨k, hk, hw⟩
    obtain ⟨hlength, hw⟩ := mem_oneChar_pow.mp hw
    refine ⟨by omega, fun most h => ?_, hw⟩
    have := hk most h
    have := hmost most h
    omega

/-- Some characters with a property, at least so many. -/
theorem Node.Spells.manyChars {p : Char → Bool} (h : n.Spells (oneChar p)) (greed : Greed)
    (least : Nat) : (Node.repeat greed least none n).Spells
      {w | least ≤ w.length ∧ ∀ c ∈ w, p c = true} := by
  refine (h.chars greed fun most h => by cases h).congr fun w => ?_
  exact and_congr_right fun _ => (and_iff_right fun most h => by cases h).symm

end

/-! ### Sequences -/

/-- **A sequence** spells the product of the languages of its parts. -/
theorem spells_sequenceOf {parts : List Part} {languages : List (Language Char)}
    (h : List.Forall₂ (fun p L => p.node.Spells L) parts languages) :
    (sequenceOf parts).Spells languages.prod := by
  induction h with
  | nil =>
    intro before w rest
    rw [List.prod_nil, mem_one]
    rfl
  | @cons p L parts languages hp hparts ih =>
    rw [List.prod_cons]
    cases hparts with
    | nil =>
      rw [List.prod_nil, mul_one]
      exact hp
    | cons _ _ => exact hp.seq ih

/-! ### Whole texts -/

/-- A pattern reads the words of a language up to the end of a text, or up to a line feed that ends
it. -/
def Node.SpellsLast (n : Node) (L : Language Char) : Prop :=
  ∀ before w rest, n.Reads before w rest ↔ w ∈ L ∧ (rest = [] ∨ rest = ['\n'])

/-- A pattern reads the words of a language as whole texts, or up to a line feed that ends them. -/
def Node.SpellsWhole (n : Node) (L : Language Char) : Prop :=
  ∀ before w rest, n.Reads before w rest ↔ before = [] ∧ w ∈ L ∧ (rest = [] ∨ rest = ['\n'])

section

variable {a b n : Node} {K L : Language Char} {s : List Char}

/-- Where three patterns are put together first does not matter. -/
theorem reads_seq_assoc {before w rest : List Char} :
    (Node.seq (.seq a b) n).Reads before w rest ↔ (Node.seq a (.seq b n)).Reads before w rest := by
  constructor
  · rintro ⟨_, w, rfl, ⟨u, v, rfl, hu, hv⟩, hw⟩
    refine ⟨u, v ++ w, List.append_assoc .., ?_, v, w, rfl, hv, ?_⟩
    · rwa [List.append_assoc]
    · rwa [← List.append_assoc, ← List.reverse_append]
  · rintro ⟨u, _, rfl, hu, v, w, rfl, hv, hw⟩
    refine ⟨u ++ v, w, (List.append_assoc ..).symm, ⟨u, v, rfl, ?_, hv⟩, ?_⟩
    · rwa [← List.append_assoc]
    · rwa [List.reverse_append, List.append_assoc]

theorem lastLineEnd_iff {before rest : List Char} {groups : List (Nat × List Char)} :
    Anchor.lastLineEnd.holds ⟨before, rest, groups⟩ = true ↔ rest = [] ∨ rest = ['\n'] := by
  simp [Anchor.holds]

theorem spellsLast_anchor : (Node.anchor .lastLineEnd).SpellsLast 1 :=
  fun _ _ _ => and_congr (mem_one _).symm lastLineEnd_iff

theorem Node.Spells.seqLast (ha : a.Spells K) (hb : b.SpellsLast L) :
    (Node.seq a b).SpellsLast (K * L) := by
  intro before w rest
  rw [mem_mul]
  constructor
  · rintro ⟨u, v, rfl, hu, hv⟩
    obtain ⟨hv, hrest⟩ := (hb _ _ _).mp hv
    exact ⟨⟨u, (ha _ _ _).mp hu, v, hv, rfl⟩, hrest⟩
  · rintro ⟨⟨u, hu, v, hv, rfl⟩, hrest⟩
    exact ⟨u, v, rfl, (ha _ _ _).mpr hu, (hb _ _ _).mpr ⟨hv, hrest⟩⟩

/-- A pattern up to the anchor at the end. -/
theorem Node.Spells.last (h : n.Spells L) : (Node.seq n (.anchor .lastLineEnd)).SpellsLast L := by
  rw [← mul_one L]
  exact h.seqLast spellsLast_anchor

theorem Node.SpellsWhole.alt (ha : a.SpellsWhole K) (hb : b.SpellsWhole L) :
    (Node.alt a b).SpellsWhole (K + L) := by
  intro before w rest
  rw [mem_add, or_and_right, and_or_left]
  exact or_congr (ha before w rest) (hb before w rest)

/-- A pattern from the anchor at the start on. -/
theorem Node.SpellsLast.whole (h : n.SpellsLast L) :
    (Node.seq (.anchor .textStart) n).SpellsWhole L := by
  intro before w rest
  have hstart : ∀ {u v : List Char}, (Node.anchor .textStart).Reads before u v ↔
      u = [] ∧ before = [] := and_congr_right fun _ => List.isEmpty_iff
  rw [← h before w rest]
  constructor
  · rintro ⟨u, v, rfl, hu, hv⟩
    obtain ⟨rfl, rfl⟩ := hstart.mp hu
    exact ⟨rfl, hv⟩
  · rintro ⟨rfl, hw⟩
    exact ⟨[], w, rfl, hstart.mpr ⟨rfl, rfl⟩, hw⟩

/-- **A pattern between the anchors of a whole text** matches the words of its language.  Since the
last anchor stands before a line feed that ends the text as well, it also matches these words with
a line feed after them. -/
theorem Node.SpellsWhole.matchStart (h : n.SpellsWhole L) (hn : n.isRegular = true) :
    n.matchStart s = true ↔ s ∈ L ∨ ∃ w, s = w ++ ['\n'] ∧ w ∈ L := by
  rw [matchStart_iff hn]
  constructor
  · rintro ⟨w, _, rfl, hreads⟩
    obtain ⟨-, hw, rfl | rfl⟩ := (h _ _ _).mp hreads
    · rw [List.append_nil]
      exact .inl hw
    · exact .inr ⟨w, rfl, hw⟩
  · rintro (hs | ⟨w, rfl, hw⟩)
    · exact ⟨s, [], (List.append_nil s).symm, (h _ _ _).mpr ⟨rfl, hs, .inl rfl⟩⟩
    · exact ⟨w, ['\n'], rfl, (h _ _ _).mpr ⟨rfl, hw, .inr rfl⟩⟩

/-- A match of a whole text leaves no line feed over. -/
theorem Node.SpellsWhole.fullMatch (h : n.SpellsWhole L) (hn : n.isRegular = true) :
    n.fullMatch s = true ↔ s ∈ L := by
  rw [fullMatch_iff hn, h]
  simp

end

end RuleSchema.Pattern
