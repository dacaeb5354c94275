import Mathlib.Data.List.Forall2
import RuleSchema.Text.Blank
import RuleSchema.Text.LetterCase

/-!
# Letter case and blank ends

Lowering a text twice is lowering it once, and so is raising it; and neither makes a blank
character at an end of a text that has none there.  Both facts are read off the tables of
code points, run by run: what a run moves its code points to is apart from every run of
the table, by its bounds or by its parity, and apart from the blank characters.

* `CaseRun.apart` compares two runs without going through their code points.
* `lower_lower` and `upper_upper`: changing the case again changes nothing.
* `KeepsEnds` is what trimming and changing the case have to do with each other, with
  `KeepsEnds.lower` and `KeepsEnds.upper`.
-/

namespace RuleSchema.Text

/-! ### Runs -/

namespace CaseRun

/-- Whether a run holds a code point. -/
def holds (r : CaseRun) (n : Nat) : Bool :=
  r.first ≤ n && n ≤ r.last && (n - r.first) % r.step == 0

/-- The code points to which a run moves its own. -/
def image (r : CaseRun) : CaseRun :=
  ⟨(r.first + r.shift).toNat, (r.last + r.shift).toNat, r.step, 0⟩

/-- The run of one code point. -/
def one (n : Nat) : CaseRun := ⟨n, n, 1, 0⟩

/-- Whether the code points of a run are all even or all odd. -/
def isEven (r : CaseRun) : Bool := r.step % 2 == 0 || r.first == r.last

/-- Whether two runs have nothing in common, by their bounds or by their parities. -/
def apart (r q : CaseRun) : Bool :=
  Nat.blt r.last q.first || Nat.blt q.last r.first ||
    (r.isEven && q.isEven && (r.first + q.first) % 2 == 1)

/-- Whether the code points of a run are those of characters. -/
def isOfChars (r : CaseRun) : Bool :=
  Nat.blt r.last 0xD800 || (Nat.blt 0xDFFF r.first && Nat.blt r.last 0x110000)

variable {r q : CaseRun} {n : Nat}

theorem holds_one : (one n).holds n = true := by
  simp [holds, one]

theorem holds_iff : r.holds n = true ↔
    r.first ≤ n ∧ n ≤ r.last ∧ (n - r.first) % r.step = 0 := by
  simp [holds, and_assoc]

/-- In an even run every code point has the parity of the first one. -/
theorem parity_of_isEven (hr : r.isEven = true) (hn : r.holds n = true) :
    n % 2 = r.first % 2 := by
  obtain ⟨hfirst, hlast, hstep⟩ := holds_iff.mp hn
  simp only [isEven, Bool.or_eq_true, beq_iff_eq] at hr
  rcases hr with hr | hr
  · have hdvd : 2 ∣ n - r.first :=
      Nat.dvd_trans (Nat.dvd_of_mod_eq_zero hr) (Nat.dvd_of_mod_eq_zero hstep)
    omega
  · omega

theorem not_holds_of_apart (h : r.apart q = true) (hn : r.holds n = true) :
    q.holds n = false := by
  by_contra hq
  have hq : q.holds n = true := by simpa using hq
  obtain ⟨hfirst, hlast, -⟩ := holds_iff.mp hn
  obtain ⟨hfirst', hlast', -⟩ := holds_iff.mp hq
  simp only [apart, Bool.or_eq_true, Bool.and_eq_true, beq_iff_eq, Nat.blt_eq] at h
  rcases h with (h | h) | ⟨⟨hr, hq'⟩, h⟩
  · omega
  · omega
  · have hparity := parity_of_isEven hr hn
    have hparity' := parity_of_isEven hq' hq
    omega

/-- A run that moves its code points to code points. -/
theorem image_holds (hshift : 0 ≤ r.first + r.shift) (hn : r.holds n = true) :
    r.image.holds (n + r.shift).toNat = true := by
  obtain ⟨hfirst, hlast, hstep⟩ := holds_iff.mp hn
  have hsub : (n + r.shift).toNat - (r.first + r.shift).toNat = n - r.first := by omega
  refine holds_iff.mpr ⟨?_, ?_, ?_⟩
  · show (r.first + r.shift).toNat ≤ (n + r.shift).toNat
    omega
  · show (n + r.shift).toNat ≤ (r.last + r.shift).toNat
    omega
  · show ((n + r.shift).toNat - (r.first + r.shift).toNat) % r.step = 0
    rw [hsub, hstep]

theorem isValidChar_of_holds (h : r.isOfChars = true) (hn : r.holds n = true) : n.isValidChar := by
  obtain ⟨hfirst, hlast, -⟩ := holds_iff.mp hn
  simp only [isOfChars, Bool.or_eq_true, Bool.and_eq_true, Nat.blt_eq] at h
  show n < 0xD800 ∨ 0xDFFF < n ∧ n < 0x110000
  omega

end CaseRun

open CaseRun

section

variable {rs : List CaseRun} {a : CaseRun} {n : Nat}

/-- A table leaves a code point where it is, or moves it by one of its runs. -/
theorem shiftIn_cases (n : Nat) : ∀ rs : List CaseRun, shiftIn rs n = n ∨
    ∃ r ∈ rs, r.holds n = true ∧ shiftIn rs n = (n + r.shift).toNat := by
  intro rs
  induction rs with
  | nil => exact .inl rfl
  | cons r rs ih =>
    have hcons : shiftIn (r :: rs) n =
        if r.holds n then (n + r.shift).toNat else shiftIn rs n := rfl
    by_cases hr : r.holds n = true
    · rw [if_pos hr] at hcons
      exact .inr ⟨r, List.mem_cons_self, hr, hcons⟩
    · rw [if_neg hr] at hcons
      rw [hcons]
      rcases ih with ih | ⟨q, hq, hn, ih⟩
      · exact .inl ih
      · exact .inr ⟨q, List.mem_cons_of_mem _ hq, hn, ih⟩

/-- A table leaves the code points of a run apart from it where they are. -/
theorem shiftIn_of_apart (h : rs.all a.apart = true) (hn : a.holds n = true) :
    shiftIn rs n = n := by
  rcases shiftIn_cases n rs with hrs | ⟨r, hr, hholds, -⟩
  · exact hrs
  · rw [not_holds_of_apart (List.all_eq_true.mp h r hr) hn] at hholds
    cases hholds

/-- The blank characters, as runs. -/
def blankRuns : List CaseRun :=
  [⟨9, 13, 1, 0⟩, ⟨28, 32, 1, 0⟩, one 0x85, one 0xA0, one 0x1680, ⟨0x2000, 0x200A, 1, 0⟩,
    one 0x2028, one 0x2029, one 0x202F, one 0x205F, one 0x3000]

theorem isBlank_run {c : Char} (h : isBlank c = true) :
    ∃ r ∈ blankRuns, r.holds c.toNat = true := by
  simp only [isBlank, Bool.or_eq_true, Bool.and_eq_true, decide_eq_true_eq, beq_iff_eq] at h
  simp only [blankRuns, List.mem_cons, List.not_mem_nil, or_false, exists_eq_or_imp,
    exists_eq_left, holds_iff, one, Nat.mod_one, and_true]
  omega

/-- A code point that a table leaves where it is, that of a character that is not blank. -/
structure AtRest (rs : List CaseRun) (n : Nat) : Prop where
  valid : n.isValidChar
  ink : isBlank (Char.ofNat n) = false
  still : shiftIn rs n = n

/-- What a run of a table must be for its code points to come to rest. -/
def CaseRun.rests (rs : List CaseRun) (a : CaseRun) : Bool :=
  a.isOfChars && blankRuns.all a.apart && rs.all a.apart

theorem toNat_ofNat (h : n.isValidChar) : (Char.ofNat n).toNat = n := by
  rw [Char.ofNat, dif_pos h]
  rfl

theorem atRest_of_rests (h : a.rests rs = true) (hn : a.holds n = true) : AtRest rs n := by
  simp only [CaseRun.rests, Bool.and_eq_true] at h
  obtain ⟨⟨hchars, hblank⟩, hrs⟩ := h
  have hvalid := isValidChar_of_holds hchars hn
  refine ⟨hvalid, ?_, shiftIn_of_apart hrs hn⟩
  by_contra hink
  obtain ⟨r, hr, hholds⟩ := isBlank_run (by simpa using hink)
  have hapart := List.all_eq_true.mp hblank r hr
  rw [toNat_ofNat hvalid, not_holds_of_apart hapart hn] at hholds
  cases hholds

/-- Whether every run of a table moves its code points to ones at rest. -/
def settles (rs : List CaseRun) : Bool :=
  rs.all fun r => decide (0 ≤ r.first + r.shift) && r.image.rests rs

/-- A table that settles moves a code point once. -/
theorem atRest_of_settles (h : settles rs = true) (hn : shiftIn rs n ≠ n) :
    AtRest rs (shiftIn rs n) := by
  rcases shiftIn_cases n rs with hrs | ⟨r, hr, hholds, hshift⟩
  · exact absurd hrs hn
  · have hone := List.all_eq_true.mp h r hr
    rw [Bool.and_eq_true, decide_eq_true_eq] at hone
    rw [hshift]
    exact atRest_of_rests hone.2 (image_holds hone.1 hholds)

end

/-! ### Single letters -/

theorem lowerRuns_settle : settles lowerRuns = true := by decide +kernel

theorem upperRuns_settle : settles upperRuns = true := by decide +kernel

/-- A letter is left as it is by a table, or moved to one at rest. -/
theorem ofNat_shiftIn {rs : List CaseRun} (h : settles rs = true) (c : Char) :
    Char.ofNat (shiftIn rs c.toNat) = c ∨ AtRest rs (shiftIn rs c.toNat) := by
  by_cases hc : shiftIn rs c.toNat = c.toNat
  · rw [hc, Char.ofNat_toNat]
    exact .inl rfl
  · exact .inr (atRest_of_settles h hc)

theorem lowerChar_lowerChar (c : Char) : lowerChar (lowerChar c) = lowerChar c := by
  rcases ofNat_shiftIn lowerRuns_settle c with hc | hc
  · change lowerChar c = c at hc
    rw [hc, hc]
  · rw [lowerChar, lowerChar, toNat_ofNat hc.valid, hc.still]

theorem isBlank_lowerChar {c : Char} (h : isBlank c = false) : isBlank (lowerChar c) = false := by
  rcases ofNat_shiftIn lowerRuns_settle c with hc | hc
  · change lowerChar c = c at hc
    rwa [hc]
  · exact hc.ink

/-- No letter is lowered to one that has a partner. -/
theorem lowerChar_ne {c d : Char} (hd : shiftIn lowerRuns d.toNat ≠ d.toNat) (hc : c ≠ d) :
    lowerChar c ≠ d := by
  intro h
  rcases ofNat_shiftIn lowerRuns_settle c with hrest | hrest
  · exact hc (hrest.symm.trans h)
  · rw [← h, lowerChar, toNat_ofNat hrest.valid, hrest.still] at hd
    exact hd rfl

/-- Whether a code point is none of those that grow. -/
def keepsLength (n : Nat) : Bool := upperExpansions.all fun e => !(n == e.1)

theorem lookup_of_keepsLength {n : Nat} (h : keepsLength n = true) :
    upperExpansions.lookup n = none := by
  rw [List.lookup_eq_none_iff]
  intro e he
  simpa using List.all_eq_true.mp h e he

/-- What a letter grows to is at rest, and so is what it is raised to. -/
theorem expansions_rest : (upperExpansions.all fun e => !e.2.isEmpty && e.2.all fun n =>
    (one n).rests upperRuns && keepsLength n) = true := by decide +kernel

theorem upperRuns_keep : (upperRuns.all fun r => upperExpansions.all fun e =>
    r.image.apart (one e.1)) = true := by decide +kernel

/-- A letter is in upper case if it is raised to itself alone, and it is not blank unless it comes
from a blank one. -/
structure Raised (c d : Char) : Prop where
  same : upperChar d = [d]
  ink : isBlank c = false → isBlank d = false

theorem upperChar_of_rest {n : Nat} (h : AtRest upperRuns n) (hn : keepsLength n = true) :
    upperChar (Char.ofNat n) = [Char.ofNat n] := by
  rw [upperChar, toNat_ofNat h.valid, lookup_of_keepsLength hn, h.still]

/-- What a letter is moved to does not grow. -/
theorem keepsLength_of_moved {n : Nat} (hn : shiftIn upperRuns n ≠ n) :
    keepsLength (shiftIn upperRuns n) = true := by
  obtain ⟨r, hr, hholds, hshift⟩ := (shiftIn_cases n _).resolve_left hn
  have hsettle := List.all_eq_true.mp upperRuns_settle r hr
  rw [Bool.and_eq_true, decide_eq_true_eq] at hsettle
  have himage := image_holds hsettle.1 hholds
  rw [keepsLength, List.all_eq_true]
  intro e he
  have hapart := List.all_eq_true.mp (List.all_eq_true.mp upperRuns_keep r hr) e he
  have hnot := not_holds_of_apart hapart himage
  rw [hshift, Bool.not_eq_true', beq_eq_false_iff_ne]
  intro heq
  rw [heq, holds_one] at hnot
  cases hnot

/-- **The upper-case form of a letter** is in upper case. -/
theorem upperChar_raised (c : Char) : upperChar c ≠ [] ∧ ∀ d ∈ upperChar c, Raised c d := by
  cases hc : upperExpansions.lookup c.toNat with
  | some ns =>
    obtain ⟨before, behind, hexpansions, -⟩ := List.lookup_eq_some_iff.mp hc
    have hmem : (c.toNat, ns) ∈ upperExpansions := by simp [hexpansions]
    have hrest := List.all_eq_true.mp expansions_rest _ hmem
    rw [Bool.and_eq_true] at hrest
    rw [upperChar, hc]
    refine ⟨by simpa using hrest.1, fun d hd => ?_⟩
    obtain ⟨n, hn, rfl⟩ := List.mem_map.mp hd
    have hone := List.all_eq_true.mp hrest.2 n hn
    rw [Bool.and_eq_true] at hone
    have hn := atRest_of_rests hone.1 holds_one
    exact ⟨upperChar_of_rest hn hone.2, fun _ => hn.ink⟩
  | none =>
    have hupper : upperChar c = [Char.ofNat (shiftIn upperRuns c.toNat)] := by
      rw [upperChar, hc]
    rw [hupper]
    refine ⟨List.cons_ne_nil _ _, fun d hd => ?_⟩
    rw [List.mem_singleton] at hd
    subst hd
    by_cases hmoved : shiftIn upperRuns c.toNat = c.toNat
    · rw [hmoved, Char.ofNat_toNat] at hupper ⊢
      exact ⟨hupper, id⟩
    · have hrest := atRest_of_settles upperRuns_settle hmoved
      exact ⟨upperChar_of_rest hrest (keepsLength_of_moved hmoved), fun _ => hrest.ink⟩

/-! ### Texts -/

/-- The blocks of characters that those of a text become: none is empty, and none has a blank
character unless it comes from one. -/
abbrev Blocks (cs : List Char) (bs : List (List Char)) : Prop :=
  List.Forall₂ (fun c b => b ≠ [] ∧ (isBlank c = false → ∀ d ∈ b, isBlank d = false)) cs bs

theorem upper_blocks : ∀ cs : List Char, Blocks cs (cs.map upperChar) := by
  intro cs
  induction cs with
  | nil => exact .nil
  | cons c cs ih =>
    obtain ⟨hne, hraised⟩ := upperChar_raised c
    exact .cons ⟨hne, fun hc d hd => (hraised d hd).ink hc⟩ ih

/-- A letter in lower case. -/
structure Lowered (c : Char) : Prop where
  noSigma : c ≠ 'Σ'
  noDot : c ≠ 'İ'
  same : lowerChar c = c

theorem lowered_of_others {c : Char} (hsigma : c ≠ 'Σ') (hdot : c ≠ 'İ') : Lowered (lowerChar c) :=
  ⟨lowerChar_ne (by decide +kernel) hsigma, lowerChar_ne (by decide +kernel) hdot,
    lowerChar_lowerChar c⟩

/-- What the characters of a text are lowered to: blocks of letters in lower case. -/
theorem lower_blocks : ∀ (cs before : List Char), ∃ bs, lowerFrom before cs = bs.flatten ∧
    Blocks cs bs ∧ ∀ b ∈ bs, ∀ d ∈ b, Lowered d := by
  intro cs
  induction cs with
  | nil => intro before; exact ⟨[], rfl, .nil, List.forall_mem_nil _⟩
  | cons c cs ih =>
    intro before
    obtain ⟨bs, hflat, hblocks, hlowered⟩ := ih (c :: before)
    have hone : ∃ b, lowerFrom before (c :: cs) = b ++ lowerFrom (c :: before) cs ∧ b ≠ [] ∧
        (isBlank c = false → ∀ d ∈ b, isBlank d = false) ∧ ∀ d ∈ b, Lowered d := by
      by_cases hsigma : c = 'Σ'
      · rw [lowerFrom, if_pos hsigma]
        refine ⟨_, rfl, List.cons_ne_nil _ _, ?_⟩
        split
        · exact ⟨fun _ => List.forall_mem_singleton.mpr (by decide +kernel),
            List.forall_mem_singleton.mpr ⟨by decide, by decide, by decide +kernel⟩⟩
        · exact ⟨fun _ => List.forall_mem_singleton.mpr (by decide +kernel),
            List.forall_mem_singleton.mpr ⟨by decide, by decide, by decide +kernel⟩⟩
      · by_cases hdot : c = 'İ'
        · rw [lowerFrom, if_neg hsigma, if_pos hdot]
          refine ⟨_, rfl, List.cons_ne_nil _ _, fun _ => ?_, ?_⟩
          · simpa using (by decide +kernel : isBlank 'i' = false ∧ isBlank '\u0307' = false)
          · simpa using ⟨⟨by decide, by decide, by decide +kernel⟩,
              by decide, by decide, by decide +kernel⟩
        · rw [lowerFrom, if_neg hsigma, if_neg hdot]
          refine ⟨_, rfl, List.cons_ne_nil _ _, fun hc => ?_, ?_⟩
          · simpa using isBlank_lowerChar hc
          · simpa using lowered_of_others hsigma hdot
    obtain ⟨b, hb, hne, hink, hlow⟩ := hone
    refine ⟨b :: bs, ?_, .cons ⟨hne, hink⟩ hblocks, List.forall_mem_cons.mpr ⟨hlow, hlowered⟩⟩
    rw [hb, hflat, List.flatten_cons]

/-- Letters in lower case are lowered to themselves. -/
theorem lowerFrom_lowered : ∀ {cs : List Char} (before : List Char), (∀ d ∈ cs, Lowered d) →
    lowerFrom before cs = cs := by
  intro cs
  induction cs with
  | nil => intro before _; rfl
  | cons c cs ih =>
    intro before h
    obtain ⟨hsigma, hdot, hsame⟩ := h c List.mem_cons_self
    rw [lowerFrom, if_neg hsigma, if_neg hdot, hsame,
      ih (c :: before) fun d hd => h d (List.mem_cons_of_mem _ hd)]
    rfl

/-- **Lowering twice** is lowering once. -/
theorem lower_lower (s : String) : lower (lower s) = lower s := by
  obtain ⟨bs, hflat, -, hlowered⟩ := lower_blocks s.toList []
  have hall : ∀ d ∈ lowerFrom [] s.toList, Lowered d := by
    rw [hflat]
    intro d hd
    obtain ⟨b, hb, hd⟩ := List.mem_flatten.mp hd
    exact hlowered b hb d hd
  rw [lower, lower, String.toList_ofList, lowerFrom_lowered [] hall]

/-- **Raising twice** is raising once. -/
theorem upper_upper (s : String) : upper (upper s) = upper s := by
  have hsame : ∀ cs : List Char, (∀ d ∈ cs, upperChar d = [d]) → cs.flatMap upperChar = cs := by
    intro cs
    induction cs with
    | nil => intro _; rfl
    | cons c cs ih =>
      intro h
      rw [List.flatMap_cons, h c List.mem_cons_self, ih fun d hd => h d (List.mem_cons_of_mem _ hd)]
      rfl
  rw [upper, upper, String.toList_ofList, hsame]
  intro d hd
  obtain ⟨c, -, hd⟩ := List.mem_flatMap.mp hd
  exact ((upperChar_raised c).2 d hd).same

/-! ### Blank ends -/

/-- A list that does not begin with a blank character. -/
def InkFirst (cs : List Char) : Prop := ∀ c ∈ cs.head?, isBlank c = false

theorem inkFirst_dropWhile (cs : List Char) : InkFirst (cs.dropWhile isBlank) := by
  induction cs with
  | nil => simp [InkFirst]
  | cons c cs ih =>
    by_cases hc : isBlank c = true
    · rwa [List.dropWhile_cons_of_pos hc]
    · simp [InkFirst, List.dropWhile_cons_of_neg hc, hc]

theorem dropWhile_eq_iff {cs : List Char} : cs.dropWhile isBlank = cs ↔ InkFirst cs := by
  refine ⟨fun h => h ▸ inkFirst_dropWhile cs, fun h => ?_⟩
  cases cs with
  | nil => rfl
  | cons c cs => exact List.dropWhile_cons_of_neg (by simp [h c rfl])

/-- Blocks do not begin with a blank character if the text does not. -/
theorem inkFirst_blocks {cs : List Char} {bs : List (List Char)} (h : Blocks cs bs)
    (hcs : InkFirst cs) : InkFirst bs.flatten := by
  cases h with
  | nil => exact hcs
  | @cons c b cs bs hone _ =>
    obtain ⟨d, b', rfl⟩ := List.exists_cons_of_ne_nil hone.1
    intro e he
    obtain rfl : d = e := by simpa using he
    exact hone.2 (hcs c rfl) d List.mem_cons_self

theorem blocks_reverse {cs : List Char} {bs : List (List Char)} (h : Blocks cs bs) :
    Blocks cs.reverse (bs.map List.reverse).reverse := by
  rw [Blocks, List.forall₂_reverse_iff, List.forall₂_map_right_iff]
  refine h.imp fun c b ⟨hne, hink⟩ => ⟨by simpa using hne, fun hc d hd => ?_⟩
  exact hink hc d (List.mem_reverse.mp hd)

/-- A text that does not begin with a blank character. -/
theorem trimStart_eq_iff {s : String} : trimStart s = s ↔ InkFirst s.toList := by
  rw [← dropWhile_eq_iff, ← trimStart_toList, String.toList_inj]

/-- A text that does not end with a blank character. -/
theorem trimEnd_eq_iff {s : String} : trimEnd s = s ↔ InkFirst s.toList.reverse := by
  rw [← dropWhile_eq_iff, ← String.toList_inj, trimEnd_toList, List.reverse_eq_iff]

theorem trimStart_trimStart (s : String) : trimStart (trimStart s) = trimStart s := by
  rw [trimStart_eq_iff, trimStart_toList]
  exact inkFirst_dropWhile _

theorem trimEnd_trimEnd (s : String) : trimEnd (trimEnd s) = trimEnd s := by
  rw [trimEnd_eq_iff, trimEnd_toList, List.reverse_reverse]
  exact inkFirst_dropWhile _

/-- Cutting the end off leaves the beginning. -/
theorem trimStart_trimEnd {s : String} (h : trimStart s = s) :
    trimStart (trimEnd s) = trimEnd s := by
  rw [trimStart_eq_iff] at h ⊢
  have hprefix : (trimEnd s).toList <+: s.toList := by
    rw [trimEnd_toList, ← List.reverse_suffix, List.reverse_reverse]
    exact List.dropWhile_suffix _
  intro c hc
  obtain ⟨more, hmore⟩ := hprefix
  refine h c ?_
  rw [← hmore, List.head?_append, Option.mem_def.mp hc]
  rfl

/-- A change of texts that makes no blank ends, and that changes nothing the second time. -/
structure KeepsEnds (f : String → String) : Prop where
  start : ∀ s, trimStart s = s → trimStart (f s) = f s
  stop : ∀ s, trimEnd s = s → trimEnd (f s) = f s
  again : ∀ s, f (f s) = f s

/-- Blocks in the place of characters make no blank ends. -/
theorem keepsEnds_of_blocks {f : String → String} (hagain : ∀ s, f (f s) = f s)
    (hblocks : ∀ s : String, ∃ bs, (f s).toList = bs.flatten ∧ Blocks s.toList bs) :
    KeepsEnds f := by
  refine ⟨fun s hs => ?_, fun s hs => ?_, hagain⟩
  · obtain ⟨bs, hflat, hbs⟩ := hblocks s
    rw [trimStart_eq_iff] at hs ⊢
    rw [hflat]
    exact inkFirst_blocks hbs hs
  · obtain ⟨bs, hflat, hbs⟩ := hblocks s
    rw [trimEnd_eq_iff] at hs ⊢
    rw [hflat, List.reverse_flatten]
    exact inkFirst_blocks (blocks_reverse hbs) hs

/-- A text without blank ends has none after the change. -/
theorem KeepsEnds.both {f : String → String} (h : KeepsEnds f) (s : String) :
    trim (f (trim s)) = f (trim s) := by
  have hstart : trimStart (trim s) = trim s := trimStart_trimEnd (trimStart_trimStart s)
  have hstop : trimEnd (trim s) = trim s := trimEnd_trimEnd _
  rw [Text.trim, h.start _ hstart, h.stop _ hstop]

theorem KeepsEnds.id : KeepsEnds id := ⟨fun _ h => h, fun _ h => h, fun _ => rfl⟩

theorem KeepsEnds.lower : KeepsEnds lower := by
  refine keepsEnds_of_blocks lower_lower fun s => ?_
  obtain ⟨bs, hflat, hblocks, -⟩ := lower_blocks s.toList []
  exact ⟨bs, by rw [Text.lower, String.toList_ofList, hflat], hblocks⟩

theorem KeepsEnds.upper : KeepsEnds upper := by
  refine keepsEnds_of_blocks upper_upper fun s => ⟨_, ?_, upper_blocks s.toList⟩
  rw [Text.upper, String.toList_ofList, List.flatMap_def]

end RuleSchema.Text
