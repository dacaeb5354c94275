import RuleSchema.Proofs.Text.Constraints

/-!
# Hardware addresses

The pattern of a hardware address is read as two alternatives: pairs of hexadecimal digits between
hyphens or between colons, and fours of digits between points.  Since all groups but the last one
end in a repetition, each of them may have more digits than that; and since the last anchor stands
before a line feed that ends the text as well, one may follow.

* `hexGroups`: groups of digits between copies of a separator, `hardwareAddresses` those that the
  pattern describes.
* `parse_mac`: what the pattern is read as, `matchStart_mac`: what it matches.
* `mac_exact`: **what a rule for hardware addresses accepts.**
-/

namespace RuleSchema

open Eval Pattern Language

/-! ### Groups of digits -/

/-- `n` groups of at least `least` hexadecimal digits, with `sep` after each, and a last group of
just `least` digits. -/
def hexGroups (n least : Nat) (sep : Char) : Language Char :=
  {w | ∃ (groups : List (List Char)) (last : List Char), groups.length = n ∧
    (∀ u ∈ groups, least ≤ u.length ∧ ∀ c ∈ u, Charset.hex.holds c = true) ∧
    (last.length = least ∧ ∀ c ∈ last, Charset.hex.holds c = true) ∧
    w = groups.flatMap (· ++ [sep]) ++ last}

/-- The addresses that the pattern describes. -/
def hardwareAddresses : Language Char :=
  hexGroups 5 2 '-' + hexGroups 5 2 ':' + hexGroups 2 4 '.'

namespace Pattern

/-! ### The pattern -/

/-- The set of hexadecimal digits. -/
def hexDigit : Node := .set ⟨false, .exact, [.range 97 102, .range 65 70, .range 48 57]⟩

/-- So many digits before a pattern. -/
def digitsBefore (k : Nat) (n : Node) : Node := (List.replicate k hexDigit).foldr .seq n

/-- A group of more than `k` digits, and its separator. -/
def hexGroup (k : Nat) (sep : Char) : Node :=
  digitsBefore k (.seq (.repeat .greedy 1 none hexDigit) (charNode sep))

/-- The pattern of a hardware address. -/
def macNode : Node :=
  .alt
    (.seq (.anchor .textStart) (.group 1 (.seq
      (.group 2 (.alt (.repeat .greedy 5 (some 5) (.group 3 (hexGroup 1 '-')))
        (.repeat .greedy 5 (some 5) (.group 4 (hexGroup 1 ':')))))
      (.seq (.group 5 (digitsBefore 1 hexDigit)) (.anchor .lastLineEnd)))))
    (.seq (.group 6 (.seq (.anchor .textStart) (.seq
      (.repeat .greedy 2 (some 2) (.group 7 (hexGroup 3 '.')))
      (.group 8 (digitsBefore 3 hexDigit))))) (.anchor .lastLineEnd))

/-- What the pattern of a hardware address is read as. -/
theorem parse_mac : parse macSource {} = .ok (macNode, {}) := by decide +kernel

theorem spells_hexDigit : hexDigit.Spells (oneChar Charset.hex.holds) := by
  have hchar : ∀ c d : Char, d ≤ c ↔ d.toNat ≤ c.toNat := fun c d => Iff.rfl
  refine (spells_set _).congr fun w => exists_congr fun c => and_congr_left fun _ => ?_
  simp [Charset.holds, exact_holds, range_holds, hchar, isDigit_iff]
  omega

theorem spells_digitsBefore {n : Node} {L : Language Char} (h : n.Spells L) (k : Nat) :
    (digitsBefore k n).Spells (oneChar Charset.hex.holds ^ k * L) := by
  induction k with
  | zero => rwa [pow_zero, one_mul]
  | succ k ih =>
    rw [pow_succ', mul_assoc]
    exact spells_hexDigit.seq ih

/-- Some digits and a separator. -/
def hexThen (least : Nat) (sep : Char) : Language Char :=
  {w | ∃ u : List Char, (least ≤ u.length ∧ ∀ c ∈ u, Charset.hex.holds c = true) ∧ w = u ++ [sep]}

theorem spells_hexGroup (k : Nat) (sep : Char) : (hexGroup k sep).Spells (hexThen (k + 1) sep) := by
  refine (spells_digitsBefore ((spells_hexDigit.manyChars .greedy 1).seq (spells_char sep)) k).congr
    fun w => ?_
  simp only [mem_mul]
  constructor
  · rintro ⟨u, ⟨hlength, hu⟩, rfl⟩
    have htake : u.take k ∈ oneChar Charset.hex.holds ^ k := by
      refine mem_oneChar_pow.mpr ⟨by rw [List.length_take]; omega, fun c hc => ?_⟩
      exact hu c (List.mem_of_mem_take hc)
    have hdrop : 1 ≤ (u.drop k).length ∧ ∀ c ∈ u.drop k, Charset.hex.holds c = true := by
      refine ⟨by rw [List.length_drop]; omega, fun c hc => ?_⟩
      exact hu c (List.mem_of_mem_drop hc)
    refine ⟨u.take k, htake, u.drop k ++ [sep], ⟨u.drop k, hdrop, [sep], rfl, rfl⟩, ?_⟩
    rw [← List.append_assoc, List.take_append_drop]
  · rintro ⟨u, hu, _, ⟨v, ⟨hlength, hv⟩, _, rfl, rfl⟩, rfl⟩
    obtain ⟨hk, hu⟩ := mem_oneChar_pow.mp hu
    refine ⟨u ++ v, ⟨by rw [List.length_append]; omega, ?_⟩, (List.append_assoc ..).symm⟩
    exact List.forall_mem_append.mpr ⟨hu, hv⟩

/-- Groups one after the other. -/
theorem mem_hexThen_pow {least : Nat} {sep : Char} : ∀ {n : Nat} {w : List Char},
    w ∈ hexThen least sep ^ n ↔ ∃ groups : List (List Char), groups.length = n ∧
      (∀ u ∈ groups, least ≤ u.length ∧ ∀ c ∈ u, Charset.hex.holds c = true) ∧
      w = groups.flatMap (· ++ [sep]) := by
  intro n
  induction n with
  | zero =>
    intro w
    rw [pow_zero, mem_one]
    constructor
    · rintro rfl
      exact ⟨[], rfl, fun u hu => absurd hu List.not_mem_nil, rfl⟩
    · rintro ⟨groups, hlength, -, rfl⟩
      rw [List.length_eq_zero_iff.mp hlength]
      rfl
  | succ n ih =>
    intro w
    rw [pow_succ', mem_mul]
    constructor
    · rintro ⟨_, ⟨u, hu, rfl⟩, v, hv, rfl⟩
      obtain ⟨groups, hlength, hgroups, rfl⟩ := ih.mp hv
      exact ⟨u :: groups, congrArg (· + 1) hlength, List.forall_mem_cons.mpr ⟨hu, hgroups⟩, rfl⟩
    · rintro ⟨groups, hlength, hgroups, rfl⟩
      cases groups with
      | nil => cases hlength
      | cons u groups =>
        obtain ⟨hu, hgroups⟩ := List.forall_mem_cons.mp hgroups
        exact ⟨u ++ [sep], ⟨u, hu, rfl⟩, _, ih.mpr ⟨groups, Nat.succ.inj hlength, hgroups, rfl⟩,
          rfl⟩

/-- **Groups, and a last one.** -/
theorem hexGroups_eq (n least : Nat) (sep : Char) :
    hexGroups n least sep = hexThen least sep ^ n * oneChar Charset.hex.holds ^ least := by
  refine Language.ext fun w => ?_
  rw [mem_mul]
  constructor
  · rintro ⟨groups, last, hlength, hgroups, hlast, rfl⟩
    exact ⟨_, mem_hexThen_pow.mpr ⟨groups, hlength, hgroups, rfl⟩, last, mem_oneChar_pow.mpr hlast,
      rfl⟩
  · rintro ⟨_, hu, last, hlast, rfl⟩
    obtain ⟨groups, hlength, hgroups, rfl⟩ := mem_hexThen_pow.mp hu
    exact ⟨groups, last, hlength, hgroups, mem_oneChar_pow.mp hlast, rfl⟩

theorem spells_last (k : Nat) :
    (digitsBefore k hexDigit).Spells (oneChar Charset.hex.holds ^ (k + 1)) := by
  rw [pow_succ]
  exact spells_digitsBefore spells_hexDigit k

/-- The pattern of a hardware address reads these, as whole texts. -/
theorem spells_mac : macNode.SpellsWhole hardwareAddresses := by
  have hbetween : ∀ (n k : Nat) (sep : Char),
      (Node.repeat .greedy n (some n) (hexGroup k sep)).Spells (hexThen (k + 1) sep ^ n) :=
    fun n k sep => (spells_hexGroup k sep).times .greedy n
  rw [hardwareAddresses, hexGroups_eq, hexGroups_eq, hexGroups_eq, ← add_mul]
  -- groups that capture read what their bodies do
  have hpairs := (((hbetween 5 1 '-').alt (hbetween 5 1 ':')).seqLast (spells_last 1).last).whole
  have hfours := ((hbetween 2 3 '.').seq (spells_last 3)).last.whole
  refine Node.SpellsWhole.alt hpairs fun before w rest => ?_
  exact reads_seq_assoc.trans (hfours before w rest)

theorem matchStart_mac (s : List Char) : macNode.matchStart s = true ↔
    s ∈ hardwareAddresses ∨ ∃ w, s = w ++ ['\n'] ∧ w ∈ hardwareAddresses :=
  spells_mac.matchStart (by decide)

end Pattern

/-! ### The rule -/

/-- The check that a text is a hardware address. -/
def macCheck : Check where
  name := "mac.pattern"
  test := onText (⟨macSource, {}, macNode⟩ : Pattern).matchesStart
  message := "Invalid MAC address provided"
  schema := patternSchema macSource

theorem macStages_eq (r : Rule) (path : String) :
    macStages r path = checkedStages r .validate "mac.constraints" macCheck path := by
  rw [macStages, compilePattern, compile_of_parse parse_mac]
  rfl

/-- **A rule for hardware addresses** always compiles without a default.  It accepts what its
pattern describes, with a line feed that may stand after it, and rejects every other text. -/
theorem mac_exact (c : CommonOptions) (ctx : Strictness) :
    (c.default? = none → ∃ d, (Rule.mac c).CompilesTo ctx d) ∧
    ∀ d, (Rule.mac c).CompilesTo ctx d → ∀ s : String, (d.validate (.text s)).GivesIf (.text s)
      (s.toList ∈ hardwareAddresses ∨ ∃ w, s.toList = w ++ ['\n'] ∧ w ∈ hardwareAddresses) := by
  have hstages : ∀ path, scalarStages (.mac c) path = _ := macStages_eq (.mac c)
  refine ⟨fun hdefault => compilesTo_of_check rfl hdefault (hstages "$") rfl, fun d hd s => ?_⟩
  exact validate_checked rfl hstages hd ((asks_one rfl).congr (matchStart_mac s.toList).symm)

/-- An address of six pairs, one with three digits in its first group, and one with a line feed
after it; three digits in the last group are too many. -/
theorem mac_exact_longer :
    ∃ d, (Rule.mac {}).CompilesTo {} d ∧
      d.validate (.text "00:11:22:33:44:55") = pure (.text "00:11:22:33:44:55") ∧
      d.validate (.text "001:22:33:44:55:66") = pure (.text "001:22:33:44:55:66") ∧
      d.validate (.text "0011.2233.4455\n") = pure (.text "0011.2233.4455\n") ∧
      ∃ e, d.validate (.text "00:11:22:33:44:555") = .reject e := by
  obtain ⟨hcompiles, hexact⟩ := mac_exact {} {}
  obtain ⟨d, hd⟩ := hcompiles rfl
  exact ⟨d, hd, (hexact d hd _).accepts ((matchStart_mac _).mp (by decide +kernel)),
    (hexact d hd _).accepts ((matchStart_mac _).mp (by decide +kernel)),
    (hexact d hd _).accepts ((matchStart_mac _).mp (by decide +kernel)),
    (hexact d hd _).rejects (mt (matchStart_mac _).mpr (by decide +kernel))⟩

end RuleSchema
