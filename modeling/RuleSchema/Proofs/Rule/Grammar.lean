import RuleSchema.Proofs.Compile.Stages
import RuleSchema.Proofs.Number.Decimals
import RuleSchema.Proofs.Text.Trimming

/-!
# The grammar of shorthand rules

A shorthand is its segments between the bars.  The first one is the type, or an item type with `[]`
after it; each of the others sets a field.

* `SegmentsOf`, `Reading`, `Sets` and `TypeFields` are the grammar: how a text is cut and trimmed,
  how a value is read, which field a segment sets, and which fields the type sets.
* `Malformed` says which segments are against it.
* `Padded` adds blanks where they do not matter.
* `parse_anywhere`: the fields of a shorthand do not depend on the place where it stands.
* `parse_accepts_grammar`: **the parser accepts exactly its grammar**.
-/

namespace RuleSchema.Shorthand

open Text Numeral

/-! ### The grammar -/

/-- The segments of a text: its pieces between the bars, without their blank ends. -/
def SegmentsOf (s : String) (segments : List String) : Prop :=
  ∃ pieces : List (List Char), pieces ≠ [] ∧ (∀ p ∈ pieces, '|' ∉ p) ∧
    ['|'].intercalate pieces = s.toList ∧
    List.Forall₂ (fun p segment => Trims p segment.toList) pieces segments

/-- What the text of a value is read as. -/
inductive Reading : String → Value → Prop
  | yes : Reading "true" (.bool true)
  | no : Reading "false" (.bool false)
  | whole {s : String} {ds : List Nat} {i : Int} : IsInteger s.toList ds i → Reading s (.int i)
  | decimal {s : String} {n : Numeral} : (∀ ds i, ¬ IsInteger s.toList ds i) →
      IsDecimal s.toList n → Reading s (.float n.toBinary64)
  | text {s : String} : s ≠ "true" → s ≠ "false" → (∀ ds i, ¬ IsInteger s.toList ds i) →
      (∀ n, ¬ IsDecimal s.toList n) → Reading s (.text s)

/-- The field that a segment sets, and its value. -/
inductive Sets : String → String × Value → Prop
  | value {segment name value : String} {before after : List Char} {v : Value} : ':' ∉ before →
      segment.toList = before ++ ':' :: after → Trims before name.toList →
      Trims after value.toList → Reading value v → Sets segment (name, v)
  | cleared {flag : String} : ':' ∉ flag.toList → flag ≠ "" →
      Sets ("no-" ++ flag) (flag, .bool false)
  | flag {segment : String} : ':' ∉ segment.toList → (∀ flag, flag ≠ "" → segment ≠ "no-" ++ flag) →
      Sets segment (segment, .bool true)

/-- The fields that the first segment sets. -/
inductive TypeFields : String → Entries Value → Prop
  | lone {type : String} : (∀ item, type ≠ item ++ "[]") →
      TypeFields type [(.text "type", .text type)]
  | array {item : String} :
      TypeFields (item ++ "[]") [(.text "type", .text "array"), (.text "items", .text item)]

/-- A segment that names no field. -/
def Nameless (segment : String) : Prop :=
  segment = "" ∨ ∃ before after, segment.toList = before ++ ':' :: after ∧
    ∀ c ∈ before, isBlank c = true

/-- Segments without a type, or with one that names no field. -/
def Malformed (type : String) (rest : List String) : Prop :=
  type = "" ∨ type = "[]" ∨ ∃ segment ∈ rest, Nameless segment

/-- The value in a segment is not too long a whole number. -/
def Fits (segment : String) : Prop :=
  ∀ before after value ds i, ':' ∉ before → segment.toList = before ++ ':' :: after →
    Trims after value → IsInteger value ds i → ds.length ≤ digitLimit

/-- The whole numbers that are values in a text are not too long. -/
def WithinLimit (s : String) : Prop :=
  ∀ type rest, SegmentsOf s (type :: rest) → ∀ segment ∈ rest, Fits segment

/-- The second piece has more blanks around it, or around its first colon. -/
inductive PaddedModifier : List Char → List Char → Prop
  | around {p a b : List Char} : (∀ c ∈ a ++ b, isBlank c = true) → PaddedModifier p (a ++ p ++ b)
  | colon {before after a b c d : List Char} : ':' ∉ before →
      (∀ x ∈ a ++ b ++ c ++ d, isBlank x = true) →
      PaddedModifier (before ++ ':' :: after) ((a ++ before ++ b) ++ ':' :: (c ++ after ++ d))

/-- The second text has more blanks around its bars, or around the first colons of modifiers. -/
def Padded (s s' : String) : Prop :=
  ∃ (type a b : List Char) (pieces pieces' : List (List Char)),
    (∀ p ∈ type :: pieces, '|' ∉ p) ∧ (∀ c ∈ a ++ b, isBlank c = true) ∧
    List.Forall₂ PaddedModifier pieces pieces' ∧
    ['|'].intercalate (type :: pieces) = s.toList ∧
    ['|'].intercalate ((a ++ type ++ b) :: pieces') = s'.toList

/-! ### Rejections -/

/-- A rejection of a malformed rule. -/
def IsMalformed {α : Type} (r : Except (Stop RuleError) α) : Prop :=
  ∃ e, r = .error (.rejected e) ∧ e.kind = "MalformedRuleError"

/-- The same result, the same fault, or rejections of one kind. -/
inductive SameOutcome {α : Type} :
    Except (Stop RuleError) α → Except (Stop RuleError) α → Prop
  | ok (a : α) : SameOutcome (.ok a) (.ok a)
  | fault (f : Fault) : SameOutcome (.error (.fault f)) (.error (.fault f))
  | rejected {d e : RuleError} : d.kind = e.kind →
      SameOutcome (.error (.rejected d)) (.error (.rejected e))

section

variable {α : Type} {x y : Except (Stop RuleError) α} {s : String} {segments : List String}
  {segment name value path rule : String} {v : Value} {m : String × Value}

theorem SameOutcome.refl (x : Except (Stop RuleError) α) : SameOutcome x x := by
  match x with
  | .ok a => exact .ok a
  | .error (.fault f) => exact .fault f
  | .error (.rejected e) => exact .rejected rfl

theorem IsMalformed.same (hx : IsMalformed x) (hy : IsMalformed y) : SameOutcome x y := by
  obtain ⟨d, rfl, hd⟩ := hx
  obtain ⟨e, rfl, he⟩ := hy
  exact .rejected (hd.trans he.symm)

theorem not_isMalformed_ok (a : α) : ¬ IsMalformed (.ok a : Except (Stop RuleError) α) := by
  rintro ⟨e, he, -⟩
  cases he

/-! ### Segments -/

theorem segmentsOf_iff : SegmentsOf s segments ↔ Shorthand.segments s = segments := by
  have hforall : ∀ {pieces : List (List Char)} {segments : List String},
      List.Forall₂ (fun p segment => Trims p segment.toList) pieces segments ↔
        pieces.map trimmed = segments := by
    intro pieces segments
    simp only [← trimmed_eq_iff]
    rw [← List.forall₂_map_left_iff, List.forall₂_eq_eq_eq]
  constructor
  · rintro ⟨pieces, hne, hbars, hjoin, htrims⟩
    rw [Shorthand.segments, splitOn_eq_iff.mpr ⟨hne, hbars, hjoin⟩, hforall.mp htrims]
  · rintro rfl
    obtain ⟨hne, hbars, hjoin⟩ := splitOn_eq_iff.mp (rfl : Text.splitOn '|' s.toList = _)
    exact ⟨_, hne, hbars, hjoin, hforall.mpr rfl⟩

theorem trimmed_of_mem (h : SegmentsOf s segments) (hsegment : segment ∈ segments) :
    trimmed segment.toList = segment := by
  rw [← segmentsOf_iff.mp h] at hsegment
  obtain ⟨p, -, rfl⟩ := List.mem_map.mp hsegment
  exact trimmed_trimmed p

/-! ### Values -/

theorem readNumeral?_eq (s : List Char) : readNumeral? s =
    match takeDigits digitValue? (takeMinus s).2 with
    | (d :: ds, []) =>
      if digitLimit < (d :: ds).length then .error (.numeralTooLong (d :: ds).length)
      else .ok (some (.int (if (takeMinus s).1 then -(digitsValue (d :: ds) : Int)
        else digitsValue (d :: ds))))
    | _ => .ok ((ofUnsigned? digitValue? (takeMinus s).1 (takeMinus s).2).map
        fun n => .float n.toBinary64) := by
  rfl

theorem readNumeral?_integer {s : List Char} {ds : List Nat} {i : Int} (h : IsInteger s ds i)
    (hlimit : ds.length ≤ digitLimit) : readNumeral? s = .ok (some (.int i)) := by
  obtain ⟨hdigits, hne, rfl⟩ := isInteger_iff.mp h
  rw [readNumeral?_eq, hdigits]
  cases ds with
  | nil => exact absurd rfl hne
  | cons d ds =>
    dsimp only
    rw [if_neg (Nat.not_lt.mpr hlimit)]

theorem readNumeral?_other {s : List Char} (h : ∀ ds i, ¬ IsInteger s ds i) :
    readNumeral? s = .ok ((ofUnsigned? digitValue? (takeMinus s).1 (takeMinus s).2).map
      fun n => .float n.toBinary64) := by
  rw [readNumeral?_eq]
  split
  · next d ds hdigits => exact absurd (isInteger_iff.mpr ⟨hdigits, by simp, rfl⟩) (h _ _)
  · rfl

/-- The words of the truth values are no numerals. -/
theorem word_not_numeral (h : s = "true" ∨ s = "false") :
    (∀ ds i, ¬ IsInteger s.toList ds i) ∧ ∀ n, ¬ IsDecimal s.toList n := by
  have hdigits : (takeDigits digitValue? (takeMinus s.toList).2).1 = [] := by
    rcases h with rfl | rfl <;> decide
  have hnumeral :
      (ofUnsigned? digitValue? (takeMinus s.toList).1 (takeMinus s.toList).2).isNone := by
    rcases h with rfl | rfl <;> decide
  constructor
  · intro ds i hi
    obtain ⟨hds, hne, -⟩ := isInteger_iff.mp hi
    rw [hds] at hdigits
    exact hne hdigits
  · intro n hn
    rw [isDecimal_iff.mp hn] at hnumeral
    cases hnumeral

/-- Every text is read as something. -/
theorem exists_reading (s : String) : ∃ v, Reading s v := by
  by_cases hwhole : ∃ ds i, IsInteger s.toList ds i
  · obtain ⟨ds, i, hi⟩ := hwhole
    exact ⟨_, .whole hi⟩
  · push Not at hwhole
    by_cases hdecimal : ∃ n, IsDecimal s.toList n
    · obtain ⟨n, hn⟩ := hdecimal
      exact ⟨_, .decimal hwhole hn⟩
    · push Not at hdecimal
      by_cases htrue : s = "true"
      · exact ⟨.bool true, htrue ▸ Reading.yes⟩
      · by_cases hfalse : s = "false"
        · exact ⟨.bool false, hfalse ▸ Reading.no⟩
        · exact ⟨_, .text htrue hfalse hwhole hdecimal⟩

/-- **The reader of values** follows the grammar. -/
theorem readValue_of_reading (h : Reading s v)
    (hlimit : ∀ ds i, IsInteger s.toList ds i → ds.length ≤ digitLimit) :
    readValue s = .ok v := by
  have hnumeral : ∀ {v? : Option Value}, s ≠ "true" → s ≠ "false" →
      readNumeral? s.toList = .ok v? → readValue s = .ok (v?.getD (.text s)) := by
    intro v? htrue hfalse hread
    rw [readValue, if_neg htrue, if_neg hfalse, hread]
    rfl
  cases h with
  | yes => rfl
  | no => rfl
  | whole hi =>
    refine hnumeral ?_ ?_ (readNumeral?_integer hi (hlimit _ _ hi))
    · exact fun hs => (word_not_numeral (.inl hs)).1 _ _ hi
    · exact fun hs => (word_not_numeral (.inr hs)).1 _ _ hi
  | decimal hwhole hn =>
    have hread := readNumeral?_other hwhole
    rw [isDecimal_iff.mp hn] at hread
    refine hnumeral ?_ ?_ hread
    · exact fun hs => (word_not_numeral (.inl hs)).2 _ hn
    · exact fun hs => (word_not_numeral (.inr hs)).2 _ hn
  | text htrue hfalse hwhole hdecimal =>
    have hread := readNumeral?_other hwhole
    have hnone : ofUnsigned? digitValue? (takeMinus s.toList).1 (takeMinus s.toList).2 = none :=
      Option.eq_none_iff_forall_not_mem.mpr fun n hn => hdecimal n (isDecimal_iff.mpr hn)
    rw [hnone] at hread
    exact hnumeral htrue hfalse hread

/-! ### Modifiers -/

/-- The field that the parts of a modifier set, and its value. -/
def readParts (name : String) : Option String → Except (Stop RuleError) (String × Value)
  | some value =>
    match readValue value with
    | .ok v => .ok (name, v)
    | .error f => .error (.fault f)
  | none =>
    match negated? name with
    | some flag => .ok (flag, .bool false)
    | none => .ok (name, .bool true)

/-- A modifier is read from its parts, unless the first one is empty. -/
theorem readModifier_named (h : (partsAt ':' segment.toList).1 ≠ "") :
    readModifier path rule segment
      = readParts (partsAt ':' segment.toList).1 (partsAt ':' segment.toList).2 := by
  have hsegment : segment ≠ "" := by
    rintro rfl
    exact h (by decide)
  have hname : trimmed (Text.cutAt ':' segment.toList).1 ≠ "" := h
  rw [readModifier, if_neg hsegment]
  dsimp only
  rw [if_neg hname, partsAt]
  cases hafter : (Text.cutAt ':' segment.toList).2 with
  | none =>
    cases hflag : negated? (trimmed (Text.cutAt ':' segment.toList).1) <;>
      simp only [Option.map_none, readParts, hflag]
  | some value =>
    cases hvalue : readValue (trimmed value) <;> simp only [Option.map_some, readParts, hvalue]

theorem readModifier_nameless (h : (partsAt ':' segment.toList).1 = "") :
    IsMalformed (readModifier path rule segment) := by
  unfold partsAt at h
  unfold readModifier
  split
  · exact ⟨_, rfl, rfl⟩
  · dsimp only at h ⊢
    rw [if_pos h]
    exact ⟨_, rfl, rfl⟩

theorem negated?_iff {flag : String} :
    negated? name = some flag ↔ flag ≠ "" ∧ name = "no-" ++ flag := by
  unfold negated?
  constructor
  · intro h
    split at h
    · next c cs hafter =>
      cases h
      refine ⟨by simp, ?_⟩
      rw [← String.toList_inj, String.toList_append, append_of_after? hafter]
      exact congrArg _ String.toList_ofList.symm
    · cases h
  · rintro ⟨hflag, rfl⟩
    rw [String.toList_append, after?_append]
    cases hcs : flag.toList with
    | nil => exact absurd (String.toList_eq_nil_iff.mp hcs) hflag
    | cons c cs =>
      dsimp only
      rw [← hcs, String.ofList_toList]

/-- A segment is cut at its first colon, or has none. -/
theorem cut_cases (segment : String) : ':' ∉ segment.toList ∨
    ∃ before after, ':' ∉ before ∧ segment.toList = before ++ ':' :: after := by
  by_cases hmem : ':' ∈ segment.toList
  · obtain ⟨before, after, hcut, hbefore⟩ := List.eq_append_cons_of_mem hmem
    exact .inr ⟨before, after, hbefore, hcut⟩
  · exact .inl hmem

theorem nameless_iff (hsegment : trimmed segment.toList = segment) :
    Nameless segment ↔ (partsAt ':' segment.toList).1 = "" := by
  have hblank : ∀ {before : List Char}, trimmed before = "" ↔ ∀ c ∈ before, isBlank c = true := by
    intro before
    rw [trimmed_eq_iff]
    constructor
    · rintro ⟨p, q, rfl, hp, hq, -⟩ c hc
      simp only [String.toList_empty, List.append_nil, List.mem_append] at hc
      exact hc.elim (hp c) (hq c)
    · intro hbefore
      exact ⟨before, [], by simp, hbefore, by simp, by simp [InkFirst], by simp [InkFirst]⟩
  rcases cut_cases segment with hnone | ⟨before, after, hbefore, hcut⟩
  · rw [partsAt_of_not_mem hnone, hsegment]
    constructor
    · rintro (h | ⟨before, after, hcut, -⟩)
      · exact h
      · exact absurd (hcut ▸ List.mem_append_right before List.mem_cons_self) hnone
    · exact .inl
  · rw [hcut, partsAt_append hbefore]
    constructor
    · rintro (rfl | ⟨p, q, hpq, hp⟩)
      · simp at hcut
      · have hcolon : ':' ∉ p := fun hmem => absurd (hp _ hmem) (by decide)
        have hsame := (cutAt_eq_iff.mpr ⟨hcolon, hpq⟩).symm.trans (cutAt_eq_iff.mpr ⟨hbefore, hcut⟩)
        obtain ⟨rfl, -⟩ := Prod.mk.inj hsame
        exact hblank.mpr hp
    · exact fun h => .inr ⟨before, after, hcut, hblank.mp h⟩

/-- **The reader of modifiers** follows the grammar. -/
theorem readModifier_of_sets (hsegment : trimmed segment.toList = segment)
    (hname : ¬ Nameless segment) (hfits : Fits segment) (h : Sets segment m) :
    readModifier path rule segment = .ok m := by
  rw [readModifier_named (mt (nameless_iff hsegment).mpr hname)]
  cases h with
  | value hbefore hcut hname hvalue hread =>
    rw [hcut, partsAt_append hbefore, trimmed_eq_iff.mpr hname, trimmed_eq_iff.mpr hvalue,
      readParts, readValue_of_reading hread fun ds i => hfits _ _ _ ds i hbefore hcut hvalue]
  | @cleared flag hcolon hflag =>
    have hnone : ':' ∉ ("no-" ++ flag).toList := by
      rw [String.toList_append, List.mem_append, not_or]
      exact ⟨by decide, hcolon⟩
    rw [partsAt_of_not_mem hnone, hsegment, readParts, negated?_iff.mpr ⟨hflag, rfl⟩]
  | flag hcolon hplain =>
    have hnone : negated? segment = none :=
      Option.eq_none_iff_forall_not_mem.mpr fun flag hflag =>
        hplain flag (negated?_iff.mp hflag).1 (negated?_iff.mp hflag).2
    rw [partsAt_of_not_mem hcolon, hsegment, readParts, hnone]

/-- Every segment sets a field. -/
theorem exists_sets (segment : String) : ∃ m, Sets segment m := by
  rcases cut_cases segment with hnone | ⟨before, after, hbefore, hcut⟩
  · by_cases hcleared : ∃ flag, flag ≠ "" ∧ segment = "no-" ++ flag
    · obtain ⟨flag, hflag, rfl⟩ := hcleared
      rw [String.toList_append, List.mem_append, not_or] at hnone
      exact ⟨_, .cleared hnone.2 hflag⟩
    · exact ⟨_, .flag hnone fun flag hflag hsegment => hcleared ⟨flag, hflag, hsegment⟩⟩
  · obtain ⟨v, hv⟩ := exists_reading (trimmed after)
    exact ⟨_, .value hbefore hcut (trims_trimmed before) (trims_trimmed after) hv⟩

theorem exists_mods : ∀ rest : List String, ∃ mods, List.Forall₂ Sets rest mods
  | [] => ⟨[], .nil⟩
  | segment :: rest => by
    obtain ⟨m, hm⟩ := exists_sets segment
    obtain ⟨mods, hmods⟩ := exists_mods rest
    exact ⟨m :: mods, .cons hm hmods⟩

/-! ### Types -/

theorem readType_malformed {type : String} (h : type = "" ∨ type = "[]") :
    ∃ e, readType path rule type = .error e ∧ e.kind = "MalformedRuleError" := by
  rcases h with rfl | rfl
  · exact ⟨_, rfl, rfl⟩
  · exact ⟨_, rfl, rfl⟩

/-- **The reader of types** follows the grammar. -/
theorem readType_of_fields {type : String} {fields : Entries Value} (hempty : type ≠ "")
    (hitem : type ≠ "[]") (h : TypeFields type fields) : readType path rule type = .ok fields := by
  rw [readType, if_neg hempty]
  cases h with
  | lone hplain =>
    have hnone : itemType? type = none :=
      Option.eq_none_iff_forall_not_mem.mpr fun item h => hplain item (eq_of_itemType? h)
    rw [hnone]
  | @array item =>
    have hne : item ≠ "" := by
      rintro rfl
      exact hitem rfl
    rw [itemType?_append]
    dsimp only
    rw [if_neg hne]
    rfl

theorem exists_fields (type : String) : ∃ fields, TypeFields type fields := by
  by_cases h : ∃ item, type = item ++ "[]"
  · obtain ⟨item, rfl⟩ := h
    exact ⟨_, .array⟩
  · exact ⟨_, .lone fun item hitem => h ⟨item, hitem⟩⟩

/-! ### Shorthands -/

section

variable {f : Entries Value → String → Except (Stop RuleError) (Entries Value)}
  {fields : Entries Value} {xs : List String} {mods : List (String × Value)}

/-- Modifiers that are read are put in from left to right. -/
theorem foldlM_sets
    (hf : ∀ es x, f es x = readModifier path rule x >>= fun m => .ok (es.put (.text m.1) m.2))
    (h : List.Forall₂ (fun x m => readModifier path rule x = .ok m) xs mods) :
    xs.foldlM f fields = .ok (setAll fields mods) := by
  induction h generalizing fields with
  | nil => rfl
  | cons hx _ ih =>
    rw [List.foldlM_cons, hf, hx]
    exact ih

/-- A modifier that is malformed makes the whole malformed. -/
theorem foldlM_malformed
    (hf : ∀ es x, f es x = readModifier path rule x >>= fun m => .ok (es.put (.text m.1) m.2))
    (hxs : ∀ x ∈ xs,
      (∃ m, readModifier path rule x = .ok m) ∨ IsMalformed (readModifier path rule x))
    (h : ∃ x ∈ xs, IsMalformed (readModifier path rule x)) : IsMalformed (xs.foldlM f fields) := by
  induction xs generalizing fields with
  | nil =>
    obtain ⟨x, hx, -⟩ := h
    cases hx
  | cons x xs ih =>
    rw [List.foldlM_cons, hf]
    rcases hxs x List.mem_cons_self with ⟨m, hm⟩ | ⟨e, he, hkind⟩
    · rw [hm]
      apply ih
      · exact fun y hy => hxs y (List.mem_cons_of_mem x hy)
      · obtain ⟨y, hy, e, he, hkind⟩ := h
        rcases List.mem_cons.mp hy with rfl | hy
        · rw [hm] at he
          cases he
        · exact ⟨y, hy, e, he, hkind⟩
    · rw [he]
      exact ⟨e, rfl, hkind⟩

/-- **What a shorthand of the grammar means**: the fields of its type, updated by its modifiers from
left to right. -/
theorem parse_of_sets {type : String} {rest : List String} (hs : SegmentsOf s (type :: rest))
    (hfits : ∀ segment ∈ rest, Fits segment) (h : ¬ Malformed type rest)
    (hfields : TypeFields type fields) (hmods : List.Forall₂ Sets rest mods) :
    parse s path = .ok (setAll fields mods) := by
  rw [Malformed, not_or, not_or] at h
  obtain ⟨hempty, hitem, hnamed⟩ := h
  have hgood : ∀ segment ∈ rest,
      trimmed segment.toList = segment ∧ ¬ Nameless segment ∧ Fits segment :=
    fun segment hmem => ⟨trimmed_of_mem hs (List.mem_cons_of_mem type hmem),
      fun hname => hnamed ⟨segment, hmem, hname⟩, hfits segment hmem⟩
  have hread : List.Forall₂ (fun x m => readModifier path s x = .ok m) rest mods :=
    ((List.forall₂_and_left _ _).mpr ⟨hgood, hmods⟩).imp
      fun x m hx => readModifier_of_sets hx.1.1 hx.1.2.1 hx.1.2.2 hx.2
  rw [parse, segmentsOf_iff.mp hs]
  dsimp only [List.headD_cons, List.tail_cons]
  rw [readType_of_fields hempty hitem hfields]
  exact foldlM_sets (fun _ _ => rfl) hread

/-- **Nothing else is accepted.** -/
theorem parse_malformed {type : String} {rest : List String} (hs : SegmentsOf s (type :: rest))
    (hfits : ∀ segment ∈ rest, Fits segment) (h : Malformed type rest) :
    IsMalformed (parse s path) := by
  rw [parse, segmentsOf_iff.mp hs]
  dsimp only [List.headD_cons, List.tail_cons]
  by_cases htype : type = "" ∨ type = "[]"
  · obtain ⟨e, he, hkind⟩ : ∃ e, readType path s type = .error e ∧ e.kind = "MalformedRuleError" :=
      readType_malformed htype
    rw [he]
    exact ⟨e, rfl, hkind⟩
  · obtain ⟨fields, hfields⟩ := exists_fields type
    obtain ⟨hempty, hitem⟩ := not_or.mp htype
    obtain ⟨x, hx, hname⟩ := (h.resolve_left hempty).resolve_left hitem
    have htrim : ∀ segment ∈ rest, trimmed segment.toList = segment :=
      fun segment hmem => trimmed_of_mem hs (List.mem_cons_of_mem type hmem)
    have hbad : ∀ segment ∈ rest, Nameless segment → IsMalformed (readModifier path s segment) :=
      fun segment hmem hname => readModifier_nameless ((nameless_iff (htrim segment hmem)).mp hname)
    rw [readType_of_fields hempty hitem hfields]
    refine foldlM_malformed (fun _ _ => rfl) (fun y hy => ?_) ⟨x, hx, hbad x hx hname⟩
    by_cases hy' : Nameless y
    · exact .inr (hbad y hy hy')
    · obtain ⟨m, hm⟩ := exists_sets y
      exact .inl ⟨m, readModifier_of_sets (htrim y hy) hy' (hfits y hy) hm⟩

/-- **Which shorthands are stopped**: those that are against the grammar. -/
theorem parse_stops_iff {type : String} {rest : List String} (hs : SegmentsOf s (type :: rest))
    (hfits : ∀ segment ∈ rest, Fits segment) :
    (∃ stop, parse s path = .error stop) ↔ Malformed type rest := by
  constructor
  · rintro ⟨stop, hstop⟩
    by_contra hgood
    obtain ⟨fields, hfields⟩ := exists_fields type
    obtain ⟨mods, hmods⟩ := exists_mods rest
    rw [parse_of_sets hs hfits hgood hfields hmods] at hstop
    cases hstop
  · intro hmalformed
    obtain ⟨e, he, -⟩ : IsMalformed (parse s path) := parse_malformed hs hfits hmalformed
    exact ⟨_, he⟩

/-- **What the others give**: what the grammar says. -/
theorem parse_ok_iff {type : String} {rest : List String} {es : Entries Value}
    (hs : SegmentsOf s (type :: rest)) (hfits : ∀ segment ∈ rest, Fits segment) :
    parse s path = .ok es ↔ ¬ Malformed type rest ∧
      ∃ fields mods, TypeFields type fields ∧ List.Forall₂ Sets rest mods ∧
        es = setAll fields mods := by
  constructor
  · intro hes
    have hgood : ¬ Malformed type rest := by
      intro hmalformed
      have hparse : IsMalformed (parse s path) := parse_malformed hs hfits hmalformed
      rw [hes] at hparse
      exact not_isMalformed_ok es hparse
    obtain ⟨fields, hfields⟩ := exists_fields type
    obtain ⟨mods, hmods⟩ := exists_mods rest
    rw [parse_of_sets hs hfits hgood hfields hmods] at hes
    exact ⟨hgood, fields, mods, hfields, hmods, (Except.ok.inj hes).symm⟩
  · rintro ⟨hgood, fields, mods, hfields, hmods, rfl⟩
    exact parse_of_sets hs hfits hgood hfields hmods

/-! ### Blanks -/

theorem bar_not_blank {p : List Char} (hp : ∀ c ∈ p, isBlank c = true) : '|' ∉ p :=
  fun hmem => absurd (hp _ hmem) (by decide)

theorem colon_not_blank {p : List Char} (hp : ∀ c ∈ p, isBlank c = true) : ':' ∉ p :=
  fun hmem => absurd (hp _ hmem) (by decide)

/-- Blanks do not change the parts of a modifier. -/
theorem PaddedModifier.parts {p p' : List Char} (h : PaddedModifier p p') :
    partsAt ':' p' = partsAt ':' p := by
  cases h with
  | @around _ a b hblank =>
    have htrim : trimmed (a ++ p ++ b) = trimmed p :=
      trimmed_padded (fun c hc => hblank c (List.mem_append_left b hc))
        (fun c hc => hblank c (List.mem_append_right a hc))
    rw [← partsAt_trimmed (by decide) (a ++ p ++ b), htrim, partsAt_trimmed (by decide)]
  | @colon before after a b c d hcolon hblank =>
    simp only [List.mem_append, or_imp, forall_and] at hblank
    obtain ⟨⟨⟨ha, hb⟩, hc⟩, hd⟩ := hblank
    have hcolon' : ':' ∉ a ++ before ++ b := by
      simp [colon_not_blank ha, hcolon, colon_not_blank hb]
    rw [partsAt_append hcolon', partsAt_append hcolon, trimmed_padded ha hb, trimmed_padded hc hd]

/-- Blanks put no bars into a piece. -/
theorem PaddedModifier.barless {p p' : List Char} (h : PaddedModifier p p') (hp : '|' ∉ p) :
    '|' ∉ p' := by
  cases h with
  | @around _ a b hblank =>
    have hab := bar_not_blank hblank
    simp only [List.mem_append, not_or] at hab ⊢
    exact ⟨⟨hab.1, hp⟩, hab.2⟩
  | @colon before after a b c d hcolon hblank =>
    have habcd := bar_not_blank hblank
    simp only [List.mem_append, List.mem_cons, not_or] at habcd hp ⊢
    obtain ⟨⟨⟨ha, hb⟩, hc⟩, hd⟩ := habcd
    exact ⟨⟨⟨ha, hp.1⟩, hb⟩, hp.2.1, ⟨hc, hp.2.2⟩, hd⟩

theorem readModifier_same {path' rule' segment' : String}
    (h : partsAt ':' segment'.toList = partsAt ':' segment.toList) :
    SameOutcome (readModifier path rule segment) (readModifier path' rule' segment') := by
  by_cases hname : (partsAt ':' segment.toList).1 = ""
  · have hname' : (partsAt ':' segment'.toList).1 = "" := by rw [h, hname]
    exact (readModifier_nameless hname).same (readModifier_nameless hname')
  · have hname' : (partsAt ':' segment'.toList).1 ≠ "" := by rwa [h]
    rw [readModifier_named hname, readModifier_named hname', h]
    exact SameOutcome.refl _

theorem foldlM_same {path' rule' : String} {xs' : List String}
    {f' : Entries Value → String → Except (Stop RuleError) (Entries Value)}
    (hf : ∀ es x, f es x = readModifier path rule x >>= fun m => .ok (es.put (.text m.1) m.2))
    (hf' : ∀ es x, f' es x = readModifier path' rule' x >>= fun m => .ok (es.put (.text m.1) m.2))
    (h : List.Forall₂ (fun x x' => partsAt ':' x'.toList = partsAt ':' x.toList) xs xs') :
    SameOutcome (xs.foldlM f fields) (xs'.foldlM f' fields) := by
  induction h generalizing fields with
  | nil => exact .ok fields
  | @cons x x' xs xs' hx _ ih =>
    rw [List.foldlM_cons, List.foldlM_cons, hf, hf']
    have hsame : SameOutcome (readModifier path rule x) (readModifier path' rule' x') :=
      readModifier_same hx
    generalize readModifier path rule x = r at hsame
    generalize readModifier path' rule' x' = r' at hsame
    cases hsame with
    | ok m => exact ih
    | fault g => exact .fault g
    | rejected hkind => exact .rejected hkind

/-- Texts with the same type and modifiers with the same parts are read in the same way, wherever
they stand. -/
theorem parse_same {s' path' type : String} {xs' : List String}
    (hs : Shorthand.segments s = type :: xs)
    (hs' : Shorthand.segments s' = type :: xs')
    (hparts : List.Forall₂ (fun x x' => partsAt ':' x'.toList = partsAt ':' x.toList) xs xs') :
    SameOutcome (parse s path) (parse s' path') := by
  rw [parse, parse, hs, hs']
  dsimp only [List.headD_cons, List.tail_cons]
  by_cases hmalformed : type = "" ∨ type = "[]"
  · obtain ⟨d, hd, hkind⟩ : ∃ e, readType path s type = .error e ∧ e.kind = "MalformedRuleError" :=
      readType_malformed hmalformed
    obtain ⟨e, he, hkind'⟩ :
        ∃ e, readType path' s' type = .error e ∧ e.kind = "MalformedRuleError" :=
      readType_malformed hmalformed
    rw [hd, he]
    exact .rejected (hkind.trans hkind'.symm)
  · obtain ⟨fields, hfields⟩ := exists_fields type
    obtain ⟨hempty, hitem⟩ := not_or.mp hmalformed
    rw [readType_of_fields hempty hitem hfields, readType_of_fields hempty hitem hfields]
    exact foldlM_same (fun _ _ => rfl) (fun _ _ => rfl) hparts

/-- **The fields of a shorthand** are the same wherever it stands. -/
theorem parse_anywhere {es : Entries Value} {path' : String} (h : parse s path = .ok es) :
    parse s path' = .ok es := by
  cases hs : Shorthand.segments s with
  | nil => exact absurd (List.map_eq_nil_iff.mp hs) (splitOn_ne_nil _ _)
  | cons type xs =>
    have hsame : SameOutcome (parse s path) (parse s path') :=
      parse_same hs hs (List.forall₂_same.mpr fun _ _ => rfl)
    rw [h] at hsame
    generalize parse s path' = r at hsame
    cases hsame
    rfl

/-- **Blanks around bars and colons are not seen.** -/
theorem parse_padded {s' : String} (h : Padded s s') :
    SameOutcome (parse s path) (parse s' path) := by
  obtain ⟨type, a, b, pieces, pieces', hbars, hblank, hpieces, hs, hs'⟩ := h
  have htype' : '|' ∉ a ++ type ++ b :=
    (PaddedModifier.around hblank).barless (hbars type List.mem_cons_self)
  have hpieces' : ∀ p ∈ pieces', '|' ∉ p := by
    intro p' hp'
    obtain ⟨p, hp, hpadded⟩ := exists_of_mem_right hpieces hp'
    exact hpadded.barless (hbars p (List.mem_cons_of_mem type hp))
  have hbars' : ∀ p ∈ (a ++ type ++ b) :: pieces', '|' ∉ p :=
    List.forall_mem_cons.mpr ⟨htype', hpieces'⟩
  have htype : trimmed (a ++ type ++ b) = trimmed type :=
    trimmed_padded (fun c hc => hblank c (List.mem_append_left b hc))
      (fun c hc => hblank c (List.mem_append_right a hc))
  have hsplit : segments s = trimmed type :: pieces.map trimmed := by
    rw [segments, splitOn_eq_iff.mpr ⟨List.cons_ne_nil _ _, hbars, hs⟩, List.map_cons]
  have hsplit' : segments s' = trimmed type :: pieces'.map trimmed := by
    rw [segments, splitOn_eq_iff.mpr ⟨List.cons_ne_nil _ _, hbars', hs'⟩, List.map_cons, htype]
  have hparts : List.Forall₂ (fun x x' : String => partsAt ':' x'.toList = partsAt ':' x.toList)
      (pieces.map trimmed) (pieces'.map trimmed) := by
    rw [List.forall₂_map_left_iff, List.forall₂_map_right_iff]
    refine hpieces.imp fun p p' hp => ?_
    rw [partsAt_trimmed (by decide), partsAt_trimmed (by decide), hp.parts]
  exact parse_same hsplit hsplit' hparts

end

end

/-- A text that is not too long has no whole numbers that are. -/
theorem withinLimit_of_length {s : String} (h : s.length ≤ digitLimit) : WithinLimit s := by
  intro type rest hs segment hmem before after value ds i _ hcut htrims hvalue
  have hdigits : ds.length ≤ value.length := by
    cases hvalue with
    | plain hcs _ => exact hcs.length_eq.ge
    | minus hcs _ => exact Nat.le_succ_of_le hcs.length_eq.ge
  have hvalue : value.length ≤ after.length := by
    obtain ⟨p, q, rfl, -⟩ := htrims
    simp only [List.length_append]
    omega
  have hafter : after.length ≤ segment.length := by
    rw [← String.length_toList, hcut, List.length_append, List.length_cons]
    omega
  have hsegment : segment ∈ segments s := by
    rw [segmentsOf_iff.mp hs]
    exact List.mem_cons_of_mem type hmem
  have hlength := (isSegment hsegment).length_le
  omega

/-- **The parser accepts exactly its grammar.**  It rejects the texts without a type or with a
modifier that names no field, as malformed, and nothing stops it otherwise.  Every other text sets
the fields of its type and then, from left to right, those of its modifiers.  More blanks around the
bars and around the first colons of modifiers change nothing. -/
theorem parse_accepts_grammar {s : String} (path : String) (hs : WithinLimit s) :
    (∃ type rest, SegmentsOf s (type :: rest)) ∧
    (∀ stop, parse s path = .error stop → ∃ e, stop = .rejected e ∧ e.kind = "MalformedRuleError") ∧
    (∀ type rest, SegmentsOf s (type :: rest) →
      ((∃ stop, parse s path = .error stop) ↔ Malformed type rest) ∧
      ∀ es, parse s path = .ok es ↔ ¬ Malformed type rest ∧
        ∃ fields mods, TypeFields type fields ∧ List.Forall₂ Sets rest mods ∧
          es = setAll fields mods) ∧
    ∀ s', Padded s s' → SameOutcome (parse s path) (parse s' path) := by
  have hsplit : ∃ type rest, SegmentsOf s (type :: rest) := by
    cases h : segments s with
    | nil => exact absurd (List.map_eq_nil_iff.mp h) (splitOn_ne_nil _ _)
    | cons type rest => exact ⟨type, rest, segmentsOf_iff.mpr h⟩
  refine ⟨hsplit, fun stop hstop => ?_, fun type rest h => ?_, fun s' => parse_padded⟩
  · obtain ⟨type, rest, h⟩ := hsplit
    have hmalformed : Malformed type rest := (parse_stops_iff h (hs type rest h)).mp ⟨stop, hstop⟩
    obtain ⟨e, he, hkind⟩ : IsMalformed (parse s path) :=
      parse_malformed h (hs type rest h) hmalformed
    rw [hstop] at he
    exact ⟨e, Except.error.inj he, hkind⟩
  · have hfits := hs type rest h
    exact ⟨parse_stops_iff h hfits, fun es => parse_ok_iff h hfits⟩

theorem parse_accepts_grammar_array :
    WithinLimit "number[]|no-sparse|min:15|note:a:b|min:2" ∧
    SegmentsOf "number[]|no-sparse|min:15|note:a:b|min:2"
      ["number[]", "no-sparse", "min:15", "note:a:b", "min:2"] ∧
    (¬ Malformed "number[]" ["no-sparse", "min:15", "note:a:b", "min:2"] ∧
      ∃ fields mods, TypeFields "number[]" fields ∧
        List.Forall₂ Sets ["no-sparse", "min:15", "note:a:b", "min:2"] mods ∧
        [(.text "type", .text "array"), (.text "items", .text "number"),
          (.text "sparse", .bool false), (.text "min", .int 2), (.text "note", .text "a:b")]
          = setAll fields mods) ∧
    Padded "number[]|no-sparse|min:15|note:a:b|min:2"
      " number[] | no-sparse|min : 15|note:a:b|min:2 " ∧
    SameOutcome (parse "number[]|no-sparse|min:15|note:a:b|min:2" "$")
      (parse " number[] | no-sparse|min : 15|note:a:b|min:2 " "$") := by
  have hlimit : WithinLimit "number[]|no-sparse|min:15|note:a:b|min:2" :=
    withinLimit_of_length (by decide)
  have hsegments : SegmentsOf "number[]|no-sparse|min:15|note:a:b|min:2"
      ["number[]", "no-sparse", "min:15", "note:a:b", "min:2"] :=
    segmentsOf_iff.mpr (by decide)
  have hparse : parse "number[]|no-sparse|min:15|note:a:b|min:2" "$" =
      .ok [(.text "type", .text "array"), (.text "items", .text "number"),
        (.text "sparse", .bool false), (.text "min", .int 2), (.text "note", .text "a:b")] := by
    rw [parse, segmentsOf_iff.mp hsegments]
    rfl
  have hpadded : Padded "number[]|no-sparse|min:15|note:a:b|min:2"
      " number[] | no-sparse|min : 15|note:a:b|min:2 " := by
    have hstart : PaddedModifier "no-sparse".toList ([' '] ++ "no-sparse".toList ++ []) :=
      .around (List.all_eq_true.mp (by decide))
    have hmin : PaddedModifier ("min".toList ++ ':' :: "15".toList)
        (([] ++ "min".toList ++ [' ']) ++ ':' :: ([' '] ++ "15".toList ++ [])) :=
      .colon (by decide) (List.all_eq_true.mp (by decide))
    have hnote : PaddedModifier "note:a:b".toList ([] ++ "note:a:b".toList ++ []) :=
      .around (List.all_eq_true.mp (by decide))
    have hend : PaddedModifier "min:2".toList ([] ++ "min:2".toList ++ [' ']) :=
      .around (List.all_eq_true.mp (by decide))
    refine ⟨"number[]".toList, [' '], [' '], _, _, ?_, List.all_eq_true.mp (by decide),
      .cons hstart (.cons hmin (.cons hnote (.cons hend .nil))), ?_, ?_⟩
    · decide
    · decide
    · decide
  obtain ⟨-, -, hgrammar, hblanks⟩ := parse_accepts_grammar "$" hlimit
  exact ⟨hlimit, hsegments, ((hgrammar _ _ hsegments).2 _).mp hparse, hpadded, hblanks _ hpadded⟩

end RuleSchema.Shorthand
