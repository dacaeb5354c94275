import Mathlib.Data.List.Forall2
import RuleSchema.Proofs.Number.Numerals

/-!
# The grammar of numerals

An unsigned numeral has digits before a point, after it, or both, or digits without a point, and may
end with an exponent: a mark, maybe a sign, and digits.

* `Numeral.Spells` says that some characters are digits with some values.
* `Numeral.IsExponent` and `Numeral.IsUnsigned` are the grammar.
* `takeDigits_iff`, `exponentOf?_iff`, `ofUnsigned?_iff`: **the reader accepts the grammar, and
  nothing else.**
* `isDecimal_iff`, `isInteger_iff`: the same with a minus sign in front, for all numerals and for
  those with nothing but digits.
-/

namespace RuleSchema.Numeral

open Text (digitValue?)

/-- Digits and their values. -/
def Spells (cs : List Char) (ds : List Nat) : Prop :=
  List.Forall₂ (fun c d => digitValue? c = some d) cs ds

/-- The exponent of a numeral: nothing, or a mark, maybe a sign, and digits. -/
inductive IsExponent : List Char → Int → Prop
  | absent : IsExponent [] 0
  | plain {e : Char} {cs : List Char} {ds : List Nat} : e = 'e' ∨ e = 'E' → Spells cs ds →
      ds ≠ [] → IsExponent (e :: cs) (digitsValue ds)
  | plus {e : Char} {cs : List Char} {ds : List Nat} : e = 'e' ∨ e = 'E' → Spells cs ds →
      ds ≠ [] → IsExponent (e :: '+' :: cs) (digitsValue ds)
  | minus {e : Char} {cs : List Char} {ds : List Nat} : e = 'e' ∨ e = 'E' → Spells cs ds →
      ds ≠ [] → IsExponent (e :: '-' :: cs) (-(digitsValue ds : Int))

/-- A numeral without a sign. -/
inductive IsUnsigned (negative : Bool) : List Char → Numeral → Prop
  | whole {cs s : List Char} {ds : List Nat} {e : Int} : Spells cs ds → ds ≠ [] →
      IsExponent s e → IsUnsigned negative (cs ++ s) ⟨negative, ds, [], e⟩
  | point {cs fs s : List Char} {ds gs : List Nat} {e : Int} : Spells cs ds → Spells fs gs →
      ds ≠ [] ∨ gs ≠ [] → IsExponent s e →
      IsUnsigned negative (cs ++ '.' :: (fs ++ s)) ⟨negative, ds, gs, e⟩

/-- A numeral, maybe after a minus sign. -/
inductive IsDecimal : List Char → Numeral → Prop
  | plain {s : List Char} {n : Numeral} : IsUnsigned false s n → IsDecimal s n
  | minus {s : List Char} {n : Numeral} : IsUnsigned true s n → IsDecimal ('-' :: s) n

/-- A numeral that is nothing but digits, maybe after a minus sign: its digits, and its value. -/
inductive IsInteger : List Char → List Nat → Int → Prop
  | plain {cs : List Char} {ds : List Nat} : Spells cs ds → ds ≠ [] →
      IsInteger cs ds (digitsValue ds)
  | minus {cs : List Char} {ds : List Nat} : Spells cs ds → ds ≠ [] →
      IsInteger ('-' :: cs) ds (-(digitsValue ds : Int))

/-- A minus sign at the start of a text, and the rest. -/
def takeMinus : List Char → Bool × List Char
  | '-' :: s => (true, s)
  | s => (false, s)

section

variable {c : Char} {cs rest s : List Char} {ds : List Nat} {e : Int} {n : Numeral}
  {negative : Bool}

/-! ### Digits -/

theorem takeDigits_append (hcs : Spells cs ds) (hrest : ∀ c ∈ rest.head?, digitValue? c = none) :
    takeDigits digitValue? (cs ++ rest) = (ds, rest) := by
  induction hcs with
  | nil =>
    cases rest with
    | nil => rfl
    | cons c rest => rw [List.nil_append, takeDigits, hrest c rfl]
  | cons hc _ ih =>
    rw [List.cons_append, takeDigits, hc, ih]

/-- **All digits at the start of a text** are taken. -/
theorem takeDigits_iff : takeDigits digitValue? s = (ds, rest) ↔
    ∃ cs, s = cs ++ rest ∧ Spells cs ds ∧ ∀ c ∈ rest.head?, digitValue? c = none := by
  constructor
  · intro h
    induction s generalizing ds with
    | nil =>
      cases h
      exact ⟨[], rfl, .nil, nofun⟩
    | cons c s ih =>
      rw [takeDigits] at h
      split at h
      · next d hd =>
        cases hs : takeDigits digitValue? s with
        | mk ds' rest' =>
          rw [hs] at h
          cases h
          obtain ⟨cs, rfl, hcs, hrest⟩ := ih hs
          exact ⟨c :: cs, rfl, .cons hd hcs, hrest⟩
      · next hnone =>
        cases h
        refine ⟨[], rfl, .nil, ?_⟩
        rintro d ⟨⟩
        exact hnone
  · rintro ⟨cs, rfl, hcs, hrest⟩
    exact takeDigits_append hcs hrest

theorem takeDigits_spells (hcs : Spells cs ds) : takeDigits digitValue? cs = (ds, []) := by
  have h : takeDigits digitValue? (cs ++ []) = (ds, []) := takeDigits_append hcs nofun
  rwa [List.append_nil] at h

theorem takeSign_spells (hcs : Spells cs ds) : takeSign cs = (false, cs) := by
  cases hcs with
  | nil => rfl
  | @cons c d cs ds hc _ =>
    rw [takeSign]
    · rintro s ⟨⟩
      cases hc
    · rintro s ⟨⟩
      cases hc

/-! ### Exponents -/

/-- After its mark and its sign an exponent is nothing but digits. -/
theorem exponentOf?_cons (hc : c = 'e' ∨ c = 'E') : exponentOf? digitValue? (c :: s) = some e ↔
    ∃ ds, Spells (takeSign s).2 ds ∧ ds ≠ [] ∧
      e = if (takeSign s).1 then -(digitsValue ds : Int) else digitsValue ds := by
  have hmark : (decide (c = 'e') || decide (c = 'E')) = true := by simpa using hc
  rw [exponentOf?, if_pos hmark]
  generalize takeSign s = signed
  obtain ⟨negative, s⟩ := signed
  dsimp only
  constructor
  · intro h
    split at h
    · cases h
    · next ds hne hds =>
      obtain ⟨cs, hs, hcs, -⟩ := takeDigits_iff.mp hds
      rw [List.append_nil] at hs
      refine ⟨ds, hs ▸ hcs, ?_, (Option.some.inj h).symm⟩
      rintro rfl
      exact hne rfl
    · cases h
  · rintro ⟨ds, hs, hne, rfl⟩
    rw [takeDigits_spells hs]
    cases ds with
    | nil => exact absurd rfl hne
    | cons d ds => rfl

/-- **The reader of exponents** accepts those of the grammar, and nothing else. -/
theorem exponentOf?_iff : exponentOf? digitValue? s = some e ↔ IsExponent s e := by
  constructor
  · intro h
    cases s with
    | nil =>
      cases h
      exact .absent
    | cons c s =>
      have hc : c = 'e' ∨ c = 'E' := by
        by_contra hc
        rw [exponentOf?, if_neg (by simpa using hc)] at h
        cases h
      obtain ⟨ds, hs, hne, rfl⟩ := (exponentOf?_cons hc).mp h
      unfold takeSign at hs ⊢
      split at hs
      · exact .minus hc hs hne
      · exact .plus hc hs hne
      · exact .plain hc hs hne
  · intro h
    cases h with
    | absent => rfl
    | plain hc hs hne =>
      refine (exponentOf?_cons hc).mpr ⟨_, ?_, hne, ?_⟩
      · rwa [takeSign_spells hs]
      · rw [takeSign_spells hs]
        rfl
    | plus hc hs hne => exact (exponentOf?_cons hc).mpr ⟨_, hs, hne, rfl⟩
    | minus hc hs hne => exact (exponentOf?_cons hc).mpr ⟨_, hs, hne, rfl⟩

/-- No exponent starts with a digit or a point. -/
theorem IsExponent.head (h : IsExponent s e) :
    (∀ c ∈ s.head?, digitValue? c = none) ∧ ∀ t, s ≠ '.' :: t := by
  have hmark : ∀ {c : Char} {t : List Char}, c = 'e' ∨ c = 'E' →
      (∀ d ∈ (c :: t).head?, digitValue? d = none) ∧ ∀ t', c :: t ≠ '.' :: t' := by
    rintro c t (rfl | rfl)
    · exact ⟨by rintro d ⟨⟩; rfl, nofun⟩
    · exact ⟨by rintro d ⟨⟩; rfl, nofun⟩
  cases h with
  | absent => exact ⟨nofun, nofun⟩
  | plain hc => exact hmark hc
  | plus hc => exact hmark hc
  | minus hc => exact hmark hc

/-! ### Numerals -/

/-- What the reader of numerals accepts is one. -/
theorem isUnsigned_of_ofUnsigned? (h : ofUnsigned? digitValue? negative s = some n) :
    IsUnsigned negative s n := by
  unfold ofUnsigned? at h
  cases hs : takeDigits digitValue? s with
  | mk ds rest =>
    obtain ⟨cs, rfl, hcs, -⟩ := takeDigits_iff.mp hs
    rw [hs] at h
    dsimp only at h
    split at h
    · next rest' =>
      cases hrest : takeDigits digitValue? rest' with
      | mk gs rest'' =>
        obtain ⟨fs, rfl, hfs, -⟩ := takeDigits_iff.mp hrest
        rw [hrest] at h
        dsimp only at h
        split at h
        · cases h
        · next hne =>
          obtain ⟨e, he, rfl⟩ := Option.map_eq_some_iff.mp h
          refine .point hcs hfs ?_ (exponentOf?_iff.mp he)
          by_contra hempty
          rw [not_or, not_not, not_not] at hempty
          exact hne (by rw [hempty.1, hempty.2]; rfl)
    · split at h
      · cases h
      · next hne =>
        obtain ⟨e, he, rfl⟩ := Option.map_eq_some_iff.mp h
        refine .whole hcs ?_ (exponentOf?_iff.mp he)
        rintro rfl
        exact hne rfl

/-- A numeral is accepted: its digits are all that is taken at each place. -/
theorem ofUnsigned?_of_isUnsigned (h : IsUnsigned negative s n) :
    ofUnsigned? digitValue? negative s = some n := by
  unfold ofUnsigned?
  cases h with
  | whole hcs hne he =>
    obtain ⟨hhead, hpoint⟩ := he.head
    rw [takeDigits_append hcs hhead]
    dsimp only
    split
    · exact absurd rfl (hpoint _)
    · rw [exponentOf?_iff.mpr he, if_neg (by simpa using hne)]
      rfl
  | point hcs hfs hne he =>
    have hfraction := takeDigits_append hfs he.head.1
    rw [takeDigits_append hcs (by rintro d ⟨⟩; rfl)]
    simp only [hfraction]
    rw [exponentOf?_iff.mpr he, if_neg (by simpa [← not_and_or] using hne)]
    rfl

/-- **The reader of numerals** accepts those of the grammar, and nothing else. -/
theorem ofUnsigned?_iff :
    ofUnsigned? digitValue? negative s = some n ↔ IsUnsigned negative s n :=
  ⟨isUnsigned_of_ofUnsigned?, ofUnsigned?_of_isUnsigned⟩

/-! ### Minus signs -/

theorem takeMinus_of_ne (h : ∀ t, s ≠ '-' :: t) : takeMinus s = (false, s) := by
  unfold takeMinus
  split
  · exact absurd rfl (h _)
  · rfl

/-- A text starts with a minus sign, or all of it is taken. -/
theorem takeMinus_cases (s : List Char) :
    (∃ t, s = '-' :: t ∧ takeMinus s = (true, t)) ∨ (takeMinus s = (false, s)) := by
  unfold takeMinus
  split
  · exact .inl ⟨_, rfl, rfl⟩
  · exact .inr rfl

theorem Spells.ne_minus (hcs : Spells cs ds) (t : List Char) : cs ≠ '-' :: t := by
  rintro rfl
  cases hcs with
  | cons hc => cases hc

theorem IsUnsigned.ne_minus (h : IsUnsigned negative s n) (t : List Char) : s ≠ '-' :: t := by
  rintro rfl
  have hn : ofUnsigned? digitValue? negative ('-' :: t) = none := rfl
  rw [ofUnsigned?_iff.mpr h] at hn
  cases hn

/-- **The reader of numerals after a minus sign** accepts the grammar, and nothing else. -/
theorem isDecimal_iff :
    IsDecimal s n ↔ ofUnsigned? digitValue? (takeMinus s).1 (takeMinus s).2 = some n := by
  rw [ofUnsigned?_iff]
  constructor
  · intro h
    cases h with
    | plain h =>
      rw [takeMinus_of_ne h.ne_minus]
      exact h
    | minus h => exact h
  · intro h
    rcases takeMinus_cases s with ⟨t, rfl, hs⟩ | hs
    · rw [hs] at h
      exact .minus h
    · rw [hs] at h
      exact .plain h

/-- **Nothing but digits** after a minus sign. -/
theorem isInteger_iff {i : Int} : IsInteger s ds i ↔
    takeDigits digitValue? (takeMinus s).2 = (ds, []) ∧ ds ≠ [] ∧
      i = if (takeMinus s).1 then -(digitsValue ds : Int) else digitsValue ds := by
  constructor
  · intro h
    cases h with
    | plain hcs hne =>
      rw [takeMinus_of_ne hcs.ne_minus]
      exact ⟨takeDigits_spells hcs, hne, rfl⟩
    | minus hcs hne => exact ⟨takeDigits_spells hcs, hne, rfl⟩
  · rintro ⟨hdigits, hne, rfl⟩
    obtain ⟨cs, hcs, hspells, -⟩ := takeDigits_iff.mp hdigits
    rw [List.append_nil] at hcs
    subst hcs
    rcases takeMinus_cases s with ⟨t, rfl, hs⟩ | hs
    · rw [hs] at hspells ⊢
      exact .minus hspells hne
    · rw [hs] at hspells ⊢
      exact .plain hspells hne

end

end RuleSchema.Numeral
