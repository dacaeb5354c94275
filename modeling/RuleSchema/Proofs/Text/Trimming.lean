import Mathlib.Data.List.TakeWhile
import RuleSchema.Proofs.Rule.Shorthand

/-!
# Cutting and trimming

A text is cut at a separator into the pieces that have no separator inside and are joined by it, and
trimming leaves of each piece the only part without blank ends that is the piece but for blanks
around it.  So blanks that are put around a piece, or around the place where it is cut once more,
are not seen after trimming.

* `splitOn_eq_iff`: **the pieces of a text**.
* `Trims` relates a text and the part without its blank ends; `trimmed_eq_iff` says that trimming
  leaves this part.
* `cutAt_eq_iff`: **the two parts of a text** around the first separator.
* `partsAt_trimmed`: **a text that is trimmed and then cut** has the parts of the text.
-/

namespace RuleSchema

open Text Shorthand

section

variable {c sep : Char} {s t before after p q : List Char}

/-! ### Pieces -/

theorem splitOn_eq (sep : Char) (s : List Char) : Text.splitOn sep s = s.splitOn sep := by
  induction s with
  | nil => rfl
  | cons c s ih =>
    rw [Text.splitOn, List.splitOn_cons_eq_if_modifyHead, ih]
    by_cases hc : c = sep
    · rw [if_pos hc, if_pos (beq_iff_eq.mpr hc)]
    · rw [if_neg hc, if_neg (by simpa using hc)]
      cases hs : s.splitOn sep with
      | nil => exact absurd hs (List.splitOn_ne_nil sep s)
      | cons p ps => rfl

/-- **The pieces of a text** have no separators and are joined by them. -/
theorem splitOn_eq_iff {pieces : List (List Char)} : Text.splitOn sep s = pieces ↔
    pieces ≠ [] ∧ (∀ p ∈ pieces, sep ∉ p) ∧ [sep].intercalate pieces = s := by
  constructor
  · rintro rfl
    refine ⟨splitOn_ne_nil sep s, fun p hp => (splitOn_pieces p hp).1, ?_⟩
    rw [splitOn_eq]
    exact List.intercalate_splitOn sep
  · rintro ⟨hne, hpieces, rfl⟩
    rw [splitOn_eq]
    exact List.splitOn_intercalate sep hpieces hne

/-- **The two parts of a text** around the first separator. -/
theorem cutAt_eq_iff : Text.cutAt sep s = (before, some after) ↔
    sep ∉ before ∧ s = before ++ sep :: after := by
  induction s generalizing before with
  | nil => simp [Text.cutAt]
  | cons c s ih =>
    rw [Text.cutAt]
    by_cases hc : c = sep
    · rw [if_pos hc]
      constructor
      · rintro ⟨⟩
        exact ⟨List.not_mem_nil, by rw [hc]; rfl⟩
      · rintro ⟨hbefore, hs⟩
        cases before with
        | nil => rw [(List.cons.inj hs).2]
        | cons d before =>
          obtain ⟨rfl, -⟩ := List.cons.inj hs
          exact absurd hc (List.ne_of_not_mem_cons hbefore).symm
    · rw [if_neg hc]
      cases before with
      | nil =>
        refine iff_of_false ?_ fun h => hc (List.cons.inj h.2).1
        simp
      | cons d before =>
        have hcut : Text.cutAt sep s = (before, some after) ↔
            sep ∉ before ∧ s = before ++ sep :: after := ih
        cases hs : Text.cutAt sep s with
        | mk b rest =>
          rw [hs, Prod.mk.injEq] at hcut
          dsimp only
          rw [Prod.mk.injEq, List.cons.injEq, and_assoc, hcut, List.mem_cons, not_or,
            List.cons_append, List.cons.injEq]
          constructor
          · rintro ⟨rfl, hbefore, hs⟩
            exact ⟨⟨Ne.symm hc, hbefore⟩, rfl, hs⟩
          · rintro ⟨⟨-, hbefore⟩, rfl, hs⟩
            exact ⟨rfl, hbefore, hs⟩

theorem cutAt_of_not_mem (h : sep ∉ s) : Text.cutAt sep s = (s, none) := by
  induction s with
  | nil => rfl
  | cons c s ih =>
    rw [Text.cutAt, if_neg (List.ne_of_not_mem_cons h).symm, ih (List.not_mem_of_not_mem_cons h)]

/-! ### Blank ends -/

/-- The second text is the first one without its blank ends. -/
def Trims (s t : List Char) : Prop :=
  ∃ before after, s = before ++ t ++ after ∧ (∀ c ∈ before, isBlank c = true) ∧
    (∀ c ∈ after, isBlank c = true) ∧ InkFirst t ∧ InkFirst t.reverse

/-- Trimming leaves the part without the blank ends. -/
theorem trims_trimmed (s : List Char) : Trims s (trimmed s).toList := by
  obtain ⟨u, hu⟩ : ∃ u, s.dropWhile isBlank = u := ⟨_, rfl⟩
  have htrimmed : (trimmed s).toList = (u.reverse.dropWhile isBlank).reverse := by
    rw [trimmed, trim, trimEnd_toList, trimStart_toList, String.toList_ofList, hu]
  have hwhole : u = (trimmed s).toList ++ (u.reverse.takeWhile isBlank).reverse := by
    rw [htrimmed, ← List.reverse_append, List.takeWhile_append_dropWhile, List.reverse_reverse]
  refine ⟨s.takeWhile isBlank, (u.reverse.takeWhile isBlank).reverse, ?_, ?_, ?_, ?_, ?_⟩
  · rw [List.append_assoc, ← hwhole, ← hu, List.takeWhile_append_dropWhile]
  · exact fun c hc => List.mem_takeWhile_imp hc
  · exact fun c hc => List.mem_takeWhile_imp (List.mem_reverse.mp hc)
  · exact trimStart_eq_iff.mp (trimStart_trimEnd (trimStart_trimStart _))
  · exact trimEnd_eq_iff.mp (trimEnd_trimEnd _)

/-- No other part is without blank ends. -/
theorem trimmed_of_trims (h : Trims s t) : (trimmed s).toList = t := by
  obtain ⟨before, after, rfl, hbefore, hafter, hfirst, hlast⟩ := h
  rw [trimmed, trim, trimEnd_toList, trimStart_toList, String.toList_ofList, List.append_assoc,
    List.dropWhile_append_of_pos hbefore]
  cases t with
  | nil =>
    rw [List.nil_append, List.dropWhile_eq_nil_iff.mpr hafter]
    rfl
  | cons c t =>
    have hself : (c :: t ++ after).dropWhile isBlank = c :: t ++ after :=
      dropWhile_eq_iff.mpr hfirst
    rw [hself, List.reverse_append,
      List.dropWhile_append_of_pos fun d hd => hafter d (List.mem_reverse.mp hd),
      dropWhile_eq_iff.mpr hlast, List.reverse_reverse]

theorem trimmed_eq_iff {x : String} : trimmed s = x ↔ Trims s x.toList := by
  rw [← String.toList_inj]
  constructor
  · intro h
    exact h ▸ trims_trimmed s
  · exact trimmed_of_trims

/-- **Blanks around a text are not seen** after trimming. -/
theorem trimmed_padded (hp : ∀ c ∈ p, isBlank c = true) (hq : ∀ c ∈ q, isBlank c = true) :
    trimmed (p ++ s ++ q) = trimmed s := by
  obtain ⟨before, after, hs, hbefore, hafter, hink⟩ := trims_trimmed s
  apply trimmed_eq_iff.mpr
  refine ⟨p ++ before, after ++ q, ?_, ?_, ?_, hink⟩
  · nth_rewrite 1 [hs]
    simp only [List.append_assoc]
  · intro c hc
    exact (List.mem_append.mp hc).elim (hp c) (hbefore c)
  · intro c hc
    exact (List.mem_append.mp hc).elim (hafter c) (hq c)

theorem trimmed_trimmed (s : List Char) : trimmed (trimmed s).toList = trimmed s := by
  obtain ⟨-, -, -, -, -, hink⟩ := trims_trimmed s
  exact trimmed_eq_iff.mpr ⟨[], [], by simp, by simp, by simp, hink⟩

/-! ### The parts around a separator -/

/-- The parts of a text around the first separator, without their blank ends. -/
def partsAt (sep : Char) (s : List Char) : String × Option String :=
  (trimmed (Text.cutAt sep s).1, (Text.cutAt sep s).2.map trimmed)

theorem partsAt_of_not_mem (h : sep ∉ s) : partsAt sep s = (trimmed s, none) := by
  rw [partsAt, cutAt_of_not_mem h]
  rfl

theorem partsAt_append (h : sep ∉ before) :
    partsAt sep (before ++ sep :: after) = (trimmed before, some (trimmed after)) := by
  rw [partsAt, cutAt_eq_iff.mpr ⟨h, rfl⟩]
  rfl

/-- **Trimming a text does not change its parts.** -/
theorem partsAt_trimmed (hsep : isBlank sep = false) (s : List Char) :
    partsAt sep (trimmed s).toList = partsAt sep s := by
  obtain ⟨p, q, hs, hp, hq, -⟩ := trims_trimmed s
  have hnot : ∀ {r : List Char}, (∀ c ∈ r, isBlank c = true) → sep ∉ r := by
    intro r hr hmem
    rw [hr sep hmem] at hsep
    cases hsep
  by_cases hmem : sep ∈ (trimmed s).toList
  · obtain ⟨before, after, ht, hbefore⟩ := List.eq_append_cons_of_mem hmem
    have hwhole : s = (p ++ before) ++ sep :: (after ++ q) := by
      rw [hs, ht]
      simp only [List.append_assoc, List.cons_append]
    have hbefore' : sep ∉ p ++ before := by simp [hbefore, hnot hp]
    have hleft : trimmed (p ++ before ++ []) = trimmed before := trimmed_padded hp (by simp)
    have hright : trimmed ([] ++ after ++ q) = trimmed after := trimmed_padded (by simp) hq
    rw [List.append_nil] at hleft
    rw [List.nil_append] at hright
    rw [ht, partsAt_append hbefore, ← hleft, ← hright, ← partsAt_append hbefore', ← hwhole]
  · have hnone : sep ∉ s := by
      rw [hs]
      simp [hmem, hnot hp, hnot hq]
    rw [partsAt_of_not_mem hmem, partsAt_of_not_mem hnone, trimmed_trimmed]

end

end RuleSchema
