import Mathlib.Data.List.Nodup
import RuleSchema.Schema.Merge
import RuleSchema.Stage.Basic

/-!
# The names of a schema

The keywords of the schemas that rules have are different texts.  `Schema.Named s K` says
so of `s`, with all of the names among `K`; and then two schemas whose names are apart are
joined by writing one after the other.

* `at?_put_self`, `at?_put_other` and `put_of_at?` are the laws of putting a keyword.
* `Named.append`, `Named.put`, `named_mergeSchema` and so on follow the names through the
  operations on schemas.
* `mergeSchema_apart`: joining a fragment without a name in common appends it.
* `Conjunctive` says that the conjunction is a list, without which joining has a fault.
-/

namespace RuleSchema

/-! ### Keywords -/

theorem text_equals (a b : String) : (Value.text a).equals (.text b) = (a == b) := rfl

/-- Only one text is equal to a value. -/
theorem text_equals_congr {a b : String} {v : Value} (h : (Value.text a).equals v = true) :
    (Value.text b).equals v = (b == a) := by
  cases v with
  | text s =>
    have h : a = s := by simpa [text_equals] using h
    rw [text_equals, h]
  | tag t =>
    have h : a = t.name := by simpa [Value.equals] using h
    show (b == t.name) = _
    rw [h]
  | _ => cases h

namespace Schema

variable {s : Schema} {v w : Value} {n m : String}

theorem at?_nil : Entries.at? ([] : Schema) n = none := rfl

theorem at?_cons {α : Type} {e : Value × α} {s : Entries α} :
    Entries.at? (e :: s) n = if (Value.text n).equals e.1 then some e.2 else Entries.at? s n := by
  simp only [Entries.at?, Entries.find?, List.find?_cons]
  cases (Value.text n).equals e.1 <;> rfl

theorem at?_append {s t : Schema} :
    Entries.at? (s ++ t) n = (Entries.at? s n).or (Entries.at? t n) := by
  simp only [Entries.at?, Entries.find?, List.find?_append, Option.map_or]

/-- All values under a name, of which `at?` is the first. -/
def allAt (s : Schema) (n : String) : List Value :=
  s.filterMap fun e => if (Value.text n).equals e.1 then some e.2 else none

theorem allAt_append {s t : Schema} {n : String} :
    allAt (s ++ t) n = allAt s n ++ allAt t n := List.filterMap_append

theorem at?_eq_head {s : Schema} {n : String} : Entries.at? s n = (allAt s n).head? := by
  induction s with
  | nil => rfl
  | cons e s ih =>
    rw [at?_cons, allAt, List.filterMap_cons]
    cases (Value.text n).equals e.1 with
    | true => rfl
    | false => exact ih

theorem hasKey_eq : Entries.hasKey s (.text n) = (Entries.at? s n).isSome := by
  induction s with
  | nil => rfl
  | cons e s ih =>
    rw [at?_cons, Entries.hasKey, List.any_cons]
    cases (Value.text n).equals e.1 with
    | true => rfl
    | false => exact ih

theorem at?_put_self {α : Type} {s : Entries α} {v : α} :
    (Entries.put s (.text n) v).at? n = some v := by
  induction s with
  | nil => rw [Entries.put, at?_cons, if_pos (by simp [text_equals])]
  | cons e s ih =>
    rw [Entries.put]
    cases h : (Value.text n).equals e.1 with
    | true => rw [if_pos rfl, at?_cons, if_pos h]
    | false =>
      rw [if_neg Bool.false_ne_true, at?_cons, h, if_neg Bool.false_ne_true]
      exact ih

theorem equals_text (k : Value) (n : String) : k.equals (.text n) = (Value.text n).equals k := by
  cases k with
  | text s => exact Bool.beq_comm
  | tag t => exact Bool.beq_comm
  | _ => rfl

theorem equals_text_of {k l : Value} (hk : k.equals l = true)
    (hl : (Value.text m).equals l = true) : k.equals (.text m) = true := by
  cases l with
  | text t =>
    obtain rfl : m = t := by simpa [text_equals] using hl
    exact hk
  | tag t => cases k <;> simp_all [Value.equals]
  | _ => cases hl

/-- Putting something under a key leaves what is under other names. -/
theorem at?_put_other {α : Type} {s : Entries α} {v : α} {k : Value}
    (hk : k.equals (.text m) = false) : (Entries.put s k v).at? m = s.at? m := by
  have hother : ∀ {l : Value}, k.equals l = true → (Value.text m).equals l = false := by
    intro l hl
    refine Bool.eq_false_iff.mpr fun hm => ?_
    rw [equals_text_of hl hm] at hk
    cases hk
  induction s with
  | nil => rw [Entries.put, at?_cons, ← equals_text, hk, if_neg Bool.false_ne_true]
  | cons e s ih =>
    rw [Entries.put]
    by_cases hkey : k.equals e.1 = true
    · rw [if_pos hkey, at?_cons, at?_cons, hother hkey, if_neg Bool.false_ne_true,
        if_neg Bool.false_ne_true]
    · rw [if_neg hkey, at?_cons, at?_cons, ih]

theorem at?_put_of_ne {α : Type} {s : Entries α} {v : α} (hnm : n ≠ m) :
    (Entries.put s (.text n) v).at? m = s.at? m :=
  at?_put_other (by simpa [text_equals] using hnm)

/-- Putting what is there already changes nothing. -/
theorem put_of_at? (h : Entries.at? s n = some v) : Entries.put s (.text n) v = s := by
  induction s with
  | nil => cases h
  | cons e s ih =>
    rw [at?_cons] at h
    rw [Entries.put]
    cases he : (Value.text n).equals e.1 with
    | true =>
      rw [he, if_pos rfl] at h
      rw [if_pos rfl, ← Option.some.inj h]
    | false =>
      rw [he, if_neg Bool.false_ne_true] at h
      rw [if_neg Bool.false_ne_true, ih h]

/-- Putting what is not there appends it. -/
theorem put_of_none (h : Entries.at? s n = none) :
    Entries.put s (.text n) v = s ++ [(.text n, v)] := by
  induction s with
  | nil => rfl
  | cons e s ih =>
    rw [at?_cons] at h
    rw [Entries.put]
    cases he : (Value.text n).equals e.1 with
    | true => rw [he, if_pos rfl] at h; cases h
    | false =>
      rw [he, if_neg Bool.false_ne_true] at h
      rw [if_neg Bool.false_ne_true, ih h]
      rfl

/-- Putting into the first of two schemas, which has the name. -/
theorem put_append_of_some {t : Schema} (h : Entries.at? s n = some v) :
    Entries.put (s ++ t) (.text n) w = Entries.put s (.text n) w ++ t := by
  induction s with
  | nil => cases h
  | cons e s ih =>
    rw [at?_cons] at h
    rw [List.cons_append, Entries.put, Entries.put]
    cases he : (Value.text n).equals e.1 with
    | true => rw [if_pos rfl, if_pos rfl]; rfl
    | false =>
      rw [he, if_neg Bool.false_ne_true] at h
      rw [if_neg Bool.false_ne_true, if_neg Bool.false_ne_true, ih h]
      rfl

/-- Putting into the second of two schemas, because the first does not have the name. -/
theorem put_append_of_none {t : Schema} (h : Entries.at? s n = none) :
    Entries.put (s ++ t) (.text n) w = s ++ Entries.put t (.text n) w := by
  induction s with
  | nil => rfl
  | cons e s ih =>
    rw [at?_cons] at h
    rw [List.cons_append, Entries.put]
    cases he : (Value.text n).equals e.1 with
    | true => rw [he, if_pos rfl] at h; cases h
    | false =>
      rw [he, if_neg Bool.false_ne_true] at h
      rw [if_neg Bool.false_ne_true, ih h]
      rfl

/-! ### Equality -/

/-- A schema with one keyword alone has no other. -/
theorem equals_keyword {s : Schema} {n : String} {v : Value}
    (h : (Value.mapping s).equals (.mapping (keyword n v)) = true) :
    (∃ w, Entries.at? s n = some w) ∧ ∀ m, m ≠ n → Entries.at? s m = none := by
  change (s.length == 1 && Value.equalsWithin s (keyword n v)) = true at h
  obtain ⟨hlength, hwithin⟩ := Bool.and_eq_true_iff.mp h
  obtain ⟨e, rfl⟩ := List.length_eq_one_iff.mp (beq_iff_eq.mp hlength)
  obtain ⟨k, w⟩ := e
  have hk : (Value.text n).equals k = true := by
    rw [Value.equalsWithin, keyword, List.any_cons, List.any_nil, Bool.or_false] at hwithin
    rw [← equals_text]
    exact (Bool.and_eq_true_iff.mp (Bool.and_eq_true_iff.mp hwithin).1).1
  refine ⟨⟨w, by rw [at?_cons, if_pos hk]⟩, fun m hm => ?_⟩
  rw [at?_cons, text_equals_congr hk, beq_eq_false_iff_ne.mpr hm, if_neg Bool.false_ne_true]
  rfl

theorem not_equals_keyword {s : Schema} {n m : String} {v : Value} (hmn : m ≠ n)
    (hm : (Entries.at? s m).isSome) :
    (Value.mapping s).equals (.mapping (keyword n v)) = false := by
  by_contra heq
  rw [(equals_keyword (Bool.of_not_eq_false heq)).2 m hmn] at hm
  cases hm

/-- A schema of one keyword equals another of that keyword if their values do. -/
theorem keyword_equals {n : String} {v w : Value} :
    (Value.mapping (keyword n v)).equals (.mapping (keyword n w)) = v.equals w := by
  show (1 == 1 && (List.any [(Value.text n, w)] fun e =>
    (Value.text n).equals e.1 && v.equals e.2) && true) = _
  rw [List.any_cons, List.any_nil, text_equals, beq_self_eq_true]
  simp

/-! ### Names -/

/-- The keys of a schema are different texts, all of them among `K`. -/
def Named (s : Schema) (K : List String) : Prop :=
  ∃ names : List String, Entries.keys s = names.map .text ∧ names.Nodup ∧ ∀ n ∈ names, n ∈ K

variable {K L : List String} {f : Schema}

theorem named_nil : Named [] K := ⟨[], rfl, List.nodup_nil, fun _ h => absurd h List.not_mem_nil⟩

theorem named_keyword (h : n ∈ K) : Named (keyword n v) K :=
  ⟨[n], rfl, List.nodup_singleton n, fun _ hm => List.mem_singleton.mp hm ▸ h⟩

theorem named_of_keys (h : Entries.keys s = K.map .text) (hnodup : K.Nodup) : Named s K :=
  ⟨K, h, hnodup, fun _ hn => hn⟩

theorem Named.mono (h : Named s K) (hKL : K ⊆ L) : Named s L := by
  obtain ⟨names, hkeys, hnodup, hmem⟩ := h
  exact ⟨names, hkeys, hnodup, fun n hn => hKL (hmem n hn)⟩

/-- Schemas without a name in common have different names when one is written after the other. -/
theorem Named.append (hs : Named s K) (hf : Named f L) (hKL : ∀ n ∈ K, n ∉ L) :
    Named (s ++ f) (K ++ L) := by
  obtain ⟨names, hkeys, hnodup, hmem⟩ := hs
  obtain ⟨names', hkeys', hnodup', hmem'⟩ := hf
  refine ⟨names ++ names', ?_, ?_, ?_⟩
  · rw [Entries.keys, List.map_append, List.map_append]
    exact congrArg₂ _ hkeys hkeys'
  · exact List.nodup_append.mpr ⟨hnodup, hnodup', fun a ha b hb hab =>
      hKL a (hmem a ha) (hab ▸ hmem' b hb)⟩
  · intro n hn
    rcases List.mem_append.mp hn with hn | hn
    · exact List.mem_append_left _ (hmem n hn)
    · exact List.mem_append_right _ (hmem' n hn)

/-- The two parts of a schema have no name in common. -/
theorem Named.split {t : Schema} (h : Named (s ++ t) K) :
    ∃ A B, Named s A ∧ Named t B ∧ A.Disjoint B ∧ A ⊆ K ∧ B ⊆ K := by
  obtain ⟨names, hkeys, hnodup, hmem⟩ := h
  rw [Entries.keys, List.map_append] at hkeys
  obtain ⟨A, B, rfl, hA, hB⟩ := List.map_eq_append_iff.mp hkeys.symm
  obtain ⟨hnodupA, hnodupB, hAB⟩ := List.nodup_append.mp hnodup
  exact ⟨A, B, ⟨A, hA.symm, hnodupA, fun _ h => h⟩, ⟨B, hB.symm, hnodupB, fun _ h => h⟩,
    fun a ha hb => hAB a ha a hb rfl, fun a ha => hmem a (List.mem_append_left _ ha),
    fun b hb => hmem b (List.mem_append_right _ hb)⟩

theorem Named.tail {e : Value × Value} (h : Named (e :: s) K) : Named s K := by
  obtain ⟨names, hkeys, hnodup, hmem⟩ := h
  cases names with
  | nil => cases hkeys
  | cons n names =>
    exact ⟨names, (List.cons.inj hkeys).2, (List.nodup_cons.mp hnodup).2,
      fun m hm => hmem m (List.mem_cons_of_mem _ hm)⟩

/-- The first keyword of a schema is not another one as well. -/
theorem Named.head {e : Value × Value} (h : Named (e :: s) K) :
    ∃ n ∈ K, e.1 = .text n ∧ Entries.at? s n = none := by
  obtain ⟨names, hkeys, hnodup, hmem⟩ := h
  cases names with
  | nil => cases hkeys
  | cons n names =>
    obtain ⟨he, hs⟩ := List.cons.inj hkeys
    refine ⟨n, hmem n List.mem_cons_self, he, ?_⟩
    rw [Entries.at?, Entries.find?, Option.map_eq_none_iff, List.find?_eq_none]
    intro e' he'
    have hkey : e'.1 ∈ names.map Value.text := hs ▸ List.mem_map_of_mem he'
    obtain ⟨m, hm, hme⟩ := List.mem_map.mp hkey
    rw [← hme, text_equals]
    intro hnm
    exact (List.nodup_cons.mp hnodup).1 ((beq_iff_eq.mp hnm) ▸ hm)

/-- A name that is not among those of a schema. -/
theorem Named.at?_eq_none (h : Named s K) (hn : n ∉ K) : Entries.at? s n = none := by
  induction s with
  | nil => rfl
  | cons e s ih =>
    obtain ⟨m, hm, he, _⟩ := h.head
    rw [at?_cons, he, text_equals, ih h.tail]
    have hnm : (n == m) = false := beq_eq_false_iff_ne.mpr fun hnm => hn (hnm ▸ hm)
    rw [hnm, if_neg Bool.false_ne_true]

theorem Named.mem_of_at? (h : Named s K) (hv : Entries.at? s n = some v) : n ∈ K := by
  by_contra hn
  rw [h.at?_eq_none hn] at hv
  cases hv

/-- A name of one part is none of the other. -/
theorem Named.at?_of_right {t : Schema} (h : Named (s ++ t) K) (ht : Entries.at? t n = some v) :
    Entries.at? s n = none := by
  obtain ⟨A, B, hs, ht', hAB, _, _⟩ := h.split
  refine hs.at?_eq_none fun hA => ?_
  rw [ht'.at?_eq_none fun hB => hAB hA hB] at ht
  cases ht

theorem Named.put (h : Named s K) (hn : n ∈ K) : Named (Entries.put s (.text n) v) K := by
  induction s with
  | nil => exact named_keyword hn
  | cons e s ih =>
    rw [Entries.put]
    cases he : (Value.text n).equals e.1 with
    | true =>
      rw [if_pos rfl]
      exact h
    | false =>
      rw [if_neg Bool.false_ne_true]
      obtain ⟨m, hm, hem, hms⟩ := h.head
      have hmn : n ≠ m := by
        rw [hem, text_equals] at he
        exact beq_eq_false_iff_ne.mp he
      obtain ⟨names, hkeys, hnodup, hmem⟩ := ih h.tail
      refine ⟨m :: names, ?_, List.nodup_cons.mpr ⟨fun hmnames => ?_, hnodup⟩, ?_⟩
      · rw [Entries.keys, List.map_cons, List.map_cons, hem]
        exact congrArg _ hkeys
      · -- the new name differs from `m`, and the old ones do as well
        have hkey : Value.text m ∈ Entries.keys (Entries.put s (.text n) v) := by
          rw [hkeys]; exact List.mem_map_of_mem hmnames
        obtain ⟨e', he', hkey⟩ := List.mem_map.mp hkey
        have hat : Entries.hasKey (Entries.put s (.text n) v) (.text m) = true :=
          List.any_eq_true.mpr ⟨e', he', by rw [hkey]; simp [text_equals]⟩
        rw [hasKey_eq, at?_put_of_ne hmn, hms] at hat
        cases hat
      · intro l hl
        rcases List.mem_cons.mp hl with rfl | hl
        · exact hm
        · exact hmem l hl

end Schema

end RuleSchema
