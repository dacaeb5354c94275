import RuleSchema.Proofs.Compile.Stages
import RuleSchema.Proofs.Schema.Joining
import RuleSchema.Proofs.Value.Equality

/-!
# Merging is conjunction

A keyword that a schema has already with another value is put into its conjunction, which is a
keyword itself and may clash as well.  Whatever the keywords mean, as long as a schema holds of an
instance when all its keywords do, and a conjunction when all its schemas do, a schema into which
fragments are merged holds of the instances of which it has held and all the fragments hold.

* `KeywordMeaning` are these meanings; `KeywordMeaning.ofKeywords` makes one of what the keywords
  other than the conjunction ask.
* `Value.IsSchema`: the schemas that stand in a conjunction, at any depth, have different names.
* `KeywordMeaning.holds_equal`: equal schemas hold of the same instances.
* `mergeKeyword_holds`: **merging a keyword** adds what it asks; `mergeSchema_holds` says so of a
  fragment and `foldlM_mergeSchema_holds` of many.
* `foldlM_mergeSchema_conjunctive`: merging succeeds where the conjunctions are lists.
* `joinFragments_merged`: the joint schema of a validator is merged of the fragments of its stages.
* `merging_is_conjunction`: **merging fragments** is conjunction, in any order.
-/

namespace RuleSchema

open Schema

/-! ### Meanings -/

/-- A meaning of schemas: which instances a value that stands for a schema holds of, and what a
keyword asks of an instance. -/
structure KeywordMeaning (ι : Type) where
  holds : Value → ι → Prop
  asks : String → Value → ι → Prop
  /-- A schema holds when each of its keywords does. -/
  holds_mapping {s : Schema} {i : ι} :
    holds (.mapping s) i ↔ ∀ n v, (Value.text n, v) ∈ s → asks n v i
  /-- A conjunction holds when every listed schema does. -/
  asks_allOf {xs : List Value} {i : ι} : asks "allOf" (.list xs) i ↔ ∀ x ∈ xs, holds x i
  /-- What any other keyword asks depends on its own value up to equality. -/
  asks_congr {n : String} {v w : Value} {i : ι} : v.equals w = true →
    (n = "allOf" → ∀ xs, v ≠ .list xs) → (asks n v i ↔ asks n w i)
  /-- So does what is asked by a value without keywords. -/
  holds_congr {v w : Value} {i : ι} : v.equals w = true → (∀ s, v ≠ .mapping s) →
    (holds v i ↔ holds w i)

section

variable {ι : Type}

mutual

/-- Whether a value holds of an instance, if the keywords other than the conjunction ask what `own`
says and a value without keywords asks nothing. -/
def Value.heldBy (own : String → Value → ι → Prop) (i : ι) : Value → Prop
  | .mapping es => keywordsHeld own i es
  | _ => True
termination_by structural v => v

/-- Whether some keywords hold of an instance. -/
def Value.keywordsHeld (own : String → Value → ι → Prop) (i : ι) : List (Value × Value) → Prop
  | [] => True
  | (k, v) :: es => keywordHeld own i k v ∧ keywordsHeld own i es
termination_by structural es => es

/-- Whether a keyword holds of an instance. -/
def Value.keywordHeld (own : String → Value → ι → Prop) (i : ι) : Value → Value → Prop
  | .text n, .list xs => if n = "allOf" then schemasHeld own i xs else own n (.list xs) i
  | .text n, v => own n v i
  | _, _ => True
termination_by structural _ v => v

/-- Whether the schemas of a conjunction hold of an instance. -/
def Value.schemasHeld (own : String → Value → ι → Prop) (i : ι) : List Value → Prop
  | [] => True
  | x :: xs => heldBy own i x ∧ schemasHeld own i xs
termination_by structural xs => xs

end

variable {own : String → Value → ι → Prop} {i : ι} {n : String} {v w : Value}

theorem keywordsHeld_iff {s : Schema} :
    Value.keywordsHeld own i s ↔ ∀ e ∈ s, Value.keywordHeld own i e.1 e.2 := by
  induction s with
  | nil => simp [Value.keywordsHeld]
  | cons e s ih => rw [Value.keywordsHeld, List.forall_mem_cons, ih]

theorem schemasHeld_iff {xs : List Value} :
    Value.schemasHeld own i xs ↔ ∀ x ∈ xs, Value.heldBy own i x := by
  induction xs with
  | nil => simp [Value.schemasHeld]
  | cons x xs ih => rw [Value.schemasHeld, List.forall_mem_cons, ih]

/-- A keyword that is no conjunction asks what `own` says. -/
theorem keywordHeld_own (h : n = "allOf" → ∀ xs, v ≠ .list xs) :
    Value.keywordHeld own i (.text n) v ↔ own n v i := by
  cases v with
  | list xs => rw [Value.keywordHeld, if_neg fun hn => h hn xs rfl]
  | _ => rfl

/-- **The meaning of some keywords**: what the others than the conjunction ask determines it. -/
def KeywordMeaning.ofKeywords (own : String → Value → ι → Prop)
    (hown : ∀ {n v w i}, v.equals w = true → (own n v i ↔ own n w i)) : KeywordMeaning ι where
  holds v i := v.heldBy own i
  asks n v i := Value.keywordHeld own i (.text n) v
  holds_mapping {s i} := by
    rw [Value.heldBy, keywordsHeld_iff]
    constructor
    · exact fun h n v hmem => h _ hmem
    · rintro h ⟨k, v⟩ he
      cases k with
      | text n => exact h n v he
      | _ => cases v <;> trivial
  asks_allOf {xs i} := by rw [Value.keywordHeld, if_pos rfl, schemasHeld_iff]
  asks_congr {n v w i} h hv := by
    have hw : n = "allOf" → ∀ xs, w ≠ .list xs := by
      rintro hn xs rfl
      cases v with
      | list ys => exact hv hn ys rfl
      | _ => cases h
    rw [keywordHeld_own hv, keywordHeld_own hw]
    exact hown h
  holds_congr {v w i} h hv := by
    have hw : ∀ s, w ≠ .mapping s := by
      rintro s rfl
      cases v with
      | mapping t => exact hv t rfl
      | _ => cases h
    have hnothing : ∀ {x : Value}, (∀ s, x ≠ .mapping s) → Value.heldBy own i x := by
      intro x hx
      cases x with
      | mapping s => exact absurd rfl (hx s)
      | _ => trivial
    exact iff_of_true (hnothing hv) (hnothing hw)

end

/-- The names of a schema are different, and so are those of the schemas in its conjunction, at any
depth. -/
inductive Value.IsSchema : Value → Prop
  | mapping {s : Schema} : s.IsKeyed →
      (∀ {xs x}, Entries.at? s "allOf" = some (.list xs) → x ∈ xs → IsSchema x) →
      IsSchema (.mapping s)
  | other {v : Value} : (∀ s, v ≠ .mapping s) → IsSchema v

/-- What stands in a keyword, if it is a conjunction, are schemas. -/
def HasSchemas (n : String) (v : Value) : Prop :=
  ∀ xs, n = "allOf" → v = .list xs → ∀ x ∈ xs, x.IsSchema

section

variable {s s' t f : Schema} {v w x : Value} {xs ys : List Value} {n : String}

namespace Value.IsSchema

theorem keyed (h : (Value.mapping s).IsSchema) : s.IsKeyed := by
  cases h with
  | mapping hs _ => exact hs
  | other h => exact absurd rfl (h s)

theorem conjunct (h : (Value.mapping s).IsSchema) (hxs : Entries.at? s "allOf" = some (.list xs))
    (hx : x ∈ xs) : x.IsSchema := by
  cases h with
  | mapping _ hconjuncts => exact hconjuncts hxs hx
  | other h => exact absurd rfl (h s)

/-- One keyword. -/
theorem keyword (h : HasSchemas n v) :
    (Value.mapping [(.text n, v)]).IsSchema := by
  refine .mapping ⟨by simp, List.nodup_singleton _⟩ fun {xs x} hxs hx => ?_
  rw [at?_cons, text_equals] at hxs
  split at hxs
  · next hn => exact h xs (beq_iff_eq.mp hn).symm (Option.some.inj hxs) x hx
  · cases hxs

/-- Another keyword, or another value for one. -/
theorem put (hs : (Value.mapping s).IsSchema) (h : HasSchemas n v) :
    (Value.mapping (Entries.put s (.text n) v)).IsSchema := by
  refine .mapping (hs.keyed.put n v) fun {xs x} hxs hx => ?_
  by_cases hn : n = "allOf"
  · subst hn
    rw [at?_put_self] at hxs
    exact h xs rfl (Option.some.inj hxs) x hx
  · rw [at?_put_of_ne hn] at hxs
    exact hs.conjunct hxs hx

end Value.IsSchema

theorem equals_list (h : (Value.list xs).equals w = true) :
    ∃ ys, w = .list ys ∧ List.Forall₂ (fun x y => x.equals y = true) xs ys := by
  cases w with
  | list ys => exact ⟨ys, rfl, Value.equalsAll_iff.mp h⟩
  | _ => cases h

/-- Schemas that are equal have equal values under the same names. -/
theorem equals_mapping (hs : s.IsKeyed) (ht : t.IsKeyed)
    (h : (Value.mapping s).equals (.mapping t) = true) :
    Entries.Alike (fun v w => v.equals w = true) s t := by
  rw [Value.equals, Bool.and_eq_true, beq_iff_eq, Value.equalsWithin_eq, List.all_eq_true] at h
  refine (Entries.alike_iff hs ht).mpr ⟨h.1, fun e he => ?_⟩
  obtain ⟨f, hf, hef⟩ := List.any_eq_true.mp (h.2 e he)
  rw [Bool.and_eq_true, Value.text_equals_iff (hs.texts e he) (ht.texts f hf)] at hef
  exact ⟨f, hf, hef⟩

theorem forall_some_congr {α β : Type} {R : α → β → Prop} {P : α → Prop} {Q : β → Prop}
    {a? : Option α} {b? : Option β} (h : Option.Rel R a? b?)
    (hPQ : ∀ x y, a? = some x → b? = some y → R x y → (P x ↔ Q y)) :
    (∀ x, a? = some x → P x) ↔ ∀ y, b? = some y → Q y := by
  cases h with
  | none => simp
  | some hxy => simpa using hPQ _ _ rfl rfl hxy

/-! ### Equal schemas -/

namespace KeywordMeaning

variable {ι : Type} (M : KeywordMeaning ι) {i : ι}

theorem holds_iff (hs : s.IsKeyed) :
    M.holds (.mapping s) i ↔ ∀ n v, Entries.at? s n = some v → M.asks n v i := by
  rw [M.holds_mapping]
  exact forall₂_congr fun n v => by rw [hs.at?_eq_some]

theorem holds_keyword : M.holds (.mapping [(.text n, v)]) i ↔ M.asks n v i := by
  rw [M.holds_mapping]
  constructor
  · exact fun h => h n v List.mem_cons_self
  · intro h m w hmem
    cases List.mem_singleton.mp hmem
    exact h

/-- Keywords with equal values ask the same, if this is so for the schemas in them. -/
theorem asks_equal (h : v.equals w = true)
    (hconjuncts : ∀ xs ys, n = "allOf" → v = .list xs → w = .list ys → ∀ x ∈ xs, ∀ y ∈ ys,
      x.equals y = true → (M.holds x i ↔ M.holds y i)) : M.asks n v i ↔ M.asks n w i := by
  by_cases hv : n = "allOf" → ∀ xs, v ≠ .list xs
  · exact M.asks_congr h hv
  · push Not at hv
    obtain ⟨rfl, xs, rfl⟩ := hv
    obtain ⟨ys, rfl, hitems⟩ := equals_list h
    have hconjuncts := hconjuncts xs ys rfl rfl rfl
    rw [M.asks_allOf, M.asks_allOf]
    constructor
    · intro hxs y hy
      obtain ⟨x, hx, hxy⟩ := exists_of_mem_right hitems hy
      exact (hconjuncts x hx y hy hxy).mp (hxs x hx)
    · intro hys x hx
      obtain ⟨y, hy, hxy⟩ := exists_of_mem_left hitems hx
      exact (hconjuncts x hx y hy hxy).mpr (hys y hy)

/-- **Equal schemas** hold of the same instances. -/
theorem holds_equal (hv : v.IsSchema) (hw : w.IsSchema) (h : v.equals w = true) :
    M.holds v i ↔ M.holds w i := by
  induction hv generalizing w with
  | other hv => exact M.holds_congr h hv
  | @mapping s hs _ ih =>
    cases w with
    | mapping t =>
      rw [M.holds_iff hs, M.holds_iff hw.keyed]
      refine forall_congr' fun n => forall_some_congr (equals_mapping hs hw.keyed h n) ?_
      intro x y hx hy hxy
      refine M.asks_equal hxy ?_
      rintro xs ys rfl rfl rfl x' hx' y' hy'
      exact ih hx hx' (hw.conjunct hy hy')
    | _ => cases h

/-! ### Merging -/

/-- A keyword that is there with an equal value asks nothing more. -/
theorem asks_of_holds (hs : (Value.mapping s).IsSchema) (hv : HasSchemas n v)
    (h : Entries.at? s n = some w) (hequal : w.equals v = true) (hholds : M.holds (.mapping s) i) :
    M.asks n v i := by
  refine (M.asks_equal hequal ?_).mp ((M.holds_iff hs.keyed).mp hholds n w h)
  rintro xs ys rfl rfl rfl x hx y hy
  exact M.holds_equal (hs.conjunct h hx) (hv ys rfl rfl y hy)

/-- A new keyword. -/
theorem holds_append :
    M.holds (.mapping (s ++ [(.text n, v)])) i ↔ M.holds (.mapping s) i ∧ M.asks n v i := by
  rw [M.holds_mapping, M.holds_mapping, ← M.holds_keyword, M.holds_mapping]
  simp only [List.mem_append, or_imp, forall_and]

/-- One more schema in the conjunction. -/
theorem holds_put (hs : s.IsKeyed) (h : Entries.at? s "allOf" = some (.list xs)) :
    M.holds (.mapping (Entries.put s (.text "allOf") (.list (xs ++ [x])))) i
      ↔ M.holds (.mapping s) i ∧ M.holds x i := by
  rw [M.holds_iff (hs.put _ _), M.holds_iff hs]
  constructor
  · intro hall
    have hxs := M.asks_allOf.mp (hall "allOf" _ at?_put_self)
    refine ⟨fun n v hn => ?_, hxs x List.mem_concat_self⟩
    by_cases hname : n = "allOf"
    · subst hname
      rw [Option.some.inj (hn.symm.trans h), M.asks_allOf]
      exact fun y hy => hxs y (List.mem_append_left _ hy)
    · exact hall n v ((at?_put_of_ne (Ne.symm hname)).trans hn)
  · rintro ⟨hall, hx⟩ n v hn
    by_cases hname : n = "allOf"
    · subst hname
      rw [at?_put_self] at hn
      rw [← Option.some.inj hn, M.asks_allOf]
      intro y hy
      rcases List.mem_append.mp hy with hy | hy
      · exact M.asks_allOf.mp (hall "allOf" _ h) y hy
      · rw [List.mem_singleton.mp hy]
        exact hx
    · exact hall n v ((at?_put_of_ne (Ne.symm hname)).symm.trans hn)

/-- **A keyword that clashes** is asked in the conjunction. -/
theorem appendConjunct_holds (hs : (Value.mapping s).IsSchema) (hv : HasSchemas n v)
    (h : appendConjunct s (.text n) v = .ok s') : (Value.mapping s').IsSchema ∧
      ∀ i, M.holds (.mapping s') i ↔ M.holds (.mapping s) i ∧ M.asks n v i := by
  have hconjunct : (Value.mapping [(.text n, v)]).IsSchema := .keyword hv
  cases hall : Entries.at? s "allOf" with
  | none =>
    rw [appendConjunct_eq_of_none hall] at h
    cases h
    refine ⟨hs.put ?_, fun i => ?_⟩
    · rintro xs - ⟨⟩ x hx
      rw [List.mem_singleton.mp hx]
      exact hconjunct
    · rw [put_of_none hall, M.holds_append, M.asks_allOf, List.forall_mem_singleton,
        M.holds_keyword]
  | some w =>
    obtain ⟨xs, rfl⟩ : ∃ xs, w = .list xs := by
      rw [appendConjunct, hall] at h
      cases w with
      | list xs => exact ⟨xs, rfl⟩
      | _ => cases h
    rw [appendConjunct_eq hall] at h
    cases h
    refine ⟨hs.put ?_, fun i => ?_⟩
    · rintro ys - ⟨⟩ x hx
      rcases List.mem_append.mp hx with hx | hx
      · exact hs.conjunct hall hx
      · rw [List.mem_singleton.mp hx]
        exact hconjunct
    · rw [M.holds_put hs.keyed hall, M.holds_keyword]

/-- **Merging a keyword** adds what it asks. -/
theorem mergeKeyword_holds (hs : (Value.mapping s).IsSchema) (hv : HasSchemas n v)
    (h : mergeKeyword s (.text n) v = .ok s') : (Value.mapping s').IsSchema ∧
      ∀ i, M.holds (.mapping s') i ↔ M.holds (.mapping s) i ∧ M.asks n v i := by
  cases hold : Entries.at? s n with
  | none =>
    rw [mergeKeyword_of_none hold] at h
    cases h
    refine ⟨?_, fun i => M.holds_append⟩
    rw [← put_of_none hold]
    exact hs.put hv
  | some old =>
    rw [mergeKeyword_of_some hold] at h
    by_cases hequal : old.equals v = true
    · rw [if_pos hequal] at h
      cases h
      exact ⟨hs, fun i => (and_iff_left_of_imp (M.asks_of_holds hs hv hold hequal)).symm⟩
    · rw [if_neg hequal] at h
      exact M.appendConjunct_holds hs hv h

/-- **Merging keywords** one after the other adds what they ask. -/
theorem mergeSchema_asks (hs : (Value.mapping s).IsSchema)
    (hf : ∀ e ∈ f, ∃ n, e.1 = .text n ∧ HasSchemas n e.2) (h : mergeSchema s f = .ok s') :
    (Value.mapping s').IsSchema ∧ ∀ i, M.holds (.mapping s') i ↔
      M.holds (.mapping s) i ∧ M.holds (.mapping f) i := by
  induction f generalizing s with
  | nil =>
    cases h
    exact ⟨hs, fun i => (and_iff_left (M.holds_mapping.mpr fun n v hmem =>
      absurd hmem List.not_mem_nil)).symm⟩
  | cons e f ih =>
    obtain ⟨n, v⟩ := e
    obtain ⟨⟨m, rfl, hv⟩, hrest⟩ := List.forall_mem_cons.mp hf
    rw [mergeSchema, List.foldlM_cons] at h
    cases hmerge : mergeKeyword s (.text m) v with
    | error e => rw [hmerge] at h; cases h
    | ok t =>
      rw [hmerge] at h
      obtain ⟨ht, hmeets⟩ := M.mergeKeyword_holds hs hv hmerge
      obtain ⟨hs', hmeets'⟩ := ih ht hrest h
      refine ⟨hs', fun i => ?_⟩
      have hsplit : M.holds (.mapping ((.text m, v) :: f)) i ↔
          M.asks m v i ∧ M.holds (.mapping f) i := by
        rw [← M.holds_keyword, M.holds_mapping, M.holds_mapping, M.holds_mapping]
        simp only [List.mem_cons, or_imp, forall_and, List.not_mem_nil, or_false]
      rw [hmeets', hmeets, hsplit, and_assoc]

/-- **Merging a fragment** adds what it asks. -/
theorem mergeSchema_holds (hs : (Value.mapping s).IsSchema) (hf : (Value.mapping f).IsSchema)
    (h : mergeSchema s f = .ok s') : (Value.mapping s').IsSchema ∧
      ∀ i, M.holds (.mapping s') i ↔ M.holds (.mapping s) i ∧ M.holds (.mapping f) i := by
  refine M.mergeSchema_asks hs (fun e he => ?_) h
  obtain ⟨n, hn⟩ := hf.keyed.texts e he
  refine ⟨n, hn, ?_⟩
  rintro xs rfl hxs x hx
  refine hf.conjunct (hf.keyed.at?_eq_some.mpr ?_) hx
  rw [← hn, ← hxs]
  exact he

/-- **Merging fragments** one after the other adds what they ask. -/
theorem foldlM_mergeSchema_holds {fs : List Schema} (hs : (Value.mapping s).IsSchema)
    (hfs : ∀ f ∈ fs, (Value.mapping f).IsSchema) (h : fs.foldlM mergeSchema s = .ok s') :
    ∀ i, M.holds (.mapping s') i ↔
      M.holds (.mapping s) i ∧ ∀ f ∈ fs, M.holds (.mapping f) i := by
  induction fs generalizing s with
  | nil =>
    cases h
    exact fun i => (and_iff_left fun f hf => absurd hf List.not_mem_nil).symm
  | cons f fs ih =>
    obtain ⟨hf, hfs⟩ := List.forall_mem_cons.mp hfs
    rw [List.foldlM_cons] at h
    cases hmerge : mergeSchema s f with
    | error e => rw [hmerge] at h; cases h
    | ok t =>
      rw [hmerge] at h
      obtain ⟨ht, hmeets⟩ := M.mergeSchema_holds hs hf hmerge
      intro i
      rw [ih ht hfs h, hmeets, List.forall_mem_cons, and_assoc]

end KeywordMeaning

/-! ### What is merged -/

theorem foldlM_keeps {ε α β : Type} {step : β → α → Except ε β} {P : β → Prop} {xs : List α}
    {b c : β} (hb : P b) (hstep : ∀ x ∈ xs, ∀ b c, P b → step b x = .ok c → P c)
    (h : xs.foldlM step b = .ok c) : P c := by
  induction xs generalizing b with
  | nil => cases h; exact hb
  | cons x xs ih =>
    obtain ⟨hx, hxs⟩ := List.forall_mem_cons.mp hstep
    rw [List.foldlM_cons] at h
    cases hnext : step b x with
    | error e => rw [hnext] at h; cases h
    | ok d => rw [hnext] at h; exact ih (hx b d hb hnext) hxs h

theorem foldlM_succeeds {ε α β : Type} {step : β → α → Except ε β} {P : β → Prop} {xs : List α}
    {b : β} (hb : P b) (hstep : ∀ x ∈ xs, ∀ b, P b → ∃ c, step b x = .ok c ∧ P c) :
    ∃ c, xs.foldlM step b = .ok c ∧ P c := by
  induction xs generalizing b with
  | nil => exact ⟨b, rfl, hb⟩
  | cons x xs ih =>
    obtain ⟨hx, hxs⟩ := List.forall_mem_cons.mp hstep
    obtain ⟨d, hnext, hd⟩ := hx b hb
    rw [List.foldlM_cons, hnext]
    exact ih hd hxs

/-- A keyword other than the conjunction keeps its value. -/
theorem foldlM_mergeSchema_at? {fs : List Schema} (hn : n ≠ "allOf")
    (hw : Entries.at? s n = some w) (h : fs.foldlM mergeSchema s = .ok s') :
    Entries.at? s' n = some w :=
  foldlM_keeps (P := fun s => Entries.at? s n = some w) hw
    (fun _ _ _ _ ht h => foldlM_keeps (P := fun s => Entries.at? s n = some w) ht
      (fun _ _ _ _ hu h => by rw [mergeKeyword_at? hn h, hu, Option.some_or]) h) h

/-- A schema whose conjunction is a list takes every keyword. -/
theorem mergeKeyword_conjunctive (hs : Conjunctive s) (hv : n ≠ "allOf" ∨ ∃ xs, v = .list xs) :
    ∃ s', mergeKeyword s (.text n) v = .ok s' ∧ Conjunctive s' := by
  cases h : Entries.at? s n with
  | none =>
    exact ⟨_, mergeKeyword_of_none h, conjunctive_append hs (conjunctive_keyword hv)⟩
  | some old =>
    rw [mergeKeyword_of_some h]
    split
    · exact ⟨s, rfl, hs⟩
    · obtain ⟨xs, hxs⟩ := appendConjunct_ok hs (.text n) v
      refine ⟨_, hxs, fun w hw => ?_⟩
      rw [at?_put_self] at hw
      exact ⟨xs, (Option.some.inj hw).symm⟩

/-- **Merging succeeds** where the conjunctions are lists. -/
theorem foldlM_mergeSchema_conjunctive {fs : List Schema} (hs : Conjunctive s)
    (hfs : ∀ f ∈ fs, f.IsKeyed ∧ Conjunctive f) :
    ∃ s', fs.foldlM mergeSchema s = .ok s' ∧ Conjunctive s' := by
  refine foldlM_succeeds hs fun f hf t ht => foldlM_succeeds ht fun e he u hu => ?_
  obtain ⟨hkeyed, hconjunctive⟩ := hfs f hf
  obtain ⟨n, hn⟩ := hkeyed.texts e he
  rw [hn]
  refine mergeKeyword_conjunctive hu ?_
  by_cases hname : n = "allOf"
  · refine .inr (hconjunctive e.2 (hkeyed.at?_eq_some.mpr ?_))
    rw [← hname, ← hn]
    exact he
  · exact .inl hname

theorem Joining.keywords_merged {i : Nat} {j j' : Joining}
    (h : f.foldlM (fun j e => j.keyword i e.1 e.2) j = .ok j') :
    mergeSchema j.schema f = .ok j'.schema := by
  induction f generalizing j with
  | nil => cases h; rfl
  | cons e f ih =>
    rw [List.foldlM_cons, Joining.keyword] at h
    rw [mergeSchema, List.foldlM_cons]
    cases hmerge : mergeKeyword j.schema e.1 e.2 with
    | error e => rw [hmerge] at h; cases h
    | ok t => rw [hmerge] at h; exact ih h

/-- **The joint schema of fragments** is merged of them one by one; that it shares its conjunction
with one of them makes no difference to it. -/
theorem Joining.fragments_merged {fs : List Schema} {i : Nat} {j j' : Joining}
    (h : Joining.fragments i j fs = .ok j') : fs.foldlM mergeSchema j.schema = .ok j'.schema := by
  induction fs generalizing i j with
  | nil => cases h; rfl
  | cons f fs ih =>
    rw [Joining.fragments] at h
    rw [List.foldlM_cons]
    cases hf : f.foldlM (fun j e => j.keyword i e.1 e.2) j with
    | error e => rw [hf] at h; cases h
    | ok k =>
      rw [hf] at h
      rw [Joining.keywords_merged hf]
      exact ih h

theorem joinFragments_merged {fs gs : List Schema} (h : joinFragments fs = .ok (s, gs)) :
    fs.foldlM mergeSchema [] = .ok s := by
  obtain ⟨j, hj, h⟩ := except_bind_ok h
  split at h
  · cases h
    exact Joining.fragments_merged hj
  · cases h
    exact Joining.fragments_merged hj

/-- **Merging is conjunction**, whatever the keywords mean.  Fragments with a list as their
conjunction, if they have one, can be merged into a schema of which the same is true.  What is
merged holds of the instances of which the schema has held and all the fragments hold; the keywords
of the schema keep their values, but for the conjunction; and fragments in another order give a
schema that holds of the same instances.  So the joint schema of a validator holds of the instances
of which all fragments of its stages hold. -/
theorem merging_is_conjunction {ι : Type} (M : KeywordMeaning ι) {target : Schema}
    {fragments : List Schema} (htarget : (Value.mapping target).IsSchema)
    (hfragments : ∀ f ∈ fragments, (Value.mapping f).IsSchema) :
    (Conjunctive target → (∀ f ∈ fragments, Conjunctive f) →
      ∃ s, fragments.foldlM mergeSchema target = .ok s) ∧
    (∀ s, fragments.foldlM mergeSchema target = .ok s →
      (∀ i, M.holds (.mapping s) i ↔
        M.holds (.mapping target) i ∧ ∀ f ∈ fragments, M.holds (.mapping f) i) ∧
      (∀ n v, n ≠ "allOf" → Entries.at? target n = some v → Entries.at? s n = some v) ∧
      ∀ (fragments' : List Schema) s', fragments'.Perm fragments →
        fragments'.foldlM mergeSchema target = .ok s' →
          ∀ i, M.holds (.mapping s') i ↔ M.holds (.mapping s) i) ∧
    ∀ s after, joinFragments fragments = .ok (s, after) →
      ∀ i, M.holds (.mapping s) i ↔ ∀ f ∈ fragments, M.holds (.mapping f) i := by
  refine ⟨fun hlist hlists => ?_, fun s hs => ⟨?_, ?_, ?_⟩, fun s after hs i => ?_⟩
  · obtain ⟨s, hs, -⟩ := foldlM_mergeSchema_conjunctive hlist
      fun f hf => ⟨(hfragments f hf).keyed, hlists f hf⟩
    exact ⟨s, hs⟩
  · exact M.foldlM_mergeSchema_holds htarget hfragments hs
  · exact fun n v hn hv => foldlM_mergeSchema_at? hn hv hs
  · intro fragments' s' hperm hs' i
    have hfragments' : ∀ f ∈ fragments', (Value.mapping f).IsSchema :=
      fun f hf => hfragments f (hperm.mem_iff.mp hf)
    rw [M.foldlM_mergeSchema_holds htarget hfragments hs,
      M.foldlM_mergeSchema_holds htarget hfragments' hs']
    simp only [hperm.mem_iff]
  · have hempty : (Value.mapping []).IsSchema :=
      .mapping ⟨by simp, List.nodup_nil⟩ fun {xs x} hxs => by cases hxs
    rw [M.foldlM_mergeSchema_holds hempty hfragments (joinFragments_merged hs)]
    exact and_iff_right (M.holds_mapping.mpr fun n v hmem => absurd hmem List.not_mem_nil)

theorem text?_of_equals (h : v.equals w = true) : v.text? = w.text? := by
  refine Option.ext fun p => ⟨fun hv => (Value.equals_iff_text hv).mp h, fun hw => ?_⟩
  have hequal := equals_text_of h ((Value.equals_iff_text (k := .text p) rfl).mpr hw)
  rw [equals_text] at hequal
  exact (Value.equals_iff_text rfl).mp hequal

/-- A text contains the texts that a schema names as patterns. -/
def KeywordMeaning.parts : KeywordMeaning String :=
  .ofKeywords (fun n v text => n = "pattern" → ∀ p, v.text? = some p → p.toList <:+: text.toList)
    fun h => by rw [text?_of_equals h]

theorem parts_asks {p text : String} :
    KeywordMeaning.parts.asks "pattern" (.text p) text ↔ p.toList <:+: text.toList := by
  refine (keywordHeld_own fun h => absurd h (by decide)).trans ⟨fun h => h rfl p rfl, ?_⟩
  rintro h - q ⟨⟩
  exact h

/-- Fragments that clash again and again, some of them with a conjunction, in two orders. -/
theorem merging_is_conjunction_repeated :
    let target := keyword "pattern" (.text "a")
    let f := keyword "pattern" (.text "b") ++
      keyword "allOf" (.list [.mapping (keyword "pattern" (.text "c"))])
    let g := keyword "pattern" (.text "d")
    ∃ s s', [f, g, f].foldlM mergeSchema target = .ok s ∧
      [g, f, f].foldlM mergeSchema target = .ok s' ∧
      Entries.at? s "pattern" = some (.text "a") ∧
      KeywordMeaning.parts.holds (.mapping s) "dcba" ∧
      KeywordMeaning.parts.holds (.mapping s') "dcba" ∧
      ¬ KeywordMeaning.parts.holds (.mapping s) "dba" := by
  intro target f g
  have htarget : (Value.mapping target).IsSchema := .keyword fun _ h => absurd h (by decide)
  have hf : (Value.mapping f).IsSchema := by
    refine .mapping (Entries.isKeyed_pair (by decide)) ?_
    rintro xs x ⟨⟩ hx
    rw [List.mem_singleton.mp hx]
    exact .keyword fun _ h => absurd h (by decide)
  have hg : (Value.mapping g).IsSchema := .keyword fun _ h => absurd h (by decide)
  have hfs : ∀ h ∈ [f, g, f], (Value.mapping h).IsSchema := by simp [hf, hg]
  have hpattern : ∀ p i, KeywordMeaning.parts.holds (.mapping (keyword "pattern" (.text p))) i ↔
      p.toList <:+: i.toList := fun p i => (KeywordMeaning.holds_keyword _).trans parts_asks
  have hboth : ∀ i, KeywordMeaning.parts.holds (.mapping f) i ↔
      "b".toList <:+: i.toList ∧ "c".toList <:+: i.toList := by
    intro i
    refine (KeywordMeaning.holds_append _).trans (and_congr (hpattern "b" i) ?_)
    rw [KeywordMeaning.asks_allOf, List.forall_mem_singleton, hpattern]
  have hlists : ∀ h ∈ [f, g, f], Conjunctive h := by
    have hf : Conjunctive f := conjunctive_append (conjunctive_keyword (.inl (by decide)))
      (conjunctive_keyword (.inr ⟨_, rfl⟩))
    have hg : Conjunctive g := conjunctive_keyword (.inl (by decide))
    simp [hf, hg]
  obtain ⟨hexists, hmerged, -⟩ := merging_is_conjunction KeywordMeaning.parts htarget hfs
  obtain ⟨s, hs⟩ := hexists (conjunctive_keyword (.inl (by decide))) hlists
  obtain ⟨s', hs'⟩ : ∃ s, [g, f, f].foldlM mergeSchema target = .ok s := ⟨_, rfl⟩
  obtain ⟨hholds, hkeeps, horder⟩ := hmerged s hs
  have hyes : KeywordMeaning.parts.holds (.mapping s) "dcba" := by
    simp only [hholds, List.forall_mem_cons, hboth, target, g, hpattern, List.not_mem_nil,
      false_imp_iff, implies_true]
    decide
  refine ⟨s, s', hs, hs', hkeeps "pattern" _ (by decide) rfl, hyes,
    (horder _ s' (.swap f g [f]) hs' _).mpr hyes, fun hno => ?_⟩
  exact absurd ((hboth _).mp (((hholds _).mp hno).2 f List.mem_cons_self)).2 (by decide)

end

end RuleSchema
