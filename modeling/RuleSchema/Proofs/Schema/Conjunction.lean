import RuleSchema.Proofs.Export.Keywords
import RuleSchema.Proofs.Schema.Meaning

/-!
# Joining is conjunction

A keyword that a schema has already with another value goes to the conjunction, so that
the joint schema asks everything that the parts ask.  This file proves it for the fragments
that clash in rules: bounds on a size, and choices between texts.

* `Bounding` are the keywords of these fragments, `Joined` those of the joint schema.
* `mergeSchema_meets` follows the meaning through the joining of a fragment, and
  `checksSchema_meets` through that of the checks of a stage.
* `admits_of_named` is the meaning of an export whose fragments have no name in common.
-/

namespace RuleSchema

open Schema Value

/-! ### Keywords without properties and slots -/

section

variable {s f : Schema} {e : Value × Value} {v : Value}

/-- A schema that declares no properties and has no slots asks what its keywords ask alone. -/
theorem admits_alone (hproperties : Entries.at? s "properties" = none)
    (hslots : Entries.at? s "prefixItems" = none) :
    (Value.mapping s).admits v = meets s [] v := by
  refine meets_congr ?_ ?_
  · funext k
    rw [declares, hproperties]
    rfl
  · rw [prefixLength, hslots]
    rfl

/-- A keyword of a fragment that may clash: a bound on a size, or a choice between texts. -/
inductive Bounding : Value × Value → Prop
  | size {n : String} (k : Nat) : n ∈ ["minLength", "maxLength", "minItems", "maxItems"] →
      Bounding (.text n, bound k)
  | choice (texts : List String) : Bounding (.text "enum", .list (texts.map .text))

/-- A keyword of a joint schema: one of a fragment, or the conjunction. -/
inductive Joined : Value × Value → Prop
  | own {e : Value × Value} : Bounding e → Joined e
  | conjunction (xs : List Value) : Joined (.text "allOf", .list xs)

theorem Bounding.key (h : Bounding e) : ∃ n, e.1 = .text n ∧ n ≠ "allOf" ∧ n ≠ "properties" ∧
    n ≠ "prefixItems" := by
  cases h with
  | size k hn =>
    refine ⟨_, rfl, ?_, ?_, ?_⟩
    all_goals
      rintro rfl
      exact absurd hn (by decide)
  | choice texts => exact ⟨_, rfl, by decide⟩

theorem Joined.key (h : Joined e) : ∃ n, e.1 = .text n ∧ n ≠ "properties" ∧
    n ≠ "prefixItems" := by
  cases h with
  | own h =>
    obtain ⟨n, hn, -, hrest⟩ := h.key
    exact ⟨n, hn, hrest⟩
  | conjunction xs => exact ⟨_, rfl, by decide⟩

theorem texts_equal : ∀ {as bs : List String},
    equalsAll (as.map .text) (bs.map .text) = true → as = bs := by
  intro as
  induction as with
  | nil =>
    intro bs h
    cases bs with
    | nil => rfl
    | cons b bs => cases h
  | cons a as ih =>
    intro bs h
    cases bs with
    | nil => cases h
    | cons b bs =>
      obtain ⟨hab, hrest⟩ := Bool.and_eq_true_iff.mp h
      rw [beq_iff_eq.mp hab, ih hrest]

/-- Two keywords of fragments under one name are the same if their values are equal. -/
theorem Bounding.eq_of_equals {k x y : Value} (hx : Bounding (k, x)) (hy : Bounding (k, y))
    (h : x.equals y = true) : x = y := by
  cases hx with
  | size m hm =>
    cases hy with
    | size n _ =>
      have hmn : (m : Int) = n := of_decide_eq_true ((Number.int_equals m n).symm.trans h)
      rw [bound, hmn]
      rfl
    | choice bs => exact absurd hm (by decide)
  | choice as =>
    cases hy with
    | size n hn => exact absurd hn (by decide)
    | choice bs => rw [texts_equal h]

theorem at?_eq_none_of_keys {n : String} (h : ∀ e ∈ s, ∃ m, e.1 = .text m ∧ m ≠ n) :
    Entries.at? s n = none := by
  induction s with
  | nil => rfl
  | cons e s ih =>
    obtain ⟨m, hm, hne⟩ := h e List.mem_cons_self
    rw [at?_cons, hm, text_equals, beq_eq_false_iff_ne.mpr (Ne.symm hne),
      if_neg Bool.false_ne_true]
    exact ih fun e he => h e (List.mem_cons_of_mem _ he)

/-- A joint schema asks what its keywords ask alone. -/
theorem Joined.admits (hs : ∀ e ∈ s, Joined e) : (Value.mapping s).admits v = meets s [] v := by
  refine admits_alone (at?_eq_none_of_keys fun e he => ?_) (at?_eq_none_of_keys fun e he => ?_)
  · obtain ⟨n, hn, hne, _⟩ := (hs e he).key
    exact ⟨n, hn, hne⟩
  · obtain ⟨n, hn, _, hne⟩ := (hs e he).key
    exact ⟨n, hn, hne⟩

/-- What stands under a name of a joint schema is one of its keywords. -/
theorem Joined.mem_of_at? {n : String} {x : Value} (hs : ∀ e ∈ s, Joined e)
    (h : Entries.at? s n = some x) : (.text n, x) ∈ s := by
  induction s with
  | nil => cases h
  | cons e s ih =>
    obtain ⟨k, y⟩ := e
    obtain ⟨m, hm, _⟩ := (hs (k, y) List.mem_cons_self).key
    dsimp only at hm
    subst hm
    rw [at?_cons, text_equals] at h
    split at h
    · next hnm =>
      cases h
      rw [beq_iff_eq.mp hnm]
      exact List.mem_cons_self
    · exact List.mem_cons_of_mem _ (ih (fun e he => hs e (List.mem_cons_of_mem _ he)) h)

/-! ### The conjunction -/

/-- One more conjunct in the place of the conjunction. -/
theorem meets_put_conjunct {xs : List Value} {y : Value} (hs : ∀ e ∈ s, Joined e)
    (h : Entries.at? s "allOf" = some (.list xs)) :
    meets (Entries.put s (.text "allOf") (.list (xs ++ [y]))) [] v
      = (meets s [] v && y.admits v) := by
  induction s with
  | nil => cases h
  | cons e s ih =>
    obtain ⟨k, x⟩ := e
    obtain ⟨m, hm, _⟩ := (hs (k, x) List.mem_cons_self).key
    dsimp only at hm
    subst hm
    rw [at?_cons] at h
    rw [Entries.put]
    cases hk : (Value.text "allOf").equals (.text m) with
    | true =>
      rw [hk, if_pos rfl] at h
      cases h
      rw [text_equals, beq_iff_eq] at hk
      rw [if_pos rfl, meets_cons, meets_cons (s := s), ← hk]
      change (meets (keyword "allOf" _) [] v && _) = (meets (keyword "allOf" _) [] v && _ && _)
      rw [meets_allOf, meets_allOf, List.all_append, Bool.and_assoc, Bool.and_assoc]
      simp only [List.all_cons, List.all_nil, Bool.and_true]
      rw [Bool.and_comm (y.admits v)]
    | false =>
      rw [hk, if_neg Bool.false_ne_true] at h
      rw [if_neg Bool.false_ne_true, meets_cons, meets_cons (s := s),
        ih (fun e he => hs e (List.mem_cons_of_mem _ he)) h, Bool.and_assoc]

/-- A conjunct of one keyword asks what the keyword asks. -/
theorem Bounding.admits (he : Bounding e) : (Value.mapping [e]).admits v = meets [e] [] v :=
  Joined.admits fun _ h => List.mem_singleton.mp h ▸ .own he

theorem mem_put_conjunction {xs : List Value} (hs : ∀ e ∈ s, Joined e) :
    ∀ e ∈ Entries.put s (.text "allOf") (.list xs), Joined e := by
  induction s with
  | nil =>
    intro e he
    rw [List.mem_singleton.mp he]
    exact .conjunction xs
  | cons e s ih =>
    obtain ⟨k, x⟩ := e
    obtain ⟨m, hm, _⟩ := (hs (k, x) List.mem_cons_self).key
    dsimp only at hm
    subst hm
    intro e' he'
    rw [Entries.put] at he'
    split at he'
    · next hk =>
      rw [text_equals, beq_iff_eq] at hk
      subst hk
      rcases List.mem_cons.mp he' with rfl | he'
      · exact .conjunction xs
      · exact hs e' (List.mem_cons_of_mem _ he')
    · rcases List.mem_cons.mp he' with rfl | he'
      · exact hs _ List.mem_cons_self
      · exact ih (fun e he => hs e (List.mem_cons_of_mem _ he)) e' he'

/-- Adding a conjunct of one keyword. -/
theorem appendConjunct_meets (hs : ∀ e ∈ s, Joined e) (he : Bounding e) :
    ∃ s', appendConjunct s e.1 e.2 = .ok s' ∧ (∀ e ∈ s', Joined e) ∧
      ∀ v, meets s' [] v = (meets s [] v && meets [e] [] v) := by
  cases h : Entries.at? s "allOf" with
  | none =>
    refine ⟨_, appendConjunct_eq_of_none h, mem_put_conjunction hs, fun v => ?_⟩
    rw [put_of_none h, meets_append]
    change (_ && meets (keyword "allOf" _) [] v) = _
    rw [meets_allOf, List.all_cons, List.all_nil, Bool.and_true]
    exact congrArg _ he.admits
  | some x =>
    obtain ⟨xs, rfl⟩ : ∃ xs, x = .list xs := by
      have hmem := hs _ (Joined.mem_of_at? hs h)
      generalize he' : (Value.text "allOf", x) = e' at hmem
      cases hmem with
      | own hown =>
        obtain ⟨n, hn, hne, _⟩ := hown.key
        rw [← he'] at hn
        exact absurd (Value.text.inj hn).symm hne
      | conjunction xs => exact ⟨xs, (Prod.mk.inj he').2⟩
    refine ⟨_, appendConjunct_eq h, mem_put_conjunction hs, fun v => ?_⟩
    rw [meets_put_conjunct hs h]
    exact congrArg _ he.admits

/-! ### Joining -/

/-- **Joining one keyword** adds what it asks. -/
theorem mergeKeyword_meets (hs : ∀ e ∈ s, Joined e) (he : Bounding e) :
    ∃ s', mergeKeyword s e.1 e.2 = .ok s' ∧ (∀ e ∈ s', Joined e) ∧
      ∀ v, meets s' [] v = (meets s [] v && meets [e] [] v) := by
  obtain ⟨k, x⟩ := e
  obtain ⟨n, hn, hne, _⟩ := he.key
  dsimp only at hn
  subst hn
  cases h : Entries.at? s n with
  | none =>
    refine ⟨_, mergeKeyword_of_none h, fun e' he' => ?_, fun v => meets_append⟩
    rcases List.mem_append.mp he' with he' | he'
    · exact hs e' he'
    · rw [List.mem_singleton.mp he']
      exact .own he
  | some old =>
    have hmem := Joined.mem_of_at? hs h
    dsimp only
    rw [mergeKeyword_of_some h]
    by_cases heq : old.equals x = true
    · have hold : Bounding (.text n, old) := by
        have hjoined := hs _ hmem
        generalize he' : (Value.text n, old) = e' at hjoined
        cases hjoined with
        | own hown => exact hown
        | conjunction xs => exact absurd (Value.text.inj (Prod.mk.inj he').1) hne
      rw [if_pos heq]
      refine ⟨s, rfl, hs, fun v => ?_⟩
      rw [hold.eq_of_equals he heq] at hmem
      cases hsv : meets s [] v with
      | false => rfl
      | true =>
        rw [meets_eq_all, List.all_eq_true] at hsv
        rw [hsv _ hmem, Bool.and_true]
    · rw [if_neg heq]
      exact appendConjunct_meets hs he

/-- **Joining a fragment** adds what its keywords ask. -/
theorem mergeSchema_meets : ∀ {f s : Schema}, (∀ e ∈ s, Joined e) → (∀ e ∈ f, Bounding e) →
    ∃ s', mergeSchema s f = .ok s' ∧ (∀ e ∈ s', Joined e) ∧
      ∀ v, meets s' [] v = (meets s [] v && meets f [] v) := by
  intro f
  induction f with
  | nil => intro s hs _; exact ⟨s, rfl, hs, fun v => (Bool.and_true _).symm⟩
  | cons e f ih =>
    intro s hs hf
    obtain ⟨s₁, hs₁, hjoined₁, hmeets₁⟩ := mergeKeyword_meets hs (hf e List.mem_cons_self)
    obtain ⟨s₂, hs₂, hjoined₂, hmeets₂⟩ := ih hjoined₁ fun e he => hf e (List.mem_cons_of_mem _ he)
    refine ⟨s₂, ?_, hjoined₂, fun v => ?_⟩
    · rw [mergeSchema, List.foldlM_cons, hs₁]
      exact hs₂
    · rw [hmeets₂, hmeets₁, meets_cons (s := f), Bool.and_assoc]

/-- **The joint schema of checks** asks what each of them asks. -/
theorem checksSchema_meets {checks : List Check} (h : Stage.checksSchema checks = .ok s)
    (hchecks : ∀ c ∈ checks, ∀ e ∈ c.schema, Bounding e) :
    (∀ e ∈ s, Joined e) ∧ ∀ v, meets s [] v = checks.all fun c => meets c.schema [] v := by
  have hflat : ∀ e ∈ (checks.map Check.schema).flatten, Bounding e := by
    intro e he
    obtain ⟨f, hf, he⟩ := List.mem_flatten.mp he
    obtain ⟨c, hc, rfl⟩ := List.mem_map.mp hf
    exact hchecks c hc e he
  obtain ⟨s', hs', hjoined, hmeets⟩ :=
    mergeSchema_meets (s := []) (fun e he => absurd he List.not_mem_nil) hflat
  rw [checksSchema_flatten, hs'] at h
  cases h
  refine ⟨hjoined, fun v => ?_⟩
  rw [hmeets]
  clear hs' hmeets hflat hchecks
  induction checks with
  | nil => rfl
  | cons c checks ih =>
    rw [List.map_cons, List.flatten_cons, List.all_cons, ← ih, meets_append]
    rfl

end

/-! ### Exports -/

/-- A description asks nothing. -/
theorem Validator.admits_describe {d : Validator} {s : Schema} {v : Value} :
    (Value.mapping (d.describe s)).admits v = (Value.mapping s).admits v := by
  have hput : ∀ (s siblings : Schema) (x : Value),
      meets (Entries.put s (.text "description") x) siblings v = meets s siblings v := by
    intro s siblings x
    induction s with
    | nil => exact meets_other rfl
    | cons e s ih =>
      obtain ⟨k, y⟩ := e
      rw [Entries.put]
      split
      · next hk =>
        have hother : Keyword.ofKey? k = none := by
          cases k with
          | text n => rw [← beq_iff_eq.mp hk]; rfl
          | _ => rfl
        rw [meets_cons, meets_cons (s := s), meets_other hother, meets_other hother]
      · rw [meets_cons, ih, meets_cons (s := s)]
  rw [describe]
  split
  · split
    · rfl
    · refine (hput s _ _).trans (meets_congr ?_ ?_)
      · funext k
        rw [declares, declares, at?_put_of_ne (by decide)]
      · rw [prefixLength, prefixLength, at?_put_of_ne (by decide)]
  · rfl

/-- **The meaning of an export** of fragments without a name in common is that of all their
keywords. -/
theorem Validator.admits_of_named {d : Validator} {K : List String} {schema : Schema}
    (h : Named d.fragments.flatten K) (hschema : d.schema = .ok schema) (v : Value) :
    (Value.mapping schema).admits v = (Value.mapping d.fragments.flatten).admits v := by
  rw [Validator.schema, export_apart h] at hschema
  cases hschema
  exact admits_describe

end RuleSchema
