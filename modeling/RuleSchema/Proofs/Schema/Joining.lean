import RuleSchema.Proofs.Schema.Names

/-!
# Joining schemas

`mergeSchema` joins one fragment to a schema and `joinFragments` the fragments of all
stages of a validator.  Two schemas without a name in common are joined by writing one
after the other; only then is nothing added to a conjunction, and the fragments stay as
they are.

* `mergeSchema_apart` and `joinFragments_apart` are these facts.
* `keywords_clash` says what is added to the conjunction by a fragment with names that the
  schema has already: each keyword with another value.
* `Conjunctive` says that the conjunction of a schema is a list.  Joining such schemas has
  no fault (`mergeSchema_named`), and loses no keyword (`Joining.fragments_keep`).
-/

namespace RuleSchema

namespace Schema

variable {s f : Schema} {K L : List String}

/-- The conjunction of a schema, if there is one, is a list. -/
def Conjunctive (s : Schema) : Prop :=
  ∀ v, Entries.at? s "allOf" = some v → ∃ xs, v = .list xs

theorem conjunctive_nil : Conjunctive [] := fun _ h => by cases h

theorem Named.conjunctive (h : Named s K) (hK : "allOf" ∉ K) : Conjunctive s := by
  intro v hv
  rw [h.at?_eq_none hK] at hv
  cases hv

theorem conjunctive_append (hs : Conjunctive s) (hf : Conjunctive f) : Conjunctive (s ++ f) := by
  intro v hv
  rw [at?_append] at hv
  cases h : Entries.at? s "allOf" with
  | some w => rw [h] at hv; cases hv; exact hs v h
  | none => rw [h] at hv; exact hf v hv

theorem conjunctive_keyword {n : String} {v : Value} (h : n ≠ "allOf" ∨ ∃ xs, v = .list xs) :
    Conjunctive (keyword n v) := by
  intro w hw
  rw [keyword, at?_cons, text_equals] at hw
  split at hw
  · next hn =>
    cases hw
    exact h.resolve_left fun hne => hne (beq_iff_eq.mp hn).symm
  · cases hw

/-- One more conjunct. -/
theorem appendConjunct_eq {xs : List Value} {key value : Value}
    (h : Entries.at? s "allOf" = some (.list xs)) :
    appendConjunct s key value
      = .ok (Entries.put s (.text "allOf") (.list (xs ++ [.mapping [(key, value)]]))) := by
  rw [appendConjunct, h]

theorem appendConjunct_eq_of_none {key value : Value} (h : Entries.at? s "allOf" = none) :
    appendConjunct s key value
      = .ok (Entries.put s (.text "allOf") (.list [.mapping [(key, value)]])) := by
  rw [appendConjunct, h]

/-- A schema with one more conjunct. -/
theorem appendConjunct_ok (hs : Conjunctive s) (key value : Value) :
    ∃ xs, appendConjunct s key value = .ok (Entries.put s (.text "allOf") (.list xs)) := by
  cases h : Entries.at? s "allOf" with
  | none => exact ⟨_, appendConjunct_eq_of_none h⟩
  | some v =>
    obtain ⟨xs, rfl⟩ := hs v h
    exact ⟨_, appendConjunct_eq h⟩

theorem mergeKeyword_of_none {n : String} {v : Value} (h : Entries.at? s n = none) :
    mergeKeyword s (.text n) v = .ok (s ++ [(.text n, v)]) := by
  rw [mergeKeyword]
  rw [Entries.at?] at h
  rw [h]

theorem mergeKeyword_of_some {n : String} {v old : Value} (h : Entries.at? s n = some old) :
    mergeKeyword s (.text n) v
      = if old.equals v then .ok s else appendConjunct s (.text n) v := by
  rw [mergeKeyword]
  rw [Entries.at?] at h
  rw [h]

/-- A keyword after a schema that has other names. -/
theorem Named.at?_left {e : Value × Value} (h : Named (s ++ e :: f) K) :
    ∃ n, e.1 = .text n ∧ Entries.at? s n = none := by
  obtain ⟨A, B, hs, hf, hAB, _, _⟩ := h.split
  obtain ⟨n, hn, he, _⟩ := hf.head
  exact ⟨n, he, hs.at?_eq_none fun hA => hAB hA hn⟩

/-- **Schemas without a name in common** are joined by writing one after the other. -/
theorem mergeSchema_apart :
    ∀ {f s : Schema}, Named (s ++ f) K → mergeSchema s f = .ok (s ++ f) := by
  intro f
  induction f with
  | nil => intro s _; rw [List.append_nil]; rfl
  | cons e f ih =>
    intro s h
    obtain ⟨n, v⟩ := e
    obtain ⟨m, hm, hn⟩ := h.at?_left
    dsimp only at hm
    subst hm
    rw [List.append_cons s] at h ⊢
    rw [mergeSchema, List.foldlM_cons, mergeKeyword_of_none hn]
    exact ih h

/-- Joining a keyword keeps the names of a schema, and its conjunction a list. -/
theorem mergeKeyword_named {n : String} {v : Value} (hs : Named s K) (hc : Conjunctive s)
    (hn : n ∈ K) (hall : "allOf" ∈ K) (hv : n ≠ "allOf" ∨ ∃ xs, v = .list xs) :
    ∃ s', mergeKeyword s (.text n) v = .ok s' ∧ Named s' K ∧ Conjunctive s' := by
  cases h : Entries.at? s n with
  | none =>
    refine ⟨_, mergeKeyword_of_none h, ?_, conjunctive_append hc (conjunctive_keyword hv)⟩
    rw [← put_of_none h]
    exact hs.put hn
  | some old =>
    rw [mergeKeyword_of_some h]
    split
    · exact ⟨s, rfl, hs, hc⟩
    · obtain ⟨xs, hxs⟩ := appendConjunct_ok hc (.text n) v
      refine ⟨_, hxs, hs.put hall, fun w hw => ?_⟩
      rw [at?_put_self] at hw
      cases hw
      exact ⟨xs, rfl⟩

/-- Joining keeps the names of a schema, and its conjunction a list. -/
theorem mergeSchema_named : ∀ {f s : Schema}, Named s K → Conjunctive s → Named f K →
    Conjunctive f → "allOf" ∈ K → ∃ s', mergeSchema s f = .ok s' ∧ Named s' K ∧ Conjunctive s' := by
  intro f
  induction f with
  | nil => intro s hs hc _ _ _; exact ⟨s, rfl, hs, hc⟩
  | cons e f ih =>
    intro s hs hc hf hcf hall
    obtain ⟨n, v⟩ := e
    obtain ⟨m, hm, he, hfm⟩ := hf.head
    dsimp only at he
    subst he
    have hv : m ≠ "allOf" ∨ ∃ xs, v = .list xs := by
      by_cases h : m = "allOf"
      · exact .inr (hcf v (by rw [at?_cons, if_pos (by simp [text_equals, h])]))
      · exact .inl h
    obtain ⟨s', hs', hnamed, hconj⟩ := mergeKeyword_named hs hc hm hall hv
    have hcf' : Conjunctive f := by
      intro w hw
      by_cases h : m = "allOf"
      · rw [h, hw] at hfm; cases hfm
      · refine hcf w ?_
        rw [at?_cons, if_neg (by simpa [text_equals] using fun h' => h h'.symm)]
        exact hw
    rw [mergeSchema, List.foldlM_cons, hs']
    exact ih hnamed hconj hf.tail hcf' hall

/-- The joint schema of checks whose schemas have no conjunction of their own. -/
theorem checksSchema_named {checks : List Check} (h : ∀ c ∈ checks, Named c.schema K)
    (hK : "allOf" ∉ K) : ∃ s, Stage.checksSchema checks = .ok s ∧ Named s ("allOf" :: K) ∧
      Conjunctive s := by
  have hfold : ∀ (checks : List Check) (s : Schema), (∀ c ∈ checks, Named c.schema K) →
      Named s ("allOf" :: K) → Conjunctive s →
      ∃ s', checks.foldlM (fun s c => mergeSchema s c.schema) s = .ok s' ∧
        Named s' ("allOf" :: K) ∧ Conjunctive s' := by
    intro checks
    induction checks with
    | nil => intro s _ hs hc; exact ⟨s, rfl, hs, hc⟩
    | cons c checks ih =>
      intro s h hs hc
      have hcheck := h c List.mem_cons_self
      obtain ⟨s', hs', hnamed, hconj⟩ := mergeSchema_named hs hc
        (hcheck.mono (List.subset_cons_self _ _)) (hcheck.conjunctive hK) List.mem_cons_self
      rw [List.foldlM_cons, hs']
      exact ih s' (fun d hd => h d (List.mem_cons_of_mem _ hd)) hnamed hconj
  exact hfold checks [] h named_nil conjunctive_nil

/-- Checks whose schemas have no name in common. -/
theorem checksSchema_apart {checks : List Check}
    (h : Named (checks.map Check.schema).flatten K) :
    Stage.checksSchema checks = .ok (checks.map Check.schema).flatten := by
  have hfold : ∀ (checks : List Check) (s : Schema),
      Named (s ++ (checks.map Check.schema).flatten) K →
      checks.foldlM (fun s c => mergeSchema s c.schema) s
        = .ok (s ++ (checks.map Check.schema).flatten) := by
    intro checks
    induction checks with
    | nil => intro s _; simp; rfl
    | cons c checks ih =>
      intro s h
      rw [List.map_cons, List.flatten_cons, ← List.append_assoc] at h ⊢
      obtain ⟨A, _, hs, _, _, _, _⟩ := h.split
      rw [List.foldlM_cons, mergeSchema_apart hs]
      exact ih _ h
  exact hfold checks [] h

end Schema

/-! ### Joining the fragments of a validator -/

open Schema

variable {K : List String}

/-- The keyword of a fragment that the schema lacks. -/
theorem Joining.keyword_of_none {i : Nat} {j : Joining} {n : String} {v : Value}
    (h : Entries.at? j.schema n = none) :
    j.keyword i (.text n) v
      = .ok ⟨j.schema ++ [(.text n, v)], if n = "allOf" then some i else j.sharer?⟩ := by
  have hmerge := mergeKeyword_of_none (v := v) h
  rw [Joining.keyword, hmerge]
  by_cases hn : n = "allOf"
  · subst hn
    have hopens : (Joining.isConjunction (.text "allOf") &&
        !Entries.hasKey j.schema (.text "allOf")) = true := by
      rw [hasKey_eq, h]; rfl
    rw [hopens, if_pos rfl]
    rfl
  · have hopens : (Joining.isConjunction (.text n) && !Entries.hasKey j.schema (.text "allOf"))
        = false := by
      have : Joining.isConjunction (.text n) = false := by
        rw [Joining.isConjunction, text_equals]
        exact beq_eq_false_iff_ne.mpr hn
      rw [this, Bool.false_and]
    rw [hopens, if_neg hn]
    rfl

/-- The keywords of a fragment that the schema lacks. -/
theorem Joining.keywords_apart {i : Nat} : ∀ {f : Schema} {j : Joining},
    Named (j.schema ++ f) K →
      f.foldlM (fun j e => j.keyword i e.1 e.2) j
        = .ok ⟨j.schema ++ f, if (Entries.at? f "allOf").isSome then some i else j.sharer?⟩ := by
  intro f
  induction f with
  | nil => intro j _; simp; rfl
  | cons e f ih =>
    intro j h
    obtain ⟨n, v⟩ := e
    obtain ⟨m, hm, hn⟩ := h.at?_left
    dsimp only at hm
    subst hm
    rw [List.append_cons j.schema] at h ⊢
    rw [List.foldlM_cons, Joining.keyword_of_none hn]
    refine (ih (j := ⟨j.schema ++ [(.text m, v)], _⟩) h).trans ?_
    rw [at?_cons, text_equals]
    by_cases hm : m = "allOf"
    · rw [if_pos hm, hm]
      split <;> rfl
    · have hm' : ("allOf" == m) = false := beq_eq_false_iff_ne.mpr fun h => hm h.symm
      rw [if_neg hm, hm', if_neg Bool.false_ne_true]

/-- Fragments without a name in common, one after the other.  The schema shares the conjunction
of the fragment that has one, if any does. -/
theorem Joining.fragments_apart : ∀ {fs : List Schema} {i : Nat} {j : Joining},
    Named (j.schema ++ fs.flatten) K →
      ∃ sharer?, Joining.fragments i j fs = .ok ⟨j.schema ++ fs.flatten, sharer?⟩ ∧
        (Entries.at? fs.flatten "allOf" = none ∧ sharer? = j.sharer? ∨
          ∃ m f v, sharer? = some (i + m) ∧ fs[m]? = some f ∧ Entries.at? f "allOf" = some v ∧
            Entries.at? fs.flatten "allOf" = some v) := by
  intro fs
  induction fs with
  | nil =>
    intro i j _
    refine ⟨j.sharer?, ?_, .inl ⟨rfl, rfl⟩⟩
    rw [List.flatten_nil, List.append_nil]
    rfl
  | cons f fs ih =>
    intro i j h
    rw [List.flatten_cons, ← List.append_assoc] at h
    obtain ⟨A, _, hjf, _, _, _, _⟩ := h.split
    obtain ⟨sharer?, hrun, hsharer⟩ := ih (i := i + 1) (j := ⟨j.schema ++ f, _⟩) h
    rw [List.flatten_cons, at?_append, ← List.append_assoc]
    refine ⟨sharer?, ?_, ?_⟩
    · rw [Joining.fragments, Joining.keywords_apart hjf]
      exact hrun
    · rcases hsharer with ⟨hnone, hsharer⟩ | ⟨m, g, v, hm, hg, hgv, hat⟩
      · cases hf : Entries.at? f "allOf" with
        | none =>
          rw [hf] at hsharer
          exact .inl ⟨hnone, hsharer⟩
        | some v =>
          rw [hf] at hsharer
          exact .inr ⟨0, f, v, hsharer, rfl, hf, rfl⟩
      · have hf : Entries.at? f "allOf" = none := by
          rw [List.append_assoc] at h
          obtain ⟨_, _, _, hrest, _, _, _⟩ := h.split
          exact hrest.at?_of_right hat
        refine .inr ⟨m + 1, g, v, ?_, hg, hgv, ?_⟩
        · rw [hm, Nat.add_assoc, Nat.add_comm 1]
        · rw [hf, hat]
          rfl

/-- The fragments of a whole schema. -/
theorem Joining.all_apart {fs : List Schema} (h : Named fs.flatten K) :
    ∃ sharer?, Joining.fragments 0 ⟨[], none⟩ fs = .ok ⟨fs.flatten, sharer?⟩ ∧
      (Entries.at? fs.flatten "allOf" = none ∧ sharer? = none ∨
        ∃ m f v, sharer? = some m ∧ fs[m]? = some f ∧ Entries.at? f "allOf" = some v ∧
          Entries.at? fs.flatten "allOf" = some v) := by
  obtain ⟨sharer?, hrun, hsharer⟩ := Joining.fragments_apart (i := 0) (j := ⟨[], none⟩) h
  simp only [Nat.zero_add] at hsharer
  exact ⟨sharer?, hrun, hsharer⟩

theorem modify_of_eq {α : Type} {xs : List α} {m : Nat} {x : α} {g : α → α}
    (hx : xs[m]? = some x) (hg : g x = x) : xs.modify m g = xs := by
  apply List.ext_getElem?
  intro i
  rw [List.getElem?_modify]
  by_cases hi : m = i
  · subst hi
    rw [hx, Option.map_eq_map, Option.map_some, if_pos rfl, hg]
  · rw [Option.map_eq_map]
    simp [hi]

/-- There are as many fragments after a joining. -/
theorem joinFragments_length {fs gs : List Schema} {s : Schema}
    (h : joinFragments fs = .ok (s, gs)) : gs.length = fs.length := by
  rw [joinFragments] at h
  cases hrun : Joining.fragments 0 ⟨[], none⟩ fs with
  | error f => rw [hrun] at h; cases h
  | ok j =>
    rw [hrun] at h
    dsimp only [bind, Except.bind] at h
    split at h
    · cases h
      exact List.length_modify _ _ _
    · cases h
      rfl

/-- **Fragments without a name in common** are joined by writing one after the other, and stay
as they are. -/
theorem joinFragments_apart {fs : List Schema} (h : Named fs.flatten K) :
    joinFragments fs = .ok (fs.flatten, fs) := by
  obtain ⟨sharer?, hrun, hsharer⟩ := Joining.all_apart h
  rw [joinFragments, hrun]
  dsimp only [bind, Except.bind]
  rcases hsharer with ⟨_, rfl⟩ | ⟨m, f, v, rfl, hf, hv, hat⟩
  · rfl
  · rw [hat]
    show Except.ok (fs.flatten, fs.modify m _) = _
    rw [modify_of_eq hf (put_of_at? hv)]

/-! ### What stays -/

/-- Joining loses no keyword. -/
theorem Schema.mergeKeyword_keeps {s s' : Schema} {key v : Value} {n : String}
    (h : mergeKeyword s key v = .ok s') (hn : (Entries.at? s n).isSome) :
    (Entries.at? s' n).isSome := by
  have hput : ∀ w, (Entries.at? (Entries.put s (.text "allOf") w) n).isSome := by
    intro w
    by_cases hall : n = "allOf"
    · rw [hall, at?_put_self]; rfl
    · rw [at?_put_of_ne (Ne.symm hall)]; exact hn
  rw [mergeKeyword] at h
  split at h
  · cases h
    rw [at?_append, Option.isSome_or, hn, Bool.true_or]
  · split at h
    · cases h; exact hn
    · rw [appendConjunct] at h
      split at h
      · cases h; exact hput _
      · cases h; exact hput _
      · cases h

/-- A key under which a text is found has no other name. -/
theorem text_equals_trans {n : String} {k x : Value} (hk : (Value.text n).equals k = true)
    (hx : k.equals x = true) : (Value.text n).equals x = true := by
  cases k with
  | text m =>
    obtain rfl : n = m := by simpa [text_equals] using hk
    exact hx
  | tag t =>
    obtain rfl : n = t.name := by simpa [Value.equals] using hk
    cases x with
    | text m => exact hx
    | tag u =>
      obtain rfl : t = u := by simpa [Value.equals] using hx
      exact hk
    | _ => cases hx
  | _ => cases hk

/-- A keyword other than the conjunction is the first of its name. -/
theorem Schema.mergeKeyword_at? {s s' : Schema} {key v : Value} {n : String} (hn : n ≠ "allOf")
    (h : mergeKeyword s key v = .ok s') :
    Entries.at? s' n = (Entries.at? s n).or (Entries.at? [(key, v)] n) := by
  have hput : ∀ w, Entries.at? (Entries.put s (.text "allOf") w) n = Entries.at? s n :=
    fun w => at?_put_of_ne (Ne.symm hn)
  rw [mergeKeyword] at h
  cases hfind : Entries.find? s key with
  | none =>
    rw [hfind] at h
    cases h
    exact at?_append
  | some old =>
    rw [hfind] at h
    have hs' : Entries.at? s' n = Entries.at? s n := by
      dsimp only at h
      split at h
      · cases h
        rfl
      · rw [appendConjunct] at h
        split at h
        · cases h
          exact hput _
        · cases h
          exact hput _
        · cases h
    rw [hs', at?_cons]
    -- a name that the key has is one that the schema has
    split
    · next hkey =>
      have hfound : (Entries.at? s n).isSome := by
        obtain ⟨e, he, -⟩ := Option.map_eq_some_iff.mp hfind
        have hequals : key.equals e.1 = true := by simpa using List.find?_some he
        rw [← hasKey_eq]
        exact List.any_eq_true.mpr
          ⟨e, List.mem_of_find?_eq_some he, text_equals_trans hkey hequals⟩
      rw [Option.or_of_isSome hfound]
    · rw [at?_nil, Option.or_none]

theorem Joining.keywords_keep {i : Nat} {n : String} : ∀ {f : Schema} {j j' : Joining},
    f.foldlM (fun j e => j.keyword i e.1 e.2) j = .ok j' → (Entries.at? j.schema n).isSome →
      (Entries.at? j'.schema n).isSome := by
  intro f
  induction f with
  | nil => intro j j' h hn; cases h; exact hn
  | cons e f ih =>
    intro j j' h hn
    rw [List.foldlM_cons] at h
    cases hm : mergeKeyword j.schema e.1 e.2 with
    | error e => rw [Joining.keyword, hm] at h; cases h
    | ok s =>
      rw [Joining.keyword, hm] at h
      exact ih h (mergeKeyword_keeps hm hn)

theorem Joining.fragments_keep {n : String} : ∀ {fs : List Schema} {i : Nat} {j j' : Joining},
    Joining.fragments i j fs = .ok j' → (Entries.at? j.schema n).isSome →
      (Entries.at? j'.schema n).isSome := by
  intro fs
  induction fs with
  | nil => intro i j j' h hn; cases h; exact hn
  | cons f fs ih =>
    intro i j j' h hn
    rw [Joining.fragments] at h
    cases hf : f.foldlM (fun j e => j.keyword i e.1 e.2) j with
    | error e => rw [hf] at h; cases h
    | ok j₁ =>
      rw [hf] at h
      exact ih h (Joining.keywords_keep hf hn)

/-! ### Clashes -/

/-- The joint schema of checks is joined of all their keywords. -/
theorem Schema.checksSchema_flatten (checks : List Check) :
    Stage.checksSchema checks = mergeSchema [] (checks.map Check.schema).flatten := by
  have hfold : ∀ (checks : List Check) (s : Schema),
      checks.foldlM (fun s c => mergeSchema s c.schema) s
        = mergeSchema s (checks.map Check.schema).flatten := by
    intro checks
    induction checks with
    | nil => intro s; rfl
    | cons c checks ih =>
      intro s
      rw [List.foldlM_cons, List.map_cons, List.flatten_cons, mergeSchema, mergeSchema,
        List.foldlM_append]
      exact congrArg _ (funext ih)
  exact hfold checks []

/-- The keywords of a fragment that a schema has with another value, one by one. -/
def Schema.clashing (s f : Schema) : List Value :=
  f.filterMap fun e => match Entries.find? s e.1 with
    | some old => if old.equals e.2 then none else some (.mapping [e])
    | none => none

theorem Schema.clashing_nil (s : Schema) : clashing s [] = [] := rfl

theorem Schema.clashing_cons {s f : Schema} {n : String} {v : Value} :
    clashing s ((.text n, v) :: f)
      = (match Entries.at? s n with
        | some old => if old.equals v then [] else [.mapping [(.text n, v)]]
        | none => []) ++ clashing s f := by
  have hat : Entries.find? s (.text n) = Entries.at? s n := rfl
  rw [clashing, clashing, List.filterMap_cons]
  dsimp only
  rw [hat]
  cases Entries.at? s n with
  | none => rfl
  | some old =>
    dsimp only
    cases old.equals v <;> rfl

/-- Clashes depend on the keywords with the names of the fragment alone. -/
theorem Schema.clashing_congr {s s' : Schema} : ∀ {f : Schema}, Named f K →
    (∀ n, (Entries.at? f n).isSome → Entries.at? s n = Entries.at? s' n) →
    clashing s f = clashing s' f := by
  intro f
  induction f with
  | nil => intro _ _; rfl
  | cons e f ih =>
    intro hf h
    obtain ⟨n, v⟩ := e
    obtain ⟨m, _, hm, hn⟩ := hf.head
    dsimp only at hm
    subst hm
    have hhead : Entries.at? s m = Entries.at? s' m := by
      refine h m ?_
      rw [at?_cons, if_pos (by simp [text_equals])]
      rfl
    rw [clashing_cons, clashing_cons, hhead, ih hf.tail fun l hl => h l ?_]
    rw [at?_cons]
    split
    · rfl
    · exact hl

/-- If a schema has one name of a fragment alone, then that keyword alone may clash. -/
theorem Schema.clashing_at {s : Schema} {n : String} : ∀ {f : Schema}, Named f K →
    (∀ m ∈ K, m ≠ n → Entries.at? s m = none) →
    clashing s f = (match Entries.at? s n, Entries.at? f n with
      | some old, some v => if old.equals v then [] else [.mapping [(.text n, v)]]
      | _, _ => []) := by
  intro f
  induction f with
  | nil => intro _ _; cases Entries.at? s n <;> rfl
  | cons e f ih =>
    intro hf hs
    obtain ⟨m, v⟩ := e
    obtain ⟨l, hl, hm, hfl⟩ := hf.head
    dsimp only at hm
    subst hm
    rw [clashing_cons, ih hf.tail hs, at?_cons, text_equals]
    by_cases hln : l = n
    · subst hln
      rw [hfl, if_pos (beq_self_eq_true l)]
      cases Entries.at? s l <;> simp
    · rw [hs l hl hln, beq_eq_false_iff_ne.mpr (Ne.symm hln), if_neg Bool.false_ne_true]
      rfl

/-- Nothing clashes within a schema in which all values under a name equal the first. -/
theorem Schema.clashing_self_eq_nil {f : Schema} (hf : ∀ e ∈ f, ∃ n, e.1 = .text n) :
    clashing f f = [] ↔
      ∀ n old, Entries.at? f n = some old → ∀ v ∈ allAt f n, old.equals v = true := by
  rw [clashing, List.filterMap_eq_nil_iff]
  constructor
  · intro h n old hold v hv
    obtain ⟨e, he, hev⟩ := List.mem_filterMap.mp hv
    obtain ⟨m, hm⟩ := hf e he
    split at hev
    · next hn =>
      cases hev
      rw [hm, text_equals, beq_iff_eq] at hn
      subst hn
      have he := h e he
      rw [hm] at he
      change (match Entries.at? f n with | some old => _ | none => _) = none at he
      rw [hold] at he
      dsimp only at he
      by_contra hne
      rw [if_neg hne] at he
      cases he
    · cases hev
  · intro h e he
    obtain ⟨m, hm⟩ := hf e he
    have hv : e.2 ∈ allAt f m :=
      List.mem_filterMap.mpr ⟨e, he, if_pos (by rw [hm, text_equals, beq_self_eq_true])⟩
    rw [hm]
    change (match Entries.at? f m with | some old => _ | none => _) = none
    cases hold : Entries.at? f m with
    | none => rfl
    | some old => exact if_pos (h m old hold e.2 hv)

/-- A conjunction with some more conjuncts, if there are some. -/
def extended (conjuncts? : Option (List Value)) (more : List Value) : Option (List Value) :=
  if more.isEmpty then conjuncts? else some (conjuncts?.getD [] ++ more)

theorem extended_some (xs ys : List Value) : extended (some xs) ys = some (xs ++ ys) := by
  cases ys <;> simp [extended]

theorem extended_extended (o : Option (List Value)) (xs ys : List Value) :
    extended (extended o xs) ys = extended o (xs ++ ys) := by
  cases xs <;> cases ys <;> simp [extended]

theorem Schema.appendConjunct_extended {s : Schema} {o : Option (List Value)} (key value : Value)
    (h : Entries.at? s "allOf" = o.map .list) :
    ∃ s', appendConjunct s key value = .ok s' ∧
      Entries.at? s' "allOf" = (extended o [.mapping [(key, value)]]).map .list ∧
      ∀ n, n ≠ "allOf" → Entries.at? s' n = Entries.at? s n := by
  cases o with
  | none =>
    exact ⟨_, appendConjunct_eq_of_none h, at?_put_self, fun n hn => at?_put_of_ne hn.symm⟩
  | some xs =>
    exact ⟨_, appendConjunct_eq h, at?_put_self, fun n hn => at?_put_of_ne hn.symm⟩

/-- One keyword that is no conjunction. -/
theorem Schema.mergeKeyword_clash {s : Schema} {o : Option (List Value)} {n : String} {v : Value}
    (hn : n ≠ "allOf") (ho : Entries.at? s "allOf" = o.map .list) :
    ∃ s', mergeKeyword s (.text n) v = .ok s' ∧
      Entries.at? s' "allOf" = (extended o (clashing s [(.text n, v)])).map .list ∧
      ∀ m, m ≠ "allOf" → Entries.at? s' m = Entries.at? (s ++ [(.text n, v)]) m := by
  rw [clashing_cons, clashing_nil, List.append_nil]
  cases h : Entries.at? s n with
  | none =>
    refine ⟨s ++ [(.text n, v)], mergeKeyword_of_none h, ?_, fun _ _ => rfl⟩
    rw [at?_append, ho, at?_cons, text_equals, beq_eq_false_iff_ne.mpr hn.symm]
    cases o <;> rfl
  | some old =>
    -- nothing is found under the second of two equal names
    have hsame : ∀ m, Entries.at? (s ++ [(.text n, v)]) m = Entries.at? s m := by
      intro m
      rw [at?_append, at?_cons, text_equals]
      by_cases hm : m = n
      · rw [hm, h, Option.some_or]
      · rw [beq_eq_false_iff_ne.mpr hm]
        exact Option.or_none
    rw [mergeKeyword_of_some h]
    dsimp only
    split
    · exact ⟨s, rfl, ho, fun m _ => (hsame m).symm⟩
    · obtain ⟨s', hs', hconj, hother⟩ := appendConjunct_extended (.text n) v ho
      exact ⟨s', hs', hconj, fun m hm => (hother m hm).trans (hsame m).symm⟩

/-- Keywords that are no conjunction, some of which may have the same name.  Each name keeps its
first value, and the others are clashes. -/
theorem Schema.mergeSchema_clash : ∀ {f s p : Schema} {o : Option (List Value)},
    (∀ e ∈ f, ∃ n v, e = (.text n, v) ∧ n ≠ "allOf" ∧ v.equals v = true) →
    (∀ n, n ≠ "allOf" → Entries.at? s n = Entries.at? p n) →
    Entries.at? s "allOf" = o.map .list →
    ∃ s', mergeSchema s f = .ok s' ∧
      (∀ n, n ≠ "allOf" → Entries.at? s' n = Entries.at? (p ++ f) n) ∧
      Entries.at? s' "allOf" = (extended o (clashing (p ++ f) f)).map .list := by
  intro f
  induction f with
  | nil =>
    intro s p o _ hs ho
    exact ⟨s, rfl, by rwa [List.append_nil], ho⟩
  | cons e f ih =>
    intro s p o hf hs ho
    obtain ⟨n, v, rfl, hn, hv⟩ := hf e List.mem_cons_self
    obtain ⟨s₁, hs₁, hconj, hother⟩ := mergeKeyword_clash (v := v) hn ho
    obtain ⟨s₂, hs₂, hnames, hconj₂⟩ := ih (p := p ++ [(.text n, v)])
      (fun e he => hf e (List.mem_cons_of_mem _ he))
      (fun m hm => by rw [hother m hm, at?_append, at?_append, hs m hm]) hconj
    rw [List.append_assoc, List.singleton_append] at hnames hconj₂
    refine ⟨s₂, ?_, hnames, ?_⟩
    · rw [mergeSchema, List.foldlM_cons, hs₁]
      exact hs₂
    · rw [hconj₂, extended_extended]
      congr 2
      rw [clashing_cons, clashing_cons, clashing_nil, List.append_nil, hs n hn, at?_append,
        at?_cons, if_pos (by rw [text_equals, beq_self_eq_true])]
      cases Entries.at? p n with
      | some old => rfl
      | none =>
        show [] ++ _ = (if v.equals v then [] else _) ++ _
        rw [hv, if_pos rfl]

/-- One keyword that is no conjunction, of a fragment that is joined. -/
theorem Joining.keyword_clash {i : Nat} {j : Joining} {o : Option (List Value)} {n : String}
    {v : Value} (hn : n ≠ "allOf") (ho : Entries.at? j.schema "allOf" = o.map .list) :
    ∃ s', j.keyword i (.text n) v = .ok ⟨s', j.sharer?⟩ ∧
      Entries.at? s' "allOf" = (extended o (clashing j.schema [(.text n, v)])).map .list ∧
      ∀ m, m ≠ n → m ≠ "allOf" → Entries.at? s' m = Entries.at? j.schema m := by
  obtain ⟨s', hs', hconj, hother⟩ := mergeKeyword_clash (v := v) hn ho
  have hopens : Joining.isConjunction (.text n) = false := by
    rw [Joining.isConjunction, text_equals]
    exact beq_eq_false_iff_ne.mpr hn
  refine ⟨s', by rw [Joining.keyword, hs', hopens]; rfl, hconj, fun m hm hall => ?_⟩
  rw [hother m hall, at?_append, at?_cons, text_equals, beq_eq_false_iff_ne.mpr hm]
  exact Option.or_none

/-- **What a fragment without a conjunction adds** to that of the schema: each of its keywords
that the schema has with another value. -/
theorem Joining.keywords_clash {i : Nat} : ∀ {f : Schema} {j : Joining}
    {o : Option (List Value)}, Named f K → "allOf" ∉ K →
      Entries.at? j.schema "allOf" = o.map .list →
      ∃ s', f.foldlM (fun j e => j.keyword i e.1 e.2) j = .ok ⟨s', j.sharer?⟩ ∧
        Entries.at? s' "allOf" = (extended o (clashing j.schema f)).map .list := by
  intro f
  induction f with
  | nil => intro j o _ _ ho; exact ⟨j.schema, rfl, ho⟩
  | cons e f ih =>
    intro j o hf hK ho
    obtain ⟨n, v⟩ := e
    obtain ⟨m, hmK, hm, hfm⟩ := hf.head
    dsimp only at hm
    subst hm
    have hall : m ≠ "allOf" := fun h => hK (h ▸ hmK)
    obtain ⟨s₁, hs₁, hconj, hother⟩ := Joining.keyword_clash (i := i) (v := v) hall ho
    obtain ⟨s₂, hs₂, hconj₂⟩ := ih (j := ⟨s₁, j.sharer?⟩) hf.tail hK hconj
    have hcongr : clashing s₁ f = clashing j.schema f := by
      refine clashing_congr hf.tail fun l hl => hother l ?_ ?_
      · rintro rfl
        rw [hfm] at hl
        cases hl
      · rintro rfl
        rw [hf.tail.at?_eq_none hK] at hl
        cases hl
    refine ⟨s₂, ?_, ?_⟩
    · rw [List.foldlM_cons]
      show (j.keyword i (.text m) v >>= _) = _
      rw [hs₁]
      exact hs₂
    · rw [hconj₂, hcongr, extended_extended, clashing_cons (f := f), clashing_cons (f := []),
        clashing_nil, List.append_nil]

end RuleSchema
