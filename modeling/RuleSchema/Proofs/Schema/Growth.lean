import RuleSchema.Proofs.Schema.Joining

/-!
# Conjunctions that grow

A joined schema shares the conjunction of the fragment that brought one.  What a later
fragment adds to the conjunction is then in the earlier one as well, and the next joining
starts from there.

* `Shares fs m xs more s`: the schema `s` that is joined of `fs` has the conjunction `xs`
  of the fragment with number `m`, and `more` is added to both.
* `Layout` describes fragments of which the last one alone may clash with others.
* `Layout.shares` and `Layout.join_of_none`: what is joined of them, and what is added to
  which fragment.
* `Layout.grows`: what is added once is added again by the next joining.
-/

namespace RuleSchema

open Schema

variable {K L : List String}

/-- The conjunction of a schema with the name of the keyword, if there is one. -/
def conjunction : Option (List Value) → Schema
  | none => []
  | some zs => keyword "allOf" (.list zs)

/-- The number of the fragment whose conjunction the joint schema shares. -/
def sharer? (fs : List Schema) : Option Nat :=
  match Joining.fragments 0 ⟨[], none⟩ fs with
  | .ok j => j.sharer?
  | .error _ => none

/-- The schema `s` that is joined of some fragments shares the conjunction `xs` of the one with
number `m`, and has `more` added to it. -/
structure Shares (fs : List Schema) (m : Nat) (xs more : List Value) (s : Schema) : Prop where
  before : (fs[m]?).bind (Entries.at? · "allOf") = some (.list xs)
  after : Entries.at? s "allOf" = some (.list (xs ++ more))
  joined : Joining.fragments 0 ⟨[], none⟩ fs = .ok ⟨s, some m⟩

/-- A fragment with another conjunction. -/
def putConjunction (xs : List Value) (f : Schema) : Schema :=
  Entries.put f (.text "allOf") (.list xs)

namespace Shares

variable {fs : List Schema} {m : Nat} {xs more : List Value} {s : Schema}

/-- What is added to the schema is added to the fragment as well. -/
theorem join (h : Shares fs m xs more s) :
    joinFragments fs = .ok (s, fs.modify m (putConjunction (xs ++ more))) := by
  rw [joinFragments, h.joined]
  dsimp only [bind, Except.bind]
  rw [h.after]
  rfl

/-- Where nothing is added the fragments stay as they are. -/
theorem unchanged (h : Shares fs m xs [] s) : joinFragments fs = .ok (s, fs) := by
  obtain ⟨g, hg, hxs⟩ := Option.bind_eq_some_iff.mp h.before
  rw [h.join, List.append_nil, modify_of_eq hg (put_of_at? hxs)]

end Shares

/-- Two conjunctions that differ in their first conjuncts. -/
def DifferFirst (xs zs : List Value) : Prop :=
  ∃ x xs', xs = x :: xs' ∧ ∀ z, zs.head? = some z → x.equals z = false

theorem DifferFirst.append {xs zs : List Value} (h : DifferFirst xs zs) (ys : List Value) :
    DifferFirst (xs ++ ys) zs := by
  obtain ⟨x, xs', rfl, hx⟩ := h
  exact ⟨x, xs' ++ ys, rfl, hx⟩

theorem DifferFirst.not_equal {xs zs : List Value} (h : DifferFirst xs zs) :
    (Value.list xs).equals (.list zs) = false := by
  obtain ⟨x, xs', rfl, hx⟩ := h
  cases zs with
  | nil => rfl
  | cons z zs =>
    show (x.equals z && Value.equalsAll xs' zs) = false
    rw [hx z rfl, Bool.false_and]

/-- Fragments without a name in common, and a last one after them that may clash with them: its
conjunction, if it has one, and the rest of it. -/
structure Layout (pre : List Schema) (zs? : Option (List Value)) (rest : Schema)
    (o : Option (List Value)) : Prop where
  names : ∃ K, Named pre.flatten K
  conjunction : Entries.at? pre.flatten "allOf" = o.map .list
  rest : ∃ L, Named rest L ∧ "allOf" ∉ L
  differ : ∀ xs zs, o = some xs → zs? = some zs → DifferFirst xs zs

/-- Joining fragments one list after the other. -/
theorem Joining.fragments_append : ∀ {fs gs : List Schema} {i : Nat} {j : Joining},
    Joining.fragments i j (fs ++ gs)
      = (Joining.fragments i j fs).bind fun j => Joining.fragments (i + fs.length) j gs := by
  intro fs
  induction fs with
  | nil => intro gs i j; rfl
  | cons f fs ih =>
    intro gs i j
    rw [List.cons_append, Joining.fragments, Joining.fragments]
    cases f.foldlM (fun j e => j.keyword i e.1 e.2) j with
    | error e => rfl
    | ok j' =>
      show Joining.fragments (i + 1) j' (fs ++ gs) = (Joining.fragments (i + 1) j' fs).bind _
      rw [ih, List.length_cons, Nat.add_assoc, Nat.add_comm 1]

/-- A keyword of the fragments without a clash is one of the joint schema. -/
theorem joinFragments_keeps {pre fs : List Schema} {f s : Schema} {K : List String} {n : String}
    (hpre : Named pre.flatten K) (hn : (Entries.at? pre.flatten n).isSome)
    (h : joinFragments (pre ++ [f]) = .ok (s, fs)) : (Entries.at? s n).isSome := by
  obtain ⟨sharer?, hrun, _⟩ := Joining.all_apart hpre
  cases hj : Joining.fragments 0 ⟨[], none⟩ (pre ++ [f]) with
  | error e => rw [joinFragments, hj] at h; cases h
  | ok j =>
    have hschema : s = j.schema := by
      rw [joinFragments, hj] at h
      dsimp only [bind, Except.bind] at h
      split at h <;> cases h <;> rfl
    rw [Joining.fragments_append, hrun] at hj
    rw [hschema]
    exact Joining.fragments_keep (j := ⟨pre.flatten, sharer?⟩) hj hn

/-- One fragment after others. -/
theorem Joining.fragments_last {pre : List Schema} {f : Schema} {j j' : Joining}
    (hpre : Joining.fragments 0 ⟨[], none⟩ pre = .ok j)
    (hf : f.foldlM (fun j e => j.keyword pre.length e.1 e.2) j = .ok j') :
    Joining.fragments 0 ⟨[], none⟩ (pre ++ [f]) = .ok j' := by
  rw [Joining.fragments_append, hpre]
  show Joining.fragments (0 + pre.length) j [f] = _
  rw [Nat.zero_add, Joining.fragments, hf]
  rfl

theorem joinFragments_of_none {fs : List Schema} {s : Schema}
    (h : Joining.fragments 0 ⟨[], none⟩ fs = .ok ⟨s, none⟩) : joinFragments fs = .ok (s, fs) := by
  rw [joinFragments, h]
  rfl

/-- A keyword put into the fragment that has it is put into all fragments together. -/
theorem flatten_modify {n : String} {v w : Value} : ∀ {fs : List Schema} {m : Nat} {g : Schema}
    {K : List String}, Named fs.flatten K → fs[m]? = some g → Entries.at? g n = some v →
      Entries.at? fs.flatten n = some v ∧
        (fs.modify m fun f => Entries.put f (.text n) w).flatten
          = Entries.put fs.flatten (.text n) w := by
  intro fs
  induction fs with
  | nil => intro m g K _ hg; cases hg
  | cons f fs ih =>
    intro m g K hnames hg hv
    rw [List.flatten_cons] at hnames ⊢
    cases m with
    | zero =>
      cases hg
      rw [List.modify_zero_cons, List.flatten_cons, put_append_of_some hv, at?_append, hv]
      exact ⟨rfl, rfl⟩
    | succ m =>
      obtain ⟨_, _, _, hfs, _, _, _⟩ := hnames.split
      rw [List.getElem?_cons_succ] at hg
      obtain ⟨hat, hflat⟩ := ih hfs hg hv
      have hf := hnames.at?_of_right hat
      rw [List.modify_succ_cons, List.flatten_cons, hflat, put_append_of_none hf, at?_append, hf,
        hat]
      exact ⟨rfl, rfl⟩

/-- A keyword stands in one fragment alone. -/
theorem fragment_unique {n : String} : ∀ {fs : List Schema} {m l : Nat} {v w : Value},
    Named fs.flatten K → (fs[m]?).bind (Entries.at? · n) = some v →
      (fs[l]?).bind (Entries.at? · n) = some w → m = l := by
  have hflatten : ∀ {fs : List Schema} {m : Nat} {v : Value}, Named fs.flatten K →
      (fs[m]?).bind (Entries.at? · n) = some v → Entries.at? fs.flatten n = some v := by
    intro fs m v hnames hv
    obtain ⟨g, hg, hv⟩ := Option.bind_eq_some_iff.mp hv
    exact (flatten_modify (w := v) hnames hg hv).1
  intro fs
  induction fs with
  | nil => intro m l v w _ hv; cases hv
  | cons f fs ih =>
    intro m l v w hnames hv hw
    have hboth : ∀ {k : Nat} {x y : Value}, Entries.at? f n = some x →
        (fs[k]?).bind (Entries.at? · n) = some y → False := by
      intro k x y hx hy
      obtain ⟨_, _, _, hfs, _, _, hsub⟩ := hnames.split
      have hy := hflatten (hfs.mono hsub) hy
      rw [List.flatten_cons] at hnames
      rw [hnames.at?_of_right hy] at hx
      cases hx
    cases m with
    | zero =>
      cases l with
      | zero => rfl
      | succ l => exact (hboth hv hw).elim
    | succ m =>
      cases l with
      | zero => exact (hboth hw hv).elim
      | succ l =>
        obtain ⟨_, _, _, hfs, _, _, hsub⟩ := hnames.split
        exact congrArg _ (ih (hfs.mono hsub) hv hw)

theorem modify_append_left {α : Type} {g : α → α} {ys : List α} : ∀ {xs : List α} {m : Nat},
    m < xs.length → (xs ++ ys).modify m g = xs.modify m g ++ ys := by
  intro xs
  induction xs with
  | nil => intro m h; cases h
  | cons x xs ih =>
    intro m h
    cases m with
    | zero => rfl
    | succ m =>
      rw [List.cons_append, List.modify_succ_cons, List.modify_succ_cons,
        ih (Nat.lt_of_succ_lt_succ h)]
      rfl

theorem modify_last {α : Type} {g : α → α} {y : α} : ∀ {xs : List α},
    (xs ++ [y]).modify xs.length g = xs ++ [g y] := by
  intro xs
  induction xs with
  | nil => rfl
  | cons x xs ih => rw [List.cons_append, List.length_cons, List.modify_succ_cons, ih]; rfl

namespace Layout

variable {pre : List Schema} {zs? o : Option (List Value)} {rest : Schema}

/-- The fragments. -/
def fragments (pre : List Schema) (zs? : Option (List Value)) (rest : Schema) : List Schema :=
  pre ++ [RuleSchema.conjunction zs? ++ rest]

/-- What clashes: a conjunction with one that is there already, and the keywords that are. -/
def added (pre : List Schema) (zs? : Option (List Value)) (rest : Schema)
    (o : Option (List Value)) : List Value :=
  (match o, zs? with
    | some _, some zs => [.mapping (keyword "allOf" (.list zs))]
    | _, _ => []) ++ clashing pre.flatten rest

/-- The number of the fragment whose conjunction is shared, if one is. -/
def SharedAt (pre : List Schema) (zs? o : Option (List Value)) (m : Nat) : Prop :=
  match o with
  | some xs => (pre[m]?).bind (Entries.at? · "allOf") = some (.list xs)
  | none => zs? ≠ none ∧ m = pre.length

/-- The conjunction that is shared, if one is. -/
def shared (zs? o : Option (List Value)) : List Value := (o.or zs?).getD []

/-- The clashes with a rest that has no conjunction do not depend on the one that is there. -/
theorem clashing_eq (h : Layout pre zs? rest o) {s : Schema}
    (hs : ∀ n, n ≠ "allOf" → Entries.at? s n = Entries.at? pre.flatten n) :
    clashing s rest = clashing pre.flatten rest := by
  obtain ⟨L, hrest, hL⟩ := h.rest
  refine clashing_congr hrest fun n hn => hs n ?_
  rintro rfl
  rw [hrest.at?_eq_none hL] at hn
  cases hn

/-- Fragments without a conjunction before the clashes share nothing. -/
theorem join_of_none (h : Layout pre none rest none) :
    ∃ s, joinFragments (fragments pre none rest) = .ok (s, fragments pre none rest) := by
  obtain ⟨K, hnames⟩ := h.names
  obtain ⟨L, hrest, hL⟩ := h.rest
  obtain ⟨sharer?, hpre, hsharer⟩ := Joining.all_apart hnames
  have hconj := h.conjunction
  obtain rfl : sharer? = none := by
    rcases hsharer with h | ⟨_, _, _, _, _, _, hat⟩
    · exact h.2
    · rw [hconj] at hat; cases hat
  obtain ⟨s, hs, _⟩ := Joining.keywords_clash (i := pre.length) (j := ⟨pre.flatten, none⟩)
    hrest hL hconj
  exact ⟨s, joinFragments_of_none (Joining.fragments_last hpre hs)⟩

/-- A conjunction of the last fragment is shared if there is none before. -/
theorem shares_last {zs : List Value} (h : Layout pre (some zs) rest none) :
    ∃ s, Shares (fragments pre (some zs) rest) pre.length zs (added pre (some zs) rest none) s := by
  obtain ⟨K, hnames⟩ := h.names
  obtain ⟨L, hrest, hL⟩ := h.rest
  obtain ⟨sharer?, hpre, _⟩ := Joining.all_apart hnames
  have hconj := h.conjunction
  have hkeyword := Joining.keyword_of_none (i := pre.length) (j := ⟨pre.flatten, sharer?⟩)
    (n := "allOf") (v := .list zs) hconj
  obtain ⟨s, hs, hat⟩ := Joining.keywords_clash (i := pre.length)
    (j := ⟨pre.flatten ++ [(.text "allOf", .list zs)], some pre.length⟩) (o := some zs) hrest hL
    (by rw [at?_append, hconj]; rfl)
  rw [h.clashing_eq fun n hn => by
    rw [at?_append, at?_cons, text_equals, beq_eq_false_iff_ne.mpr hn]
    cases Entries.at? pre.flatten n <;> rfl, extended_some] at hat
  refine ⟨s, ?_, hat, Joining.fragments_last hpre ?_⟩
  · rw [fragments, List.getElem?_concat_length]
    rfl
  · show (Joining.keyword _ _ _ _ >>= _) = _
    rw [hkeyword]
    exact hs

/-- A conjunction before the last fragment is shared. -/
theorem shares_pre {xs : List Value} {m : Nat} (h : Layout pre zs? rest (some xs))
    (hm : SharedAt pre zs? (some xs) m) :
    ∃ s, Shares (fragments pre zs? rest) m xs (added pre zs? rest (some xs)) s := by
  obtain ⟨K, hnames⟩ := h.names
  obtain ⟨L, hrest, hL⟩ := h.rest
  obtain ⟨sharer?, hpre, hsharer⟩ := Joining.all_apart hnames
  have hconj := h.conjunction
  obtain rfl : sharer? = some m := by
    rcases hsharer with ⟨hat, _⟩ | ⟨l, g, v, rfl, hg, hv, _⟩
    · rw [hconj] at hat; cases hat
    · rw [fragment_unique hnames hm (Option.bind_eq_some_iff.mpr ⟨g, hg, hv⟩)]
  have hbefore : ((fragments pre zs? rest)[m]?).bind (Entries.at? · "allOf") = some (.list xs) := by
    obtain ⟨g, hg, hxs⟩ := Option.bind_eq_some_iff.mp hm
    rw [fragments, List.getElem?_append_left (List.getElem?_eq_some_iff.mp hg).1]
    exact hm
  cases zs? with
  | none =>
    obtain ⟨s, hs, hat⟩ := Joining.keywords_clash (i := pre.length) (j := ⟨pre.flatten, some m⟩)
      hrest hL hconj
    rw [extended_some] at hat
    exact ⟨s, hbefore, hat, Joining.fragments_last hpre hs⟩
  | some zs =>
    -- the two conjunctions differ, so that the second becomes a conjunct of the first
    have hkeyword : Joining.keyword pre.length ⟨pre.flatten, some m⟩ (.text "allOf") (.list zs)
        = .ok ⟨putConjunction (xs ++ [.mapping (keyword "allOf" (.list zs))]) pre.flatten,
          some m⟩ := by
      have hopens : (Joining.isConjunction (.text "allOf") &&
          !Entries.hasKey pre.flatten (.text "allOf")) = false := by rw [hasKey_eq, hconj]; rfl
      rw [Joining.keyword, mergeKeyword_of_some hconj, (h.differ xs zs rfl rfl).not_equal,
        if_neg Bool.false_ne_true, appendConjunct_eq hconj, hopens]
      rfl
    obtain ⟨s, hs, hat⟩ := Joining.keywords_clash (i := pre.length) (j := ⟨_, some m⟩) hrest hL
      (o := some (xs ++ [.mapping (keyword "allOf" (.list zs))])) (at?_put_self (s := pre.flatten))
    rw [h.clashing_eq fun n hn => at?_put_of_ne hn.symm, extended_some, List.append_assoc] at hat
    refine ⟨s, hbefore, hat, Joining.fragments_last hpre ?_⟩
    show (Joining.keyword _ _ _ _ >>= _) = _
    rw [hkeyword]
    exact hs

/-- **The conjunction that is shared**, and what is added to it. -/
theorem shares {m : Nat} (h : Layout pre zs? rest o) (hm : SharedAt pre zs? o m) :
    ∃ s, Shares (fragments pre zs? rest) m (shared zs? o) (added pre zs? rest o) s := by
  cases o with
  | some xs => exact h.shares_pre hm
  | none =>
    obtain ⟨hzs, rfl⟩ := hm
    obtain ⟨zs, rfl⟩ := Option.ne_none_iff_exists'.mp hzs
    exact h.shares_last

/-- A conjunction is shared if there is one. -/
theorem exists_sharedAt (h : Layout pre zs? rest o) (hshared : o ≠ none ∨ zs? ≠ none) :
    ∃ m, SharedAt pre zs? o m := by
  cases o with
  | none => exact ⟨pre.length, hshared.resolve_left fun h => h rfl, rfl⟩
  | some xs =>
    obtain ⟨K, hnames⟩ := h.names
    obtain ⟨_, _, hsharer⟩ := Joining.all_apart hnames
    rcases hsharer with ⟨hat, _⟩ | ⟨m, g, v, _, hg, hv, hat⟩
    · rw [h.conjunction] at hat; cases hat
    · rw [h.conjunction] at hat
      cases hat
      exact ⟨m, Option.bind_eq_some_iff.mpr ⟨g, hg, hv⟩⟩

/-- **What is added once is added again.**  After a joining the fragments are laid out as before,
and the conjunction that they share has what was added at its end. -/
theorem grows {m : Nat} (h : Layout pre zs? rest o) (hm : SharedAt pre zs? o m) :
    ∃ pre' zs?' o',
      (fragments pre zs? rest).modify m (putConjunction (shared zs? o ++ added pre zs? rest o))
        = fragments pre' zs?' rest ∧
      Layout pre' zs?' rest o' ∧ SharedAt pre' zs?' o' m ∧
      shared zs?' o' = shared zs? o ++ added pre zs? rest o ∧
      added pre' zs?' rest o' = added pre zs? rest o := by
  obtain ⟨K, hnames⟩ := h.names
  cases o with
  | none =>
    obtain ⟨hzs, rfl⟩ := hm
    obtain ⟨zs, rfl⟩ := Option.ne_none_iff_exists'.mp hzs
    refine ⟨pre, some (zs ++ added pre (some zs) rest none), none, ?_,
      ⟨h.names, h.conjunction, h.rest, fun _ _ h _ => by cases h⟩, ⟨Option.some_ne_none _, rfl⟩,
      rfl, rfl⟩
    rw [fragments, modify_last]
    rfl
  | some xs =>
    obtain ⟨g, hg, hxs⟩ := Option.bind_eq_some_iff.mp hm
    have hlt := (List.getElem?_eq_some_iff.mp hg).1
    obtain ⟨more, hmore⟩ : ∃ more, added pre zs? rest (some xs) = more := ⟨_, rfl⟩
    rw [hmore]
    have hflat := (flatten_modify (w := .list (xs ++ more)) hnames hg hxs).2
    refine ⟨pre.modify m (putConjunction (xs ++ more)), zs?, some (xs ++ more), ?modified,
      ⟨⟨K, ?names⟩, ?conjunction, h.rest, ?differ⟩, ?shared, rfl, ?added⟩
    case modified => rw [fragments, modify_append_left hlt]; rfl
    case names => exact hflat ▸ hnames.put (hnames.mem_of_at? h.conjunction)
    case conjunction =>
      refine (congrArg (Entries.at? · "allOf") hflat).trans ?_
      rw [at?_put_self]
      rfl
    case differ =>
      intro xs' zs hxs' hzs
      cases hxs'
      exact (h.differ xs zs rfl hzs).append more
    case shared =>
      show ((pre.modify m _)[m]?).bind _ = _
      rw [List.getElem?_modify_eq, hg]
      exact at?_put_self
    case added =>
      refine Eq.trans ?_ hmore
      have hclash : clashing (pre.modify m (putConjunction (xs ++ more))).flatten rest
          = clashing pre.flatten rest :=
        (congrArg (clashing · rest) hflat).trans
          (h.clashing_eq fun n hn => at?_put_of_ne hn.symm)
      cases zs? <;> simp only [added, hclash]

end Layout

end RuleSchema
