import Mathlib.Data.List.Forall2
import Mathlib.Data.List.Perm.Basic
import RuleSchema.Proofs.Schema.Names
import RuleSchema.Proofs.Value.Entries

/-!
# Entries in another order

Two lists correspond if their members do, one by one, once the members of the second have been put
into another order.  Only lists whose members can be told apart may be put into another order: for
the entries of a mapping this means that their keys are different texts, and then every name keeps
its content.

* `Reordering K R` relates lists that correspond by `R`, where `K` says which lists may be put into
  another order.
* `Reordering.transport`: what is made of two such lists, member by member, corresponds too.
* `Entries.IsKeyed` says that the keys are different texts, and `Entries.Reordered` relates the
  entries of two mappings.
* `Entries.Alike`: under every name the contents correspond, which is all that a lookup sees.
-/

namespace RuleSchema

/-! ### Lists -/

section

variable {α β γ δ : Type}

/-- The same list, or one with the same members in another order. -/
inductive Shuffled (K : List β → Prop) (xs : List β) : List β → Prop
  | same : Shuffled K xs xs
  | swapped {ys : List β} : K xs → xs.Perm ys → Shuffled K xs ys

/-- Two lists whose members correspond, once those of the second have been put into another
order. -/
def Reordering (K : List β → Prop) (R : α → β → Prop) (xs : List α) (ys : List β) : Prop :=
  ∃ mid, List.Forall₂ R xs mid ∧ Shuffled K mid ys

variable {K : List β → Prop} {K' : List δ → Prop} {R : α → β → Prop} {S : α → γ → Prop}
  {T : β → δ → Prop} {Q : γ → δ → Prop} {xs : List α} {ys zs : List β} {us : List γ} {vs : List δ}

theorem Shuffled.perm (h : Shuffled K ys zs) : ys.Perm zs := by
  cases h with
  | same => exact .refl _
  | swapped _ hperm => exact hperm

/-- Lists that are made, member by member, of two lists that correspond. -/
theorem forall₂_transport (h : List.Forall₂ R xs ys) (hx : List.Forall₂ S xs us)
    (hy : List.Forall₂ T ys vs) (hQ : ∀ {x y u v}, R x y → S x u → T y v → Q u v) :
    List.Forall₂ Q us vs := by
  induction h generalizing us vs with
  | nil => cases hx; cases hy; exact .nil
  | cons hr _ ih =>
    cases hx with
    | cons hs hx =>
      cases hy with
      | cons ht hy => exact .cons (hQ hr hs ht) (ih hx hy)

theorem forall₂_append {as : List α} {bs : List β} (h : List.Forall₂ R xs ys)
    (h' : List.Forall₂ R as bs) : List.Forall₂ R (xs ++ as) (ys ++ bs) := List.rel_append h h'

theorem exists_forall₂ {xs : List α} (h : ∀ x ∈ xs, ∃ y, R x y) : ∃ ys, List.Forall₂ R xs ys := by
  induction xs with
  | nil => exact ⟨[], .nil⟩
  | cons x xs ih =>
    obtain ⟨⟨y, hy⟩, hxs⟩ := List.forall_mem_cons.mp h
    obtain ⟨ys, hys⟩ := ih hxs
    exact ⟨y :: ys, .cons hy hys⟩

theorem forall₂_snoc {a : α} {b : β} (h : List.Forall₂ R xs ys) (hab : R a b) :
    List.Forall₂ R (xs ++ [a]) (ys ++ [b]) := forall₂_append h (.cons hab .nil)

namespace Reordering

theorem of_forall₂ (h : List.Forall₂ R xs ys) : Reordering K R xs ys := ⟨ys, h, .same⟩

/-- **What is made of corresponding lists**, member by member, corresponds. -/
theorem transport (h : Reordering K R xs ys) (hx : List.Forall₂ S xs us)
    (hy : List.Forall₂ T ys vs) (hQ : ∀ {x y u v}, R x y → S x u → T y v → Q u v)
    (hK : ∀ {ms ws}, K ms → List.Forall₂ T ms ws → K' ws) : Reordering K' Q us vs := by
  obtain ⟨mid, hmid, hshuffled⟩ := h
  cases hshuffled with
  | same => exact ⟨vs, forall₂_transport hmid hx hy hQ, .same⟩
  | swapped hkeyed hperm =>
    obtain ⟨ws, hws, hperm'⟩ := List.perm_comp_forall₂ hperm hy
    exact ⟨ws, forall₂_transport hmid hx hws hQ, .swapped (hK hkeyed hws) hperm'⟩

theorem map {f : α → γ} {g : β → δ} (h : Reordering K R xs ys)
    (hQ : ∀ {x y}, R x y → Q (f x) (g y)) (hK : ∀ {ms}, K ms → K' (ms.map g)) :
    Reordering K' Q (xs.map f) (ys.map g) := by
  obtain ⟨mid, hmid, hshuffled⟩ := h
  have hmap : List.Forall₂ Q (xs.map f) (mid.map g) :=
    List.forall₂_map_left_iff.mpr (List.forall₂_map_right_iff.mpr (hmid.imp fun _ _ h => hQ h))
  cases hshuffled with
  | same => exact ⟨_, hmap, .same⟩
  | swapped hkeyed hperm => exact ⟨_, hmap, .swapped (hK hkeyed) (hperm.map g)⟩

theorem filter {p : α → Bool} {q : β → Bool} (h : Reordering K R xs ys)
    (hpq : ∀ {x y}, R x y → p x = q y) (hK : ∀ {ms}, K ms → K (ms.filter q)) :
    Reordering K R (xs.filter p) (ys.filter q) := by
  obtain ⟨mid, hmid, hshuffled⟩ := h
  have hfilter : List.Forall₂ R (xs.filter p) (mid.filter q) := by
    clear hshuffled
    induction hmid with
    | nil => exact .nil
    | @cons x y _ _ hr _ ih =>
      rw [List.filter_cons, List.filter_cons, hpq hr]
      split
      · exact .cons hr ih
      · exact ih
  cases hshuffled with
  | same => exact ⟨_, hfilter, .same⟩
  | swapped hkeyed hperm => exact ⟨_, hfilter, .swapped (hK hkeyed) (hperm.filter q)⟩

end Reordering

/-- The same key with corresponding contents. -/
def SameKey {κ : Type} (R : α → β → Prop) (e : κ × α) (f : κ × β) : Prop :=
  f.1 = e.1 ∧ R e.2 f.2

/-- No name occurs twice. -/
def DistinctNames (es : List (String × α)) : Prop := (es.map Prod.fst).Nodup

theorem keys_of_sameKey {κ : Type} {es : List (κ × α)} {fs : List (κ × β)}
    (h : List.Forall₂ (SameKey R) es fs) : fs.map Prod.fst = es.map Prod.fst := by
  induction h with
  | nil => rfl
  | cons he _ ih => rw [List.map_cons, List.map_cons, he.1, ih]

/-- The same key with contents that correspond as those under the key do. -/
def KeyedBy {κ : Type} (R : κ → α → β → Prop) (e : κ × α) (f : κ × β) : Prop :=
  f.1 = e.1 ∧ R e.1 e.2 f.2

theorem keyedBy_self {κ : Type} {R : κ → α → β → Prop} {k : κ} {x : α} {y : β} (h : R k x y) :
    KeyedBy R (k, x) (k, y) := ⟨rfl, h⟩

/-- Entries that correspond in their order, from their pairs. -/
theorem keyedBy_of_zip {κ : Type} {R : κ → α → β → Prop} {es : List (κ × α)} {fs : List (κ × β)}
    (hkeys : fs.map Prod.fst = es.map Prod.fst)
    (h : ∀ {e f}, (e, f) ∈ es.zip fs → R e.1 e.2 f.2) : List.Forall₂ (KeyedBy R) es fs := by
  induction es generalizing fs with
  | nil =>
    rw [List.map_eq_nil_iff.mp hkeys]
    exact .nil
  | cons e es ih =>
    cases fs with
    | nil => cases hkeys
    | cons f fs =>
      obtain ⟨hkey, hkeys⟩ := List.cons.inj hkeys
      refine .cons ⟨hkey, h List.mem_cons_self⟩ (ih hkeys fun hmem => h ?_)
      exact List.mem_cons_of_mem _ hmem

theorem sameKey_of_zip {κ : Type} {es : List (κ × α)} {fs : List (κ × β)}
    (hkeys : fs.map Prod.fst = es.map Prod.fst) (h : ∀ {e f}, (e, f) ∈ es.zip fs → R e.2 f.2) :
    List.Forall₂ (SameKey R) es fs := by
  have hkeyed : List.Forall₂ (KeyedBy fun _ => R) es fs := keyedBy_of_zip hkeys h
  exact hkeyed

end

/-! ### Entries -/

namespace Entries

section

variable {α β γ δ : Type} {R : α → β → Prop} {es : Entries α} {fs gs : Entries β} {n : String}

/-- The keys are different texts. -/
structure IsKeyed (es : Entries α) : Prop where
  texts : ∀ e ∈ es, ∃ n, e.1 = .text n
  nodup : es.keys.Nodup

/-- The entries of two mappings that correspond but for their order. -/
abbrev Reordered (R : α → β → Prop) : Entries α → Entries β → Prop :=
  Reordering IsKeyed (SameKey R)

/-- Corresponding contents under every name. -/
def Alike (R : α → β → Prop) (es : Entries α) (fs : Entries β) : Prop :=
  ∀ n, Option.Rel R (es.at? n) (fs.at? n)

theorem find?_cons {e : Value × α} {k : Value} :
    find? (e :: es) k = if k.equals e.1 then some e.2 else find? es k := by
  simp only [find?, List.find?_cons]
  cases k.equals e.1 <;> rfl

namespace IsKeyed

theorem sublist {ds : Entries α} (h : es.IsKeyed) (hds : ds.Sublist es) : ds.IsKeyed :=
  ⟨fun e he => h.texts e (hds.subset he), (hds.map Prod.fst).nodup h.nodup⟩

theorem tail {e : Value × α} (h : IsKeyed (e :: es)) : es.IsKeyed :=
  h.sublist (List.sublist_cons_self e es)

theorem perm {fs : Entries α} (h : es.IsKeyed) (hperm : es.Perm fs) : fs.IsKeyed :=
  ⟨fun e he => h.texts e (hperm.symm.subset he), (hperm.map Prod.fst).nodup_iff.mp h.nodup⟩

theorem filter (h : es.IsKeyed) (p : Value × α → Bool) : IsKeyed (es.filter p) :=
  h.sublist List.filter_sublist

theorem of_keys (h : es.IsKeyed) (hkeys : fs.keys = es.keys) : fs.IsKeyed := by
  refine ⟨fun f hf => ?_, hkeys ▸ h.nodup⟩
  have hmem : f.1 ∈ es.keys := hkeys ▸ List.mem_map_of_mem hf
  obtain ⟨e, he, hef⟩ := List.mem_map.mp hmem
  exact hef ▸ h.texts e he

theorem map (h : es.IsKeyed) (f : α → γ) : IsKeyed (es.map fun e => (e.1, f e.2)) := by
  refine ⟨List.forall_mem_map.mpr h.texts, ?_⟩
  rw [keys, List.map_map]
  exact h.nodup

/-- The content under a name is that of the only entry with the name. -/
theorem at?_eq_some (h : es.IsKeyed) {x : α} : es.at? n = some x ↔ (.text n, x) ∈ es := by
  induction es with
  | nil => exact ⟨fun h => (by cases h), fun h => absurd h List.not_mem_nil⟩
  | cons e es ih =>
    obtain ⟨k, y⟩ := e
    obtain ⟨m, rfl⟩ := h.texts _ List.mem_cons_self
    rw [at?, find?_cons, text_equals]
    by_cases hm : n = m
    · subst hm
      rw [if_pos (beq_self_eq_true n), Option.some_inj, List.mem_cons]
      refine ⟨fun hx => .inl (hx ▸ rfl), fun hx => hx.elim (fun hx => (Prod.mk.inj hx).2.symm) ?_⟩
      intro hmem
      exact absurd (List.mem_map_of_mem hmem) (List.nodup_cons.mp h.nodup).1
    · rw [if_neg fun heq => hm (beq_iff_eq.mp heq), List.mem_cons]
      refine (ih h.tail).trans ⟨Or.inr, fun hx => hx.resolve_left fun hx => hm ?_⟩
      exact Value.text.inj (Prod.mk.inj hx).1

/-- What is under a name is not before it. -/
theorem at?_before {ds : Entries α} {x : α} (h : IsKeyed (ds ++ (.text n, x) :: es)) :
    ds.at? n = none := by
  refine Option.eq_none_iff_forall_ne_some.mpr fun y hy => ?_
  have hmem := (h.sublist (List.sublist_append_left _ _)).at?_eq_some.mp hy
  have hkey : Value.text n ∈ ds.map Prod.fst := List.mem_map_of_mem hmem
  have hnodup := h.nodup
  rw [keys, List.map_append] at hnodup
  exact List.disjoint_of_nodup_append hnodup hkey List.mem_cons_self

/-- The keys stay different texts. -/
theorem put {es : Entries Value} (h : es.IsKeyed) (n : String) (v : Value) :
    IsKeyed (Entries.put es (.text n) v) := by
  rcases keys_put es (.text n) v with hkeys | ⟨hnew, hkeys⟩
  · exact h.of_keys hkeys
  · have hfresh : Value.text n ∉ es.keys := by
      intro hmem
      obtain ⟨e, he, hkey⟩ := List.mem_map.mp hmem
      have hequal := hnew e he
      rw [hkey, text_equals, beq_self_eq_true] at hequal
      cases hequal
    refine ⟨fun e he => ?_, ?_⟩
    · have hmem : e.1 ∈ es.keys ++ [Value.text n] := hkeys ▸ List.mem_map_of_mem he
      rcases List.mem_append.mp hmem with hmem | hmem
      · obtain ⟨e', he', hkey⟩ := List.mem_map.mp hmem
        exact hkey ▸ h.texts e' he'
      · exact ⟨n, List.mem_singleton.mp hmem⟩
    · rw [hkeys]
      exact List.nodup_append_comm.mp (List.nodup_cons.mpr ⟨hfresh, h.nodup⟩)

end IsKeyed

theorem at?_shuffled (h : Shuffled IsKeyed fs gs) (n : String) : fs.at? n = gs.at? n := by
  cases h with
  | same => rfl
  | swapped hkeyed hperm =>
    refine Option.ext fun x => ?_
    rw [hkeyed.at?_eq_some, (hkeyed.perm hperm).at?_eq_some, hperm.mem_iff]

/-- Entries that correspond in their order have corresponding contents under every key. -/
theorem find?_sameKey (h : List.Forall₂ (SameKey R) es fs) (k : Value) :
    Option.Rel R (es.find? k) (fs.find? k) := by
  induction h with
  | nil => exact .none
  | cons he _ ih =>
    rw [find?_cons, find?_cons, he.1]
    split
    · exact .some he.2
    · exact ih

theorem hasKey_sameKey (h : List.Forall₂ (SameKey R) es fs) (k : Value) :
    es.hasKey k = fs.hasKey k := by
  induction h with
  | nil => rfl
  | cons he _ ih =>
    rw [hasKey, hasKey, List.any_cons, List.any_cons, he.1] at *
    rw [ih]

theorem put_sameKey {x : α} {y : β} (h : List.Forall₂ (SameKey R) es fs) (k : Value) (hxy : R x y) :
    List.Forall₂ (SameKey R) (es.put k x) (fs.put k y) := by
  induction h with
  | nil => exact .cons ⟨rfl, hxy⟩ .nil
  | cons he hes ih =>
    rw [put, put, he.1]
    split
    · exact .cons ⟨rfl, hxy⟩ hes
    · exact .cons ⟨rfl, he.2⟩ ih

namespace Reordered

theorem alike (h : Reordered R es fs) : Alike R es fs := by
  obtain ⟨mid, hmid, hshuffled⟩ := h
  intro n
  rw [← at?_shuffled hshuffled]
  exact find?_sameKey hmid _

theorem filterKeys (h : Reordered R es fs) (p : Value → Bool) :
    Reordered R (es.filter fun e => p e.1) (fs.filter fun e => p e.1) :=
  h.filter (fun he => congrArg p he.1.symm) fun hkeyed => hkeyed.filter _

theorem mapContents {Q : γ → δ → Prop} {f : α → γ} {g : β → δ} (h : Reordered R es fs)
    (hQ : ∀ {x y}, R x y → Q (f x) (g y)) :
    Reordered Q (es.map fun e => (e.1, f e.2)) (fs.map fun e => (e.1, g e.2)) :=
  h.map (fun he => ⟨he.1, hQ he.2⟩) fun hkeyed => hkeyed.map _

end Reordered

end

end Entries

end RuleSchema
