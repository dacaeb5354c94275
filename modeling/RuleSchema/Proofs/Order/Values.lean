import RuleSchema.Json.Form
import RuleSchema.Proofs.Evaluation
import RuleSchema.Proofs.Order.Entries
import RuleSchema.Proofs.Json.Canonical

/-!
# Values with their keys in another order

Two values are the same but for the order of keys if one becomes the other when the entries of some
mappings inside are put into another order, at any depth.  Nothing that is made of a value for a
document depends on that order: such values equal the same values, their forms are again the same
but for the order of keys, and sorted they are the same value.

* `Value.Reordered` is this relation; the items of lists keep their order.
* `Reordered.equals_left` and `Reordered.equals_right`: equality does not see the order of keys.
* `Reordered.jsonForm`: the forms of two such values.
* `Reordered.sortDeep`: **sorted, two such values are one**.
-/

namespace RuleSchema

/-- The same value but for the order of keys: at any depth the entries of a mapping whose keys are
different texts may stand in another order. -/
inductive Value.Reordered : Value → Value → Prop
  | same (v : Value) : Reordered v v
  -- by pairs: inside `List.Forall₂` the relation would be nested, and have no induction
  | list {xs ys : List Value} : xs.length = ys.length →
      (∀ {x y}, (x, y) ∈ xs.zip ys → Reordered x y) → Reordered (.list xs) (.list ys)
  | mapping {es mid fs : Entries Value} : mid.keys = es.keys →
      (∀ {e f}, (e, f) ∈ es.zip mid → Reordered e.2 f.2) → Shuffled Entries.IsKeyed mid fs →
      Reordered (.mapping es) (.mapping fs)

namespace Value

variable {v w : Value}

namespace Reordered

theorem of_items {xs ys : List Value} (h : List.Forall₂ Reordered xs ys) :
    Reordered (.list xs) (.list ys) :=
  .list h.length_eq fun hmem => (List.forall₂_iff_zip.mp h).2 hmem

theorem of_entries {es fs : Entries Value} (h : Entries.Reordered Reordered es fs) :
    Reordered (.mapping es) (.mapping fs) := by
  obtain ⟨mid, hmid, hshuffled⟩ := h
  exact .mapping (keys_of_sameKey hmid) (fun hmem => ((List.forall₂_iff_zip.mp hmid).2 hmem).2)
    hshuffled

/-- Two entries change places. -/
theorem swap {m n : String} (h : m ≠ n) {x x' y y' : Value} (hx : x.Reordered x')
    (hy : y.Reordered y') :
    Reordered (.mapping [(.text m, x), (.text n, y)])
      (.mapping [(.text n, y'), (.text m, x')]) := by
  refine of_entries ⟨[(.text m, x'), (.text n, y')], .cons ⟨rfl, hx⟩ (.cons ⟨rfl, hy⟩ .nil),
    .swapped ⟨?_, ?_⟩ (.swap _ _ [])⟩
  · exact List.forall_mem_cons.mpr ⟨⟨m, rfl⟩, List.forall_mem_singleton.mpr ⟨n, rfl⟩⟩
  · refine List.nodup_cons.mpr ⟨fun hmem => h ?_, List.nodup_singleton _⟩
    exact Value.text.inj (List.mem_singleton.mp hmem)

theorem of_list {xs : List Value} (h : Reordered (.list xs) w) :
    ∃ ys, w = .list ys ∧ List.Forall₂ Reordered xs ys := by
  cases h with
  | same => exact ⟨xs, rfl, List.forall₂_same.mpr fun x _ => .same x⟩
  | list hlength hitems => exact ⟨_, rfl, List.forall₂_iff_zip.mpr ⟨hlength, hitems⟩⟩

theorem entries {es fs : Entries Value} (h : Reordered (.mapping es) (.mapping fs)) :
    Entries.Reordered Reordered es fs := by
  cases h with
  | same => exact .of_forall₂ (List.forall₂_same.mpr fun e _ => ⟨rfl, .same e.2⟩)
  | mapping hkeys hcontents hshuffled =>
    exact ⟨_, sameKey_of_zip hkeys hcontents, hshuffled⟩

theorem isNull_eq (h : v.Reordered w) : v.isNull = w.isNull := by
  cases h <;> rfl

theorem isCallable_eq (h : v.Reordered w) : v.isCallable = w.isCallable := by
  cases h <;> rfl

theorem text?_eq (h : v.Reordered w) : v.text? = w.text? := by
  cases h <;> rfl

end Reordered

/-! ### Equality -/

theorem equalsWithin_eq (ys : Entries Value) : ∀ xs : Entries Value,
    equalsWithin xs ys = xs.all fun e => ys.any fun f => e.1.equals f.1 && e.2.equals f.2
  | [] => rfl
  | e :: xs => by rw [equalsWithin, equalsWithin_eq ys xs, List.all_cons]

theorem equalsAll_left {xs ys : List Value}
    (h : List.Forall₂ (fun x y => ∀ z, equals x z = equals y z) xs ys) :
    ∀ zs, equalsAll xs zs = equalsAll ys zs := by
  induction h with
  | nil => intro zs; rfl
  | cons hxy _ ih =>
    intro zs
    cases zs with
    | nil => rfl
    | cons z zs => rw [equalsAll, equalsAll, hxy, ih]

theorem equalsAll_right {xs ys : List Value}
    (h : List.Forall₂ (fun x y => ∀ z, equals z x = equals z y) xs ys) :
    ∀ zs, equalsAll zs xs = equalsAll zs ys := by
  induction h with
  | nil => intro zs; rfl
  | cons hxy _ ih =>
    intro zs
    cases zs with
    | nil => rfl
    | cons z zs => rw [equalsAll, equalsAll, hxy, ih]

theorem all_sameKey {R : Value → Value → Prop} {es fs : Entries Value} {p : Value × Value → Bool}
    (h : List.Forall₂ (SameKey R) es fs) (hp : ∀ {e f}, SameKey R e f → p e = p f) :
    es.all p = fs.all p := by
  induction h with
  | nil => rfl
  | cons he _ ih => rw [List.all_cons, List.all_cons, hp he, ih]

theorem any_sameKey {R : Value → Value → Prop} {es fs : Entries Value} {p : Value × Value → Bool}
    (h : List.Forall₂ (SameKey R) es fs) (hp : ∀ {e f}, SameKey R e f → p e = p f) :
    es.any p = fs.any p := by
  induction h with
  | nil => rfl
  | cons he _ ih => rw [List.any_cons, List.any_cons, hp he, ih]

/-- Values that are the same but for the order of keys equal the same values. -/
theorem Reordered.equals_left (h : v.Reordered w) : ∀ x, v.equals x = w.equals x := by
  induction h with
  | same => intro x; rfl
  | list hlength _ ih =>
    have hall := equalsAll_left (List.forall₂_iff_zip.mpr ⟨hlength, ih⟩)
    intro x
    cases x with
    | list zs => exact hall zs
    | _ => rfl
  | @mapping es mid fs hkeys _ hshuffled ih =>
    have hmid := sameKey_of_zip (R := fun x y => ∀ z, equals x z = equals y z) hkeys ih
    intro x
    cases x with
    | mapping zs =>
      have hlength : es.length = fs.length := hmid.length_eq.trans hshuffled.perm.length_eq
      have hwithin : equalsWithin es zs = equalsWithin fs zs := by
        rw [equalsWithin_eq, equalsWithin_eq, ← hshuffled.perm.all_eq]
        refine all_sameKey hmid fun he => ?_
        simp only [he.1, he.2]
      rw [equals, equals, hlength, hwithin]
    | _ => rfl

/-- The same values equal them. -/
theorem Reordered.equals_right (h : v.Reordered w) :
    ∀ x : Value, x.equals v = x.equals w := by
  induction h with
  | same => intro x; rfl
  | list hlength _ ih =>
    have hall := equalsAll_right (List.forall₂_iff_zip.mpr ⟨hlength, ih⟩)
    intro x
    cases x with
    | list zs => exact hall zs
    | _ => rfl
  | @mapping es mid fs hkeys _ hshuffled ih =>
    have hmid := sameKey_of_zip (R := fun x y => ∀ z, equals z x = equals z y) hkeys ih
    intro x
    cases x with
    | mapping zs =>
      have hlength : es.length = fs.length := hmid.length_eq.trans hshuffled.perm.length_eq
      have hwithin : equalsWithin zs es = equalsWithin zs fs := by
        rw [equalsWithin_eq, equalsWithin_eq]
        refine congrArg (fun p => zs.all p) (funext fun z => ?_)
        rw [← hshuffled.perm.any_eq]
        refine any_sameKey hmid fun he => ?_
        simp only [he.1, he.2]
      rw [equals, equals, hlength, hwithin]
    | _ => rfl

/-! ### Forms -/

/-- Corresponding results, or none on either side. -/
inductive Formed.Agree {α β : Type} (R : α → β → Prop) : Formed α → Formed β → Prop
  | form {a : α} {b : β} : R a b → Agree R (.ok a) (.ok b)
  | none {d e : Stop Unit} : Agree R (.error d) (.error e)

theorem Formed.Agree.bind {α β γ δ : Type} {R : α → β → Prop} {Q : γ → δ → Prop} {x : Formed α}
    {y : Formed β} {f : α → Formed γ} {g : β → Formed δ} (h : Formed.Agree R x y)
    (hfg : ∀ {a b}, R a b → Formed.Agree Q (f a) (g b)) : Formed.Agree Q (x >>= f) (y >>= g) := by
  cases h with
  | form hab => exact hfg hab
  | none => exact .none

theorem Formed.Agree.refl {α : Type} {R : α → α → Prop} (hR : ∀ a, R a a) (x : Formed α) :
    Formed.Agree R x x := by
  cases x with
  | ok a => exact .form (hR a)
  | error e => exact .none

theorem jsonForms_agree {xs ys : List Value}
    (h : List.Forall₂ (fun x y => Formed.Agree Reordered x.jsonForm y.jsonForm) xs ys) :
    Formed.Agree (List.Forall₂ Reordered) (jsonForms xs) (jsonForms ys) := by
  induction h with
  | nil => exact .form .nil
  | cons hxy _ ih => exact hxy.bind fun hform => ih.bind fun hforms => .form (.cons hform hforms)

/-- The form of an entry. -/
def entryForm (e : Value × Value) : Formed (Value × Value) := do
  let key ← keyForm e.1
  let form ← jsonForm e.2
  return (.text key, form)

theorem jsonEntryForms_cons (e : Value × Value) (es : Entries Value) :
    jsonEntryForms (e :: es) = do return (← entryForm e) :: (← jsonEntryForms es) := by
  rw [jsonEntryForms, entryForm]
  cases keyForm e.1 with
  | error d => rfl
  | ok key => cases jsonForm e.2 <;> rfl

theorem entryForm_agree {e f : Value × Value}
    (h : SameKey (fun x y => Formed.Agree Reordered x.jsonForm y.jsonForm) e f) :
    Formed.Agree (SameKey Reordered) (entryForm e) (entryForm f) := by
  rw [entryForm, entryForm, h.1]
  cases keyForm e.1 with
  | error d => exact .none
  | ok key => exact h.2.bind fun hform => .form ⟨rfl, hform⟩

theorem jsonEntryForms_agree {es fs : Entries Value} (h : List.Forall₂
    (SameKey fun x y => Formed.Agree Reordered x.jsonForm y.jsonForm) es fs) :
    Formed.Agree (List.Forall₂ (SameKey Reordered)) (jsonEntryForms es) (jsonEntryForms fs) := by
  induction h with
  | nil => exact .form .nil
  | cons he _ ih =>
    rw [jsonEntryForms_cons, jsonEntryForms_cons]
    exact (entryForm_agree he).bind fun hform => ih.bind fun hforms => .form (.cons hform hforms)

/-- Entries in another order have their forms in another order. -/
theorem jsonEntryForms_perm {es fs : Entries Value} (h : es.Perm fs) :
    Formed.Agree List.Perm (jsonEntryForms es) (jsonEntryForms fs) := by
  induction h with
  | nil => exact .form .nil
  | cons e _ ih =>
    rw [jsonEntryForms_cons, jsonEntryForms_cons]
    refine (Formed.Agree.refl (R := Eq) (fun _ => rfl) (entryForm e)).bind fun hform => ?_
    exact ih.bind fun hperm => .form (hform ▸ hperm.cons _)
  | swap e f es =>
    simp only [jsonEntryForms_cons]
    cases entryForm e with
    | error d => cases entryForm f <;> exact .none
    | ok p =>
      cases entryForm f with
      | error d => exact .none
      | ok q =>
        cases jsonEntryForms es with
        | error d => exact .none
        | ok forms => exact .form (.swap p q forms)
  | trans _ _ ih₁ ih₂ =>
    revert ih₁ ih₂
    generalize jsonEntryForms _ = x
    generalize jsonEntryForms _ = y
    generalize jsonEntryForms _ = z
    intro ih₁ ih₂
    cases ih₁ with
    | form h₁ => cases ih₂ with | form h₂ => exact .form (h₁.trans h₂)
    | none => cases ih₂ with | none => exact .none

/-- Forms have the keys of the entries that they are made of, if these are texts. -/
theorem jsonEntryForms_keys : ∀ {es forms : Entries Value}, (∀ e ∈ es, ∃ n, e.1 = .text n) →
    jsonEntryForms es = .ok forms → forms.keys = es.keys
  | [], _, _, h => by cases h; rfl
  | (k, x) :: es, forms, hes, h => by
    obtain ⟨⟨n, hn⟩, hrest⟩ := List.forall_mem_cons.mp hes
    obtain rfl : k = .text n := hn
    rw [jsonEntryForms_cons] at h
    obtain ⟨p, hp, h⟩ := except_bind_ok h
    obtain ⟨forms', hforms, h⟩ := except_bind_ok h
    obtain ⟨key, hkey, hp⟩ := except_bind_ok hp
    obtain ⟨form, _, hp⟩ := except_bind_ok hp
    cases hkey
    cases hp
    cases h
    exact congrArg (Value.text n :: ·) (jsonEntryForms_keys hrest hforms)

theorem ofPairs_sameKey {R : Value → Value → Prop} {es fs : Entries Value}
    (h : List.Forall₂ (SameKey R) es fs) :
    List.Forall₂ (SameKey R) (Entries.ofPairs es) (Entries.ofPairs fs) := by
  have hfold : ∀ {ds gs : Entries Value}, List.Forall₂ (SameKey R) ds gs →
      List.Forall₂ (SameKey R) (es.foldl (fun acc e => Entries.put acc e.1 e.2) ds)
        (fs.foldl (fun acc e => Entries.put acc e.1 e.2) gs) := by
    induction h with
    | nil => exact fun hacc => hacc
    | cons he _ ih =>
      intro ds gs hacc
      rw [List.foldl_cons, List.foldl_cons, he.1]
      exact ih (Entries.put_sameKey hacc _ he.2)
  exact hfold .nil

/-- Entries with different keys are put one after the other. -/
theorem ofPairs_keyed {es : Entries Value} (h : es.IsKeyed) : Entries.ofPairs es = es := by
  have hfold : ∀ {ds : Entries Value}, Entries.IsKeyed (ds ++ es) →
      es.foldl (fun acc e => Entries.put acc e.1 e.2) ds = ds ++ es := by
    clear h
    induction es with
    | nil => exact fun _ => (List.append_nil _).symm
    | cons e es ih =>
      intro ds hkeyed
      obtain ⟨k, x⟩ := e
      obtain ⟨n, rfl⟩ := hkeyed.texts _ (List.mem_append_right _ List.mem_cons_self)
      rw [List.foldl_cons, Schema.put_of_none hkeyed.at?_before, ih, List.append_assoc]
      · rfl
      · rwa [List.append_assoc]
  exact hfold h

/-- **The forms** of values that are the same but for the order of keys are so too. -/
theorem Reordered.jsonForm (h : v.Reordered w) :
    Formed.Agree Reordered v.jsonForm w.jsonForm := by
  induction h with
  | same v => exact .refl .same _
  | list hlength _ ih =>
    have hforms := jsonForms_agree (List.forall₂_iff_zip.mpr ⟨hlength, ih⟩)
    rw [Value.jsonForm, Value.jsonForm]
    exact hforms.bind fun h => .form (.of_items h)
  | @mapping es mid fs hkeys _ hshuffled ih =>
    have hforms := jsonEntryForms_agree (sameKey_of_zip hkeys ih)
    rw [Value.jsonForm, Value.jsonForm]
    cases hshuffled with
    | same =>
      refine hforms.bind fun h => .form (.of_entries (.of_forall₂ (ofPairs_sameKey h)))
    | swapped hkeyed hperm =>
      have hforms' := jsonEntryForms_perm hperm
      have hformKeys : ∀ forms, jsonEntryForms mid = .ok forms → Entries.IsKeyed forms :=
        fun forms h => hkeyed.of_keys (jsonEntryForms_keys hkeyed.texts h)
      generalize jsonEntryForms es = x at hforms ⊢
      generalize jsonEntryForms fs = z at hforms' ⊢
      generalize jsonEntryForms mid = y at hforms hforms' hformKeys
      cases hforms with
      | none => cases hforms' with | none => exact .none
      | form hpairs =>
        cases hforms' with
        | form hperm =>
          have hkeyed := hformKeys _ rfl
          refine .form (.of_entries ?_)
          rw [ofPairs_keyed (hkeyed.of_keys (keys_of_sameKey hpairs).symm),
            ofPairs_keyed (hkeyed.perm hperm)]
          exact ⟨_, hpairs, .swapped hkeyed hperm⟩

/-- What a document shows of them. -/
theorem Reordered.jsonForm? (h : v.Reordered w) {form? form?' : Option Value}
    (hv : v.jsonForm? = .ok form?) (hw : w.jsonForm? = .ok form?') :
    Option.Rel Reordered form? form?' := by
  have hforms := h.jsonForm
  rw [Value.jsonForm?] at hv hw
  generalize v.jsonForm = x at hforms hv
  generalize w.jsonForm = y at hforms hw
  cases hforms with
  | form hform => cases hv; cases hw; exact .some hform
  | @none d e =>
    cases d <;> cases hv
    cases e <;> cases hw
    exact .none

/-! ### Sorting -/

theorem sortDeepItems_congr {xs ys : List Value}
    (h : List.Forall₂ (fun x y => sortDeep x = sortDeep y) xs ys) :
    sortDeepItems xs = sortDeepItems ys := by
  induction h with
  | nil => rfl
  | cons hxy _ ih => rw [sortDeepItems, sortDeepItems, hxy, ih]

theorem sortDeepEntries_eq (es : Entries Value) :
    sortDeepEntries es = es.map fun e => (e.1, RuleSchema.sortDeep e.2) := by
  induction es with
  | nil => rfl
  | cons e es ih => rw [sortDeepEntries, ih, List.map_cons]

theorem sortDeepEntries_congr {es fs : Entries Value}
    (h : List.Forall₂ (SameKey fun x y => sortDeep x = sortDeep y) es fs) :
    sortDeepEntries es = sortDeepEntries fs := by
  induction h with
  | nil => rfl
  | @cons e f _ _ he _ ih =>
    obtain ⟨k, x⟩ := e
    obtain ⟨l, y⟩ := f
    obtain ⟨rfl, hxy⟩ := he
    exact congrArg₂ List.cons (congrArg (Prod.mk _) hxy) ih

theorem keyClash?_keyed {α : Type} {es : Entries α} (h : es.IsKeyed) :
    keyClash? (es.map Prod.fst) = none := by
  refine keyClash?_texts (List.forall_mem_map.mpr fun e he => ?_)
  obtain ⟨n, hn⟩ := h.texts e he
  rw [hn]
  rfl

/-- The entries of a mapping are sorted alike, in whatever order they come. -/
theorem sortKeys_perm {α : Type} {es fs : Entries α} (h : es.IsKeyed) (hperm : es.Perm fs) :
    sortKeys es = sortKeys fs := by
  rw [sortKeys, sortKeys, keyClash?_keyed h, keyClash?_keyed (h.perm hperm),
    mergeSort_texts h.texts, mergeSort_texts (h.perm hperm).texts]
  refine congrArg _ (sortedBy_congr hperm fun e he f hf hname => ?_)
  obtain ⟨m, hm⟩ := h.texts e he
  obtain ⟨n, hn⟩ := h.texts f hf
  rw [hm, hn] at hname
  refine List.inj_on_of_nodup_map h.nodup he hf (hm.trans ?_)
  exact (congrArg Value.text hname).trans hn.symm

/-- **Sorted, values that are the same but for the order of keys are one.** -/
theorem Reordered.sortDeep (h : v.Reordered w) :
    RuleSchema.sortDeep v = RuleSchema.sortDeep w := by
  induction h with
  | same => rfl
  | list hlength _ ih =>
    rw [RuleSchema.sortDeep, RuleSchema.sortDeep,
      sortDeepItems_congr (List.forall₂_iff_zip.mpr ⟨hlength, ih⟩)]
  | @mapping es mid fs hkeys _ hshuffled ih =>
    have hsorted : sortKeys (sortDeepEntries mid) = sortKeys (sortDeepEntries fs) := by
      cases hshuffled with
      | same => rfl
      | swapped hkeyed hperm =>
        rw [sortDeepEntries_eq, sortDeepEntries_eq]
        exact sortKeys_perm (hkeyed.map _) (hperm.map _)
    rw [RuleSchema.sortDeep, RuleSchema.sortDeep,
      sortDeepEntries_congr (sameKey_of_zip hkeys ih), hsorted]

end Value

end RuleSchema
