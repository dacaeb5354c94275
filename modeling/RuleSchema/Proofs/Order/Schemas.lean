import RuleSchema.Compile.Composite
import RuleSchema.Proofs.Export.Choices
import RuleSchema.Proofs.Order.Rules

/-!
# Schemas of values with their keys in another order

The schemas of two rules that are the same but for the order of keys have the same keywords one
after the other; what differs is the order of keys in the values that they show, and that of the
properties of objects.  Since equality does not see such an order, joining the fragments of one
schema meets the same conflicts as joining those of the other.

* `Schema.Parallel` is this relation between schemas.
* `mergeSchema_parallel`, `nullableSchema_parallel` and `shapeSchema_parallel`: the schemas that
  are made of two such schemas.
* `containsCheck_parallel` and `itemsAmong_parallel`: the checks that show values.
* `joinFragments_parallel`: the joint schema, and the fragments after the joining.
* `Validator.export_parallel`: **the exports of two validators** with such fragments.
-/

namespace RuleSchema

/-! ### Schemas -/

/-- The same keywords one after the other, with values that are the same but for the order of
keys. -/
abbrev Schema.Parallel : Schema → Schema → Prop := List.Forall₂ (SameKey Value.Reordered)

namespace Schema

variable {s t f g : Schema} {v w : Value} {n : String}

theorem parallel_refl (s : Schema) : Parallel s s :=
  List.forall₂_same.mpr fun e _ => ⟨rfl, .same e.2⟩

theorem parallel_keyword (n : String) (h : v.Reordered w) :
    Parallel (keyword n v) (keyword n w) := .cons ⟨rfl, h⟩ .nil

theorem Parallel.append (hst : Parallel s t) (hfg : Parallel f g) : Parallel (s ++ f) (t ++ g) :=
  forall₂_append hst hfg

theorem Parallel.at? (h : Parallel s t) (n : String) :
    Option.Rel Value.Reordered (s.at? n) (t.at? n) := Entries.find?_sameKey h _

theorem Parallel.put (h : Parallel s t) (n : String) (hvw : v.Reordered w) :
    Parallel (s.put (.text n) v) (t.put (.text n) w) := Entries.put_sameKey h _ hvw

/-- Two such schemas as values. -/
theorem Parallel.reordered (h : Parallel s t) : (Value.mapping s).Reordered (.mapping t) :=
  .of_entries (.of_forall₂ h)

/-! ### Joining -/

theorem appendConjunct_parallel (h : Parallel s t) (key : Value) (hvw : v.Reordered w) :
    ResultsAgree Parallel (appendConjunct s key v) (appendConjunct t key w) := by
  have hconjunct : (Value.mapping [(key, v)]).Reordered (.mapping [(key, w)]) :=
    Parallel.reordered (.cons ⟨rfl, hvw⟩ .nil)
  have hlist : ∀ {xs ys : List Value}, List.Forall₂ Value.Reordered xs ys →
      Parallel (s.put (.text "allOf") (.list (xs ++ [.mapping [(key, v)]])))
        (t.put (.text "allOf") (.list (ys ++ [.mapping [(key, w)]]))) :=
    fun hxs => h.put _ (.of_items (forall₂_snoc hxs hconjunct))
  have hat := h.at? "allOf"
  unfold appendConjunct
  generalize s.at? "allOf" = x at hat ⊢
  generalize t.at? "allOf" = y at hat ⊢
  cases hat with
  | none => exact .ok (hlist .nil)
  | @some old _ hold =>
    cases hold with
    | same =>
      cases old with
      | list xs => exact .ok (hlist (List.forall₂_same.mpr fun x _ => .same x))
      | _ => exact .error_left
    | list hlength hitems => exact .ok (hlist (List.forall₂_iff_zip.mpr ⟨hlength, hitems⟩))
    | mapping => exact .error_left

/-- A keyword is in conflict with what is there on both sides or on neither. -/
theorem mergeKeyword_parallel (h : Parallel s t) (key : Value) (hvw : v.Reordered w) :
    ResultsAgree Parallel (mergeKeyword s key v) (mergeKeyword t key w) := by
  have hfind := Entries.find?_sameKey h key
  unfold mergeKeyword
  generalize s.find? key = x at hfind ⊢
  generalize t.find? key = y at hfind ⊢
  cases hfind with
  | none => exact .ok (h.append (.cons ⟨rfl, hvw⟩ .nil))
  | some hold =>
    dsimp only
    rw [hold.equals_left, hvw.equals_right]
    split
    · exact .ok h
    · exact appendConjunct_parallel h key hvw

theorem mergeSchema_parallel (h : Parallel s t) (hfg : Parallel f g) :
    ResultsAgree Parallel (mergeSchema s f) (mergeSchema t g) := by
  induction hfg generalizing s t with
  | nil => exact .ok h
  | @cons e e' _ _ he _ ih =>
    rw [mergeSchema, mergeSchema, List.foldlM_cons, List.foldlM_cons, he.1]
    exact (mergeKeyword_parallel h e.1 he.2).bind fun h => ih h

/-- The joint schema of checks. -/
theorem checksSchema_parallel {cs ds : List Check}
    (h : List.Forall₂ (fun c d => Parallel c.schema d.schema) cs ds) :
    ResultsAgree Parallel (Stage.checksSchema cs) (Stage.checksSchema ds) := by
  have hfold : ∀ {s t : Schema}, Parallel s t → ResultsAgree Parallel
      (cs.foldlM (fun schema c => mergeSchema schema c.schema) s)
      (ds.foldlM (fun schema c => mergeSchema schema c.schema) t) := by
    induction h with
    | nil => exact fun h => .ok h
    | cons hc _ ih =>
      intro s t h
      rw [List.foldlM_cons, List.foldlM_cons]
      exact (mergeSchema_parallel h hc).bind fun h => ih h
  exact hfold .nil

/-! ### Shapes -/

/-- What a schema without a type of its own becomes when null is admitted as well. -/
def orNull (s : Schema) : Except Fault Schema :=
  match s.at? "anyOf" with
  | some v =>
    match v.elements? with
    | some xs =>
      .ok (s.put (.text "anyOf") (.list (xs ++ [.mapping (keyword "type" (.text "null"))])))
    | none => .error (.noElements v.kindName)
  | none =>
    .ok (if s.isEmpty then s
      else [(.text "anyOf", .list [.mapping s, .mapping (keyword "type" (.text "null"))])])

theorem orNull_parallel (h : Parallel s t)
    (hlist : ∀ v, s.at? "anyOf" = some v → ∃ xs, v = .list xs) :
    ResultsAgree Parallel s.orNull t.orNull := by
  have hany := h.at? "anyOf"
  unfold orNull
  generalize s.at? "anyOf" = x at hany hlist ⊢
  generalize t.at? "anyOf" = y at hany ⊢
  cases hany with
  | none =>
    cases h with
    | nil => exact .ok .nil
    | cons he hs =>
      have hschema := Parallel.reordered (.cons he hs)
      exact .ok (parallel_keyword _ (.of_items (.cons hschema (.cons (.same _) .nil))))
  | some hvw =>
    obtain ⟨xs, rfl⟩ := hlist _ rfl
    obtain ⟨ys, rfl, hxs⟩ := hvw.of_list
    exact .ok (h.put _ (.of_items (forall₂_snoc hxs (.same _))))

/-- What a schema of several types becomes when null is admitted as well. -/
theorem kinds_parallel (h : Parallel s t) (nothing : Value) {xs ys : List Value}
    (hxs : List.Forall₂ Value.Reordered xs ys) :
    Parallel
      (if xs.any nothing.equals then s else s.put (.text "type") (.list (xs ++ [nothing])))
      (if ys.any nothing.equals then t else t.put (.text "type") (.list (ys ++ [nothing]))) := by
  have hany : xs.any nothing.equals = ys.any nothing.equals := by
    induction hxs with
    | nil => rfl
    | cons hx _ ih => rw [List.any_cons, List.any_cons, hx.equals_right, ih]
  rw [hany]
  split
  · exact h
  · exact h.put _ (.of_items (forall₂_snoc hxs (.same _)))

/-- The schema that admits null as well, where a choice between schemas is a list. -/
theorem nullableSchema_parallel (h : Parallel s t)
    (hlist : ∀ v, s.at? "anyOf" = some v → ∃ xs, v = .list xs) :
    ResultsAgree Parallel (nullableSchema s) (nullableSchema t) := by
  have hrest := orNull_parallel h hlist
  have htype := h.at? "type"
  unfold nullableSchema
  generalize s.at? "type" = x at htype ⊢
  generalize t.at? "type" = y at htype ⊢
  cases htype with
  | none => exact hrest
  | @some kind _ hkind =>
    cases hkind with
    | same =>
      cases kind with
      | text name => exact .ok (h.put _ (.same _))
      | tag tag => exact .ok (h.put _ (.same _))
      | list kinds => exact .ok (kinds_parallel h _ (List.forall₂_same.mpr fun x _ => .same x))
      | _ => exact hrest
    | list hlength hitems =>
      exact .ok (kinds_parallel h _ (List.forall₂_iff_zip.mpr ⟨hlength, hitems⟩))
    | mapping => exact hrest

theorem shownDefault_agree {r q : Rule} (h : r.Reordered q) :
    ResultsAgree (Option.Rel Value.Reordered) (shownDefault? r) (shownDefault? q) := by
  have hdefault := h.common.default
  unfold shownDefault?
  generalize r.common.default? = x at hdefault ⊢
  generalize q.common.default? = y at hdefault ⊢
  cases hdefault with
  | none => exact .ok .none
  | some hvw =>
    dsimp only
    rw [hvw.isCallable_eq]
    split
    · exact .ok .none
    · exact fun _ _ hform hform' => hvw.jsonForm? hform hform'

/-- **The schemas of two shapes**, with what their rules say of null and of the default. -/
theorem shapeSchema_parallel {r q : Rule} (h : r.Reordered q) (hst : Parallel s t)
    (hlist : ∀ v, s.at? "anyOf" = some v → ∃ xs, v = .list xs) :
    ResultsAgree Parallel (shapeSchema r s) (shapeSchema q t) := by
  intro s' t' hs' ht'
  obtain ⟨s₁, d?, hs₁, hd, rfl⟩ := shapeSchema_ok hs'
  obtain ⟨t₁, e?, ht₁, he, rfl⟩ := shapeSchema_ok ht'
  have hnullable : Parallel s₁ t₁ := by
    rw [← h.common.nullable] at ht₁
    rcases hs₁ with ⟨hnull, hs₁⟩ | ⟨hnull, rfl⟩ <;> rcases ht₁ with ⟨hnull', ht₁⟩ | ⟨hnull', rfl⟩
    · exact nullableSchema_parallel hst hlist _ _ hs₁ ht₁
    · cases hnull.symm.trans hnull'
    · cases hnull.symm.trans hnull'
    · exact hst
  cases shownDefault_agree h _ _ hd he with
  | none => exact hnullable
  | some hvw => exact hnullable.put _ hvw

/-! ### Shown values -/

theorem shownKeyword_parallel (n : String) (h : v.Reordered w) :
    ResultsAgree Parallel (shownKeyword n v) (shownKeyword n w) := by
  intro s t hs ht
  obtain ⟨form?, hform, hs⟩ := except_bind_ok hs
  obtain ⟨form?', hform', ht⟩ := except_bind_ok ht
  cases h.jsonForm? hform hform' with
  | none => cases hs; cases ht; exact .nil
  | some hforms => cases hs; cases ht; exact parallel_keyword n hforms

theorem shownSchema_parallel (n : String) (h : v.Reordered w) :
    ResultsAgree Parallel (shownSchema (keyword n v)) (shownSchema (keyword n w)) := by
  intro s t hs ht
  rw [shownSchema_ok hs, shownSchema_ok ht]
  have hforms := h.jsonForm
  generalize v.jsonForm = x at hforms ⊢
  generalize w.jsonForm = y at hforms ⊢
  cases hforms with
  | form hform => exact parallel_keyword n hform
  | none => exact .nil

end Schema

open Schema

/-! ### Checks that show values -/

/-- The schemas of two checks are the same but for the order of keys. -/
def Check.Parallel (c d : Check) : Prop := c.schema.Parallel d.schema

theorem containsCheck_parallel {v w : Value} (h : v.Reordered w) :
    ResultsAgree Check.Parallel (containsCheck v) (containsCheck w) := by
  cases h with
  | same =>
    intro c d hc hd
    obtain rfl : c = d := Except.ok.inj (hc.symm.trans hd)
    exact parallel_refl _
  | list hlength hitems =>
    refine (shownSchema_parallel "allOf" (.of_items ?_)).bind fun hschema => .ok hschema
    refine List.forall₂_map_left_iff.mpr (List.forall₂_map_right_iff.mpr ?_)
    have hvalues := List.forall₂_iff_zip.mpr ⟨hlength, hitems⟩
    refine hvalues.imp fun x y hxy => ?_
    rw [containing, containing]
    exact (parallel_keyword "contains" (parallel_keyword "const" hxy).reordered).reordered
  | mapping hkeys hcontents hshuffled =>
    have hvalue := parallel_keyword "const" (.mapping hkeys hcontents hshuffled)
    exact (shownSchema_parallel "contains" hvalue.reordered).bind fun hschema => .ok hschema

theorem itemsAmong_parallel {vs ws : List Value} (h : List.Forall₂ Value.Reordered vs ws) :
    ResultsAgree Check.Parallel (itemsAmong vs) (itemsAmong ws) :=
  (shownSchema_parallel "items" (parallel_keyword "enum" (.of_items h)).reordered).bind
    fun hschema => .ok hschema

/-- The checks on the items of an array. -/
theorem contentChecks_parallel {o p : ArrayOptions} (h : o.Reordered p) :
    ResultsAgree (List.Forall₂ Check.Parallel) o.contentChecks p.contentChecks := by
  have hwanted : ResultsAgree (List.Forall₂ Check.Parallel) (o.contains?.toList.mapM containsCheck)
      (p.contains?.toList.mapM containsCheck) := by
    have hcontains := h.contains
    generalize o.contains? = x at hcontains ⊢
    generalize p.contains? = y at hcontains ⊢
    cases hcontains with
    | none => exact .ok .nil
    | some hvw =>
      simp only [Option.toList_some, List.mapM_cons, List.mapM_nil]
      exact (containsCheck_parallel hvw).bind fun hcheck => .ok (.cons hcheck .nil)
  have hchoices : ResultsAgree (List.Forall₂ Check.Parallel) (o.enum?.toList.mapM itemsAmong)
      (p.enum?.toList.mapM itemsAmong) := by
    have henum := h.enum
    generalize o.enum? = x at henum ⊢
    generalize p.enum? = y at henum ⊢
    cases henum with
    | none => exact .ok .nil
    | some hvws =>
      simp only [Option.toList_some, List.mapM_cons, List.mapM_nil]
      exact (itemsAmong_parallel hvws).bind fun hcheck => .ok (.cons hcheck .nil)
  unfold ArrayOptions.contentChecks
  refine hwanted.bind fun hwanted => hchoices.bind fun hchoices => .ok ?_
  rw [h.unique]
  exact forall₂_append (forall₂_append hwanted (List.forall₂_same.mpr fun c _ => parallel_refl _))
    hchoices

theorem sizeChecks_eq {o p : ArrayOptions} (h : o.Reordered p) : o.sizeChecks = p.sizeChecks := by
  rw [ArrayOptions.sizeChecks, ArrayOptions.sizeChecks, h.empty, h.length, h.min, h.max]

/-! ### The joint schema -/

/-- Two schemas in the making that are the same but for the order of keys. -/
structure Joining.Parallel (j k : Joining) : Prop where
  schema : j.schema.Parallel k.schema
  sharer : j.sharer? = k.sharer?

namespace Joining.Parallel

variable {j k : Joining} {v w : Value}

theorem keyword (h : j.Parallel k) (i : Nat) (key : Value) (hvw : v.Reordered w) :
    ResultsAgree Joining.Parallel (j.keyword i key v) (k.keyword i key w) := by
  have hopens : j.schema.hasKey (.text "allOf") = k.schema.hasKey (.text "allOf") :=
    Entries.hasKey_sameKey h.schema _
  refine (mergeKeyword_parallel h.schema key hvw).bind fun hschema => .ok ⟨hschema, ?_⟩
  rw [hopens, h.sharer]

theorem keywords {f g : Schema} (h : j.Parallel k) (i : Nat) (hfg : f.Parallel g) :
    ResultsAgree Joining.Parallel (f.foldlM (fun j e => j.keyword i e.1 e.2) j)
      (g.foldlM (fun j e => j.keyword i e.1 e.2) k) := by
  induction hfg generalizing j k with
  | nil => exact .ok h
  | @cons e _ _ _ he _ ih =>
    rw [List.foldlM_cons, List.foldlM_cons, he.1]
    exact (h.keyword i e.1 he.2).bind fun h => ih h

theorem fragments {fs gs : List Schema} (h : j.Parallel k) (i : Nat)
    (hfs : List.Forall₂ Schema.Parallel fs gs) :
    ResultsAgree Joining.Parallel (Joining.fragments i j fs) (Joining.fragments i k gs) := by
  induction hfs generalizing i j k with
  | nil => exact .ok h
  | cons hfg _ ih => exact (h.keywords i hfg).bind fun h => ih h (i + 1)

end Joining.Parallel

theorem forall₂_modify {α β : Type} {R : α → β → Prop} {f : α → α} {g : β → β} {xs : List α}
    {ys : List β} (h : List.Forall₂ R xs ys) (hfg : ∀ {x y}, R x y → R (f x) (g y)) :
    ∀ i, List.Forall₂ R (xs.modify i f) (ys.modify i g) := by
  induction h with
  | nil => intro i; rw [List.modify_nil, List.modify_nil]; exact .nil
  | cons hxy hxs ih =>
    intro i
    cases i with
    | zero => exact .cons (hfg hxy) hxs
    | succ i =>
      rw [List.modify_succ_cons, List.modify_succ_cons]
      exact .cons hxy (ih i)

/-- **The joint schema** of some fragments, and the fragments after the joining. -/
theorem joinFragments_parallel {fs gs : List Schema} (h : List.Forall₂ Schema.Parallel fs gs) :
    ResultsAgree (fun p q => p.1.Parallel q.1 ∧ List.Forall₂ Schema.Parallel p.2 q.2)
      (joinFragments fs) (joinFragments gs) := by
  have hstart : Joining.Parallel ⟨[], none⟩ ⟨[], none⟩ := ⟨.nil, rfl⟩
  refine (hstart.fragments 0 h).bind fun {j k} hjoined => ?_
  have hat := hjoined.schema.at? "allOf"
  rw [hjoined.sharer]
  generalize j.schema.at? "allOf" = x at hat ⊢
  generalize k.schema.at? "allOf" = y at hat ⊢
  cases k.sharer? with
  | none => exact .ok ⟨hjoined.schema, h⟩
  | some i =>
    cases hat with
    | none => exact .ok ⟨hjoined.schema, h⟩
    | some hvw => exact .ok ⟨hjoined.schema, forall₂_modify h (fun hfg => hfg.put _ hvw) i⟩

/-! ### Validators -/

/-- Two validators with the same schema but for the order of keys. -/
structure Validator.Parallel (d e : Validator) : Prop where
  required : d.required = e.required
  description : d.description? = e.description?
  fragments : List.Forall₂ Schema.Parallel d.fragments e.fragments

namespace Validator

variable {d e : Validator}

theorem Parallel.describe (h : d.Parallel e) {s t : Schema} (hst : s.Parallel t) :
    (d.describe s).Parallel (e.describe t) := by
  rw [Validator.describe, Validator.describe, h.description]
  split
  · split
    · exact hst
    · exact hst.put _ (.same _)
  · exact hst

/-- The schemas of two such validators. -/
theorem schema_parallel (h : d.Parallel e) : ResultsAgree Schema.Parallel d.schema e.schema := by
  intro s t hs ht
  obtain ⟨joint, fs, hjoint, rfl⟩ := schema_ok hs
  obtain ⟨joint', gs, hjoint', rfl⟩ := schema_ok ht
  exact h.describe (joinFragments_parallel h.fragments _ _ hjoint hjoint').1

theorem Parallel.withFragments (h : d.Parallel e) {fs gs : List Schema}
    (hfs : List.Forall₂ Schema.Parallel fs gs) (hd : fs.length = d.fragments.length) :
    (d.withFragments fs).Parallel (e.withFragments gs) where
  required := h.required
  description := h.description
  fragments := by
    rw [fragments_withFragments hd, fragments_withFragments]
    · exact hfs
    · rw [← hfs.length_eq, hd, h.fragments.length_eq]

/-- **The exports** of two validators with the same schema but for the order of keys. -/
theorem export_parallel (h : d.Parallel e) :
    ResultsAgree (fun p q => p.1.Parallel q.1 ∧ p.2.Parallel q.2) d.export e.export := by
  intro p q hp hq
  obtain ⟨⟨s, fs⟩, hs, hp⟩ := except_bind_ok hp
  obtain ⟨⟨t, gs⟩, ht, hq⟩ := except_bind_ok hq
  cases hp
  cases hq
  obtain ⟨hst, hfs⟩ := joinFragments_parallel h.fragments _ _ hs ht
  exact ⟨h.describe hst, h.withFragments hfs (joinFragments_length hs)⟩

end Validator

end RuleSchema
