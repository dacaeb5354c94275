import RuleSchema.Proofs.Export.Keywords
import RuleSchema.Proofs.Number.Exact
import RuleSchema.Proofs.Schema.Growth

/-!
# The keywords of an array

An array is the one type of rules whose fragments may clash.  Its bounds on the number of
items clash with each other inside one stage, which opens a conjunction there; the values
that it must contain open one in the last stage; and the choices for its items clash with
the schema of the items.

* `ArrayOptions.sizesClash` tells whether the bounds clash, `containedForms?` and
  `choiceForms?` give what the schema shows of the values and the choices.
* `array_layout` puts the fragments of an array in the form that `Layout` describes.
-/

namespace RuleSchema

open Eval Schema

/-! ### The bounds -/

/-- Whether some numbers are not all the same. -/
def varied : List Nat → Bool
  | [] => false
  | n :: ns => ns.any (· ≠ n)

theorem varied_eq_false {ns : List Nat} :
    varied ns = false ↔ ∀ k, ns.head? = some k → ∀ n ∈ ns, k = n := by
  cases ns with
  | nil => exact ⟨fun _ k hk => (nomatch hk), fun _ => rfl⟩
  | cons m ns =>
    rw [varied, List.any_eq_false]
    constructor
    · intro h k hk n hn
      cases hk
      rcases List.mem_cons.mp hn with rfl | hn
      · rfl
      · exact (by simpa using h n hn : n = m).symm
    · intro h n hn
      simpa using (h m rfl n (List.mem_cons_of_mem _ hn)).symm

theorem bound_equals (m n : Nat) : (bound m).equals (bound n) = decide (m = n) := by
  show (Number.int m).equals (.int n) = _
  rw [Number.int_equals]
  exact decide_eq_decide.mpr Int.ofNat_inj

namespace ArrayOptions

/-- The lower bounds on the number of items, in the order of the checks. -/
def lowerBounds (o : ArrayOptions) : List Nat :=
  (if o.empty? = some true then [] else [1]) ++ o.length?.toList ++ o.min?.toList

/-- The upper bounds on the number of items, in the order of the checks. -/
def upperBounds (o : ArrayOptions) : List Nat := o.length?.toList ++ o.max?.toList

/-- Whether two lower or two upper bounds differ. -/
def sizesClash (o : ArrayOptions) : Bool := varied o.lowerBounds || varied o.upperBounds

/-- The keywords of all bounds, one after the other. -/
def sizeKeywords (o : ArrayOptions) : Schema := (o.sizeChecks.map Check.schema).flatten

/-- The conjunction of the bounds, if they clash. -/
def sizeConflicts (o : ArrayOptions) : Option (List Value) :=
  extended none (clashing o.sizeKeywords o.sizeKeywords)

end ArrayOptions

/-- Each keyword of the bounds is one of two, and has a number. -/
theorem mem_sizeKeywords {o : ArrayOptions} {e : Value × Value} (he : e ∈ o.sizeKeywords) :
    ∃ n m, e = (.text n, bound m) ∧ (n = "minItems" ∨ n = "maxItems") := by
  obtain ⟨s, hs, he⟩ := List.mem_flatten.mp he
  obtain ⟨c, hc, rfl⟩ := List.mem_map.mp hs
  simp only [ArrayOptions.sizeChecks, List.mem_append, Option.mem_toList,
    Option.map_eq_some_iff] at hc
  rcases hc with ((hc | ⟨n, _, rfl⟩) | ⟨n, _, rfl⟩) | ⟨n, _, rfl⟩
  · split at hc
    · exact absurd hc List.not_mem_nil
    · rw [List.mem_singleton.mp hc] at he
      exact ⟨_, 1, List.mem_singleton.mp he, .inl rfl⟩
  · rcases List.mem_cons.mp he with rfl | he
    · exact ⟨_, n, rfl, .inl rfl⟩
    · exact ⟨_, n, List.mem_singleton.mp he, .inr rfl⟩
  · exact ⟨_, n, List.mem_singleton.mp he, .inl rfl⟩
  · exact ⟨_, n, List.mem_singleton.mp he, .inr rfl⟩

/-- The bounds of an option, under the name that its check has. -/
theorem allAt_option {n : String} {f : Nat → Check} (h : ∀ m, allAt (f m).schema n = [bound m])
    (x? : Option Nat) :
    allAt ((x?.map f).toList.map Check.schema).flatten n = x?.toList.map bound := by
  cases x? with
  | none => rfl
  | some m =>
    rw [Option.map_some, Option.toList_some, List.map_singleton, List.flatten_singleton, h]
    rfl

/-- The bounds of an option, under another name. -/
theorem allAt_option_nil {n : String} {f : Nat → Check} (h : ∀ m, allAt (f m).schema n = [])
    (x? : Option Nat) : allAt ((x?.map f).toList.map Check.schema).flatten n = [] := by
  cases x? with
  | none => rfl
  | some m =>
    rw [Option.map_some, Option.toList_some, List.map_singleton, List.flatten_singleton, h]

theorem allAt_minItems (o : ArrayOptions) :
    allAt o.sizeKeywords "minItems" = o.lowerBounds.map bound := by
  have hempty : allAt ((if o.empty? = some true then [] else [hasItems]).map Check.schema).flatten
      "minItems" = (if o.empty? = some true then [] else [1]).map bound := by
    split <;> rfl
  simp only [ArrayOptions.sizeKeywords, ArrayOptions.sizeChecks, ArrayOptions.lowerBounds,
    List.map_append, List.flatten_append, allAt_append, hempty]
  rw [allAt_option fun _ => rfl, allAt_option fun _ => rfl, allAt_option_nil fun _ => rfl,
    List.append_nil]

theorem allAt_maxItems (o : ArrayOptions) :
    allAt o.sizeKeywords "maxItems" = o.upperBounds.map bound := by
  have hempty : allAt ((if o.empty? = some true then [] else [hasItems]).map Check.schema).flatten
      "maxItems" = [] := by
    split <;> rfl
  simp only [ArrayOptions.sizeKeywords, ArrayOptions.sizeChecks, ArrayOptions.upperBounds,
    List.map_append, List.flatten_append, allAt_append, hempty]
  rw [allAt_option fun _ => rfl, allAt_option_nil fun _ => rfl, allAt_option fun _ => rfl,
    List.nil_append, List.append_nil]

/-- The bounds under a name clash just when they are not all the same. -/
theorem bounds_agree {ns : List Nat} {s : Schema} {n : String} (h : allAt s n = ns.map bound) :
    (∀ old, Entries.at? s n = some old → ∀ v ∈ allAt s n, old.equals v = true) ↔
      varied ns = false := by
  rw [varied_eq_false, at?_eq_head, h, List.head?_map]
  constructor
  · intro hall k hk m hm
    have heq := hall (bound k) (by rw [hk]; rfl) (bound m) (List.mem_map_of_mem hm)
    rw [bound_equals] at heq
    exact of_decide_eq_true heq
  · intro hall old hold v hv
    obtain ⟨k, hk, rfl⟩ := Option.map_eq_some_iff.mp hold
    obtain ⟨m, hm, rfl⟩ := List.mem_map.mp hv
    rw [bound_equals, hall k hk m hm, decide_eq_true rfl]

theorem sizeConflicts_eq_none {o : ArrayOptions} :
    o.sizeConflicts = none ↔ o.sizesClash = false := by
  have hkeys : ∀ e ∈ o.sizeKeywords, ∃ n, e.1 = .text n := fun e he => by
    obtain ⟨n, m, rfl, _⟩ := mem_sizeKeywords he
    exact ⟨n, rfl⟩
  have hother : ∀ n, n ≠ "minItems" → n ≠ "maxItems" → Entries.at? o.sizeKeywords n = none := by
    intro n hmin hmax
    rw [at?_eq_head, allAt, List.filterMap_eq_nil_iff.mpr]
    · rfl
    · intro e he
      obtain ⟨m, k, rfl, hm⟩ := mem_sizeKeywords he
      refine if_neg ?_
      rw [text_equals, beq_iff_eq]
      rintro rfl
      exact hm.elim hmin hmax
  have hextended : ∀ xs : List Value, extended none xs = none ↔ xs = [] := by
    intro xs
    cases xs <;> simp [extended]
  rw [ArrayOptions.sizeConflicts, hextended, clashing_self_eq_nil hkeys, ArrayOptions.sizesClash,
    Bool.or_eq_false_iff, ← bounds_agree (allAt_minItems o), ← bounds_agree (allAt_maxItems o)]
  constructor
  · exact fun h => ⟨h _, h _⟩
  · rintro ⟨hmin, hmax⟩ n old hold
    by_cases h₁ : n = "minItems"
    · subst h₁; exact hmin old hold
    · by_cases h₂ : n = "maxItems"
      · subst h₂; exact hmax old hold
      · rw [hother n h₁ h₂] at hold
        cases hold

/-- **The fragment of the bounds** has a conjunction just when they clash. -/
theorem sizes_fragment {o : ArrayOptions} {sizes : List Stage}
    (h : ChecksOf .validate o.sizeChecks sizes) :
    Named (sizes.map Stage.schema).flatten ["allOf", "minItems", "maxItems"] ∧
      Entries.at? (sizes.map Stage.schema).flatten "allOf" = o.sizeConflicts.map .list := by
  have hbound : ∀ e ∈ o.sizeKeywords, ∃ n v, e = (.text n, v) ∧ n ≠ "allOf" ∧
      v.equals v = true := by
    intro e he
    obtain ⟨n, m, rfl, hn⟩ := mem_sizeKeywords he
    refine ⟨n, bound m, rfl, ?_, by rw [bound_equals, decide_eq_true rfl]⟩
    rcases hn with rfl | rfl <;> decide
  have hchecks : ∀ c ∈ o.sizeChecks, Named c.schema ["minItems", "maxItems"] := by
    intro c hc
    simp only [ArrayOptions.sizeChecks, List.mem_append, Option.mem_toList,
      Option.map_eq_some_iff] at hc
    rcases hc with ((hc | ⟨n, _, rfl⟩) | ⟨n, _, rfl⟩) | ⟨n, _, rfl⟩
    · split at hc
      · exact absurd hc List.not_mem_nil
      · rw [List.mem_singleton.mp hc]
        exact named_keyword List.mem_cons_self
    · exact named_of_keys (K := ["minItems", "maxItems"]) rfl (by decide)
    · exact named_keyword List.mem_cons_self
    · exact named_keyword (List.mem_cons_of_mem _ List.mem_cons_self)
  refine ⟨h.named hchecks (by decide), ?_⟩
  cases h with
  | none hnil =>
    rw [ArrayOptions.sizeConflicts, ArrayOptions.sizeKeywords, hnil]
    rfl
  | one _ _ hschema =>
    obtain ⟨s, hs, _, hconj⟩ := mergeSchema_clash (s := []) (p := []) (o := none) hbound
      (fun _ _ => rfl) rfl
    rw [checksSchema_flatten] at hschema
    rw [List.map_singleton, List.flatten_singleton, ← Except.ok.inj (hs.symm.trans hschema)]
    exact hconj

/-! ### The contents -/

theorem jsonForm_keyword (n : String) (v : Value) :
    (Value.mapping (keyword n v)).jsonForm
      = v.jsonForm.map fun form => .mapping (keyword n form) := by
  rw [keyword, Value.jsonForm, Value.jsonEntryForms, Value.jsonEntryForms]
  cases v.jsonForm <;> rfl

/-- A keyword whose value has a form, or nothing if it has none. -/
theorem shownSchema_ok {n : String} {v : Value} {s : Schema}
    (h : shownSchema (keyword n v) = .ok s) :
    s = (match v.jsonForm.toOption with
      | some form => keyword n form
      | none => []) := by
  rw [shownSchema, Value.jsonForm?, jsonForm_keyword] at h
  cases hv : v.jsonForm with
  | ok form => rw [hv] at h; cases h; rfl
  | error e =>
    rw [hv] at h
    cases e with
    | fault f => cases h
    | rejected u => cases h; rfl

theorem jsonForms_containing (xs : List Value) :
    Value.jsonForms (xs.map fun x => .mapping (containing x))
      = (Value.jsonForms xs).map (·.map fun form => .mapping (containing form)) := by
  induction xs with
  | nil => rfl
  | cons x xs ih =>
    rw [List.map_cons, Value.jsonForms, Value.jsonForms, containing, jsonForm_keyword,
      jsonForm_keyword, ih]
    cases x.jsonForm with
    | error e => rfl
    | ok form => cases Value.jsonForms xs <;> rfl

namespace ArrayOptions

/-- The values of a list that an array must contain, if all of them can be shown. -/
def containedForms? (o : ArrayOptions) : Option (List Value) :=
  match o.contains? with
  | some (.list xs) => (Value.jsonForms xs).toOption
  | _ => none

/-- The values that the items of an array are chosen from, if all of them can be shown. -/
def choiceForms? (o : ArrayOptions) : Option (List Value) :=
  o.enum?.bind fun xs => (Value.jsonForms xs).toOption

/-- The conjunction of the values that an array must contain. -/
def containedConjuncts? (o : ArrayOptions) : Option (List Value) :=
  o.containedForms?.map (·.map fun form => .mapping (containing form))

end ArrayOptions

/-- The schema of the check on the values that an array must contain. -/
theorem containsCheck_ok {wanted : Value} {c : Check} (h : containsCheck wanted = .ok c) :
    (∃ xs, wanted = .list xs ∧ c.schema = conjunction ((Value.jsonForms xs).toOption.map
      (·.map fun form => .mapping (containing form)))) ∨
    (∀ xs, wanted ≠ .list xs) ∧ Named c.schema ["contains"] := by
  by_cases hlist : ∃ xs, wanted = .list xs
  · obtain ⟨xs, rfl⟩ := hlist
    refine .inl ⟨xs, rfl, ?_⟩
    change (shownSchema _ >>= _) = _ at h
    cases hs : shownSchema (keyword "allOf" (.list (xs.map fun x => .mapping (containing x)))) with
    | error f => rw [hs] at h; cases h
    | ok s =>
      rw [hs] at h
      cases h
      rw [shownSchema_ok hs, Value.jsonForm, jsonForms_containing]
      cases Value.jsonForms xs <;> rfl
  · refine .inr ⟨fun xs hxs => hlist ⟨xs, hxs⟩, ?_⟩
    rw [containsCheck] at h
    · cases hs : shownSchema (containing wanted) with
      | error f => rw [hs] at h; cases h
      | ok s =>
        rw [hs] at h
        cases h
        rw [shownSchema_ok hs]
        split
        · exact named_keyword List.mem_cons_self
        · exact named_nil
    · intro xs hxs
      exact hlist ⟨xs, hxs⟩

theorem itemsAmong_ok {allowed : List Value} {c : Check} (h : itemsAmong allowed = .ok c) :
    c.schema = (match (Value.jsonForms allowed).toOption with
      | some forms => keyword "items" (.mapping (keyword "enum" (.list forms)))
      | none => []) := by
  change (shownSchema _ >>= _) = _ at h
  cases hs : shownSchema (keyword "items" (.mapping (keyword "enum" (.list allowed)))) with
  | error f => rw [hs] at h; cases h
  | ok s =>
    rw [hs] at h
    cases h
    rw [shownSchema_ok hs, jsonForm_keyword, Value.jsonForm]
    cases Value.jsonForms allowed <;> rfl

/-- **The fragment of the contents**: a conjunction of the values that must be there, if they are
given as a list, and keywords with different names. -/
theorem contents_fragment {o : ArrayOptions} {checks : List Check}
    (h : o.contentChecks = .ok checks) :
    ∃ rest, (checks.map Check.schema).flatten = conjunction o.containedConjuncts? ++ rest ∧
      Named rest ["contains", "uniqueItems", "items"] ∧
      Entries.at? rest "items"
        = o.choiceForms?.map fun forms => .mapping (keyword "enum" (.list forms)) := by
  rw [ArrayOptions.contentChecks] at h
  cases hw : o.contains?.toList.mapM containsCheck with
  | error f => rw [hw] at h; cases h
  | ok wanted =>
    rw [hw] at h
    cases hc : o.enum?.toList.mapM itemsAmong with
    | error f => rw [hc] at h; cases h
    | ok choices =>
      rw [hc] at h
      cases h
      obtain ⟨first, hfirst, hfirstNamed⟩ : ∃ first,
          (wanted.map Check.schema).flatten = conjunction o.containedConjuncts? ++ first ∧
          Named first ["contains"] := by
        rcases option_mapM_ok hw with ⟨hnone, rfl⟩ | ⟨x, c, hsome, hcheck, rfl⟩
        · refine ⟨[], ?_, named_nil⟩
          rw [ArrayOptions.containedConjuncts?, ArrayOptions.containedForms?, hnone]
          rfl
        · rw [List.map_singleton, List.flatten_singleton, ArrayOptions.containedConjuncts?,
            ArrayOptions.containedForms?, hsome]
          rcases containsCheck_ok hcheck with ⟨xs, rfl, hschema⟩ | ⟨hlist, hnamed⟩
          · exact ⟨[], by rw [hschema, List.append_nil], named_nil⟩
          · refine ⟨c.schema, ?_, hnamed⟩
            cases x with
            | list xs => exact absurd rfl (hlist xs)
            | _ => rfl
      have hunique : Named ((if o.unique then [differentItems] else []).map Check.schema).flatten
          ["uniqueItems"] := named_ite (named_keyword List.mem_cons_self)
      obtain ⟨hchoices, hitems⟩ : Named (choices.map Check.schema).flatten ["items"] ∧
          Entries.at? (choices.map Check.schema).flatten "items"
            = o.choiceForms?.map fun forms => .mapping (keyword "enum" (.list forms)) := by
        rcases option_mapM_ok hc with ⟨hnone, rfl⟩ | ⟨x, c, hsome, hcheck, rfl⟩
        · refine ⟨named_nil, ?_⟩
          rw [ArrayOptions.choiceForms?, hnone]
          rfl
        · rw [List.map_singleton, List.flatten_singleton, ArrayOptions.choiceForms?, hsome,
            Option.bind_some, itemsAmong_ok hcheck]
          cases (Value.jsonForms x).toOption with
          | none => exact ⟨named_nil, rfl⟩
          | some forms => exact ⟨named_keyword List.mem_cons_self, rfl⟩
      refine ⟨first ++ ((if o.unique then [differentItems] else []).map Check.schema).flatten ++
        (choices.map Check.schema).flatten, ?_, ?_, ?_⟩
      · rw [List.map_append, List.map_append, List.flatten_append, List.flatten_append, hfirst]
        simp only [List.append_assoc]
      · exact ((hfirstNamed.append hunique (by decide)).append hchoices (by decide)).mono
          (by decide)
      · rw [at?_append, (hfirstNamed.append hunique (by decide)).at?_eq_none (by decide)]
        exact hitems

/-! ### All fragments -/

/-- The shape of a rule whose schema has one type keeps that keyword, and every other one but for
the default. -/
theorem ShapeOf.typed {r : Rule} {shape : Shape} {s : Stage} {k n : String}
    (h : ShapeOf r shape s) (htype : Entries.at? shape.schema "type" = some (.text k)) :
    (Entries.at? s.schema "type").isSome ∧
      (n ≠ "type" → n ≠ "default" → Entries.at? s.schema n = Entries.at? shape.schema n) := by
  obtain ⟨s₁, d?, hs₁, _, hschema⟩ := shapeSchema_ok h.schema
  have hs₁ : (Entries.at? s₁ "type").isSome ∧
      (n ≠ "type" → Entries.at? s₁ n = Entries.at? shape.schema n) := by
    rcases hs₁ with ⟨_, hs₁⟩ | ⟨_, rfl⟩
    · rw [nullableSchema, htype] at hs₁
      cases hs₁
      exact ⟨by rw [at?_put_self]; rfl, fun hn => at?_put_of_ne hn.symm⟩
    · exact ⟨by rw [htype]; rfl, fun _ => rfl⟩
  rw [hschema]
  cases d? with
  | none => exact ⟨hs₁.1, fun hn _ => hs₁.2 hn⟩
  | some d =>
    refine ⟨?_, fun hn hd => ?_⟩
    · rw [withDefault, at?_put_of_ne (by decide)]
      exact hs₁.1
    · rw [withDefault, at?_put_of_ne hd.symm]
      exact hs₁.2 hn

/-- What an array adds to its conjunction for the choices, next to the schema of its items. -/
def ArrayOptions.narrowing (o : ArrayOptions) (items : Schema) : List Value :=
  match o.choiceForms? with
  | some forms =>
    let choices := Value.mapping (keyword "enum" (.list forms))
    if (Value.mapping items).equals choices then [] else [.mapping (keyword "items" choices)]
  | none => []

theorem conjunction_named {zs? : Option (List Value)} : Named (conjunction zs?) ["allOf"] := by
  cases zs? with
  | none => exact named_nil
  | some zs => exact named_keyword List.mem_cons_self

/-- A conjunction of bounds is none of values that must be there. -/
theorem sizes_differ {o : ArrayOptions} {xs zs : List Value} (hxs : o.sizeConflicts = some xs)
    (hzs : o.containedConjuncts? = some zs) : DifferFirst xs zs := by
  have hclashing : clashing o.sizeKeywords o.sizeKeywords = xs ∧ xs ≠ [] := by
    rw [ArrayOptions.sizeConflicts] at hxs
    cases hc : clashing o.sizeKeywords o.sizeKeywords with
    | nil => rw [hc] at hxs; cases hxs
    | cons y ys => rw [hc] at hxs; cases hxs; exact ⟨rfl, List.cons_ne_nil _ _⟩
  obtain ⟨hclashing, hne⟩ := hclashing
  obtain ⟨x, xs', rfl⟩ := List.exists_cons_of_ne_nil hne
  refine ⟨x, xs', rfl, fun z hz => ?_⟩
  obtain ⟨e, he, hx⟩ := List.mem_filterMap.mp (hclashing ▸ List.mem_cons_self : x ∈ _)
  obtain ⟨n, m, rfl, hn⟩ := mem_sizeKeywords he
  obtain rfl : x = .mapping [(.text n, bound m)] := by
    split at hx
    · split at hx
      · cases hx
      · exact (Option.some.inj hx).symm
    · cases hx
  obtain ⟨forms, -, rfl⟩ := Option.map_eq_some_iff.mp hzs
  cases forms with
  | nil => cases hz
  | cons form forms =>
    cases hz
    rcases hn with rfl | rfl <;> rfl

/-- **The fragments of an array** clash in the last one alone, if there is a last one. -/
theorem Rule.CompilesTo.array_layout {c : CommonOptions} {items : Rule} {o : ArrayOptions}
    {ctx : Strictness} {d : Validator} (h : (Rule.array c items o).CompilesTo ctx d) :
    ∃ di schema pre, items.CompilesTo ctx di ∧ di.schema = .ok schema ∧
      (Entries.at? pre.flatten "type").isSome ∧
      ((d.fragments = pre ∧ (∃ K, Named pre.flatten K) ∧ o.containedForms? = none ∧
          o.choiceForms? = none) ∨
        ∃ rest, d.fragments = Layout.fragments pre o.containedConjuncts? rest ∧
          Layout pre o.containedConjuncts? rest o.sizeConflicts ∧
          clashing pre.flatten rest = o.narrowing schema) := by
  obtain ⟨di, schema, shape, sizes, contents, checks, hdi, hschema, hshape, hsizes, hchecks,
    hcontents, hmade⟩ := h.array
  obtain ⟨rest, hrest, hrestNamed, hitems⟩ := contents_fragment hchecks
  obtain ⟨hsizesNamed, hconj⟩ := sizes_fragment hsizes
  have hshapeNamed := hshape.named (K := ["type", "items"])
    (named_of_keys (K := ["type", "items"]) rfl (by decide))
  have hpre : ((shape :: sizes).map Stage.schema).flatten
      = shape.schema ++ (sizes.map Stage.schema).flatten := by
    rw [List.map_cons, List.flatten_cons]
  have htype : Entries.at? (typeSchema "array" ++ keyword "items" (.mapping schema)) "type"
      = some (.text "array") := rfl
  have hpreNamed : Named ((shape :: sizes).map Stage.schema).flatten
      ["default", "anyOf", "type", "items", "allOf", "minItems", "maxItems"] := by
    rw [hpre]
    exact (hshapeNamed.append hsizesNamed (by decide)).mono (by decide)
  refine ⟨di, schema, (shape :: sizes).map Stage.schema, hdi, hschema, ?_, ?_⟩
  · rw [hpre, at?_append]
    obtain ⟨v, hv⟩ := Option.isSome_iff_exists.mp (hshape.typed (n := "type") htype).1
    rw [hv]
    rfl
  cases hcontents with
  | none hnil =>
    rw [hnil] at hrest
    obtain ⟨hconjuncts, rfl⟩ := List.append_eq_nil_iff.mp hrest.symm
    refine .inl ⟨?_, ⟨_, hpreNamed⟩, ?_, ?_⟩
    · rw [Validator.fragments, hmade.stages, List.append_nil]
    · rw [ArrayOptions.containedConjuncts?] at hconjuncts
      cases hforms : o.containedForms? with
      | none => rfl
      | some forms => rw [hforms] at hconjuncts; cases hconjuncts
    · cases hforms : o.choiceForms? with
      | none => rfl
      | some forms => rw [hforms] at hitems; cases hitems
  | @one s _ _ hs =>
    refine .inr ⟨rest, ?_, ⟨⟨_, hpreNamed⟩, ?_, ⟨_, hrestNamed, by decide⟩, ?_⟩, ?_⟩
    · have hflat : Named (checks.map Check.schema).flatten
          ["allOf", "contains", "uniqueItems", "items"] := by
        rw [hrest]
        exact (conjunction_named.append hrestNamed (by decide)).mono (by decide)
      rw [checksSchema_apart hflat] at hs
      rw [Validator.fragments, hmade.stages, List.map_append, List.map_singleton,
        ← Except.ok.inj hs, hrest]
      rfl
    · rw [hpre, at?_append, hshapeNamed.at?_eq_none (by decide), Option.none_or]
      exact hconj
    · intro xs zs hxs hzs
      exact sizes_differ hxs hzs
    · rw [clashing_at (n := "items") hrestNamed, hitems, hpre, at?_append,
        (hshape.typed htype).2 (by decide) (by decide)]
      · rw [show Entries.at? (typeSchema "array" ++ keyword "items" (.mapping schema)) "items"
          = some (.mapping schema) from rfl, Option.some_or, ArrayOptions.narrowing]
        cases o.choiceForms? <;> rfl
      · intro m hm hne
        have hm' : m = "contains" ∨ m = "uniqueItems" := by
          simpa [hne] using hm
        rw [hpre, at?_append, hshapeNamed.at?_eq_none, hsizesNamed.at?_eq_none]
        · rfl
        · rcases hm' with rfl | rfl <;> decide
        · rcases hm' with rfl | rfl <;> decide

end RuleSchema
