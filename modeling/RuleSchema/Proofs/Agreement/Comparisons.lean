import RuleSchema.Proofs.Export.Arrays
import RuleSchema.Proofs.Validator.Given
import RuleSchema.Proofs.Value.Equality

/-!
# Strict sameness and the keywords that compare

Some keywords of a schema compare values: with a constant, with some choices, with what an array has
to contain, and the items of an array with each other.  What they ask of a value depends on which
values count as equal.  Strict sameness is equality of documents, but for the truth values inside of
lists and mappings, which it takes for numbers.  What a choice between values and the contents of an
array are checked for is what the keywords say that they export, read with this equality: each does
what its keywords say as long as no truth value stands inside of what it compares.

* `Value.Satisfies` reads the keywords that compare, for any equality.
* `Value.CountedEqual` is equality of documents with numbers for the truth values inside of them.
* `Check.Compares`: a check asks what its keywords ask; `runChecks_compares`: so does a stage.
* `satisfies_comparisons`: what the keywords of the contents of an array ask.
* `Validator.unrefined` and `Validator.refinements`: a validator without its last checks, and these.
* `Validator.Refines`: what the last checks of a validator decide.
* `strict_sameness_counts`: **what is strictly the same**, and what the rules compare.
-/

namespace RuleSchema

open Eval Schema

namespace Value

/-! ### Reading the keywords -/

mutual

/-- Whether a value satisfies the keywords of a schema that compare it, by the equality `E`. -/
def Satisfies (E : Value → Value → Prop) : Value → Value → Prop
  | .bool b, _ => b = true
  | .mapping schema, v => SatisfiesKeywords E schema v
  | _, _ => False
termination_by structural schema => schema

/-- Whether a value satisfies some keywords. -/
def SatisfiesKeywords (E : Value → Value → Prop) : List (Value × Value) → Value → Prop
  | [], _ => True
  | (key, x) :: rest, v =>
    (match key.text? with
      | some "const" => E x v
      | some "enum" =>
        match x with
        | .list xs => ∃ y ∈ xs, E y v
        | _ => True
      | some "contains" =>
        match v with
        | .list ys => ∃ y ∈ ys, Satisfies E x y
        | _ => True
      | some "items" =>
        match v with
        | .list ys => ∀ y ∈ ys, Satisfies E x y
        | _ => True
      | some "uniqueItems" =>
        match x, v with
        | .bool true, .list ys => ys.Pairwise fun y z => ¬ E y z
        | _, _ => True
      | some "allOf" =>
        match x with
        | .list schemas => SatisfiesEach E schemas v
        | _ => True
      | _ => True) ∧ SatisfiesKeywords E rest v
termination_by structural keywords => keywords

/-- Whether a value satisfies all of some schemas. -/
def SatisfiesEach (E : Value → Value → Prop) : List Value → Value → Prop
  | [], _ => True
  | schema :: schemas, v => Satisfies E schema v ∧ SatisfiesEach E schemas v
termination_by structural schemas => schemas

end

section

variable {E : Value → Value → Prop} {s t : Schema} {e : Value × Value} {x v : Value}
  {xs ys schemas : List Value}

theorem satisfies_mapping : Satisfies E (.mapping s) v ↔ SatisfiesKeywords E s v := Iff.rfl

theorem satisfies_cons : SatisfiesKeywords E (e :: s) v ↔
    SatisfiesKeywords E [e] v ∧ SatisfiesKeywords E s v := by
  rw [SatisfiesKeywords.eq_def, SatisfiesKeywords.eq_def E [e]]
  exact and_congr_left' (and_iff_left trivial).symm

theorem satisfies_append : SatisfiesKeywords E (s ++ t) v ↔
    SatisfiesKeywords E s v ∧ SatisfiesKeywords E t v := by
  induction s with
  | nil => exact (and_iff_right trivial).symm
  | cons e s ih => rw [List.cons_append, satisfies_cons, ih, satisfies_cons (s := s), and_assoc]

theorem satisfies_const : SatisfiesKeywords E (keyword "const" x) v ↔ E x v := and_iff_left trivial

theorem satisfies_enum :
    SatisfiesKeywords E (keyword "enum" (.list xs)) v ↔ ∃ y ∈ xs, E y v := and_iff_left trivial

theorem satisfies_contains : SatisfiesKeywords E (keyword "contains" x) (.list ys) ↔
    ∃ y ∈ ys, Satisfies E x y := and_iff_left trivial

theorem satisfies_items : SatisfiesKeywords E (keyword "items" x) (.list ys) ↔
    ∀ y ∈ ys, Satisfies E x y := and_iff_left trivial

theorem satisfies_uniqueItems :
    SatisfiesKeywords E (keyword "uniqueItems" (.bool true)) (.list ys) ↔
      ys.Pairwise fun y z => ¬ E y z := and_iff_left trivial

theorem satisfies_allOf : SatisfiesKeywords E (keyword "allOf" (.list schemas)) v ↔
    ∀ schema ∈ schemas, Satisfies E schema v := by
  refine (and_iff_left trivial).trans ?_
  change SatisfiesEach E schemas v ↔ _
  induction schemas with
  | nil => simp [SatisfiesEach]
  | cons schema schemas ih => rw [SatisfiesEach, ih, List.forall_mem_cons]

end

/-! ### The equality of the checks -/

/-- Equal documents, with numbers for the truth values inside of lists and mappings. -/
def CountedEqual (v w : Value) : Prop := v.counted.JsonEqual w.counted

section

variable {v w : Value} {xs : List Value}

theorem isAmong_iff (hxs : ∀ x ∈ xs, x.IsDocument) (hv : v.IsDocument) :
    isAmong xs v = true ↔ ∃ x ∈ xs, CountedEqual x v := by
  rw [isAmong, List.any_eq_true]
  exact exists_congr fun x => and_congr_right fun hx => same_iff (hxs x hx) hv

theorem countedEqual_comm : CountedEqual v w ↔ CountedEqual w v :=
  ⟨JsonEqual.symm, JsonEqual.symm⟩

theorem allDifferent_documents (hxs : ∀ x ∈ xs, x.IsDocument) :
    allDifferent xs = true ↔ xs.Pairwise fun x y => ¬ CountedEqual x y := by
  rw [allDifferent_iff_pairwise]
  refine List.Pairwise.iff_of_mem fun {x y} hx hy => ?_
  rw [← Bool.not_eq_true, same_iff (hxs x hx) (hxs y hy)]
  exact Iff.rfl

end

/-! ### The forms of documents -/

section

variable {v x : Value} {n : String} {es : Entries Value}

theorem jsonForms_of_each {xs : List Value} (h : ∀ x ∈ xs, x.jsonForm = .ok x) :
    jsonForms xs = .ok xs := by
  induction xs with
  | nil => rfl
  | cons x xs ih =>
    obtain ⟨hx, hxs⟩ := List.forall_mem_cons.mp h
    rw [jsonForms, hx, ih hxs]
    rfl

theorem jsonEntryForms_of_each (htexts : ∀ e ∈ es, ∃ n, e.1 = .text n)
    (h : ∀ e ∈ es, e.2.jsonForm = .ok e.2) : jsonEntryForms es = .ok es := by
  induction es with
  | nil => rfl
  | cons e es ih =>
    obtain ⟨⟨n, hn⟩, hrest⟩ := List.forall_mem_cons.mp htexts
    obtain ⟨he, hes⟩ := List.forall_mem_cons.mp h
    obtain ⟨k, x⟩ := e
    obtain rfl : k = .text n := hn
    have hx : x.jsonForm = .ok x := he
    rw [jsonEntryForms, keyForm, hx, ih hrest hes]
    rfl

/-- A document is its own form. -/
theorem jsonForm_document (h : v.IsDocument) : v.jsonForm = .ok v := by
  induction h with
  | null => rfl
  | bool b => rfl
  | number n => rfl
  | text s => rfl
  | list _ ih =>
    rw [jsonForm, jsonForms_of_each ih]
    rfl
  | mapping hkeyed _ ih =>
    rw [jsonForm, jsonEntryForms_of_each hkeyed.texts ih]
    exact congrArg (fun fs => Except.ok (Value.mapping fs)) (ofPairs_keyed hkeyed)

theorem isDocument_keyword (hx : x.IsDocument) : (Value.mapping (keyword n x)).IsDocument :=
  .mapping ⟨List.forall_mem_singleton.mpr ⟨n, rfl⟩, List.nodup_singleton _⟩
    (List.forall_mem_singleton.mpr hx)

theorem isDocument_containing (hx : x.IsDocument) : (Value.mapping (containing x)).IsDocument :=
  isDocument_keyword (isDocument_keyword hx)

end

end Value

open Value

section

variable {n : String} {v : Value} {s : Schema}

theorem shownKeyword_document (hv : v.IsDocument) : shownKeyword n v = .ok (keyword n v) := by
  rw [shownKeyword, jsonForm?, jsonForm_document hv]
  rfl

theorem shownSchema_document (hs : (Value.mapping s).IsDocument) : shownSchema s = .ok s := by
  rw [shownSchema, jsonForm?, jsonForm_document hs]
  rfl

end

/-! ### Checks -/

/-- A check comes to a result, and that is what its keywords ask. -/
def Check.Compares (c : Check) (v : Value) : Prop :=
  ∃ b, c.test v = .ok b ∧ (b = true ↔ SatisfiesKeywords CountedEqual c.schema v)

/-- **A stage of such checks** lets through what satisfies all of their keywords. -/
theorem runChecks_compares {v : Value} {checks : List Check} (h : ∀ c ∈ checks, c.Compares v) :
    (Stage.runChecks checks v).GivesIf v
      (SatisfiesKeywords CountedEqual (checks.map Check.schema).flatten v) := by
  induction checks with
  | nil => exact givesIf_pure v
  | cons c checks ih =>
    obtain ⟨⟨b, hb, hcompares⟩, hchecks⟩ := List.forall_mem_cons.mp h
    have hrest := ih hchecks
    rw [Stage.runChecks, hb, List.map_cons, List.flatten_cons]
    cases b with
    | true =>
      refine Eval.GivesIf.congr hrest ?_
      rw [satisfies_append]
      exact and_iff_right (hcompares.mp rfl)
    | false =>
      refine ⟨fun hall => ?_, fun _ => ⟨_, rfl⟩⟩
      exact absurd (hcompares.mpr (satisfies_append.mp hall).1) Bool.false_ne_true

/-- A check on arrays with the keywords `s`, which asks of the items of an array what these ask. -/
structure Check.ComparesItems (c : Check) (s : Schema) : Prop where
  schema : c.schema = s
  compares : ∀ ys : List Value, (∀ y ∈ ys, y.IsDocument) → c.Compares (.list ys)

section

variable {ys allowed : List Value} {wanted : Value} {c : Check}

/-- The keywords of the check on what an array contains. -/
def containsSchema : Value → Schema
  | .list xs => keyword "allOf" (.list (xs.map fun x => .mapping (containing x)))
  | x => containing x

theorem satisfies_containing {E : Value → Value → Prop} {x : Value} :
    Satisfies E (.mapping (containing x)) (.list ys) ↔ ∃ y ∈ ys, E x y := by
  rw [satisfies_mapping, containing, satisfies_contains]
  simp only [satisfies_mapping, satisfies_const]

theorem isAmong_containing {x : Value} (hx : x.IsDocument) (hys : ∀ y ∈ ys, y.IsDocument) :
    isAmong ys x = true ↔ Satisfies CountedEqual (.mapping (containing x)) (.list ys) := by
  rw [satisfies_containing, isAmong_iff hys hx]
  exact exists_congr fun y => and_congr_right fun _ => countedEqual_comm

/-- The check on what an array contains. -/
theorem containsCheck_compares (hwanted : wanted.IsDocument) (h : containsCheck wanted = .ok c) :
    c.ComparesItems (containsSchema wanted) := by
  by_cases hlist : ∃ xs, wanted = .list xs
  · obtain ⟨xs, rfl⟩ := hlist
    have hxs : ∀ x ∈ xs, x.IsDocument := fun x hx => hwanted.item hx
    have hshown : shownSchema (containsSchema (.list xs)) = .ok (containsSchema (.list xs)) :=
      shownSchema_document (isDocument_keyword
        (.list (List.forall_mem_map.mpr fun x hx => isDocument_containing (hxs x hx))))
    change (shownSchema (containsSchema (.list xs)) >>= _) = _ at h
    rw [hshown] at h
    cases h
    refine ⟨rfl, fun ys hys => ⟨_, rfl, ?_⟩⟩
    change (xs.all fun x => isAmong ys x) = true ↔
      SatisfiesKeywords CountedEqual (containsSchema (.list xs)) (.list ys)
    rw [containsSchema, satisfies_allOf, List.forall_mem_map, List.all_eq_true]
    exact forall₂_congr fun x hx => isAmong_containing (hxs x hx) hys
  · have hsingle : containsSchema wanted = containing wanted := by
      cases wanted <;> first | rfl | exact absurd ⟨_, rfl⟩ hlist
    rw [containsCheck] at h
    · rw [shownSchema_document (isDocument_containing hwanted)] at h
      cases h
      exact ⟨hsingle.symm, fun ys hys => ⟨_, rfl, isAmong_containing hwanted hys⟩⟩
    · intro xs hxs
      exact hlist ⟨xs, hxs⟩

/-- The check that items are different. -/
theorem differentItems_compares :
    differentItems.ComparesItems (keyword "uniqueItems" (.bool true)) := by
  refine ⟨rfl, fun ys hys => ⟨_, rfl, ?_⟩⟩
  change allDifferent ys = true ↔
    SatisfiesKeywords CountedEqual (keyword "uniqueItems" (.bool true)) (.list ys)
  rw [satisfies_uniqueItems, allDifferent_documents hys]

/-- The keywords of the check that items are among some values. -/
def amongSchema (allowed : List Value) : Schema :=
  keyword "items" (.mapping (keyword "enum" (.list allowed)))

/-- The check that items are among some values. -/
theorem itemsAmong_compares (hallowed : ∀ x ∈ allowed, x.IsDocument)
    (h : itemsAmong allowed = .ok c) : c.ComparesItems (amongSchema allowed) := by
  have hshown : shownSchema (amongSchema allowed) = .ok (amongSchema allowed) :=
    shownSchema_document (isDocument_keyword (isDocument_keyword (.list hallowed)))
  change (shownSchema (amongSchema allowed) >>= _) = _ at h
  rw [hshown] at h
  cases h
  refine ⟨rfl, fun ys hys => ⟨_, rfl, ?_⟩⟩
  change (ys.all fun y => isAmong allowed y) = true ↔
    SatisfiesKeywords CountedEqual (amongSchema allowed) (.list ys)
  rw [amongSchema, satisfies_items, List.all_eq_true]
  refine forall₂_congr fun y hy => ?_
  rw [satisfies_mapping, satisfies_enum, isAmong_iff hallowed (hys y hy)]

/-- A check that is made if an option is set, and the keywords that it has. -/
theorem optionChecks_compare {α : Type} {x? : Option α} {f : α → Except Fault Check}
    {schema : α → Schema} {checks : List Check}
    (hf : ∀ x ∈ x?, ∀ c, f x = .ok c → c.ComparesItems (schema x))
    (h : x?.toList.mapM f = .ok checks) :
    (checks.map Check.schema).flatten = (x?.map schema).getD [] ∧
      ∀ c ∈ checks, c.ComparesItems c.schema := by
  rcases option_mapM_ok h with ⟨rfl, rfl⟩ | ⟨x, c, rfl, hcheck, rfl⟩
  · exact ⟨rfl, fun c hc => absurd hc List.not_mem_nil⟩
  · have hc := hf x rfl c hcheck
    refine ⟨?_, List.forall_mem_singleton.mpr ⟨rfl, hc.compares⟩⟩
    rw [List.map_singleton, List.flatten_singleton, hc.schema]
    rfl

/-- The keywords of the contents of an array. -/
def ArrayOptions.comparisons (o : ArrayOptions) : Schema :=
  (o.contains?.map containsSchema).getD [] ++
    (if o.unique then keyword "uniqueItems" (.bool true) else []) ++
    (o.enum?.map amongSchema).getD []

/-- **The checks on the contents of an array.** -/
theorem contentChecks_compare {o : ArrayOptions} {checks : List Check}
    (hcontains : ∀ x ∈ o.contains?, x.IsDocument)
    (henum : ∀ xs ∈ o.enum?, ∀ x ∈ xs, x.IsDocument) (h : o.contentChecks = .ok checks) :
    (checks.map Check.schema).flatten = o.comparisons ∧
      ∀ c ∈ checks, c.ComparesItems c.schema := by
  rw [ArrayOptions.contentChecks] at h
  cases hw : o.contains?.toList.mapM containsCheck with
  | error f => rw [hw] at h; cases h
  | ok wanted =>
    rw [hw] at h
    cases hc : o.enum?.toList.mapM itemsAmong with
    | error f => rw [hc] at h; cases h
    | ok choices =>
      rw [hc] at h
      cases h
      obtain ⟨hfirst, hwanted⟩ := optionChecks_compare
        (fun x hx _ => containsCheck_compares (hcontains x hx)) hw
      obtain ⟨hlast, hchoices⟩ := optionChecks_compare
        (fun xs hxs _ => itemsAmong_compares (henum xs hxs)) hc
      have hunique : ((if o.unique then [differentItems] else []).map Check.schema).flatten
          = if o.unique then keyword "uniqueItems" (.bool true) else [] := by
        cases o.unique <;> rfl
      constructor
      · rw [List.map_append, List.map_append, List.flatten_append, List.flatten_append, hfirst,
          hunique, hlast]
        rfl
      · intro c hc
        rcases List.mem_append.mp hc with hc | hc
        · rcases List.mem_append.mp hc with hc | hc
          · exact hwanted c hc
          · split at hc
            · rw [List.mem_singleton.mp hc]
              exact differentItems_compares
            · exact absurd hc List.not_mem_nil
        · exact hchoices c hc

/-- The values that an array must contain. -/
def Value.wantedValues : Value → List Value
  | .list xs => xs
  | x => [x]

variable {E E' : Value → Value → Prop} {P : Value → Prop} {o : ArrayOptions}

theorem satisfies_containsSchema : SatisfiesKeywords E (containsSchema wanted) (.list ys) ↔
    ∀ x ∈ wanted.wantedValues, ∃ y ∈ ys, E x y := by
  by_cases hlist : ∃ xs, wanted = .list xs
  · obtain ⟨xs, rfl⟩ := hlist
    rw [containsSchema, satisfies_allOf, List.forall_mem_map]
    exact forall₂_congr fun x _ => satisfies_containing
  · have hsingle : containsSchema wanted = containing wanted ∧ wanted.wantedValues = [wanted] := by
      cases wanted <;> first | exact ⟨rfl, rfl⟩ | exact absurd ⟨_, rfl⟩ hlist
    rw [hsingle.1, hsingle.2, List.forall_mem_singleton, ← satisfies_mapping, satisfies_containing]

/-- **What the keywords of the contents of an array ask.** -/
theorem satisfies_comparisons : SatisfiesKeywords E o.comparisons (.list ys) ↔
    (∀ wanted ∈ o.contains?, ∀ x ∈ wanted.wantedValues, ∃ y ∈ ys, E x y) ∧
    (o.unique = true → ys.Pairwise fun y z => ¬ E y z) ∧
    ∀ allowed ∈ o.enum?, ∀ y ∈ ys, ∃ x ∈ allowed, E x y := by
  have hcontains : SatisfiesKeywords E ((o.contains?.map containsSchema).getD []) (.list ys) ↔
      ∀ wanted ∈ o.contains?, ∀ x ∈ wanted.wantedValues, ∃ y ∈ ys, E x y := by
    cases o.contains? with
    | none => exact iff_of_true trivial (by simp)
    | some wanted => simpa using satisfies_containsSchema
  have hunique : SatisfiesKeywords E (if o.unique then keyword "uniqueItems" (.bool true) else [])
      (.list ys) ↔ (o.unique = true → ys.Pairwise fun y z => ¬ E y z) := by
    cases o.unique with
    | false => exact iff_of_true trivial (by simp)
    | true => simpa using satisfies_uniqueItems
  have henum : SatisfiesKeywords E ((o.enum?.map amongSchema).getD []) (.list ys) ↔
      ∀ allowed ∈ o.enum?, ∀ y ∈ ys, ∃ x ∈ allowed, E x y := by
    cases o.enum? with
    | none => exact iff_of_true trivial (by simp)
    | some allowed =>
      have hamong : SatisfiesKeywords E (amongSchema allowed) (.list ys) ↔
          ∀ y ∈ ys, ∃ x ∈ allowed, E x y := by
        rw [amongSchema, satisfies_items]
        simp only [satisfies_mapping, satisfies_enum]
      simpa using hamong
  rw [ArrayOptions.comparisons, satisfies_append, satisfies_append, hcontains, hunique, henum,
    and_assoc]

/-- Equalities that agree on what is compared make the keywords ask the same. -/
theorem satisfies_comparisons_congr (hE : ∀ x y, P x → P y → (E x y ↔ E' x y))
    (hys : ∀ y ∈ ys, P y) (hcontains : ∀ wanted ∈ o.contains?, ∀ x ∈ wanted.wantedValues, P x)
    (henum : ∀ allowed ∈ o.enum?, ∀ x ∈ allowed, P x) :
    SatisfiesKeywords E o.comparisons (.list ys) ↔
      SatisfiesKeywords E' o.comparisons (.list ys) := by
  rw [satisfies_comparisons, satisfies_comparisons]
  refine and_congr ?_ (and_congr (imp_congr_right fun _ => ?_) ?_)
  · refine forall₂_congr fun wanted hw => forall₂_congr fun x hx => exists_congr fun y => ?_
    exact and_congr_right fun hy => hE x y (hcontains wanted hw x hx) (hys y hy)
  · exact List.Pairwise.iff_of_mem fun {y z} hy hz => not_congr (hE y z (hys y hy) (hys z hz))
  · refine forall₂_congr fun allowed ha => forall₂_congr fun y hy => ?_
    exact exists_congr fun x => and_congr_right fun hx => hE x y (henum allowed ha x hx) (hys y hy)

end

/-! ### The last checks of a validator -/

namespace Validator

/-- The stages that refine what the others have let through. -/
def refinements (d : Validator) : List Stage := d.stages.filter fun s => s.kind = .refine

/-- A validator without these stages. -/
def unrefined (d : Validator) : Validator :=
  { d with stages := d.stages.filter fun s => s.kind ≠ .refine }

/-- A validator refines by the keywords `s`: what it lets through without its last checks, it lets
through if this is absent or null, and otherwise just if it satisfies those keywords.  The values
with the property `P` are those of which this is said. -/
structure Refines (d : Validator) (s : Schema) (P : Value → Prop) : Prop where
  schema : (d.refinements.map Stage.schema).flatten = s
  last : ∀ v, d.validate v = do
    let w ← d.unrefined.validate v
    if w.isAbsent || w.isNull then return w else runStages d.tag d.refinements w
  decides : ∀ w, P w →
    (runStages d.tag d.refinements w).GivesIf w (SatisfiesKeywords CountedEqual s w)

end Validator

section

variable {d : Validator} {tag : Tag} {kind : StageKind} {shape : Stage}
  {sizes tests more : List Stage} {cs checks : List Check}

theorem filter_kind (h : ChecksOf kind checks tests) (p : StageKind → Bool) :
    (tests.filter fun s => p s.kind) = if p kind then tests else [] := by
  cases h with
  | none => simp
  | one hk _ _ => simp [hk, List.filter_cons]

/-- What comes after checks gets what these have got. -/
theorem runStages_after_checks (hkind : kind ≠ .shape) (h : ChecksOf kind checks tests)
    (w : Value) : Validator.runStages tag (tests ++ more) w =
      Validator.runStages tag tests w >>= fun _ => Validator.runStages tag more w := by
  cases h with
  | none => rfl
  | @one s hk hrun _ =>
    have hsettled : ∀ x, Validator.isSettled s.kind x = false := fun x => by
      rw [Validator.isSettled, hk, decide_eq_false hkind, Bool.false_and]
    rw [List.singleton_append, Validator.runStages, Validator.runStages, bind_assoc, hrun]
    refine bind_congr_ok fun t x u hx => ?_
    rw [hsettled, if_neg Bool.false_ne_true, if_neg Bool.false_ne_true,
      (runChecks_ok (mapReason_ok hx)).1]
    rfl

/-- A run of checks gives the value back. -/
theorem runStages_checks_bind {α : Type} (h : ChecksOf kind checks tests) (w : Value)
    (f : Value → Eval PayloadError α) :
    Validator.runStages tag tests w >>= f = Validator.runStages tag tests w >>= fun _ => f w := by
  refine bind_congr_ok fun t x u hx => ?_
  rw [runStages_checks h.all_checks hx]

/-- **The last stage** decides on what the shape stage and the checks after it have let through. -/
theorem runStages_last (hshape : shape.kind = .shape) (hsizes : ChecksOf .validate cs sizes)
    (v : Value) : Validator.runStages tag (shape :: sizes ++ tests) v = (do
      let w ← Validator.runStages tag (shape :: sizes) v
      if w.isAbsent || w.isNull then return w else Validator.runStages tag tests w) := by
  rw [List.cons_append, Validator.runStages, Validator.runStages, bind_assoc]
  refine congrArg _ (funext fun w => ?_)
  rw [Validator.isSettled, hshape, decide_eq_true rfl, Bool.true_and]
  by_cases hw : (w.isAbsent || w.isNull) = true
  · rw [if_pos hw, if_pos hw, pure_bind, if_pos hw]
  · rw [if_neg hw, if_neg hw, runStages_after_checks (by decide) hsizes,
      runStages_checks_bind hsizes w (fun w => if (w.isAbsent || w.isNull) = true then pure w
        else Validator.runStages tag tests w), if_neg hw]

/-- A validator of a shape stage, checks, and checks that compare. -/
theorem refines_of_stages {P : Value → Prop} (hstages : d.stages = shape :: sizes ++ tests)
    (hshape : shape.kind = .shape) (hsizes : ChecksOf .validate cs sizes)
    (htests : ChecksOf .refine checks tests)
    (hschema : (tests.map Stage.schema).flatten = (checks.map Check.schema).flatten)
    (hchecks : ∀ w, P w → ∀ c ∈ checks, c.Compares w) :
    d.Refines (checks.map Check.schema).flatten P := by
  have hrefinements : d.refinements = tests := by
    have hfirst := filter_kind hsizes fun k => decide (k = .refine)
    have hlast := filter_kind htests fun k => decide (k = .refine)
    rw [Validator.refinements, hstages, List.filter_append, List.filter_cons, hfirst, hlast, hshape]
    rfl
  have hunrefined : d.unrefined.stages = shape :: sizes := by
    have hfirst := filter_kind hsizes fun k => decide (k ≠ .refine)
    have hlast := filter_kind htests fun k => decide (k ≠ .refine)
    rw [Validator.unrefined, hstages]
    dsimp only
    rw [List.filter_append, List.filter_cons, hfirst, hlast, hshape]
    exact List.append_nil _
  refine ⟨?_, fun v => ?_, fun w hw => ?_⟩
  · rw [hrefinements, hschema]
  · rw [Validator.validate, Validator.validate, hunrefined, hrefinements, hstages]
    exact runStages_last hshape hsizes v
  · rw [hrefinements]
    have hrun := runChecks_compares (hchecks w hw)
    cases htests with
    | none hnil =>
      rw [hnil]
      exact givesIf_pure w
    | @one s hk hrun' _ =>
      have hsettled : Validator.isSettled s.kind w = false := by
        rw [Validator.isSettled, hk]
        rfl
      rw [Validator.runStages, hrun']
      refine ((hrun.mapReason _).bind ?_).congr (and_iff_left trivial).symm
      rw [hsettled, if_neg Bool.false_ne_true]
      exact givesIf_pure w

end

namespace Rule.CompilesTo

variable {c : CommonOptions} {ctx : Strictness} {d : Validator}

/-- **A choice between documents** refines by its keyword. -/
theorem choice_refines {values : List Value} (hvalues : ∀ x ∈ values, x.IsDocument)
    (h : (Rule.enum c values).CompilesTo ctx d) :
    d.Refines (keyword "enum" (.list values)) fun w => w.IsDocument := by
  obtain ⟨s, tests, schema, hschema, hstages, hs, htests⟩ := h.choice
  rw [shownKeyword_document (.list hvalues)] at hschema
  cases hschema
  have hnamed : Named ([choiceCheck values (keyword "enum" (.list values))].map
      Check.schema).flatten ["enum"] := named_keyword List.mem_cons_self
  have hnone : ChecksOf .validate [] [] := .none rfl
  have hparts : d.stages = s :: [] ++ tests := hstages
  refine refines_of_stages hparts hs.kind hnone htests (htests.schemas_eq hnamed) fun w hw =>
    List.forall_mem_singleton.mpr ⟨_, rfl, ?_⟩
  exact (isAmong_iff hvalues hw).trans satisfies_enum.symm

/-- **The contents of an array** are refined by their keywords. -/
theorem array_refines {items : Rule} {o : ArrayOptions}
    (hcontains : ∀ x ∈ o.contains?, x.IsDocument) (henum : ∀ xs ∈ o.enum?, ∀ x ∈ xs, x.IsDocument)
    (h : (Rule.array c items o).CompilesTo ctx d) :
    d.Refines o.comparisons fun w => ∃ ys, w = .list ys ∧ w.IsDocument := by
  obtain ⟨di, schema, shape, sizes, contents, checks, hdi, hschema, hshape, hsizes, hchecks,
    hcontents, hmade⟩ := h.array
  obtain ⟨hflatten, hcompares⟩ := contentChecks_compare hcontains henum hchecks
  have hnamed : Named (checks.map Check.schema).flatten
      ["allOf", "contains", "uniqueItems", "items"] := by
    obtain ⟨rest, hrest, hrestNamed, -⟩ := contents_fragment hchecks
    rw [hrest]
    exact (conjunction_named.append hrestNamed (by decide)).mono (by decide)
  rw [← hflatten]
  refine refines_of_stages hmade.stages hshape.kind hsizes hcontents
    (hcontents.schemas_eq hnamed) ?_
  rintro _ ⟨ys, rfl, hys⟩ c hc
  exact (hcompares c hc).compares ys fun y hy => hys.item hy

end Rule.CompilesTo

/-! ### Where no truth value stands inside -/

section

variable {v w : Value}

/-- Without truth values inside of lists and mappings this is equality of documents. -/
theorem countedEqual_iff (hv : v.counted = v) (hw : w.counted = w) :
    CountedEqual v w ↔ v.JsonEqual w := by
  rw [CountedEqual, hv, hw]

end

/-- **What is strictly the same.**  Two documents are the same just if they are equal once the truth
values inside of lists and mappings have been replaced by numbers.  This is equality of documents
for those that are not made equal by that alone, and so for those without such truth values.  A
choice between documents and the contents of an array let through, last of all, just what satisfies
the keywords that they export, with this for equality; and this is what the keywords ask with
equality of documents, if no truth value stands inside of anything that is compared. -/
theorem strict_sameness_counts (v w : Value) (hv : v.IsDocument) (hw : w.IsDocument) :
    ((v.same w = true ↔ CountedEqual v w) ∧
      ((v.same w = true ↔ v.JsonEqual w) ↔ (CountedEqual v w → v.JsonEqual w)) ∧
      (v.counted = v → w.counted = w → (v.same w = true ↔ v.JsonEqual w))) ∧
    (∀ (c : CommonOptions) (values : List Value) (ctx : Strictness) (d : Validator),
      (∀ x ∈ values, x.IsDocument) → (Rule.enum c values).CompilesTo ctx d →
        (d.Refines (keyword "enum" (.list values)) fun w => w.IsDocument) ∧
        (w.isNull = false →
          (d.validate w).GivesIf w (∃ x ∈ values, CountedEqual x w) ∧
          ((∀ x ∈ values, x.counted = x) → w.counted = w →
            (d.validate w).GivesIf w (∃ x ∈ values, x.JsonEqual w)))) ∧
    ∀ (c : CommonOptions) (items : Rule) (o : ArrayOptions) (ctx : Strictness) (d : Validator),
      (∀ x ∈ o.contains?, x.IsDocument) → (∀ xs ∈ o.enum?, ∀ x ∈ xs, x.IsDocument) →
        (Rule.array c items o).CompilesTo ctx d →
          (d.Refines o.comparisons fun w => ∃ ys, w = .list ys ∧ w.IsDocument) ∧
          ∀ ys : List Value, (∀ y ∈ ys, y.counted = y) →
            (∀ x ∈ o.contains?, ∀ y ∈ x.wantedValues, y.counted = y) →
            (∀ xs ∈ o.enum?, ∀ x ∈ xs, x.counted = x) →
              (SatisfiesKeywords CountedEqual o.comparisons (.list ys) ↔
                SatisfiesKeywords JsonEqual o.comparisons (.list ys)) := by
  have hsame := same_iff hv hw
  refine ⟨⟨hsame, ?meets, fun hv' hw' => hsame.trans (countedEqual_iff hv' hw')⟩, ?choices, ?arrays⟩
  case meets =>
    constructor
    · intro hmeets hequal
      exact hmeets.mp (hsame.mpr hequal)
    · intro himplies
      exact ⟨fun h => himplies (hsame.mp h), fun h => hsame.mpr h.counted⟩
  case choices =>
    intro c values ctx d hvalues hd
    refine ⟨hd.choice_refines hvalues, fun hnull => ?_⟩
    obtain ⟨s, tests, schema, -, hstages, hs, htests⟩ := hd.choice
    have haccepts : (d.validate w).GivesIf w (∃ x ∈ values, CountedEqual x w) :=
      (validate_given hstages hs htests rfl hw.present hnull).congr (isAmong_iff hvalues hw).symm
    refine ⟨haccepts, fun hplain hw' => haccepts.congr ?_⟩
    exact exists_congr fun x => and_congr_right fun hx => (countedEqual_iff (hplain x hx) hw').symm
  case arrays =>
    intro c items o ctx d hcontains henum hd
    refine ⟨hd.array_refines hcontains henum, fun ys hys hcontains' henum' => ?_⟩
    exact satisfies_comparisons_congr (fun x y => countedEqual_iff) hys hcontains' henum'

/-- A list of a truth value is the same as a list of a number: a choice takes the one for the other,
and so does an array. -/
theorem strict_sameness_counts_lists :
    let truth := Value.list [.bool true]
    let one := Value.list [.int 1]
    truth.same one = true ∧ ¬ (truth.same one = true ↔ truth.JsonEqual one) ∧
      (∃ d, (Rule.enum {} [truth]).CompilesTo {} d ∧ d.validate one = pure one) ∧
      ∃ d, (Rule.array {} (.any {}) { unique := true }).CompilesTo {} d ∧
        ∃ e, d.validate (.list [truth, one]) = .reject e := by
  intro truth one
  have htruth : truth.IsDocument := .list (List.forall_mem_singleton.mpr (.bool true))
  have hone : one.IsDocument := .list (List.forall_mem_singleton.mpr (.number _))
  have hcounted : CountedEqual truth one :=
    jsonEqual_list.mpr (.cons (jsonEqual_number.mpr (by decide +kernel)) .nil)
  have hdifferent : ¬ truth.JsonEqual one := by
    intro h
    cases jsonEqual_list.mp h with
    | cons hitems _ => cases hitems
  obtain ⟨⟨hsame, hmeets, -⟩, hchoices, harrays⟩ := strict_sameness_counts truth one htruth hone
  refine ⟨hsame.mpr hcounted, fun h => hdifferent (hmeets.mp h hcounted), ?_, ?_⟩
  · obtain ⟨d, hd⟩ : ∃ d, (Rule.enum {} [truth]).CompilesTo {} d := ⟨_, "$", [], [], rfl⟩
    have hvalues := hchoices {} [truth] {} d (List.forall_mem_singleton.mpr htruth) hd
    exact ⟨d, hd, (hvalues.2 rfl).1.accepts ⟨truth, List.mem_singleton_self _, hcounted⟩⟩
  · obtain ⟨d, hd, hbefore⟩ : ∃ d, (Rule.array {} (.any {}) { unique := true }).CompilesTo {} d ∧
        d.unrefined.validate (.list [truth, one]) = pure (.list [truth, one]) :=
      ⟨_, ⟨"$", [], [], rfl⟩, rfl⟩
    obtain ⟨⟨-, hlast, hdecides⟩, -⟩ := harrays {} (.any {}) { unique := true } {} d
      (fun _ h => nomatch h) (fun _ h => nomatch h) hd
    refine ⟨d, hd, ?_⟩
    rw [hlast, hbefore]
    refine (hdecides (.list [truth, one]) ⟨_, rfl, .list ?_⟩).rejects fun h => ?_
    · exact List.forall_mem_cons.mpr ⟨htruth, List.forall_mem_singleton.mpr hone⟩
    · have hpairs := (satisfies_comparisons.mp h).2.1 rfl
      exact List.rel_of_pairwise_cons hpairs (List.mem_singleton_self _) hcounted

end RuleSchema
