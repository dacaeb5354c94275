import RuleSchema.Proofs.Agreement.Rules
import RuleSchema.Proofs.Signature.Kept

/-!
# Null in validation and in schemas

A rule says twice what becomes of null: the shape stage lets it through if the rule is
nullable, and the schema has the keywords of all stages, each of which may exclude it.  The
two agree on most rules.  They part where a nullable text, number or choice lists its values,
since the keyword of that list stands next to the type and excludes null; and at a union that
is not nullable, which rejects null before any branch sees it, while its schema admits what
the schema of a branch admits.

* `Rule.acceptsNull` and `Rule.showsNull` are what the two sides say.
* `meets_null`: of null each keyword asks something by itself, whatever stands next to it.
* `mergeSchema_null`, `Joining.fragments_null`: keywords that ask nothing of null add nothing
  when they are joined, clash or not.
* `null_agreement`: a validator decides null by the one, its schema by the other.
-/

namespace RuleSchema

open Eval Schema Value

/-! ### The two sides -/

/-- Whether the validator of a rule accepts null.  A forbidden value counts null as absent. -/
def Rule.acceptsNull : Rule → Bool
  | .forbidden .. => true
  | r => r.common.nullable

/-- Whether a value has a form in a document, so that a schema can show it. -/
def Value.isShown (v : Value) : Bool := v.jsonForm.toOption.isSome

mutual

/-- Whether the schema of a rule admits null.  Values that cannot be shown exclude nothing. -/
def Rule.showsNull : Rule → Bool
  | .string c o => c.nullable && (o.enum?.getD []).isEmpty
  | .number c o => c.nullable && o.equal?.isNone
  | .any _ | .class .. | .function _ => true
  | .enum _ values => !(Value.list values).isShown || values.any Value.isNull
  | .equal _ value _ => !value.isShown || value.isNull
  | .forbidden _ remove => remove
  | .multi c branches => c.nullable || Rule.someShowNull branches
  | r => r.common.nullable
termination_by structural r => r

/-- Whether the schema of one of some rules admits null. -/
def Rule.someShowNull : List Rule → Bool
  | [] => false
  | r :: rules => Rule.showsNull r || Rule.someShowNull rules
termination_by structural rules => rules

end

/-! ### Keywords and null -/

/-- Whether a schema admits null. -/
def Schema.admitsNull (s : Schema) : Bool := (Value.mapping s).admits .null

section

variable {s s' f siblings : Schema} {e : Value × Value} {k x y : Value}

theorem meets_null_congr {siblings' : Schema} :
    meets [e] siblings .null = meets [e] siblings' .null := by
  obtain ⟨k, x⟩ := e
  unfold meets
  rcases Keyword.ofKey? k with _ | w
  · rfl
  · cases w <;> rfl

/-- **Of null a keyword asks something by itself**, whatever stands next to it. -/
theorem meets_null : meets s siblings .null = s.all fun e => admitsNull [e] := by
  rw [meets_eq_all]
  exact congrArg s.all (funext fun e => meets_null_congr)

theorem admitsNull_eq_all : admitsNull s = s.all fun e => admitsNull [e] := meets_null

theorem admitsNull_append : admitsNull (s ++ f) = (admitsNull s && admitsNull f) := by
  rw [admitsNull_eq_all, List.all_append, ← admitsNull_eq_all, ← admitsNull_eq_all]

theorem admitsNull_cons : admitsNull (e :: s) = (admitsNull [e] && admitsNull s) :=
  admitsNull_append (s := [e])

/-- The keywords that ask nothing of null. -/
def Keyword.sparesNull : Keyword → Bool
  | .type | .const | .enum | .not | .anyOf | .allOf => false
  | _ => true

theorem admitsNull_spared (h : (Keyword.ofKey? k).all Keyword.sparesNull = true) :
    admitsNull [(k, x)] = true := by
  change meets [(k, x)] _ .null = true
  unfold meets
  rcases hk : Keyword.ofKey? k with _ | w
  · rfl
  · rw [hk] at h
    have hbounds : ∀ ok : Int → Int → Bool, Keyword.bounds ok x none = true := by
      intro ok
      unfold Keyword.bounds
      cases x.exactly? <;> rfl
    cases w <;> first
      | cases h; done
      | exact (Bool.and_true _).trans (hbounds _)
      | (cases x <;> rfl)

/-- A keyword with a name that asks nothing of null. -/
theorem admitsNull_keyword {n : String}
    (h : (Keyword.ofName? n).all Keyword.sparesNull = true) : admitsNull (keyword n x) = true :=
  admitsNull_spared h

theorem admitsNull_allOf {xs : List Value} :
    admitsNull (keyword "allOf" (.list xs)) = xs.all fun x => x.admits .null := meets_allOf

theorem admitsNull_anyOf {xs : List Value} :
    admitsNull (keyword "anyOf" (.list xs)) = xs.any fun x => x.admits .null := meets_anyOf

theorem admitsNull_not : admitsNull (keyword "not" x) = !x.admits .null := meets_not

theorem alike_null (x : Value) : x.alike .null = x.isNull := by
  cases x <;> rfl

/-- A constant excludes null unless it is null. -/
theorem admitsNull_const : admitsNull (keyword "const" x) = x.isNull := by
  have hplain : admitsNull (keyword Keyword.const.name x) = Keyword.const.holds x .null :=
    meets_plain (w := .const) rfl
  exact hplain.trans (alike_null x)

/-- A list of choices excludes null unless null is one of them. -/
theorem admitsNull_enum {xs : List Value} :
    admitsNull (keyword "enum" (.list xs)) = xs.any isNull := by
  have hplain : admitsNull (keyword Keyword.enum.name (.list xs))
      = Keyword.enum.holds (.list xs) .null := meets_plain (w := .enum) rfl
  exact hplain.trans (congrArg xs.any (funext alike_null))

/-! ### Joining -/

theorem eq_allOf (h : (Value.text "allOf").equals k = true) : k = .text "allOf" := by
  cases k with
  | text n => rw [beq_iff_eq.mp h]
  | tag t => cases t <;> exact absurd h (by decide)
  | _ => cases h

/-- One more conjunct. -/
theorem admitsNull_put_conjunct {xs : List Value}
    (h : Entries.at? s "allOf" = some (.list xs)) :
    admitsNull (Entries.put s (.text "allOf") (.list (xs ++ [y])))
      = (admitsNull s && y.admits .null) := by
  induction s with
  | nil => cases h
  | cons e s ih =>
    obtain ⟨k, x⟩ := e
    rw [at?_cons] at h
    rw [Entries.put, admitsNull_cons (s := s)]
    cases hk : (Value.text "allOf").equals k with
    | true =>
      rw [hk, if_pos rfl] at h
      cases h
      rw [if_pos rfl, admitsNull_cons, eq_allOf hk]
      change (admitsNull (keyword "allOf" _) && _) = (admitsNull (keyword "allOf" _) && _ && _)
      rw [admitsNull_allOf, admitsNull_allOf, List.all_append, Bool.and_right_comm]
      simp only [List.all_cons, List.all_nil, Bool.and_true]
    | false =>
      rw [hk, if_neg Bool.false_ne_true] at h
      rw [if_neg Bool.false_ne_true, admitsNull_cons, ih h, Bool.and_assoc]

/-- Joining a keyword that asks nothing of null changes nothing for null. -/
theorem mergeKeyword_null (h : mergeKeyword s k x = .ok s') (he : admitsNull [(k, x)] = true) :
    admitsNull s' = admitsNull s := by
  rw [mergeKeyword] at h
  split at h
  · cases h
    rw [admitsNull_append, he, Bool.and_true]
  · split at h
    · cases h; rfl
    · rw [appendConjunct] at h
      split at h
      · next hnone =>
        cases h
        rw [put_of_none hnone, admitsNull_append]
        change (_ && admitsNull (keyword "allOf" _)) = _
        rw [admitsNull_allOf, List.all_cons, List.all_nil, Bool.and_true]
        exact (congrArg _ he).trans (Bool.and_true _)
      · next xs hsome =>
        cases h
        rw [admitsNull_put_conjunct hsome]
        exact (congrArg _ he).trans (Bool.and_true _)
      · cases h

/-- **Joining keywords that ask nothing of null** changes nothing for null. -/
theorem mergeSchema_null : ∀ {f s : Schema}, mergeSchema s f = .ok s' → admitsNull f = true →
    admitsNull s' = admitsNull s := by
  intro f
  induction f with
  | nil => intro s h _; cases h; rfl
  | cons e f ih =>
    intro s h hf
    rw [admitsNull_cons, Bool.and_eq_true] at hf
    rw [mergeSchema, List.foldlM_cons] at h
    obtain ⟨s₁, h₁, h⟩ := except_bind_ok h
    rw [ih h hf.2, mergeKeyword_null h₁ hf.1]

theorem checksSchema_null {checks : List Check} (h : Stage.checksSchema checks = .ok s)
    (hc : ∀ c ∈ checks, admitsNull c.schema = true) : admitsNull s = true := by
  rw [checksSchema_flatten] at h
  rw [mergeSchema_null h]
  · rfl
  · rw [admitsNull_eq_all, List.all_eq_true]
    intro e he
    obtain ⟨f, hf, he⟩ := List.mem_flatten.mp he
    obtain ⟨c, hc', rfl⟩ := List.mem_map.mp hf
    have hall := hc c hc'
    rw [admitsNull_eq_all, List.all_eq_true] at hall
    exact hall e he

theorem ChecksOf.null {kind : StageKind} {checks : List Check} {stages : List Stage}
    (h : ChecksOf kind checks stages) (hc : ∀ c ∈ checks, admitsNull c.schema = true) :
    ∀ s ∈ stages, admitsNull s.schema = true := by
  intro s hs
  cases h with
  | none => exact absurd hs List.not_mem_nil
  | one _ _ hschema =>
    rw [List.mem_singleton.mp hs]
    exact checksSchema_null hschema hc

/-- Joining fragments that ask nothing of null. -/
theorem Joining.fragments_null : ∀ {fs : List Schema} {i : Nat} {j j' : Joining},
    Joining.fragments i j fs = .ok j' → (∀ f ∈ fs, admitsNull f = true) →
      admitsNull j'.schema = admitsNull j.schema := by
  have hone : ∀ {i : Nat} {f : Schema} {j j' : Joining},
      f.foldlM (fun j e => j.keyword i e.1 e.2) j = .ok j' → admitsNull f = true →
        admitsNull j'.schema = admitsNull j.schema := by
    intro i f
    induction f with
    | nil => intro j j' h _; cases h; rfl
    | cons e f ih =>
      intro j j' h hf
      rw [admitsNull_cons, Bool.and_eq_true] at hf
      rw [List.foldlM_cons] at h
      obtain ⟨j₁, h₁, h⟩ := except_bind_ok h
      obtain ⟨s₁, hs₁, h₁⟩ := except_bind_ok h₁
      cases h₁
      rw [ih h hf.2]
      exact mergeKeyword_null hs₁ hf.1
  intro fs
  induction fs with
  | nil => intro i j j' h _; cases h; rfl
  | cons f fs ih =>
    intro i j j' h hfs
    rw [Joining.fragments] at h
    obtain ⟨j₁, h₁, h⟩ := except_bind_ok h
    rw [ih h fun g hg => hfs g (List.mem_cons_of_mem _ hg), hone h₁ (hfs f List.mem_cons_self)]

end

/-! ### Exports -/

section

variable {d : Validator} {schema : Schema} {K : List String}

/-- An export whose fragments have no name in common. -/
theorem Validator.admitsNull_of_named (hnamed : Named d.fragments.flatten K)
    (h : d.schema = .ok schema) : admitsNull schema = admitsNull d.fragments.flatten :=
  admits_of_named hnamed h .null

/-- **An export whose fragments ask nothing of null**, the first one apart. -/
theorem Validator.admitsNull_of_spared {first : Schema} {rest : List Schema}
    (hfragments : d.fragments = first :: rest) (hfirst : Named first K)
    (hrest : ∀ f ∈ rest, admitsNull f = true) (h : d.schema = .ok schema) :
    admitsNull schema = admitsNull first := by
  obtain ⟨⟨s, d'⟩, hexport, rfl⟩ : ∃ p, d.export = .ok p ∧ p.1 = schema := by
    rw [Validator.schema] at h
    cases hexport : d.export with
    | error e => rw [hexport] at h; cases h
    | ok p => rw [hexport] at h; exact ⟨p, rfl, Except.ok.inj h⟩
  rw [Validator.export] at hexport
  obtain ⟨⟨joined, fs⟩, hjoin, hexport⟩ := except_bind_ok hexport
  cases hexport
  change joinFragments d.fragments = _ at hjoin
  rw [hfragments, joinFragments] at hjoin
  obtain ⟨j, hj, hjoin⟩ := except_bind_ok hjoin
  have hjoined : joined = j.schema := by
    split at hjoin <;> cases hjoin <;> rfl
  rw [Joining.fragments, Joining.keywords_apart (by exact hfirst)] at hj
  change admitsNull (d.describe joined) = _
  rw [show admitsNull (d.describe joined) = admitsNull joined from admits_describe, hjoined,
    Joining.fragments_null hj hrest]
  rfl

end

/-! ### Shapes -/

section

variable {r : Rule} {shape : Shape} {s : Stage} {k : Schema} {n : String} {b : Bool}

theorem admitsNull_withDefault {s : Schema} {d? : Option Value} :
    admitsNull (withDefault s d?) = admitsNull s := by
  cases d? with
  | none => rfl
  | some x =>
    rw [withDefault]
    induction s with
    | nil => rfl
    | cons e s ih =>
      rw [Entries.put]
      split
      · next hk =>
        have hspared : ∀ y : Value, admitsNull [(e.1, y)] = true := fun y => by
          obtain ⟨k, _⟩ := e
          cases k with
          | text n => rw [← beq_iff_eq.mp hk]; rfl
          | _ => rfl
        rw [admitsNull_cons, admitsNull_cons (s := s), hspared, hspared]
      · rw [admitsNull_cons, ih, ← admitsNull_cons]

/-- **A shape and null**: a nullable rule adds null to what the schema of its type admits. -/
theorem ShapeOf.null (hs : ShapeOf r shape s) (hshape : admitsNull shape.schema = b)
    (hnullable : ∀ s', nullableSchema shape.schema = .ok s' → admitsNull s' = true) :
    admitsNull s.schema = (r.common.nullable || b) := by
  obtain ⟨s₁, d?, hs₁, -, hschema⟩ := shapeSchema_ok hs.schema
  rw [hschema, admitsNull_withDefault]
  rcases hs₁ with ⟨hnull, hs₁⟩ | ⟨hnull, rfl⟩
  · rw [hnullable s₁ hs₁, hnull, Bool.true_or]
  · rw [hshape, hnull, Bool.false_or]

/-- The shape of values of a type. -/
theorem ShapeOf.null_typed (hs : ShapeOf r shape s) (hschema : shape.schema = typeSchema n ++ k)
    (htype : Value.null.isOfType n = false) (hasks : admitsNull k = true) :
    admitsNull s.schema = r.common.nullable := by
  rw [← Bool.or_false r.common.nullable]
  refine hs.null ?_ fun s' h => ?_
  · rw [hschema, admitsNull_append, show admitsNull (typeSchema n) = _ from meets_typeSchema,
      htype, Bool.false_and]
  · rw [hschema] at h
    cases h
    change admitsNull ((Value.text "type", Value.list [.text n, .text "null"]) :: k) = true
    rw [admitsNull_cons, hasks, Bool.and_true]
    refine (meets_plain (w := .type) rfl).trans ?_
    simp [Keyword.holds, Value.text?, Value.isOfType]

/-- The shape of any value. -/
theorem ShapeOf.null_any (hs : ShapeOf r shape s) (hschema : shape.schema = []) :
    admitsNull s.schema = true := by
  rw [hs.null (b := true) (by rw [hschema]; rfl), Bool.or_true]
  intro s' h
  rw [hschema] at h
  cases h
  rfl

/-- The shape of an instant. -/
theorem ShapeOf.null_instant {convert : Bool} (hs : ShapeOf r shape s)
    (hschema : shape.schema = instantSchema convert) : admitsNull s.schema = r.common.nullable := by
  rw [← Bool.or_false r.common.nullable]
  refine hs.null ?_ fun s' h => ?_
  · rw [hschema]; cases convert <;> rfl
  · rw [hschema] at h
    cases convert <;> cases h <;> rfl

/-- The shape of a union. -/
theorem ShapeOf.null_union {schemas : List Value} (hs : ShapeOf r shape s)
    (hschema : shape.schema = keyword "anyOf" (.list schemas)) :
    admitsNull s.schema = (r.common.nullable || schemas.any fun x => x.admits .null) := by
  refine hs.null (by rw [hschema, admitsNull_anyOf]) fun s' h => ?_
  rw [hschema] at h
  cases h
  change admitsNull
    (keyword "anyOf" (.list (schemas ++ [.mapping (keyword "type" (.text "null"))]))) = true
  rw [admitsNull_anyOf, List.any_append, List.any_cons]
  exact Bool.or_true _

end

/-! ### Rules without rules inside -/

section

variable {r : Rule} {path : String} {t u : Tally} {stages : List Stage}

theorem admitsNull_flatten {fs : List Schema} :
    admitsNull fs.flatten = fs.all fun f => admitsNull f := by
  induction fs with
  | nil => rfl
  | cons f fs ih => rw [List.flatten_cons, admitsNull_append, ih, List.all_cons]

/-- Stages whose schemas ask nothing of null after a first one. -/
theorem admitsNull_cons_stages {s : Stage} {rest : List Stage}
    (h : ∀ s ∈ rest, admitsNull s.schema = true) :
    admitsNull ((s :: rest).map Stage.schema).flatten = admitsNull s.schema := by
  have hrest : (rest.all fun s => admitsNull s.schema) = true := List.all_eq_true.mpr h
  rw [List.map_cons, List.flatten_cons, admitsNull_append, admitsNull_flatten, List.all_map]
  exact (congrArg _ hrest).trans (Bool.and_true _)

/-- Checks that ask nothing of null. -/
theorem ChecksOf.null_schemas {kind : StageKind} {checks : List Check}
    (h : ChecksOf kind checks stages) (hc : ∀ c ∈ checks, admitsNull c.schema = true) :
    admitsNull (stages.map Stage.schema).flatten = true := by
  rw [admitsNull_flatten, List.all_map, List.all_eq_true]
  exact fun s hs => h.null hc s hs

/-- The form of a value is null only for null. -/
theorem jsonForm_isNull {v form : Value} (h : v.jsonForm = .ok form) : form.isNull = v.isNull := by
  have hmap : ∀ {α : Type} {x : Formed α} {f : α → Value}, x.map f = .ok form →
      (∀ a, (f a).isNull = false) → form.isNull = false := by
    intro α x f hx hf
    cases x with
    | error e => cases hx
    | ok a => cases hx; exact hf a
  cases v with
  | null | bool | number | text | tag | instant | pattern => cases h; rfl
  | bytes | list | tuple => exact hmap h fun _ => rfl
  | mapping es | rule t es =>
    obtain ⟨forms, _, h⟩ := except_bind_ok h
    cases h; rfl
  | _ => cases h

theorem jsonForms_anyNull : ∀ {vs forms : List Value}, jsonForms vs = .ok forms →
    forms.any isNull = vs.any isNull := by
  intro vs
  induction vs with
  | nil => intro forms h; cases h; rfl
  | cons v vs ih =>
    intro forms h
    obtain ⟨form, hform, h⟩ := except_bind_ok h
    obtain ⟨rest, hrest, h⟩ := except_bind_ok h
    cases h
    rw [List.any_cons, List.any_cons, jsonForm_isNull hform, ih hrest]

/-- A keyword that shows a value, or excludes nothing. -/
theorem shownKeyword_null {v : Value} {n : String} {s : Schema} (h : shownKeyword n v = .ok s) :
    v.isShown = false ∧ s = [] ∨
      ∃ form, v.jsonForm = .ok form ∧ v.isShown = true ∧ s = keyword n form := by
  rcases shownKeyword_ok h with ⟨rfl, hnone⟩ | ⟨form, hform, rfl⟩
  · refine .inl ⟨?_, rfl⟩
    rw [jsonForm?] at hnone
    rw [isShown]
    split at hnone
    · cases hnone
    · next he => rw [he]; rfl
    · cases hnone
  · rw [jsonForm?] at hform
    split at hform
    · next form' he =>
      cases hform
      exact .inr ⟨form, he, by rw [isShown, he]; rfl, rfl⟩
    · cases hform
    · cases hform

/-- Names that ask nothing of null. -/
theorem Schema.Named.null {s : Schema} {K : List String} (h : Named s K)
    (hK : ∀ n ∈ K, (Keyword.ofName? n).all Keyword.sparesNull = true) : admitsNull s = true := by
  obtain ⟨names, hkeys, -, hsub⟩ := h
  rw [admitsNull_eq_all, List.all_eq_true]
  intro e he
  obtain ⟨n, hn, hkey⟩ := List.mem_map.mp (hkeys ▸ List.mem_map_of_mem he : e.1 ∈ names.map .text)
  obtain ⟨k, x⟩ := e
  dsimp only at hkey
  subst hkey
  exact admitsNull_spared (hK n (hsub n hn))

theorem lengthChecks_null {tag : Tag} {empty? : Option Bool} {min? max? : Option Nat} :
    ∀ c ∈ lengthChecks tag empty? min? max?, admitsNull c.schema = true :=
  fun c hc => (lengthChecks_named c hc).null (by decide)

/-- The checks on a text and null: a choice between texts excludes it. -/
theorem stringChecks_null {o : StringOptions} {checks : List Check}
    (hchecks : o.checks path t = (.ok checks, u)) {kind : StageKind}
    (h : ChecksOf kind checks stages) :
    admitsNull (stages.map Stage.schema).flatten = (o.enum?.getD []).isEmpty := by
  obtain ⟨asks, choices, rfl, hchoices, hasks⟩ := stringChecks_split hchecks
  have hspared : ∀ c ∈ asks, admitsNull c.schema = true :=
    fun c hc => (hasks c hc).null (by decide)
  cases hchoices with
  | none henum =>
    rw [List.append_nil] at h
    rw [h.null_schemas hspared]
    rcases henum with henum | henum <;> rw [henum] <;> rfl
  | @some a as c _ _ henum hc =>
    obtain ⟨s₁, hs₁, hnamed, -⟩ := checksSchema_named hasks (by decide)
    cases h with
    | none hnil => exact absurd (List.append_eq_nil_iff.mp hnil).2 (List.cons_ne_nil _ _)
    | @one s _ _ hschema =>
      rw [Stage.checksSchema, List.foldlM_append] at hschema
      change (Stage.checksSchema asks >>= _) = _ at hschema
      rw [hs₁] at hschema
      change (mergeSchema s₁ c.schema >>= pure) = _ at hschema
      rw [oneOfTexts_schema hc, bind_pure] at hschema
      change (mergeKeyword s₁ (.text "enum") _ >>= pure) = _ at hschema
      rw [mergeKeyword_of_none (hnamed.at?_eq_none (by decide)), bind_pure] at hschema
      have hexcluded : ((a :: as).map Value.text).any isNull = false := by
        simp [Value.isNull]
      rw [List.map_singleton, List.flatten_singleton, ← Except.ok.inj hschema, admitsNull_append,
        henum]
      change (_ && admitsNull (keyword "enum" _)) = _
      rw [admitsNull_enum, hexcluded, Bool.and_false]
      rfl

/-- The checks on a number and null: a number to equal excludes it. -/
theorem numberChecks_null {o : NumberOptions} {kind : StageKind}
    (h : ChecksOf kind o.checks stages) :
    admitsNull (stages.map Stage.schema).flatten = o.equal?.isNone := by
  rw [h.schemas_eq (numberChecks_named o)]
  have hflag : ∀ {b : Bool} {c : Check}, admitsNull c.schema = true →
      admitsNull ((if b then [c] else []).map Check.schema).flatten = true := by
    intro b c hc
    cases b with
    | false => rfl
    | true => simpa using hc
  have hwhole : admitsNull wholeNumber.schema = true := rfl
  have hpositive : admitsNull aboveZero.schema = true := admitsNull_keyword rfl
  have hnegative : admitsNull belowZero.schema = true := admitsNull_keyword rfl
  simp only [NumberOptions.checks, List.map_append, List.flatten_append, admitsNull_append,
    hflag hwhole, hflag hpositive, hflag hnegative, Bool.and_true]
  cases o.equal? with
  | some n =>
    rw [List.map_singleton, List.flatten_singleton]
    exact admitsNull_const
  | none =>
    have hbound : ∀ {f : Number → Check} {n : String} {x? : Option Number},
        (∀ x, Named (f x).schema [n]) → (Keyword.ofName? n).all Keyword.sparesNull = true →
        admitsNull (((x?.map f).toList).map Check.schema).flatten = true := by
      intro f n x? hf hn
      exact (named_option hf).null (by simpa using hn)
    simp only [List.map_append, List.flatten_append, admitsNull_append]
    rw [hbound (n := "minimum") (fun _ => named_keyword List.mem_cons_self) rfl,
      hbound (n := "maximum") (fun _ => named_keyword List.mem_cons_self) rfl]
    rfl

/-- A number to differ from admits null. -/
theorem differentChecks_null {n? : Option Number} {kind : StageKind}
    (h : ChecksOf kind (n?.map differentFromNumber).toList stages) :
    admitsNull (stages.map Stage.schema).flatten = true := by
  refine h.null_schemas fun c hc => ?_
  obtain ⟨n, -, rfl⟩ := Option.map_eq_some_iff.mp (Option.mem_toList.mp hc)
  have hconst : (Value.mapping (keyword "const" (.number n))).admits .null = false :=
    admitsNull_const
  change admitsNull (keyword "not" _) = true
  rw [admitsNull_not, hconst]
  rfl

/-- A check that asks of null what its schema does. -/
theorem ChecksOf.null_one {kind : StageKind} {c : Check} {K : List String}
    (h : ChecksOf kind [c] stages) (hnamed : Named c.schema K) :
    admitsNull (stages.map Stage.schema).flatten = admitsNull c.schema := by
  have hflat : ([c].map Check.schema).flatten = c.schema := by
    rw [List.map_singleton, List.flatten_singleton]
  rw [h.schemas_eq (hflat ▸ hnamed), hflat]

/-- **Null and the schemas of the stages** of a rule without rules inside. -/
theorem Rule.PlannedAs.null {plan : StagePlan} {s : Stage} (h : r.PlannedAs plan)
    (hmade : plan.Makes r s stages) :
    admitsNull ((s :: stages).map Stage.schema).flatten = r.showsNull := by
  have hnone : ∀ {kind : StageKind} {ss : List Stage}, ChecksOf kind [] ss →
      admitsNull (ss.map Stage.schema).flatten = true :=
    fun h => h.null_schemas (List.forall_mem_nil _)
  have hpattern : ∀ {p : String}, admitsNull (patternSchema p) = true := admitsNull_keyword rfl
  have hblank : ∀ {b : Prop} [Decidable b] {tag : Tag},
      ∀ c ∈ (if b then [notBlank tag] else []), admitsNull c.schema = true := by
    intro b _ tag c hc
    split at hc
    · rw [List.mem_singleton.mp hc]
      exact admitsNull_keyword rfl
    · exact absurd hc List.not_mem_nil
  obtain ⟨checks, others, hchecks, hothers, hschemas⟩ := hmade.schemas_eq
  have hshape := hmade.shape
  rw [hschemas, admitsNull_append, admitsNull_append]
  cases h with
  | string hc =>
    rw [hshape.null_typed (k := []) rfl rfl rfl, stringChecks_null hc hchecks, hnone hothers,
      Bool.and_true]
    rfl
  | @number c o =>
    rw [hshape.null_typed (k := []) rfl (by cases o.integer <;> rfl) rfl,
      numberChecks_null hchecks, differentChecks_null hothers, Bool.and_true]
    rfl
  | boolean =>
    rw [hshape.null_typed (k := []) rfl rfl rfl, hnone hchecks, hnone hothers]
    exact Bool.and_true _
  | date =>
    rw [hshape.null_instant rfl, hnone hchecks, hnone hothers]
    exact Bool.and_true _
  | any | «class» | function =>
    rw [hshape.null_any rfl, hnone hchecks, hnone hothers]
    rfl
  | email =>
    rw [hshape.null_typed rfl rfl (admitsNull_keyword rfl),
      hchecks.null_schemas lengthChecks_null, hnone hothers]
    exact Bool.and_true _
  | currency | mac =>
    rw [hshape.null_typed (k := []) rfl rfl rfl,
      hchecks.null_schemas (List.forall_mem_singleton.mpr hpattern), hnone hothers]
    exact Bool.and_true _
  | @enum c values schema hschema =>
    rw [hshape.null_any rfl, hnone hchecks, hothers.null_one (shownKeyword_named hschema)]
    dsimp only
    rcases shownKeyword_null hschema with ⟨hnone, rfl⟩ | ⟨form, hform, hshown, rfl⟩
    · rw [Rule.showsNull, hnone]; rfl
    · obtain ⟨forms, hforms, rfl⟩ : ∃ forms, jsonForms values = .ok forms ∧ .list forms = form := by
        rw [jsonForm] at hform
        cases hforms : jsonForms values with
        | error e => rw [hforms] at hform; cases hform
        | ok forms => rw [hforms] at hform; exact ⟨forms, rfl, Except.ok.inj hform⟩
      rw [admitsNull_enum, jsonForms_anyNull hforms, Rule.showsNull, hshown]
      rfl
  | equal hschema =>
    rw [hshape.null_any rfl, hnone hchecks, hothers.null_one (shownKeyword_named hschema)]
    dsimp only
    rcases shownKeyword_null hschema with ⟨hnone, rfl⟩ | ⟨form, hform, hshown, rfl⟩
    · rw [Rule.showsNull, hnone]; rfl
    · rw [admitsNull_const, jsonForm_isNull hform, Rule.showsNull, hshown]; rfl
  | luhn | objectId _ =>
    rw [hshape.null_typed (k := []) rfl rfl rfl, hnone hchecks,
      hothers.null_schemas (List.forall_mem_singleton.mpr rfl)]
    exact Bool.and_true _
  | url | uuid =>
    rw [hshape.null_typed rfl rfl (admitsNull_keyword rfl), hchecks.null_schemas hblank,
      hnone hothers]
    exact Bool.and_true _

/-- Null and the schemas of the stages of a rule that forbids values. -/
theorem forbidden_null {c : CommonOptions} {remove : Bool}
    (h : forbiddenStages remove t = (.ok stages, u)) :
    admitsNull (stages.map Stage.schema).flatten = (Rule.forbidden c remove).showsNull := by
  cases remove with
  | true => rw [(pure_ok h).1]; rfl
  | false =>
    obtain ⟨ss, _, hss, h⟩ := bind_ok h
    rw [(pure_ok h).1, admitsNull_cons_stages ((checkStages_ok hss).null ?_)]
    · rfl
    · exact List.forall_mem_singleton.mpr rfl

end

/-! ### Every rule -/

section

variable {r : Rule} {d : Validator} {schema : Schema}

/-- A rule for values of a type, whose other keywords ask nothing of null. -/
theorem Validator.null_of_typed {shape : Shape} {s : Stage} {rest : List Stage} {k : Schema}
    {n : String} {K : List String} (hs : ShapeOf r shape s) (hd : d.stages = s :: rest)
    (hschema : shape.schema = typeSchema n ++ k) (hnamed : Named shape.schema K)
    (htype : Value.null.isOfType n = false) (hasks : admitsNull k = true)
    (hrest : ∀ s ∈ rest, admitsNull s.schema = true) (h : d.schema = .ok schema) :
    admitsNull schema = r.common.nullable := by
  have hfragments : d.fragments = s.schema :: rest.map Stage.schema := by
    rw [Validator.fragments, hd]
    rfl
  have hspared : ∀ f ∈ rest.map Stage.schema, admitsNull f = true := by
    intro f hf
    obtain ⟨s', hs', rfl⟩ := List.mem_map.mp hf
    exact hrest s' hs'
  rw [Validator.admitsNull_of_spared hfragments (hs.named hnamed) hspared h,
    hs.null_typed hschema htype hasks]

end

theorem sizeChecks_null {o : ArrayOptions} : ∀ c ∈ o.sizeChecks, admitsNull c.schema = true := by
  intro c hc
  rw [admitsNull_eq_all, List.all_eq_true]
  intro e he
  obtain ⟨n, m, rfl, hn⟩ := mem_sizeKeywords
    (List.mem_flatten_of_mem (List.mem_map_of_mem hc) he)
  rcases hn with rfl | rfl <;> exact admitsNull_keyword rfl

/-- What an array must contain, and what its items are chosen from, is asked of lists alone. -/
theorem contentChecks_null {o : ArrayOptions} {checks : List Check}
    (h : o.contentChecks = .ok checks) : ∀ c ∈ checks, admitsNull c.schema = true := by
  obtain ⟨rest, hrest, hnamed, -⟩ := contents_fragment h
  have hall : admitsNull (checks.map Check.schema).flatten = true := by
    rw [hrest, admitsNull_append, hnamed.null (by decide), Bool.and_true]
    cases hconjuncts : o.containedConjuncts? with
    | none => rfl
    | some zs =>
      obtain ⟨forms, -, rfl⟩ := Option.map_eq_some_iff.mp hconjuncts
      rw [conjunction, admitsNull_allOf, List.all_map, List.all_eq_true]
      exact fun form _ => admitsNull_keyword rfl
  rw [admitsNull_flatten, List.all_map, List.all_eq_true] at hall
  exact hall

/-- The keywords of the schema of an object but its type. -/
def propertiesAsks (ds : List (String × Validator)) (properties : Entries Value)
    (mode : UnknownKeys) : Schema :=
  keyword "properties" (.mapping properties) ++
    (if (requiredNames ds).isEmpty then []
      else keyword "required" (.list ((requiredNames ds).map .text))) ++
    (if mode = .reject then keyword "additionalProperties" (.bool false) else [])

section

variable {ds : List (String × Validator)} {properties : Entries Value} {mode : UnknownKeys}

theorem propertiesSchema_typed : propertiesSchema ds properties mode
    = typeSchema "object" ++ propertiesAsks ds properties mode := by
  simp only [propertiesSchema, propertiesAsks, List.append_assoc]

theorem propertiesAsks_null : admitsNull (propertiesAsks ds properties mode) = true := by
  have hproperties : admitsNull (keyword "properties" (.mapping properties)) = true :=
    admitsNull_keyword rfl
  rw [propertiesAsks, admitsNull_append, admitsNull_append, hproperties]
  split <;> split <;> rfl

end

theorem branches_null {branches : List Rule} {ctx : Strictness} {ds : List Validator}
    {schemas : List Value} (hds : List.Forall₂ (fun r d => r.CompilesTo ctx d) branches ds)
    (hschemas : List.Forall₂ (fun d v => ∃ schema, v = .mapping schema ∧ d.schema = .ok schema) ds
      schemas)
    (ih : ∀ r ∈ branches, ∀ {ctx : Strictness} {d : Validator} {schema : Schema},
      r.CompilesTo ctx d → d.schema = .ok schema → admitsNull schema = r.showsNull) :
    (schemas.any fun x => x.admits .null) = Rule.someShowNull branches := by
  induction hds generalizing schemas with
  | nil => cases hschemas; rfl
  | cons hd _ ihds =>
    obtain ⟨_, schemas', ⟨schema, rfl, hschema⟩, hrest, rfl⟩ :=
      List.forall₂_cons_left_iff.mp hschemas
    rw [List.any_cons, Rule.someShowNull, ihds hrest fun r hr => ih r (List.mem_cons_of_mem _ hr)]
    exact congrArg (· || _) (ih _ List.mem_cons_self hd hschema)

/-- **The schema of a rule** admits null just when the rule shows null. -/
theorem Rule.schema_null (r : Rule) : ∀ {ctx : Strictness} {d : Validator} {schema : Schema},
    r.CompilesTo ctx d → d.schema = .ok schema → admitsNull schema = r.showsNull := by
  refine r.induct (P := fun r => ∀ {ctx d schema}, Rule.CompilesTo r ctx d →
    d.schema = .ok schema → Schema.admitsNull schema = r.showsNull)
    ⟨?simple, ?array, ?object, ?multi, ?tuple, ?record⟩
  case simple =>
    intro r hr ctx d schema h hschema
    have hnamed := h.named (by rintro harray; rw [harray] at hr; cases hr)
    rw [Validator.admitsNull_of_named hnamed hschema, Validator.fragments]
    by_cases hforbidden : r.tag = .forbidden
    · obtain ⟨c, remove, rfl⟩ := Rule.eq_forbidden hforbidden
      obtain ⟨path, t, u, stages, hstages, hd⟩ := h.simple hr
      rw [hd.stages, forbidden_null hstages]
    · obtain ⟨plan, s, rest, hplan, hd, hmade⟩ := h.planned hr hforbidden
      rw [hd.stages, hplan.null hmade]
  case array =>
    intro c items o _ ctx d schema h hschema
    obtain ⟨di, itemSchema, shape, sizes, contents, checks, -, -, hshape, hsizes, hchecks,
      hcontents, hmade⟩ := h.array
    refine Validator.null_of_typed hshape hmade.stages rfl
      (named_of_keys (K := ["type", "items"]) rfl (by decide)) rfl (admitsNull_keyword rfl) ?_
      hschema
    exact List.forall_mem_append.mpr
      ⟨hsizes.null sizeChecks_null, hcontents.null (contentChecks_null hchecks)⟩
  case object =>
    intro c props o _ ctx d schema h hschema
    obtain ⟨ds, properties, shape, sizes, -, -, hshape, hsizes, hmade⟩ := h.object
    refine Validator.null_of_typed hshape hmade.stages propertiesSchema_typed
      propertiesSchema_named rfl propertiesAsks_null (hsizes.null fun c hc => ?_) hschema
    simp only [List.mem_append, Option.mem_toList, Option.map_eq_some_iff] at hc
    rcases hc with ⟨n, -, rfl⟩ | ⟨n, -, rfl⟩
    · exact admitsNull_keyword rfl
    · exact admitsNull_keyword rfl
  case multi =>
    intro c branches ih ctx d schema h hschema
    have hnamed := h.named (by intro h; cases h)
    obtain ⟨ds, schemas, shape, hds, hschemas, hshape, hmade⟩ := h.multi
    rw [Validator.admitsNull_of_named hnamed hschema, Validator.fragments, hmade.stages,
      admitsNull_cons_stages (List.forall_mem_nil _), hshape.null_union rfl,
      branches_null hds hschemas ih]
    rfl
  case tuple =>
    intro c slots _ ctx d schema h hschema
    obtain ⟨ds, schemas, shape, -, -, hshape, hmade⟩ := h.tuple
    exact Validator.null_of_typed hshape hmade.stages (n := "array")
      (k := keyword "prefixItems" (.list schemas) ++ keyword "items" (.bool false) ++
        keyword "minItems" (bound ds.length) ++ keyword "maxItems" (bound ds.length)) rfl
      (named_of_keys (K := ["type", "prefixItems", "items", "minItems", "maxItems"]) rfl
        (by decide)) rfl (Named.null (named_of_keys
        (K := ["prefixItems", "items", "minItems", "maxItems"]) rfl (by decide)) (by decide))
        (List.forall_mem_nil _) hschema
  case record =>
    intro c key value _ _ ctx d schema h hschema
    obtain ⟨keys, values, keySchema, valueSchema, shape, -, -, -, -, hshape, hmade⟩ := h.record
    exact Validator.null_of_typed hshape hmade.stages (n := "object")
      (k := keyword "additionalProperties" (.mapping valueSchema) ++
        keyword "propertyNames" (.mapping keySchema)) rfl
      (named_of_keys (K := ["type", "additionalProperties", "propertyNames"]) rfl (by decide))
      rfl (Named.null (named_of_keys (K := ["additionalProperties", "propertyNames"]) rfl
        (by decide)) (by decide)) (List.forall_mem_nil _) hschema

/-- **The shape stage decides null** by the flag of the rule. -/
theorem Rule.CompilesTo.null_decides {r : Rule} {ctx : Strictness} {d : Validator}
    (h : r.CompilesTo ctx d) :
    (d.validate .null).Decides (fun w => w = .null ∨ w = .absent) r.acceptsNull := by
  by_cases hforbidden : r.tag = .forbidden
  · obtain ⟨c, remove, rfl⟩ := Rule.eq_forbidden hforbidden
    obtain ⟨path, t, u, stages, hs, hd⟩ := h.simple rfl
    refine .accepted (a := .absent) ?_ (.inr rfl)
    rw [Validator.validate, hd.stages]
    cases remove with
    | true => rw [(pure_ok hs).1]; rfl
    | false =>
      obtain ⟨ss, _, _, hs⟩ := bind_ok hs
      rw [(pure_ok hs).1]
      rfl
  · have haccepts : r.acceptsNull = r.common.nullable := by
      cases r <;> first | rfl | exact absurd rfl hforbidden
    obtain ⟨shape, s, rest, hstages, hs⟩ := h.head hforbidden
    rw [haccepts]
    cases hnullable : r.common.nullable with
    | false => exact validate_null hstages hs hnullable
    | true =>
      refine .accepted (a := .null) ?_ (.inl rfl)
      have hrun : runShape r shape.check .null = pure .null := by
        change (if r.common.nullable then _ else _) = _
        rw [hnullable, if_pos rfl]
      rw [Validator.validate, hstages, Validator.runStages, hs.run, hrun, hs.kind]
      rfl

/-- **Null in validation and in the schema.**  Every rule that compiles has a schema.  The validator
accepts null if the rule accepts null, and the schema admits null if the rule shows null; the two
sides agree on null just where these are the same. -/
theorem null_agreement {r : Rule} {ctx : Strictness} {d : Validator} (h : r.CompilesTo ctx d) :
    ∃ schema, d.schema = .ok schema ∧
      ((∃ w, d.Gives .null w) ↔ r.acceptsNull = true) ∧
      ((Value.mapping schema).admits .null = true ↔ r.showsNull = true) := by
  obtain ⟨schema, d', hexport, -⟩ := h.exportable.export_ok
  have hschema : d.schema = .ok schema := by rw [Validator.schema, hexport]; rfl
  have hshows : admitsNull schema = r.showsNull := r.schema_null h hschema
  refine ⟨schema, hschema, ?_, ?_⟩
  · have hdecides := h.null_decides
    generalize r.acceptsNull = b at hdecides
    cases hdecides with
    | @accepted w hw _ =>
      have hgives : d.Gives .null w := ⟨[], [], by rw [hw]; rfl⟩
      simpa using ⟨w, hgives⟩
    | @rejected e he =>
      refine ⟨?_, fun h => absurd h Bool.false_ne_true⟩
      rintro ⟨w, t, u, hw⟩
      rw [he] at hw
      exact absurd hw reject_ok
  · rw [← hshows]
    exact Iff.rfl

/-- A union of a nullable text and a number rejects null, which its schema admits; a nullable
choice accepts null, which its schema excludes. -/
theorem null_agreement_union :
    let union := Rule.multi {} [.string { nullable := true } {}, .number {} {}]
    let choice := Rule.enum { nullable := true } [.text "a"]
    normalize (.list [.text "string|nullable", .text "number"]) "$" = .ok union ∧
    (∃ d schema, union.CompilesTo {} d ∧ d.schema = .ok schema ∧
      (¬ ∃ w, d.Gives .null w) ∧ (Value.mapping schema).admits .null = true) ∧
    ∃ d schema, choice.CompilesTo {} d ∧ d.schema = .ok schema ∧
      (∃ w, d.Gives .null w) ∧ (Value.mapping schema).admits .null = false := by
  intro union choice
  obtain ⟨d, hd⟩ : ∃ d, union.CompilesTo {} d := ⟨_, "$", [], [], rfl⟩
  obtain ⟨e, he⟩ : ∃ e, choice.CompilesTo {} e := ⟨_, "$", [], [], rfl⟩
  obtain ⟨schema, hschema, haccepts, hshows⟩ := null_agreement hd
  obtain ⟨schema', hschema', haccepts', hshows'⟩ := null_agreement he
  refine ⟨rfl, ⟨d, schema, hd, hschema, ?_, hshows.mpr (by decide)⟩,
    e, schema', he, hschema', haccepts'.mpr (by decide), ?_⟩
  · rw [haccepts]
    decide
  · rw [← Bool.not_eq_true, hshows']
    decide

end RuleSchema
