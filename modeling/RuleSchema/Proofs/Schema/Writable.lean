import RuleSchema.Proofs.Schema.Names
import RuleSchema.Proofs.Value.Json
import RuleSchema.Stage.Shape
import RuleSchema.Validator.Basic

/-!
# Schemas that can be written

A schema becomes a JSON document, and what it combines, all of it or one of several, is a
list.  The operations on schemas keep this, and none of them has a fault then.

* `Writable` is the property of a schema, `WritableEntry` that of one keyword.
* `mergeSchema_writable`, `checksSchema_writable`, `joinFragments_writable`: schemas are
  joined without a fault.
* `shapeSchema_writable`: so is null admitted and the default shown.
* `export_writable`: a validator whose stages have such schemas is exported, any number of
  times.
-/

namespace RuleSchema

/-- The keywords that combine schemas. -/
def combining : List String := ["allOf", "anyOf"]

/-- A keyword has a text as its name and a value of a document as its content, and one that
combines schemas has a list of them. -/
structure WritableEntry (e : Value × Value) : Prop where
  name : ∃ n, e.1 = .text n
  json : e.2.isJson = true
  listed : ∀ n ∈ combining, e.1 = .text n → ∃ xs, e.2 = .list xs

/-- All keywords of a schema can be written. -/
def Writable (s : Schema) : Prop := ∀ e ∈ s, WritableEntry e

section

variable {s f : Schema} {v : Value} {n : String} {xs : List Value}

theorem WritableEntry.plain (hn : n ∉ combining) (hv : v.isJson = true) :
    WritableEntry (.text n, v) :=
  ⟨⟨n, rfl⟩, hv, fun _ hm h => absurd (Value.text.inj h ▸ hm) hn⟩

theorem WritableEntry.list (hxs : ∀ x ∈ xs, x.isJson = true) :
    WritableEntry (.text n, .list xs) :=
  ⟨⟨n, rfl⟩, Value.isJson_list.mpr hxs, fun _ _ _ => ⟨xs, rfl⟩⟩

namespace Writable

theorem nil : Writable [] := fun _ h => absurd h List.not_mem_nil

theorem append (hs : Writable s) (hf : Writable f) : Writable (s ++ f) :=
  List.forall_mem_append.mpr ⟨hs, hf⟩

/-- One keyword that combines nothing. -/
theorem keyword (hn : n ∉ combining) (hv : v.isJson = true) : Writable (keyword n v) :=
  List.forall_mem_singleton.mpr (.plain hn hv)

/-- One keyword that lists values. -/
theorem listing (hxs : ∀ x ∈ xs, x.isJson = true) : Writable (RuleSchema.keyword n (.list xs)) :=
  List.forall_mem_singleton.mpr (.list hxs)

/-- A schema that stands on a condition. -/
theorem ite {p : Prop} [Decidable p] (hs : p → Writable s) (hf : ¬ p → Writable f) :
    Writable (if p then s else f) := by
  split
  · next h => exact hs h
  · next h => exact hf h

theorem holdsJson (hs : Writable s) : Entries.HoldsJson s := fun e he =>
  ⟨(hs e he).name, (hs e he).json⟩

/-- A writable schema is a value of a document. -/
theorem isJson (hs : Writable s) : (Value.mapping s).isJson = true :=
  Value.isJson_mapping.mpr hs.holdsJson

theorem put (hs : Writable s) (he : WritableEntry (.text n, v)) :
    Writable (Entries.put s (.text n) v) := by
  induction s with
  | nil => exact List.forall_mem_singleton.mpr he
  | cons e s ih =>
    obtain ⟨⟨k, x⟩, rfl⟩ : ∃ e' : Value × Value, e = e' := ⟨e, rfl⟩
    obtain ⟨hx, hrest⟩ := List.forall_mem_cons.mp hs
    rw [Entries.put]
    split
    · next hkey =>
      obtain ⟨m, rfl⟩ := hx.name
      rw [text_equals, beq_iff_eq] at hkey
      subst hkey
      exact List.forall_mem_cons.mpr ⟨he, hrest⟩
    · exact List.forall_mem_cons.mpr ⟨hx, ih hrest⟩

/-- What stands under a name can be written there. -/
theorem at? (hs : Writable s) (hv : s.at? n = some v) : WritableEntry (.text n, v) := by
  obtain ⟨⟨k, x⟩, he, rfl⟩ := Option.map_eq_some_iff.mp hv
  obtain ⟨m, rfl⟩ := (hs _ (List.mem_of_find?_eq_some he)).name
  have hkey := List.find?_some he
  rw [text_equals, beq_iff_eq] at hkey
  rw [hkey]
  exact hs _ (List.mem_of_find?_eq_some he)

/-- What combines schemas is a list. -/
theorem listed_at? (hs : Writable s) (hn : n ∈ combining) (hv : s.at? n = some v) :
    ∃ xs, v = .list xs ∧ ∀ x ∈ xs, x.isJson = true := by
  have he := hs.at? hv
  obtain ⟨xs, rfl⟩ := he.listed n hn rfl
  exact ⟨xs, rfl, Value.isJson_list.mp he.json⟩

end Writable

/-! ### Joining -/

theorem appendConjunct_writable (hs : Writable s) (hv : v.isJson = true) :
    ∃ s', appendConjunct s (.text n) v = .ok s' ∧ Writable s' := by
  have hone : ∀ x ∈ [Value.mapping [(.text n, v)]], x.isJson = true :=
    List.forall_mem_singleton.mpr (Value.isJson_mapping.mpr (.cons hv .nil))
  unfold appendConjunct
  cases hat : Entries.at? s "allOf" with
  | none => exact ⟨_, rfl, hs.put (.list hone)⟩
  | some w =>
    obtain ⟨xs, rfl, hxs⟩ := hs.listed_at? (by decide) hat
    exact ⟨_, rfl, hs.put (.list (List.forall_mem_append.mpr ⟨hxs, hone⟩))⟩

theorem mergeKeyword_writable {e : Value × Value} (hs : Writable s) (he : WritableEntry e) :
    ∃ s', mergeKeyword s e.1 e.2 = .ok s' ∧ Writable s' := by
  obtain ⟨n, hn⟩ := he.name
  unfold mergeKeyword
  cases s.find? e.1 with
  | none => exact ⟨_, rfl, hs.append (List.forall_mem_singleton.mpr he)⟩
  | some old =>
    dsimp only
    split
    · exact ⟨s, rfl, hs⟩
    · rw [hn]
      exact appendConjunct_writable hs he.json

theorem mergeSchema_writable : ∀ {f s : Schema}, Writable s → Writable f →
    ∃ s', mergeSchema s f = .ok s' ∧ Writable s' := by
  intro f
  induction f with
  | nil => intro s hs _; exact ⟨s, rfl, hs⟩
  | cons e f ih =>
    intro s hs hf
    obtain ⟨he, hf⟩ := List.forall_mem_cons.mp hf
    obtain ⟨s₁, h₁, hs₁⟩ := mergeKeyword_writable hs he
    obtain ⟨s₂, h₂, hs₂⟩ := ih hs₁ hf
    refine ⟨s₂, ?_, hs₂⟩
    rw [mergeSchema, List.foldlM_cons, h₁]
    exact h₂

theorem checksSchema_writable {checks : List Check} (h : ∀ c ∈ checks, Writable c.schema) :
    ∃ s, Stage.checksSchema checks = .ok s ∧ Writable s := by
  have hfold : ∀ {checks : List Check} {s : Schema}, (∀ c ∈ checks, Writable c.schema) →
      Writable s → ∃ s', checks.foldlM (fun schema c => mergeSchema schema c.schema) s = .ok s' ∧
        Writable s' := by
    intro checks
    induction checks with
    | nil => intro s _ hs; exact ⟨s, rfl, hs⟩
    | cons c checks ih =>
      intro s h hs
      obtain ⟨hc, hcs⟩ := List.forall_mem_cons.mp h
      obtain ⟨s₁, h₁, hs₁⟩ := mergeSchema_writable hs hc
      obtain ⟨s₂, h₂, hs₂⟩ := ih hcs hs₁
      refine ⟨s₂, ?_, hs₂⟩
      rw [List.foldlM_cons, h₁]
      exact h₂
  exact hfold h .nil

theorem Joining.fragment_writable {i : Nat} : ∀ {f : Schema} {j : Joining}, Writable j.schema →
    Writable f → ∃ j', f.foldlM (fun j entry => j.keyword i entry.1 entry.2) j = .ok j' ∧
      Writable j'.schema := by
  intro f
  induction f with
  | nil => intro j hj _; exact ⟨j, rfl, hj⟩
  | cons e f ih =>
    intro j hj hf
    obtain ⟨he, hf⟩ := List.forall_mem_cons.mp hf
    obtain ⟨s, hs, hsw⟩ := mergeKeyword_writable hj he
    obtain ⟨j', hj', hw⟩ := ih (j := ⟨s, _⟩) hsw hf
    refine ⟨j', ?_, hw⟩
    rw [List.foldlM_cons, Joining.keyword, hs]
    exact hj'

theorem Joining.fragments_writable : ∀ {fs : List Schema} {i : Nat} {j : Joining},
    Writable j.schema → (∀ f ∈ fs, Writable f) →
      ∃ j', Joining.fragments i j fs = .ok j' ∧ Writable j'.schema := by
  intro fs
  induction fs with
  | nil => intro i j hj _; exact ⟨j, rfl, hj⟩
  | cons f fs ih =>
    intro i j hj hfs
    obtain ⟨hf, hfs⟩ := List.forall_mem_cons.mp hfs
    obtain ⟨j₁, h₁, hj₁⟩ := Joining.fragment_writable (i := i) hj hf
    obtain ⟨j₂, h₂, hj₂⟩ := ih (i := i + 1) hj₁ hfs
    refine ⟨j₂, ?_, hj₂⟩
    rw [Joining.fragments, h₁]
    exact h₂

/-- **Schemas that can be written are joined to one**, and stay so. -/
theorem joinFragments_writable {fs : List Schema} (hfs : ∀ f ∈ fs, Writable f) :
    ∃ s fs', joinFragments fs = .ok (s, fs') ∧ Writable s ∧ ∀ f ∈ fs', Writable f := by
  obtain ⟨j, hj, hs⟩ := Joining.fragments_writable (i := 0) (j := ⟨[], none⟩) .nil hfs
  unfold joinFragments
  rw [hj]
  dsimp only [bind, Except.bind]
  split
  · next i conjunction _ hat =>
    refine ⟨_, _, rfl, hs, fun f hf => ?_⟩
    obtain ⟨k, hk⟩ := List.mem_iff_getElem?.mp hf
    rw [List.getElem?_modify] at hk
    obtain ⟨g, hg, rfl⟩ := Option.map_eq_some_iff.mp hk
    have hgw := hfs g (List.mem_of_getElem? hg)
    split
    · exact hgw.put (hs.at? hat)
    · exact hgw
  · exact ⟨_, _, rfl, hs, hfs⟩

/-! ### The schema of a shape stage -/

theorem nullableSchema_writable (hs : Writable s) :
    ∃ s', nullableSchema s = .ok s' ∧ Writable s' := by
  have hnothing : ∀ x ∈ [Value.mapping (keyword "type" (.text "null"))], x.isJson = true :=
    List.forall_mem_singleton.mpr rfl
  unfold nullableSchema
  dsimp only
  split
  · exact ⟨_, rfl, hs.put (.list (by simp [Value.isJson]))⟩
  · next t hat => exact absurd (hs.at? hat).json Bool.false_ne_true
  · next kinds hat =>
    refine ⟨_, rfl, .ite (fun _ => hs) fun _ => hs.put (.list ?_)⟩
    exact List.forall_mem_append.mpr
      ⟨Value.isJson_list.mp (hs.at? hat).json, List.forall_mem_singleton.mpr rfl⟩
  · cases hat : Entries.at? s "anyOf" with
    | some v =>
      obtain ⟨xs, rfl, hxs⟩ := hs.listed_at? (by decide) hat
      exact ⟨_, rfl, hs.put (.list (List.forall_mem_append.mpr ⟨hxs, hnothing⟩))⟩
    | none =>
      refine ⟨_, rfl, .ite (fun _ => hs) fun _ => .listing ?_⟩
      exact List.forall_mem_cons.mpr ⟨hs.isJson, hnothing⟩

theorem shownDefault?_json {r : Rule} (hr : ∀ d, r.common.default? = some d → d.isJson = true) :
    ∃ d?, shownDefault? r = .ok d? ∧ ∀ d, d? = some d → d.isJson = true := by
  unfold shownDefault?
  cases hdefault : r.common.default? with
  | none => exact ⟨none, rfl, fun _ h => nomatch h⟩
  | some d =>
    obtain ⟨form, hform, hjson⟩ := jsonForm?_of_json (hr d hdefault)
    dsimp only
    rw [Value.isCallable_of_isJson (hr d hdefault)]
    exact ⟨some form, hform, fun _ h => Option.some.inj h ▸ hjson⟩

/-- **The schema of a shape stage** can be written if the default is one of a document. -/
theorem withDefault_writable {d? : Option Value} (hd : ∀ d, d? = some d → d.isJson = true)
    (hs : Writable s) :
    ∃ s', (match d? with
      | some d => return s.put (.text "default") d
      | none => return s : Except Fault Schema) = .ok s' ∧ Writable s' := by
  cases d? with
  | none => exact ⟨s, rfl, hs⟩
  | some d => exact ⟨_, rfl, hs.put (.plain (by decide) (hd d rfl))⟩

theorem shapeSchema_writable {r : Rule} (hr : ∀ d, r.common.default? = some d → d.isJson = true)
    (hs : Writable s) : ∃ s', shapeSchema r s = .ok s' ∧ Writable s' := by
  obtain ⟨d?, hd?, hd⟩ := shownDefault?_json hr
  unfold shapeSchema
  split
  · obtain ⟨s₁, hs₁, hw₁⟩ := nullableSchema_writable hs
    rw [hs₁, hd?]
    exact withDefault_writable hd hw₁
  · rw [hd?]
    exact withDefault_writable hd hs

end

/-! ### The schema of a validator -/

namespace Validator

variable {d : Validator}

/-- The schemas of all stages of a validator can be written. -/
def WritableStages (d : Validator) : Prop := ∀ s ∈ d.stages, Writable s.schema

theorem describe_writable {s : Schema} (hs : Writable s) : Writable (d.describe s) := by
  unfold describe
  split
  · exact .ite (fun _ => hs) fun _ => hs.put (.plain (by decide) rfl)
  · exact hs

/-- **A validator is exported without a fault**, and can be exported again. -/
theorem export_writable (hd : d.WritableStages) :
    ∃ s d', d.export = .ok (s, d') ∧ Writable s ∧ d'.WritableStages := by
  have hfragments : ∀ s ∈ d.stages.map Stage.schema, Writable s := List.forall_mem_map.mpr hd
  obtain ⟨s, fs, hjoin, hs, hfs⟩ := joinFragments_writable hfragments
  refine ⟨d.describe s,
    { d with stages := List.zipWith (fun s schema => { s with schema }) d.stages fs }, ?_,
    describe_writable hs, fun stage hstage => ?_⟩
  · unfold «export»
    rw [hjoin]
    rfl
  · obtain ⟨i, hi, rfl⟩ := List.mem_iff_getElem.mp hstage
    rw [List.getElem_zipWith]
    exact hfs _ (List.getElem_mem _)

theorem schema_writable (hd : d.WritableStages) : ∃ s, d.schema = .ok s ∧ Writable s := by
  obtain ⟨s, d', h, hs, -⟩ := export_writable hd
  exact ⟨s, by rw [schema, h]; rfl, hs⟩

end Validator

end RuleSchema
