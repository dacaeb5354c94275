import RuleSchema.Proofs.Export.Choices

/-!
# Exporting again and again

An export leaves the validator of a rule as it is, with one exception.  An array may have
three reasons for a conjunction: bounds that clash, a list of values that it must contain,
and choices that say more than the rule of its items.  With two of them the first opens
a conjunction that the schema shares with its stage, and each export adds to it what the
others say.

* `Rule.growsOnExport` is this condition.
* `Validator.exports` exports a validator some times, one after the other.
* `CompilesTo.exports_purely` and `CompilesTo.exports_grow` are the two sides.
-/

namespace RuleSchema

open Eval Schema

/-- Whether the choices for the items of an array say more than the rule of the items shows. -/
def Rule.isNarrowed (items : Rule) (o : ArrayOptions) : Bool :=
  match o.choiceForms? with
  | some forms => !items.showsChoices forms
  | none => false

/-- Whether each export of the validator of a rule adds to its conjunction. -/
def Rule.growsOnExport : Rule → Bool
  | .array _ items o =>
    2 ≤ [o.sizesClash, o.containedForms?.isSome, items.isNarrowed o].count true
  | _ => false

namespace Validator

/-- The schemas of so many exports, one after the other, and the validator after them. -/
def exports : Nat → Validator → Except Fault (List Schema × Validator)
  | 0, d => .ok ([], d)
  | n + 1, d => do
    let (schema, d) ← d.export
    let (schemas, d) ← exports n d
    return (schema :: schemas, d)

/-- A schema that `d` has exported, as it reads when `d` has become `e`: a conjunction that it
shares with a stage is the one of that stage. -/
def reread (d e : Validator) (schema : Schema) : Schema :=
  match Entries.at? schema "allOf", sharer? d.fragments with
  | some _, some m =>
    match (e.fragments[m]?).bind (Entries.at? · "allOf") with
    | some conjunction => Entries.put schema (.text "allOf") conjunction
    | none => schema
  | _, _ => schema

/-- Every export gives this schema and leaves the validator as it is, and so a schema that has been
exported keeps its content. -/
structure ExportsPurely (d : Validator) (schema : Schema) : Prop where
  again (n : Nat) : d.exports n = .ok (List.replicate n schema, d)
  earlier : d.reread d schema = schema

/-- Every export adds `more` to the conjunction of the schema, of the first schema as well. -/
structure ExportsGrow (d : Validator) (conjuncts more : List Value) : Prop where
  added : more ≠ []
  again (n : Nat) : ∃ schemas e, d.exports n = .ok (schemas, e) ∧ schemas.length = n ∧
    (∀ k schema, schemas[k]? = some schema → Entries.at? schema "allOf"
      = some (Value.list (conjuncts ++ (List.replicate (k + 1) more).flatten))) ∧
    ∀ schema, schemas.head? = some schema → Entries.at? (d.reread e schema) "allOf"
      = some (Value.list (conjuncts ++ (List.replicate n more).flatten))

/-! ### Runs of exports -/

variable {d : Validator} {s : Schema}

/-- Fragments that stay as they are when they are joined. -/
theorem exportsPurely_of_join (h : joinFragments d.fragments = .ok (s, d.fragments)) :
    d.ExportsPurely (d.describe s) := by
  have hexport : d.export = .ok (d.describe s, d) := by
    rw [export_of_join h, withFragments_self]
  constructor
  case again =>
    intro n
    induction n with
    | zero => rfl
    | succ n ih =>
      rw [exports, hexport]
      show (exports n d >>= _) = _
      rw [ih]
      rfl
  case earlier =>
    rw [reread, at?_describe (by decide), sharer?]
    rw [joinFragments] at h
    cases hj : Joining.fragments 0 ⟨[], none⟩ d.fragments with
    | error e => rw [hj] at h; cases h
    | ok j =>
      rw [hj] at h
      dsimp only [bind, Except.bind] at h ⊢
      split
      · next v m hv hm =>
        rw [hm] at h
        cases hat : Entries.at? j.schema "allOf" with
        | none =>
          rw [hat] at h
          cases h
          rw [hat] at hv
          cases hv
        | some v' =>
          rw [hat] at h
          obtain ⟨rfl, hmodify⟩ := Prod.mk.inj (Except.ok.inj h)
          cases hf : d.fragments[m]? with
          | none => rfl
          | some f =>
            -- what the export has put into the fragment was there before
            have hput : Entries.at? f "allOf" = some v' := by
              have hf' := hf
              rw [← hmodify, List.getElem?_modify_eq, hf] at hf'
              rw [← Option.some.inj hf']
              exact at?_put_self
            rw [Option.bind_some, hput]
            exact put_of_at? (by rw [at?_describe (by decide), hat])
      · rfl

/-- A conjunction that is shared, and to which something is added. -/
theorem exportsGrow_of_layout {pre : List Schema} {zs? o : Option (List Value)} {rest : Schema}
    {m : Nat} (hfragments : d.fragments = Layout.fragments pre zs? rest)
    (h : Layout pre zs? rest o) (hm : Layout.SharedAt pre zs? o m)
    (hadded : Layout.added pre zs? rest o ≠ []) :
    d.ExportsGrow (Layout.shared zs? o) (Layout.added pre zs? rest o) := by
  have hrun : ∀ (n : Nat) {d : Validator} {pre : List Schema} {zs? o : Option (List Value)},
      d.fragments = Layout.fragments pre zs? rest → Layout pre zs? rest o →
      Layout.SharedAt pre zs? o m →
      ∃ schemas e, d.exports n = .ok (schemas, e) ∧ schemas.length = n ∧
        (∀ k schema, schemas[k]? = some schema → Entries.at? schema "allOf"
          = some (Value.list (Layout.shared zs? o ++
            (List.replicate (k + 1) (Layout.added pre zs? rest o)).flatten))) ∧
        (e.fragments[m]?).bind (Entries.at? · "allOf")
          = some (Value.list (Layout.shared zs? o ++
            (List.replicate n (Layout.added pre zs? rest o)).flatten)) := by
    intro n
    induction n with
    | zero =>
      intro d pre zs? o hfragments h hm
      obtain ⟨s, hs⟩ := h.shares hm
      refine ⟨[], d, rfl, rfl, fun k schema hk => (by cases hk), ?_⟩
      rw [hfragments, hs.before, List.replicate_zero, List.flatten_nil, List.append_nil]
    | succ n ih =>
      intro d pre zs? o hfragments h hm
      obtain ⟨s, hs⟩ := h.shares hm
      obtain ⟨pre', zs?', o', hmodify, h', hm', hshared, hadded⟩ := h.grows hm
      have hlength : (Layout.fragments pre' zs?' rest).length = d.fragments.length := by
        rw [← hmodify, List.length_modify, hfragments]
      have hexport : d.export
          = .ok (d.describe s, d.withFragments (Layout.fragments pre' zs?' rest)) := by
        refine export_of_join ?_
        rw [hfragments, hs.join, hmodify]
      obtain ⟨schemas, e, hexports, hcount, hschemas, he⟩ :=
        ih (fragments_withFragments hlength) h' hm'
      rw [hshared, hadded] at hschemas he
      refine ⟨d.describe s :: schemas, e, ?_, congrArg _ hcount, ?_, ?_⟩
      · rw [exports, hexport]
        show (exports n _ >>= _) = _
        rw [hexports]
        rfl
      · intro k schema hk
        cases k with
        | zero =>
          cases hk
          rw [at?_describe (by decide), hs.after, List.replicate_one, List.flatten_singleton]
        | succ k =>
          rw [hschemas k schema hk, List.replicate_succ (n := k + 1), List.flatten_cons,
            List.append_assoc]
      · rw [he, List.replicate_succ, List.flatten_cons, List.append_assoc]
  obtain ⟨s, hs⟩ := h.shares hm
  refine ⟨hadded, fun n => ?_⟩
  obtain ⟨schemas, e, hexports, hlength, hschemas, he⟩ := hrun n hfragments h hm
  refine ⟨schemas, e, hexports, hlength, hschemas, fun schema hhead => ?_⟩
  rw [List.head?_eq_getElem?] at hhead
  have hsharer : sharer? d.fragments = some m := by rw [sharer?, hfragments, hs.joined]
  rw [reread, hschemas 0 schema hhead, hsharer]
  dsimp only
  rw [he]
  exact at?_put_self

end Validator

/-! ### The exports of a rule -/

/-- Nothing is added just when there are not two conjunctions and nothing else clashes. -/
theorem Layout.added_eq_nil {pre : List Schema} {zs? o : Option (List Value)} {rest : Schema} :
    Layout.added pre zs? rest o = [] ↔
      (o = none ∨ zs? = none) ∧ clashing pre.flatten rest = [] := by
  unfold Layout.added
  rw [List.append_eq_nil_iff]
  refine and_congr_left fun _ => ?_
  cases o with
  | none => simp
  | some xs => cases zs? <;> simp

/-- The choices for the items of an array add nothing just when they say no more than the items. -/
theorem narrowing_eq_nil {items : Rule} {o : ArrayOptions} {ctx : Strictness} {d : Validator}
    {s : Schema} (h : items.CompilesTo ctx d) (hs : d.schema = .ok s) :
    o.narrowing s = [] ↔ items.isNarrowed o = false := by
  rw [ArrayOptions.narrowing, Rule.isNarrowed]
  cases o.choiceForms? with
  | none => simp
  | some forms =>
    dsimp only
    rw [h.schema_equals_choices hs]
    cases items.showsChoices forms <;> simp

theorem containedConjuncts_eq_none {o : ArrayOptions} :
    o.containedConjuncts? = none ↔ o.containedForms?.isSome = false := by
  rw [ArrayOptions.containedConjuncts?, Option.map_eq_none_iff, Option.isSome_eq_false_iff,
    Option.isNone_iff_eq_none]

theorem two_of_three {a b c : Bool} :
    decide (2 ≤ [a, b, c].count true) = ((a || b) && (a && b || c)) := by
  cases a <;> cases b <;> cases c <;> rfl

/-- An array grows just when a conjunction is shared and something is added to it. -/
theorem growsOnExport_array (c : CommonOptions) (items : Rule) {o : ArrayOptions}
    {pre : List Schema} {rest : Schema}
    (hclash : clashing pre.flatten rest = [] ↔ items.isNarrowed o = false) :
    (Rule.array c items o).growsOnExport = true ↔
      (o.sizeConflicts ≠ none ∨ o.containedConjuncts? ≠ none) ∧
        Layout.added pre o.containedConjuncts? rest o.sizeConflicts ≠ [] := by
  rw [Rule.growsOnExport, two_of_three, Ne, Ne, Ne, Layout.added_eq_nil, hclash,
    sizeConflicts_eq_none, containedConjuncts_eq_none]
  cases o.sizesClash <;> cases o.containedForms?.isSome <;> cases items.isNarrowed o <;> decide

namespace Rule.CompilesTo

variable {r : Rule} {ctx : Strictness} {d : Validator}

/-- **A rule that does not grow** can be exported at will. -/
theorem exports_purely (h : r.CompilesTo ctx d) (hr : r.growsOnExport = false) :
    ∃ schema, d.ExportsPurely schema := by
  by_cases htag : r.tag = .array
  · cases r with
    | array c items o =>
      obtain ⟨di, schema, pre, hdi, hschema, _, hfragments⟩ := h.array_layout
      rcases hfragments with ⟨hpre, ⟨K, hnamed⟩, _, _⟩ | ⟨rest, hfragments, hlayout, hclash⟩
      · exact ⟨_, Validator.exportsPurely_of_join (joinFragments_apart (K := K) (by rwa [hpre]))⟩
      · have hgrows := growsOnExport_array c items
          (by rw [hclash]; exact narrowing_eq_nil hdi hschema)
        by_cases hshared : o.sizeConflicts ≠ none ∨ o.containedConjuncts? ≠ none
        · have hadded : Layout.added pre o.containedConjuncts? rest o.sizeConflicts = [] := by
            by_contra hadded
            rw [hgrows.mpr ⟨hshared, hadded⟩] at hr
            cases hr
          obtain ⟨m, hm⟩ := hlayout.exists_sharedAt hshared
          obtain ⟨s, hs⟩ := hlayout.shares hm
          rw [hadded, ← hfragments] at hs
          exact ⟨_, Validator.exportsPurely_of_join hs.unchanged⟩
        · obtain ⟨hsizes, hcontained⟩ := not_or.mp hshared
          rw [not_not.mp hsizes, not_not.mp hcontained] at hlayout
          obtain ⟨s, hs⟩ := hlayout.join_of_none
          rw [not_not.mp hcontained] at hfragments
          rw [← hfragments] at hs
          exact ⟨_, Validator.exportsPurely_of_join hs⟩
    | _ => cases htag
  · exact ⟨_, Validator.exportsPurely_of_join (joinFragments_apart (h.named htag))⟩

/-- **A rule that grows** has another schema at each export. -/
theorem exports_grow (h : r.CompilesTo ctx d) (hr : r.growsOnExport = true) :
    ∃ conjuncts more, d.ExportsGrow conjuncts more := by
  cases r with
  | array c items o =>
    obtain ⟨di, schema, pre, hdi, hschema, _, hfragments⟩ := h.array_layout
    rcases hfragments with ⟨_, _, hcontained, hchoices⟩ | ⟨rest, hfragments, hlayout, hclash⟩
    · rw [growsOnExport, isNarrowed, hcontained, hchoices, two_of_three] at hr
      simp at hr
    · obtain ⟨hshared, hadded⟩ := (growsOnExport_array c items
        (by rw [hclash]; exact narrowing_eq_nil hdi hschema)).mp hr
      obtain ⟨m, hm⟩ := hlayout.exists_sharedAt hshared
      exact ⟨_, _, Validator.exportsGrow_of_layout hfragments hlayout hm hadded⟩
  | _ => cases hr

end Rule.CompilesTo

end RuleSchema
