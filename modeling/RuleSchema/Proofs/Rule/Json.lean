import RuleSchema.Proofs.Faults.Evaluation
import RuleSchema.Proofs.Rule.Fields
import RuleSchema.Proofs.Rule.Induction
import RuleSchema.Proofs.Value.Json

/-!
# Rules from documents

A rule that is read from a JSON document holds nothing but values of documents: they are
its default, its choices and what it is compared with.  Classes and identities cannot be
written in a document, so none of the rules inside is about one.

* `Rule.holdsJson` says so of one rule, and `Rule.IsPlain` of a rule with all rules
  inside it.
* `Part.Plain` says of an entry of a rule mapping that each of its readings gives such a
  rule.
* `normalize_plain`: what is read from a document is plain, and nothing but a numeral that
  is too long stops the reading without a judgement.
-/

namespace RuleSchema

/-- Whether the default of a rule is a value of a document. -/
def CommonOptions.holdsJson (c : CommonOptions) : Bool := c.default?.all Value.isJson

/-- Whether a rule holds values of documents only, and is about no class. -/
def Rule.holdsJson : Rule → Bool
  | .class .. => false
  | .objectId .. => false
  | .enum c values => c.holdsJson && Value.allJson values
  | .equal c value _ => c.holdsJson && value.isJson
  | .array c _ o => c.holdsJson && o.contains?.all Value.isJson && o.enum?.all Value.allJson
  | r => r.common.holdsJson

/-- A rule and all rules inside it hold values of documents only. -/
def Rule.IsPlain (r : Rule) : Prop := ∀ q ∈ r.nodes, q.holdsJson = true

namespace Rule.IsPlain

variable {c : CommonOptions}

theorem of_simple {r : Rule} (hr : r.tag.isComposite = false) (h : r.holdsJson = true) :
    r.IsPlain := by
  rw [IsPlain, nodes_of_simple hr]
  exact List.forall_mem_singleton.mpr h

theorem array {items : Rule} {o : ArrayOptions} (h : (Rule.array c items o).holdsJson = true)
    (hitems : items.IsPlain) : (Rule.array c items o).IsPlain :=
  List.forall_mem_cons.mpr ⟨h, hitems⟩

theorem object {props : List (String × Rule)} {o : ObjectOptions} (h : c.holdsJson = true)
    (hprops : ∀ e ∈ props, e.2.IsPlain) : (Rule.object c props o).IsPlain :=
  List.forall_mem_cons.mpr ⟨h, fun q hq => by
    obtain ⟨e, he, hq⟩ := mem_nodesOfProps.mp hq
    exact hprops e he q hq⟩

theorem multi {branches : List Rule} (h : c.holdsJson = true)
    (hbranches : ∀ r ∈ branches, r.IsPlain) : (Rule.multi c branches).IsPlain :=
  List.forall_mem_cons.mpr ⟨h, fun q hq => by
    obtain ⟨r, hr, hq⟩ := mem_nodesOfList.mp hq
    exact hbranches r hr q hq⟩

theorem tuple {slots : List Rule} (h : c.holdsJson = true) (hslots : ∀ r ∈ slots, r.IsPlain) :
    (Rule.tuple c slots).IsPlain :=
  List.forall_mem_cons.mpr ⟨h, fun q hq => by
    obtain ⟨r, hr, hq⟩ := mem_nodesOfList.mp hq
    exact hslots r hr q hq⟩

theorem record {key value : Rule} (h : c.holdsJson = true) (hkey : key.IsPlain)
    (hvalue : value.IsPlain) : (Rule.record c key value).IsPlain :=
  List.forall_mem_cons.mpr ⟨h, List.forall_mem_append.mpr ⟨hkey, hvalue⟩⟩

end Rule.IsPlain

/-! ### Results of readers -/

open Checked

variable {es : Entries Value}

/-- A field has been read from its value, or it is missing. -/
theorem read_good {α : Type} {f : FieldName} {reader : FieldReader α} {default a : α}
    (hes : es.HoldsJson) (h : f.read es reader default = .good a) :
    a = default ∨ ∃ v, v.isJson = true ∧ reader v = .ok a := by
  unfold FieldName.read at h
  split at h
  · cases h; exact .inl rfl
  · next used _ =>
    split at h
    · next hr => cases h; exact .inr ⟨_, hes.getD used, hr⟩
    · cases h

theorem require_good {α : Type} {f : FieldName} {reader : FieldReader α} {a : α}
    (hes : es.HoldsJson) (h : f.require es reader = .good a) :
    ∃ v, v.isJson = true ∧ reader v = .ok a := by
  unfold FieldName.require at h
  split at h
  · cases h
  · next used _ =>
    split at h
    · next hr => cases h; exact ⟨_, hes.getD used, hr⟩
    · cases h

/-- Any value but null. -/
theorem something_json {v : Value} {a? : Option Value} (hv : v.isJson = true)
    (h : FieldReader.something v = .ok a?) : a?.all Value.isJson = true := by
  unfold FieldReader.something at h
  split at h <;> cases h
  · rfl
  · exact hv

/-- A list of any values. -/
theorem anythings_json : ∀ {vs : List Value} {i : Nat} {as : List Value},
    (∀ v ∈ vs, v.isJson = true) → FieldReader.collect FieldReader.anything i vs = .good as →
      Value.allJson as = true
  | [], _, _, _, h => by
    cases h
    rfl
  | v :: vs, i, as, hvs, h => by
    obtain ⟨g, bs, hg, hbs, rfl⟩ := seq_good h
    obtain ⟨a, ha, rfl⟩ := map_good hg
    cases ha
    rw [Value.allJson, hvs v List.mem_cons_self,
      anythings_json (fun w hw => hvs w (List.mem_cons_of_mem _ hw)) hbs]
    rfl

theorem list_json {v : Value} {as : List Value} (hv : v.isJson = true)
    (h : FieldReader.list FieldReader.anything v = .ok as) : Value.allJson as = true := by
  unfold FieldReader.list at h
  split at h
  · cases h
  · next vs hvs =>
    split at h
    · next hcollect =>
      cases h
      exact anythings_json (Value.isJson_items hv hvs) hcollect
    · cases h

theorem nonEmptyList_json {v : Value} {as : List Value} (hv : v.isJson = true)
    (h : FieldReader.nonEmptyList FieldReader.anything v = .ok as) : Value.allJson as = true := by
  obtain ⟨bs, hbs, h⟩ := except_bind_ok h
  split at h <;> cases h
  exact list_json hv hbs

/-- No value of a document is a class. -/
theorem classRef_json {v : Value} {c : ClassRef} (hv : v.isJson = true) :
    FieldReader.classRef v ≠ .ok c := by
  cases v with
  | cls c => cases hv
  | _ => exact fun h => nomatch h

/-- The shared options hold values of documents. -/
theorem common_json {convert : Checked Bool} {c : CommonOptions} (hes : es.HoldsJson)
    (h : CommonOptions.read es convert = .good c) : c.holdsJson = true := by
  obtain ⟨_, description?, h₁, _, rfl⟩ := seq_good h
  obtain ⟨_, default?, h₂, hdefault, rfl⟩ := seq_good h₁
  obtain ⟨_, convert', h₃, _, rfl⟩ := seq_good h₂
  obtain ⟨_, nullable, h₄, _, rfl⟩ := seq_good h₃
  obtain ⟨optional, _, rfl⟩ := map_good h₄
  rcases read_good hes hdefault with hd | ⟨v, hv, hd⟩
  · show default?.all _ = true
    rw [hd]
    rfl
  · exact something_json hv hd

theorem arrayOptions_json {o : ArrayOptions} (hes : es.HoldsJson)
    (h : ArrayOptions.read es = .good o) :
    o.contains?.all Value.isJson = true ∧ o.enum?.all Value.allJson = true := by
  obtain ⟨_, enum?, h₁, henum, rfl⟩ := seq_good h
  obtain ⟨_, unique, h₂, _, rfl⟩ := seq_good h₁
  obtain ⟨_, contains?, h₃, hcontains, rfl⟩ := seq_good h₂
  obtain ⟨_, length?, h₄, _, rfl⟩ := seq_good h₃
  obtain ⟨_, max?, h₅, _, rfl⟩ := seq_good h₄
  obtain ⟨_, min?, h₆, _, rfl⟩ := seq_good h₅
  obtain ⟨empty?, _, rfl⟩ := map_good h₆
  constructor
  · rcases read_good hes hcontains with hd | ⟨v, hv, hd⟩
    · show contains?.all _ = true
      rw [hd]
      rfl
    · exact something_json hv hd
  · show enum?.all _ = true
    rcases read_good hes henum with hd | ⟨v, hv, hd⟩
    · rw [hd]
      rfl
    · unfold FieldReader.nullable at hd
      split at hd
      · cases hd; rfl
      · cases hl : FieldReader.list FieldReader.anything v with
        | error ps => rw [hl] at hd; cases hd
        | ok as => rw [hl] at hd; cases hd; exact list_json hv hl

/-! ### Rules without rules inside -/

/-- A rule of shared options and some own ones. -/
theorem simpleRule_json {tag : Tag} {r : Rule} (hes : es.HoldsJson)
    (htag : tag.isComposite = false) (h : simpleRule es tag = .good r) : r.IsPlain := by
  have hone : ∀ {f : CommonOptions → Rule} {names : List FieldName},
      (∀ c, (f c).tag.isComposite = false ∧ (f c).holdsJson = c.holdsJson) →
      closed (f <$> CommonOptions.readAll es) names es = .good r → r.IsPlain := by
    intro f names hf h
    obtain ⟨c, hc, rfl, -⟩ := closed_map h
    exact .of_simple (hf c).1 ((hf c).2.trans (common_json hes hc))
  have htwo : ∀ {α : Type} {f : CommonOptions → α → Rule} {x : Checked α}
      {names : List FieldName},
      (∀ c a, (f c a).tag.isComposite = false ∧ (f c a).holdsJson = c.holdsJson) →
      closed (f <$> CommonOptions.readAll es <*> x) names es = .good r → r.IsPlain := by
    intro α f x names hf h
    obtain ⟨c, a, hc, -, rfl, -⟩ := closed_seq h
    exact .of_simple (hf c a).1 ((hf c a).2.trans (common_json hes hc))
  have hnoClass : ∀ {α : Type} {f : Checked (ClassRef → α)} {field : FieldName} {a : α},
      f <*> field.require es FieldReader.classRef ≠ .good a := by
    intro α f field a h
    obtain ⟨_, k, _, hk, _⟩ := seq_good h
    obtain ⟨v, hv, hk⟩ := require_good hes hk
    exact classRef_json hv hk
  cases tag with
  | string => exact htwo (fun _ _ => ⟨rfl, rfl⟩) h
  | number => exact htwo (fun _ _ => ⟨rfl, rfl⟩) h
  | boolean => exact hone (fun _ => ⟨rfl, rfl⟩) h
  | date => exact hone (fun _ => ⟨rfl, rfl⟩) h
  | any => exact hone (fun _ => ⟨rfl, rfl⟩) h
  | email => exact htwo (fun _ _ => ⟨rfl, rfl⟩) h
  | currency => exact htwo (fun _ _ => ⟨rfl, rfl⟩) h
  | «class» => exact absurd (closed_good h) hnoClass
  | enum =>
    obtain ⟨c, values, hc, hvalues, rfl, -⟩ := closed_seq h
    obtain ⟨v, hv, hvalues⟩ := require_good hes hvalues
    refine .of_simple rfl ?_
    rw [Rule.holdsJson, common_json hes hc, nonEmptyList_json hv hvalues]
    rfl
  | equal =>
    obtain ⟨_, strict, h₁, _, rfl⟩ := seq_good (closed_good h)
    obtain ⟨_, value, h₂, hvalue, rfl⟩ := seq_good h₁
    obtain ⟨c, hc, rfl⟩ := map_good h₂
    obtain ⟨v, hv, hvalue⟩ := require_good hes hvalue
    cases hvalue
    refine .of_simple rfl ?_
    rw [Rule.holdsJson, common_json hes hc, hv]
    rfl
  | forbidden => exact htwo (fun _ _ => ⟨rfl, rfl⟩) h
  | function => exact hone (fun _ => ⟨rfl, rfl⟩) h
  | luhn => exact hone (fun _ => ⟨rfl, rfl⟩) h
  | mac => exact hone (fun _ => ⟨rfl, rfl⟩) h
  | url => exact htwo (fun _ _ => ⟨rfl, rfl⟩) h
  | uuid => exact htwo (fun _ _ => ⟨rfl, rfl⟩) h
  | objectId => exact absurd (closed_good h) hnoClass
  | array | object | multi | tuple | record => cases htag

/-! ### Readings -/

/-- A numeral has more digits than can be read. -/
inductive NumeralFault : Fault → Prop
  | long {digits : Nat} : digitLimit < digits → NumeralFault (.numeralTooLong digits)

/-- A reading gives a plain rule, and stops for no other fault than a numeral. -/
def GivesPlain (x : Except (Stop RuleError) Rule) : Prop := Settles NumeralFault Rule.IsPlain x

/-- A reader gives plain rules at every place. -/
def RuleReader.ReadsPlain (reader : RuleReader) : Prop := ∀ path, GivesPlain (reader path)

/-- The content of an entry is a value of a document, and its readings give plain rules. -/
structure Part.Plain (p : Part) : Prop where
  value : p.value.isJson = true
  rule : RuleReader.ReadsPlain p.rule
  items : ∀ readers, p.items? = some readers → ∀ reader ∈ readers, RuleReader.ReadsPlain reader
  props : ∀ readers, p.props? = some readers → ∀ e ∈ readers, RuleReader.ReadsPlain e.2

/-- All entries of a rule mapping have names and plain contents. -/
def PlainParts (parts : Entries Part) : Prop :=
  ∀ e ∈ parts, (∃ n, e.1 = .text n) ∧ e.2.Plain

theorem notRule_plain (v : Value) : RuleReader.ReadsPlain (notRule v) := fun _ => .rejected

theorem finishRule_plain {tag : Tag} {path : String} {x : Checked Rule}
    (h : ∀ r, x = .good r → r.IsPlain) : GivesPlain (finishRule tag path x) := by
  cases x with
  | good r => exact .result (h r rfl)
  | bad ps => exact .rejected

section

variable {parts : Entries Part} {path : String}

theorem PlainParts.values (h : PlainParts parts) : (partValues parts).HoldsJson := by
  intro e he
  obtain ⟨p, hp, rfl⟩ := List.mem_map.mp he
  exact ⟨(h p hp).1, (h p hp).2.value⟩

theorem PlainParts.at? (h : PlainParts parts) {n : String} {p : Part}
    (hp : parts.at? n = some p) : p.Plain := by
  obtain ⟨e, he, rfl⟩ := Option.map_eq_some_iff.mp hp
  exact (h e (List.mem_of_find?_eq_some he)).2

theorem PlainParts.put (h : PlainParts parts) {n : String} {p : Part} (hp : p.Plain) :
    PlainParts (parts.put (.text n) p) := by
  induction parts with
  | nil => exact List.forall_mem_singleton.mpr ⟨⟨n, rfl⟩, hp⟩
  | cons e parts ih =>
    obtain ⟨⟨hk, hx⟩, hparts⟩ := List.forall_mem_cons.mp h
    rw [Entries.put]
    split
    · exact List.forall_mem_cons.mpr ⟨⟨hk, hp⟩, hparts⟩
    · exact List.forall_mem_cons.mpr ⟨⟨hk, hx⟩, ih hparts⟩

theorem PlainParts.filter (h : PlainParts parts) (p : Value × Part → Bool) :
    PlainParts (parts.filter p) :=
  fun e he => h e (List.mem_filter.mp he).1

theorem requirePart_plain (hparts : PlainParts parts) (field : String) (tag : Tag) :
    Settles NumeralFault Part.Plain (requirePart parts field tag path) := by
  unfold requirePart
  split
  · next part hpart =>
    split
    · exact .rejected
    · exact .result (hparts.at? hpart)
  · exact .rejected

theorem readRules_plain : ∀ {readers : List RuleReader} (i : Nat),
    (∀ reader ∈ readers, RuleReader.ReadsPlain reader) →
      Settles NumeralFault (fun rules => ∀ r ∈ rules, r.IsPlain) (readRules path i readers)
  | [], _, _ => .result fun _ hr => absurd hr List.not_mem_nil
  | reader :: _, i, h =>
    Settles.bind (h reader List.mem_cons_self _) fun _ hr =>
      Settles.bind (readRules_plain (i + 1) fun x hx => h x (List.mem_cons_of_mem _ hx))
        fun _ hrs => .result (List.forall_mem_cons.mpr ⟨hr, hrs⟩)

theorem readProps_plain : ∀ {readers : Entries RuleReader},
    (∀ e ∈ readers, RuleReader.ReadsPlain e.2) →
      Settles NumeralFault (fun props => ∀ e ∈ props, e.2.IsPlain) (readProps path readers)
  | [], _ => .result fun _ hr => absurd hr List.not_mem_nil
  | e :: _, h =>
    Settles.bind (h e List.mem_cons_self _) fun _ hr =>
      Settles.bind (readProps_plain fun x hx => h x (List.mem_cons_of_mem _ hx))
        fun _ hrs => .result (List.forall_mem_cons.mpr ⟨hr, hrs⟩)

theorem propNames_plain : ∀ {props : List (Value × Rule)} {named : List (String × Rule)},
    (∀ e ∈ props, e.2.IsPlain) → propNames props = .good named → ∀ e ∈ named, e.2.IsPlain
  | [], named, _, h => by cases h; exact fun _ hr => absurd hr List.not_mem_nil
  | (key, r) :: props, named, hprops, h => by
    obtain ⟨g, others, hg, hothers, rfl⟩ := seq_good h
    obtain ⟨s, _, rfl⟩ := map_good hg
    exact List.forall_mem_cons.mpr ⟨hprops _ List.mem_cons_self,
      propNames_plain (fun e he => hprops e (List.mem_cons_of_mem _ he)) hothers⟩

theorem propsEntry_plain (hparts : PlainParts parts) {part : Part}
    (hpart : (match parts.at? "props" with
      | some part => some part
      | none => parts.at? "properties") = some part) : part.Plain := by
  split at hpart
  · next hp => cases hpart; exact hparts.at? hp
  · exact hparts.at? hpart

theorem propsPart_plain (hparts : PlainParts parts) :
    Settles NumeralFault (fun readers => ∀ e ∈ readers, RuleReader.ReadsPlain e.2)
      (propsPart parts path) := by
  unfold propsPart
  dsimp only
  split
  · exact .rejected
  · next part hpart =>
    split
    · exact .rejected
    · split
      · next hprops => exact .result ((propsEntry_plain hparts hpart).props _ hprops)
      · exact .rejected

theorem recordSide_plain (hparts : PlainParts parts) {missing : Rule} (field : String)
    (hmissing : missing.IsPlain) : GivesPlain (recordSide parts field path missing) := by
  unfold recordSide
  split
  · exact .result hmissing
  · next part hpart =>
    split
    · exact .result hmissing
    · exact (hparts.at? hpart).rule path

/-- **The fields of a rule mapping** from a document give a plain rule. -/
theorem normalizeFields_plain (tag : Tag) (hparts : PlainParts parts) :
    GivesPlain (normalizeFields tag parts path) := by
  have hes := hparts.values
  cases htag : tag.isComposite with
  | false =>
    rw [normalizeFields_simple htag]
    exact finishRule_plain fun r hr => simpleRule_json hes htag hr
  | true =>
    cases tag with
    | array =>
      refine Settles.bind (requirePart_plain hparts "items" .array) fun part hpart => ?_
      refine Settles.bind (hpart.rule _) fun items hitems => finishRule_plain fun r hr => ?_
      obtain ⟨c, o, hc, ho, rfl, -⟩ := closed_seq hr
      refine .array ?_ hitems
      rw [Rule.holdsJson, common_json hes hc, (arrayOptions_json hes ho).1,
        (arrayOptions_json hes ho).2]
      rfl
    | object =>
      refine Settles.bind (propsPart_plain hparts) fun readers hreaders => ?_
      refine Settles.bind (readProps_plain hreaders) fun props hprops => ?_
      have hes' := (hes.erase (.text "properties")).put (n := "props") (v := .null) rfl
      refine finishRule_plain fun r hr => ?_
      obtain ⟨_, o, h₁, _, rfl⟩ := seq_good (closed_good hr)
      obtain ⟨_, named, h₂, hnamed, rfl⟩ := seq_good h₁
      obtain ⟨c, hc, rfl⟩ := map_good h₂
      exact .object (common_json hes' hc) (propNames_plain hprops hnamed)
    | multi =>
      refine Settles.bind (requirePart_plain hparts "rules" .multi) fun part hpart => ?_
      split
      · exact .rejected
      · exact .rejected
      · next hitems =>
        refine Settles.bind (readRules_plain 0 (hpart.items _ hitems)) fun branches hbranches =>
          finishRule_plain fun r hr => ?_
        obtain ⟨c, hc, rfl, -⟩ := closed_map hr
        exact .multi (common_json hes hc) hbranches
    | tuple =>
      refine Settles.bind (requirePart_plain hparts "items" .tuple) fun part hpart => ?_
      split
      · exact .rejected
      · next hitems =>
        refine Settles.bind (readRules_plain 0 (hpart.items _ hitems)) fun slots hslots =>
          finishRule_plain fun r hr => ?_
        obtain ⟨c, hc, rfl, -⟩ := closed_map hr
        exact .tuple (common_json hes hc) hslots
    | record =>
      refine Settles.bind (recordSide_plain hparts "key" (.of_simple rfl rfl)) fun key hkey => ?_
      refine Settles.bind (recordSide_plain hparts "value" (.of_simple rfl rfl))
        fun value hvalue => finishRule_plain fun r hr => ?_
      obtain ⟨c, hc, rfl, -⟩ := closed_map hr
      exact .record (common_json hes hc) hkey hvalue
    | _ => cases htag

theorem normalizeMapping_plain (hparts : PlainParts parts) :
    GivesPlain (normalizeMapping parts path) := by
  unfold normalizeMapping
  split
  · exact .rejected
  · next type _ =>
    refine Settles.bind (Q := fun _ => True) ?_ fun tag _ =>
      normalizeFields_plain tag (hparts.filter _)
    unfold readTag
    split
    · exact .result trivial
    · split
      · exact .result trivial
      · exact .rejected
    · exact .rejected

end

/-! ### Shorthand texts -/

namespace Shorthand

theorem readNumeral_json {s : List Char} {v? : Option Value} (h : readNumeral? s = .ok v?) :
    v?.all Value.isJson = true := by
  unfold readNumeral? at h
  dsimp only at h
  split at h
  · split at h <;> cases h
    rfl
  · cases h
    cases Numeral.ofUnsigned? Text.digitValue? _ _ <;> rfl

theorem readValue_json {s : String} {v : Value} (h : readValue s = .ok v) : v.isJson = true := by
  unfold readValue at h
  split at h
  · cases h; rfl
  · split at h
    · cases h; rfl
    · obtain ⟨v?, hv, h⟩ := except_bind_ok h
      cases h
      cases v? with
      | none => rfl
      | some v => simpa using readNumeral_json hv

theorem readNumeral_fault {s : List Char} {f : Fault} (h : readNumeral? s = .error f) :
    NumeralFault f := by
  unfold readNumeral? at h
  dsimp only at h
  split at h
  · split at h
    · next hlong => cases h; exact .long hlong
    · cases h
  · cases h

theorem readValue_fault {s : String} {f : Fault} (h : readValue s = .error f) :
    NumeralFault f := by
  unfold readValue at h
  split at h
  · cases h
  · split at h
    · cases h
    · cases hn : readNumeral? s.toList with
      | error g => rw [hn] at h; cases h; exact readNumeral_fault hn
      | ok v? => rw [hn] at h; cases h

theorem readModifier_json (path rule segment : String) :
    Settles NumeralFault (fun m => m.2.isJson = true) (readModifier path rule segment) := by
  unfold readModifier
  split
  · exact .rejected
  · generalize Text.cutAt ':' segment.toList = parts
    obtain ⟨before, after⟩ := parts
    dsimp only
    generalize trimmed before = name
    split
    · exact .rejected
    · cases after with
      | none => cases negated? name <;> exact .result rfl
      | some value =>
        dsimp only
        split
        · next hv => exact .result (readValue_json hv)
        · next hf => exact .fault (readValue_fault hf)

theorem readType_json {path rule type : String} {es : Entries Value}
    (h : readType path rule type = .ok es) : es.HoldsJson := by
  unfold readType at h
  split at h
  · cases h
  · split at h
    · cases h
      exact .cons rfl .nil
    · split at h
      · cases h
      · cases h
        exact .cons rfl (.cons rfl .nil)

theorem modifiers_json (path rule : String) : ∀ {segments : List String} {es : Entries Value},
    es.HoldsJson → Settles NumeralFault Entries.HoldsJson (segments.foldlM (fun es segment => do
      let (name, v) ← readModifier path rule segment
      return es.put (.text name) v) es)
  | [], _, hes => .result hes
  | segment :: segments, es, hes => by
    rw [List.foldlM_cons]
    refine Settles.bind (Q := Entries.HoldsJson) ?_ fun es' hes' => modifiers_json path rule hes'
    exact Settles.bind (readModifier_json path rule segment) fun m hm => .result (hes.put hm)

/-- **The fields of a shorthand text** are values of documents. -/
theorem parse_json (rule path : String) :
    Settles NumeralFault Entries.HoldsJson (parse rule path) := by
  unfold parse
  dsimp only
  split
  · exact .rejected
  · next htype => exact modifiers_json path rule (readType_json htype)

end Shorthand

theorem textPart_plain {ofText : String → RuleReader} {v : Value} (hv : v.isJson = true)
    (h : ∀ s, RuleReader.ReadsPlain (ofText s)) : (textPart ofText v).Plain := by
  refine ⟨hv, ?_, fun _ h => (nomatch h), fun _ h => nomatch h⟩
  unfold textPart
  split
  · exact h _
  · exact notRule_plain _

theorem textParts_plain {ofText : String → RuleReader} {es : Entries Value} (hes : es.HoldsJson)
    (h : ∀ s, RuleReader.ReadsPlain (ofText s)) :
    PlainParts (es.map fun e => (e.1, textPart ofText e.2)) := by
  intro p hp
  obtain ⟨e, he, rfl⟩ := List.mem_map.mp hp
  exact ⟨(hes e he).1, textPart_plain (hes e he).2 h⟩

theorem shorthandRule_plain : ∀ (n : Nat) (s : String), RuleReader.ReadsPlain (shorthandRule n s)
  | 0, _, _ => .rejected
  | n + 1, s, path => Settles.bind (Shorthand.parse_json s path) fun _ hes =>
    normalizeMapping_plain (textParts_plain hes fun s => shorthandRule_plain n s)

theorem normalizeText_plain (s : String) : RuleReader.ReadsPlain (normalizeText s) :=
  shorthandRule_plain _ s

/-! ### Documents -/

theorem normalizeUnion_plain {readers : List RuleReader}
    (h : ∀ reader ∈ readers, RuleReader.ReadsPlain reader) :
    RuleReader.ReadsPlain (normalizeUnion readers) := by
  intro path
  unfold normalizeUnion
  split
  · exact .rejected
  · exact Settles.bind (readRules_plain 0 h) fun _ hbranches =>
      .result (Rule.IsPlain.multi rfl hbranches)

theorem markedProps_plain {parts : Entries Part} (h : PlainParts parts) :
    (markedProps parts).Plain := by
  refine ⟨?_, notRule_plain _, fun _ h => (nomatch h), fun readers hreaders e he => ?_⟩
  · exact Value.isJson_mapping.mpr (h.values.filter _)
  · cases hreaders
    obtain ⟨p, hp, rfl⟩ := List.mem_map.mp he
    exact (h p (List.mem_filter.mp hp).1).2.rule

theorem normalizeEntries_plain {parts : Entries Part} (h : PlainParts parts) :
    RuleReader.ReadsPlain (normalizeEntries parts) := by
  intro path
  unfold normalizeEntries
  split
  · unfold normalizeMarked
    split
    · exact .rejected
    · refine Settles.bind (Shorthand.parse_json _ path) fun es hes => ?_
      dsimp only
      split
      · exact .rejected
      · exact normalizeMapping_plain
          ((textParts_plain hes normalizeText_plain).put (markedProps_plain h))
  · exact normalizeMapping_plain h

mutual

theorem normalize_ofValue : ∀ {v : Value}, v.isJson = true →
    RuleReader.ReadsPlain (normalize (RuleSource.ofValue v))
  | .null, _ => notRule_plain _
  | .bool _, _ => notRule_plain _
  | .number _, _ => notRule_plain _
  | .text s, _ => normalizeText_plain s
  | .list xs, h => by
    rw [RuleSource.ofValue, normalize]
    exact normalizeUnion_plain (itemReaders_plain h)
  | .mapping es, h => by
    rw [RuleSource.ofValue, normalize]
    exact normalizeEntries_plain (entryParts_plain h)

theorem itemReaders_plain : ∀ {xs : List Value}, Value.allJson xs = true →
    ∀ reader ∈ itemReaders (RuleSource.ofValues xs), RuleReader.ReadsPlain reader
  | [], _ => fun _ h => absurd h List.not_mem_nil
  | x :: xs, h => by
    rw [Value.allJson, Bool.and_eq_true] at h
    rw [RuleSource.ofValues, itemReaders]
    exact List.forall_mem_cons.mpr ⟨normalize_ofValue h.1, itemReaders_plain h.2⟩

theorem entryReaders_plain : ∀ {es : Entries Value}, Value.entriesJson es = true →
    ∀ e ∈ entryReaders (RuleSource.ofEntries es), RuleReader.ReadsPlain e.2
  | [], _ => fun _ h => absurd h List.not_mem_nil
  | (.text n, x) :: es, h => by
    rw [Value.entriesJson, Bool.and_eq_true] at h
    rw [RuleSource.ofEntries, entryReaders]
    exact List.forall_mem_cons.mpr ⟨normalize_ofValue h.1, entryReaders_plain h.2⟩

theorem listReading_plain : ∀ {v : Value}, v.isJson = true → ∀ readers,
    listReading (RuleSource.ofValue v) = some readers →
      ∀ reader ∈ readers, RuleReader.ReadsPlain reader
  | .list xs, h, readers, hr => by
    rw [RuleSource.ofValue, listReading] at hr
    cases hr
    exact itemReaders_plain h
  | .null, _, _, hr | .bool _, _, _, hr | .number _, _, _, hr | .text _, _, _, hr
  | .mapping _, _, _, hr => nomatch hr

theorem mappingReading_plain : ∀ {v : Value}, v.isJson = true → ∀ readers,
    mappingReading (RuleSource.ofValue v) = some readers →
      ∀ e ∈ readers, RuleReader.ReadsPlain e.2
  | .mapping es, h, readers, hr => by
    rw [RuleSource.ofValue, mappingReading] at hr
    cases hr
    exact entryReaders_plain h
  | .null, _, _, hr | .bool _, _, _, hr | .number _, _, _, hr | .text _, _, _, hr
  | .list _, _, _, hr => nomatch hr

theorem entryParts_plain : ∀ {es : Entries Value}, Value.entriesJson es = true →
    PlainParts (entryParts (RuleSource.ofEntries es))
  | [], _ => fun _ h => absurd h List.not_mem_nil
  | (.text n, x) :: es, h => by
    rw [Value.entriesJson, Bool.and_eq_true] at h
    rw [RuleSource.ofEntries, entryParts]
    refine List.forall_mem_cons.mpr ⟨⟨⟨n, rfl⟩, ?_, normalize_ofValue h.1,
      listReading_plain h.1, mappingReading_plain h.1⟩, entryParts_plain h.2⟩
    show (RuleSource.ofValue x).toValue.isJson = true
    rw [toValue_ofValue]
    exact h.1

end

/-- **What is read from a document is plain**, and only a numeral may stop the reading. -/
theorem normalize_plain {v : Value} (hv : v.isJson = true) (path : String) :
    Settles NumeralFault Rule.IsPlain (normalize (RuleSource.ofValue v) path) :=
  normalize_ofValue hv path

end RuleSchema
