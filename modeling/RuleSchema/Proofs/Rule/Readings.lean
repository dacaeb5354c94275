import RuleSchema.Proofs.Order.Normalize
import RuleSchema.Proofs.Rule.Grammar

/-!
# Readings that give the same rules

A rule mapping is read from its parts, each of which holds a value, a rule, a list of rules or named
rules, as the type of the mapping says.  Where a part holds rules, only what is read from it counts;
elsewhere only its value does.  And what is read does not depend on the place, which is there for
the messages of rejections.

* `Tag.holding` says what the fields of a type hold.
* `RuleReader.Yields`: what one reader reads somewhere another reads everywhere.  `Part.Yields` says
  so of parts by what they hold, and `PartsYield` of all parts of two mappings with the same keys.
* `SameFields` says that the values outside of rules are the same; then the options are.
* `normalizeFields_yields`, `normalizeMapping_yields`, `normalizeMarked_yields`: **mappings whose
  parts correspond give the same rule**.
-/

namespace RuleSchema

open Checked

/-- What the content of a field is read as. -/
inductive Holding where
  | value
  | rule
  | rules
  | props
deriving DecidableEq

/-- What the fields of a rule hold. -/
def Tag.holding : Tag → String → Holding
  | .array, "items" => .rule
  | .object, "props" => .props
  | .object, "properties" => .props
  | .multi, "rules" => .rules
  | .tuple, "items" => .rules
  | .record, "key" => .rule
  | .record, "value" => .rule
  | _, _ => .value

/-- What the content under a key holds. -/
def Tag.holdingAt (tag : Tag) (key : Value) : Holding :=
  match key.text? with
  | some n => tag.holding n
  | none => .value

/-- What the content under a key holds beside a marker: a rule, unless the key is a pragma. -/
def markedHolding (key : Value) : Holding := if isPragma key then .value else .rule

/-- What the parts of a mapping hold: properties if a marker stands among them, and otherwise the
fields of their type. -/
inductive PartsHold (ps : Entries Part) : (Value → Holding) → Prop
  | marked : (ps.at? "$$type").isSome → PartsHold ps markedHolding
  | typed {tag : Tag} {p : Part} : ps.at? "$$type" = none → ps.at? "type" = some p →
      p.value.text? = some tag.name → PartsHold ps tag.holdingAt

/-- What the first reads somewhere the second reads everywhere. -/
def RuleReader.Yields (f g : RuleReader) : Prop :=
  ∀ {path r}, f path = .ok r → ∀ path', g path' = .ok r

/-- What the first content gives, by what it holds, the second gives everywhere. -/
structure Part.Yields (h : Holding) (p q : Part) : Prop where
  isNull : p.value.isNull = q.value.isNull
  value : h = .value → p.value = q.value
  rule : h = .rule → p.rule.Yields q.rule
  items : h = .rules → ∀ fs, p.items? = some fs →
    ∃ gs, q.items? = some gs ∧ List.Forall₂ RuleReader.Yields fs gs
  props : h = .props → ∀ fs, p.props? = some fs →
    ∃ gs, q.props? = some gs ∧ List.Forall₂ (SameKey RuleReader.Yields) fs gs

/-- The parts of two mappings with the same keys give the same, by what their keys hold. -/
def PartsYield (holding : Value → Holding) (ps qs : Entries Part) : Prop :=
  List.Forall₂ (KeyedBy fun key => Part.Yields (holding key)) ps qs

/-- The same keys, and the same values under all names that hold values. -/
structure SameFields (tag : Tag) (es fs : Entries Value) : Prop where
  keys : fs.keys = es.keys
  contents : ∀ n, tag.holding n = .value → es.at? n = fs.at? n

/-- Whether a field holds a value by all of its names. -/
def FieldName.isPlain (f : FieldName) (tag : Tag) : Bool :=
  decide (tag.holding f.name = .value) && f.second?.all fun n => decide (tag.holding n = .value)

section

variable {tag : Tag} {ps qs : Entries Part} {es fs : Entries Value} {path : String} {r : Rule}
  {n : String} {f : FieldName}

/-! ### The values of fields -/

/-- The problem with a key that is none of those that are asked for. -/
def unknownKey? (used : List String) (key : Value) : Option FieldProblem :=
  match key.text? with
  | none =>
    some { place := [keyPlace key], message := "Keys should be strings", code := "invalid_key" }
  | some s =>
    if used.contains s then none
    else
      some { place := [s], message := "Extra inputs are not permitted", code := "extra_forbidden" }

/-- Only keys are unknown. -/
theorem unknownFields_eq (names : List FieldName) (es : Entries Value) : unknownFields names es
    = es.keys.filterMap (unknownKey? (names.filterMap fun f => f.usedName es)) := by
  rw [Entries.keys, List.filterMap_map]
  rfl

theorem Tag.holdingAt_of_equals {key : Value} (h : (Value.text n).equals key = true) :
    tag.holdingAt key = tag.holding n := by
  rw [holdingAt, (Value.equals_iff_text rfl).mp h]

theorem PartsYield.at? {holding : Value → Holding} {held : Holding} (h : PartsYield holding ps qs)
    (hn : ∀ key, (Value.text n).equals key = true → holding key = held) :
    Option.Rel (Part.Yields held) (ps.at? n) (qs.at? n) := by
  induction h with
  | nil => exact .none
  | cons he _ ih =>
    rw [Entries.at?, Entries.at?, Entries.find?_cons, Entries.find?_cons, he.1]
    split
    · next hkey => exact .some (hn _ hkey ▸ he.2)
    · exact ih

theorem PartsYield.field (h : PartsYield tag.holdingAt ps qs) (n : String) :
    Option.Rel (Part.Yields (tag.holding n)) (ps.at? n) (qs.at? n) :=
  h.at? fun _ => Tag.holdingAt_of_equals

theorem PartsYield.keys {holding : Value → Holding} (h : PartsYield holding ps qs) :
    Entries.keys qs = Entries.keys ps := by
  induction h with
  | nil => rfl
  | cons he _ ih =>
    rw [Entries.keys, Entries.keys, List.map_cons, List.map_cons, he.1]
    exact congrArg _ ih

theorem PartsYield.fields (h : PartsYield tag.holdingAt ps qs) :
    SameFields tag (partValues ps) (partValues qs) where
  keys := by
    rw [Entries.keys, Entries.keys, partValues, partValues, List.map_map, List.map_map]
    exact h.keys
  contents n hn := by
    have hparts := h.field n
    rw [partValues, partValues, at?_contents, at?_contents]
    generalize ps.at? n = x at hparts ⊢
    generalize qs.at? n = y at hparts ⊢
    cases hparts with
    | none => rfl
    | some hpq => exact congrArg some (hpq.value hn)

/-- Rules without rules inside hold nothing but values. -/
theorem Tag.holdingAt_simple (htag : tag.isComposite = false) (key : Value) :
    tag.holdingAt key = .value := by
  rw [holdingAt]
  cases key.text? with
  | none => rfl
  | some n => cases tag <;> first | rfl | cases htag

theorem PartsYield.values (h : PartsYield tag.holdingAt ps qs) (htag : tag.isComposite = false) :
    partValues ps = partValues qs := by
  induction h with
  | nil => rfl
  | cons he _ ih =>
    rw [partValues, partValues, List.map_cons, List.map_cons, he.1,
      he.2.value (Tag.holdingAt_simple htag _)]
    exact congrArg _ ih

namespace SameFields

theorem hasKey (h : SameFields tag es fs) (k : Value) : es.hasKey k = fs.hasKey k := by
  have hkeys : ∀ es : Entries Value, es.hasKey k = es.keys.any fun l => k.equals l := by
    intro es
    rw [Entries.hasKey, Entries.keys, List.any_map]
    rfl
  rw [hkeys, hkeys, h.keys]

theorem usedName (h : SameFields tag es fs) (f : FieldName) : f.usedName es = f.usedName fs := by
  rw [FieldName.usedName, FieldName.usedName, h.hasKey]
  simp only [h.hasKey]

/-- A field that holds a value is read as before. -/
theorem read {α : Type} (h : SameFields tag es fs) (hf : f.isPlain tag = true)
    (reader : FieldReader α) (default : α) :
    f.read es reader default = f.read fs reader default := by
  rw [FieldName.isPlain, Bool.and_eq_true, decide_eq_true_iff] at hf
  obtain ⟨hname, hsecond⟩ := hf
  rw [FieldName.read, FieldName.read, h.usedName]
  cases hused : f.usedName fs with
  | none => rfl
  | some used =>
    have hplain : tag.holding used = .value := by
      rcases usedName_eq hused with rfl | hused
      · exact hname
      · rw [hused] at hsecond
        exact of_decide_eq_true hsecond
    dsimp only
    rw [h.contents used hplain]

theorem unknown (h : SameFields tag es fs) (names : List FieldName) :
    unknownFields names es = unknownFields names fs := by
  rw [unknownFields_eq, unknownFields_eq, h.keys]
  simp only [h.usedName]

theorem closed {α : Type} (h : SameFields tag es fs) (x : Checked α) (names : List FieldName) :
    RuleSchema.closed x names es = RuleSchema.closed x names fs := by
  unfold RuleSchema.closed
  rw [h.unknown]

theorem readAll (h : SameFields tag es fs) :
    CommonOptions.readAll es = CommonOptions.readAll fs := by
  have hname : ∀ n ∈ ["optional", "nullable", "convert", "default", "description"],
      FieldName.isPlain ⟨n, none⟩ tag = true := by
    cases tag <;> decide
  simp (disch := exact hname _ (by simp)) only [CommonOptions.readAll, CommonOptions.read, flag,
    optionalField, h.read]

theorem arrayOptions (h : SameFields .array es fs) :
    ArrayOptions.read es = ArrayOptions.read fs := by
  simp (disch := decide) only [ArrayOptions.read, flag, optionalField, h.read]

theorem objectOptions (h : SameFields .object es fs) :
    ObjectOptions.read es = ObjectOptions.read fs := by
  simp (disch := decide) only [ObjectOptions.read, optionalField, h.read]

/-- The fields of an object without those that hold its properties. -/
theorem withoutProps (h : SameFields .object es fs) :
    SameFields .object ((es.erase (.text "properties")).put (.text "props") .null)
      ((fs.erase (.text "properties")).put (.text "props") .null) where
  keys := by
    have hkeys : List.Forall₂ (SameKey fun _ _ => True) es fs :=
      sameKey_of_zip h.keys fun _ => trivial
    have herased : List.Forall₂ (SameKey fun _ _ => True) (es.erase (.text "properties"))
        (fs.erase (.text "properties")) :=
      List.rel_filter (fun e f hef => by dsimp only; rw [hef.1]) hkeys
    exact keys_of_sameKey (Entries.put_sameKey herased (.text "props") trivial)
  contents n hn := by
    have hprops : "props" ≠ n := by
      rintro rfl
      cases hn
    have hproperties : n ≠ "properties" := by
      rintro rfl
      cases hn
    rw [Schema.at?_put_of_ne hprops, Schema.at?_put_of_ne hprops, Entries.at?, Entries.at?,
      find?_erase rfl rfl hproperties, find?_erase rfl rfl hproperties]
    exact h.contents n hn

end SameFields

/-! ### The parts of a mapping -/

theorem finishRule_good {x : Checked Rule} : finishRule tag path x = .ok r ↔ x = .good r := by
  constructor
  · exact finishRule_ok
  · rintro rfl
    rfl

theorem requirePart_yields (h : PartsYield tag.holdingAt ps qs) {field : String} {t : Tag}
    {p : Part} (hp : requirePart ps field t path = .ok p) :
    ∃ q, (∀ path', requirePart qs field t path' = .ok q) ∧ p.Yields (tag.holding field) q := by
  have hfield := h.field field
  unfold requirePart at hp ⊢
  generalize ps.at? field = x at hp hfield
  generalize qs.at? field = y at hfield ⊢
  cases hfield with
  | none => cases hp
  | @some p' q hpq =>
    dsimp only at hp ⊢
    split at hp
    · cases hp
    · next hnull =>
      cases hp
      refine ⟨q, fun path' => ?_, hpq⟩
      rw [if_neg (hpq.isNull ▸ hnull)]

theorem recordSide_yields (h : PartsYield tag.holdingAt ps qs) {field : String}
    (hfield : tag.holding field = .rule) {missing : Rule}
    (hr : recordSide ps field path missing = .ok r) (path' : String) :
    recordSide qs field path' missing = .ok r := by
  have hparts := h.field field
  unfold recordSide at hr ⊢
  generalize ps.at? field = x at hr hparts
  generalize qs.at? field = y at hparts ⊢
  cases hparts with
  | none => exact hr
  | some hpq =>
    dsimp only at hr ⊢
    rw [← hpq.isNull]
    split at hr
    · next hnull =>
      rw [if_pos hnull]
      exact hr
    · next hnull =>
      rw [if_neg hnull]
      exact hpq.rule hfield hr path'

theorem Part.readProps_yields {p q : Part} (h : p.Yields .props q) {readers : Entries RuleReader}
    (hp : p.readProps path = .ok readers) :
    ∃ readers', (∀ path', q.readProps path' = .ok readers') ∧
      List.Forall₂ (SameKey RuleReader.Yields) readers readers' := by
  unfold Part.readProps at hp ⊢
  split at hp
  · cases hp
  · next hnull =>
    split at hp
    · next props hprops =>
      cases hp
      obtain ⟨readers', hreaders, hyields⟩ := h.props rfl readers hprops
      refine ⟨readers', fun path' => ?_, hyields⟩
      rw [if_neg (h.isNull ▸ hnull), hreaders]
    · cases hp

theorem propsPart_yields (h : PartsYield (Tag.holdingAt .object) ps qs)
    {readers : Entries RuleReader} (hp : propsPart ps path = .ok readers) :
    ∃ readers', (∀ path', propsPart qs path' = .ok readers') ∧
      List.Forall₂ (SameKey RuleReader.Yields) readers readers' := by
  have hprops := h.field "props"
  have hproperties := h.field "properties"
  unfold propsPart at hp ⊢
  generalize ps.at? "props" = x at hp hprops
  generalize qs.at? "props" = y at hprops ⊢
  generalize ps.at? "properties" = x' at hp hproperties
  generalize qs.at? "properties" = y' at hproperties ⊢
  cases hprops with
  | some hpq => exact Part.readProps_yields hpq hp
  | none =>
    cases hproperties with
    | some hpq => exact Part.readProps_yields hpq hp
    | none => cases hp

theorem readRules_yields {gs hs : List RuleReader} {rules : List Rule}
    (h : List.Forall₂ RuleReader.Yields gs hs) (path' : String) :
    ∀ {i : Nat}, readRules path i gs = .ok rules → readRules path' i hs = .ok rules := by
  induction h generalizing rules with
  | nil => exact fun hrules => hrules
  | cons hg _ ih =>
    intro i hrules
    obtain ⟨q, hq, hrules⟩ := except_bind_ok hrules
    obtain ⟨rest, hrest, hrules⟩ := except_bind_ok hrules
    cases hrules
    rw [readRules, hg hq, ih hrest]
    rfl

theorem readProps_yields {gs hs : Entries RuleReader} {rules : List (Value × Rule)}
    (h : List.Forall₂ (SameKey RuleReader.Yields) gs hs) (path' : String) :
    readProps path gs = .ok rules → readProps path' hs = .ok rules := by
  induction h generalizing rules with
  | nil => exact fun hrules => hrules
  | @cons e f _ _ hef _ ih =>
    intro hrules
    obtain ⟨q, hq, hrules⟩ := except_bind_ok hrules
    obtain ⟨rest, hrest, hrules⟩ := except_bind_ok hrules
    cases hrules
    obtain ⟨hkey, hyields⟩ := hef
    rw [readProps, hkey, hyields hq, ih hrest]
    rfl

/-- **The fields of two mappings of a type** whose parts correspond give the same rule. -/
theorem normalizeFields_yields (h : PartsYield tag.holdingAt ps qs) :
    RuleReader.Yields (normalizeFields tag ps) (normalizeFields tag qs) := by
  intro path r hr path'
  have hfields := h.fields
  cases htag : tag.isComposite with
  | false =>
    rw [normalizeFields_simple htag] at hr ⊢
    rw [finishRule_good] at hr ⊢
    rwa [← h.values htag]
  | true =>
    cases tag with
    | array =>
      obtain ⟨p, hp, hr⟩ := except_bind_ok hr
      obtain ⟨items, hitems, hr⟩ := except_bind_ok hr
      obtain ⟨q, hq, hpq⟩ := requirePart_yields h hp
      refine except_bind_of_ok (hq path') (except_bind_of_ok (hpq.rule rfl hitems _) ?_)
      rw [finishRule_good] at hr ⊢
      rwa [← hfields.readAll, ← hfields.arrayOptions, ← hfields.closed]
    | object =>
      obtain ⟨readers, hreaders, hr⟩ := except_bind_ok hr
      obtain ⟨props, hprops, hr⟩ := except_bind_ok hr
      obtain ⟨readers', hreaders', hyields⟩ := propsPart_yields h hreaders
      have hrest := hfields.withoutProps
      refine except_bind_of_ok (hreaders' path')
        (except_bind_of_ok (readProps_yields hyields path' hprops) ?_)
      rw [finishRule_good] at hr ⊢
      rwa [← hrest.readAll, ← hrest.objectOptions, ← hrest.closed]
    | multi =>
      obtain ⟨p, hp, hr⟩ := except_bind_ok hr
      obtain ⟨q, hq, hpq⟩ := requirePart_yields h hp
      refine except_bind_of_ok (hq path') ?_
      split at hr
      · cases hr
      · cases hr
      · next readers hne hitems =>
        obtain ⟨branches, hbranches, hfinish⟩ := except_bind_ok hr
        obtain ⟨readers', hitems', hyields⟩ := hpq.items rfl readers hitems
        rw [hitems']
        cases hyields with
        | nil => exact absurd rfl hne
        | cons hg hgs =>
          refine except_bind_of_ok (readRules_yields (.cons hg hgs) path' hbranches) ?_
          rw [finishRule_good] at hfinish ⊢
          rwa [← hfields.readAll, ← hfields.closed]
    | tuple =>
      obtain ⟨p, hp, hr⟩ := except_bind_ok hr
      obtain ⟨q, hq, hpq⟩ := requirePart_yields h hp
      refine except_bind_of_ok (hq path') ?_
      split at hr
      · cases hr
      · next readers hitems =>
        obtain ⟨slots, hslots, hr⟩ := except_bind_ok hr
        obtain ⟨readers', hitems', hyields⟩ := hpq.items rfl readers hitems
        rw [hitems']
        refine except_bind_of_ok (readRules_yields hyields path' hslots) ?_
        rw [finishRule_good] at hr ⊢
        rwa [← hfields.readAll, ← hfields.closed]
    | record =>
      obtain ⟨key, hkey, hr⟩ := except_bind_ok hr
      obtain ⟨value, hvalue, hr⟩ := except_bind_ok hr
      refine except_bind_of_ok (recordSide_yields h rfl hkey _)
        (except_bind_of_ok (recordSide_yields h rfl hvalue _) ?_)
      rw [finishRule_good] at hr ⊢
      rwa [← hfields.readAll, ← hfields.closed]
    | _ => cases htag

/-! ### Mappings -/

/-- A text that is the name of a type names it. -/
theorem readTag_text {v : Value} (h : v.text? = some tag.name) : readTag v path = .ok tag := by
  cases v with
  | text s =>
    obtain rfl : s = tag.name := Option.some.inj h
    rw [readTag, Tag.ofName?_name]
  | tag t =>
    have hname : t.name = tag.name := Option.some.inj h
    have hsame : some t = some tag := by
      rw [← Tag.ofName?_name t, ← Tag.ofName?_name tag, hname]
    rw [Option.some.inj hsame]
    rfl
  | _ => cases h

/-- A mapping that is read has a type. -/
theorem type_of_normalizeMapping (h : normalizeMapping ps path = .ok r) :
    ∃ (tag : Tag) (p : Part), ps.at? "type" = some p ∧ p.value.text? = some tag.name := by
  unfold normalizeMapping at h
  split at h
  · cases h
  · next p hp =>
    obtain ⟨tag, htag, -⟩ := except_bind_ok h
    exact ⟨tag, p, hp, readTag_ok htag⟩

theorem Tag.holding_type (tag : Tag) : tag.holding "type" = .value := by
  cases tag <;> rfl

/-- **Two mappings** whose parts correspond give the same rule. -/
theorem normalizeMapping_yields {p : Part} (hp : ps.at? "type" = some p)
    (hname : p.value.text? = some tag.name) (h : PartsYield tag.holdingAt ps qs) :
    RuleReader.Yields (normalizeMapping ps) (normalizeMapping qs) := by
  intro path r hr path'
  have hparts := h.field "type"
  have herased : PartsYield tag.holdingAt (ps.erase (.text "type")) (qs.erase (.text "type")) :=
    List.rel_filter (fun e f hef => by dsimp only; rw [hef.1]) h
  unfold normalizeMapping at hr ⊢
  rw [hp] at hr hparts
  generalize qs.at? "type" = y at hparts ⊢
  cases hparts with
  | @some _ q hpq =>
    dsimp only at hr ⊢
    obtain ⟨t, ht, hr⟩ := except_bind_ok hr
    rw [readTag_text hname] at ht
    cases ht
    have hsame : p.value = q.value := hpq.value tag.holding_type
    exact except_bind_of_ok (readTag_text (hsame ▸ hname))
      (normalizeFields_yields herased hr path')

/-! ### Markers and unions -/

theorem markedProps_yields (h : PartsYield markedHolding ps qs) :
    (markedProps ps).Yields .props (markedProps qs) where
  isNull := rfl
  value := nofun
  rule := nofun
  items := nofun
  props _ := by
    rintro _ ⟨⟩
    refine ⟨_, rfl, ?_⟩
    induction h with
    | nil => exact .nil
    | @cons e f _ _ hef _ ih =>
      obtain ⟨hkey, hyields⟩ := hef
      rw [List.filter_cons, List.filter_cons, hkey]
      cases hpragma : isPragma e.1 with
      | true => exact ih
      | false => exact .cons ⟨hkey, hyields.rule (by rw [markedHolding, hpragma]; rfl)⟩ ih

theorem textPart_yields {ofText : String → RuleReader} (h : ∀ s, (ofText s).Yields (ofText s))
    (v : Value) (holding : Holding) : (textPart ofText v).Yields holding (textPart ofText v) where
  isNull := rfl
  value _ := rfl
  rule _ := by
    intro path r hr path'
    cases v with
    | text s => exact h s hr path'
    | _ => cases hr
  items _ _ h := by cases h
  props _ _ h := by cases h

theorem textParts_yield {ofText : String → RuleReader} (h : ∀ s, (ofText s).Yields (ofText s))
    (tag : Tag) (es : Entries Value) :
    PartsYield tag.holdingAt (textParts ofText es) (textParts ofText es) := by
  refine List.forall₂_same.mpr (List.forall_mem_map.mpr fun e _ => ?_)
  exact ⟨rfl, textPart_yields h e.2 _⟩

/-- **Shorthands give the same rule everywhere.** -/
theorem shorthandRule_yields : ∀ (n : Nat) (s : String),
    (shorthandRule n s).Yields (shorthandRule n s) := by
  intro n
  induction n with
  | zero =>
    intro s path r hr
    cases hr
  | succ n ih =>
    intro s path r hr path'
    obtain ⟨es, hes, hr⟩ := except_bind_ok hr
    obtain ⟨tag, p, hp, hname⟩ := type_of_normalizeMapping hr
    exact except_bind_of_ok (Shorthand.parse_anywhere hes)
      (normalizeMapping_yields hp hname (textParts_yield ih tag es) hr path')

theorem normalizeText_yields (s : String) : (normalizeText s).Yields (normalizeText s) :=
  shorthandRule_yields _ s

theorem PartsYield.put (h : PartsYield tag.holdingAt ps qs) {p q : Part}
    (hpq : p.Yields (tag.holding n) q) :
    PartsYield tag.holdingAt (ps.put (.text n) p) (qs.put (.text n) q) := by
  induction h with
  | nil => exact .cons ⟨rfl, hpq⟩ .nil
  | cons he hes ih =>
    rw [Entries.put, Entries.put, he.1]
    split
    · next hkey =>
      refine .cons ⟨rfl, ?_⟩ hes
      dsimp only
      rwa [Tag.holdingAt_of_equals hkey]
    · exact .cons ⟨rfl, he.2⟩ ih

theorem isPragma_marker {key : Value} (h : (Value.text "$$type").equals key = true) :
    isPragma key = true := by
  cases key with
  | text s =>
    obtain rfl : "$$type" = s := by simpa [text_equals] using h
    rfl
  | tag t => cases t <;> cases h
  | _ => cases h

/-- The fields of a marker with corresponding properties give the same object. -/
theorem normalizeMapping_object {es : Entries Value}
    (htype : ¬ (!((es.at? "type").getD .null).equals (.text Tag.object.name)) = true)
    (h : PartsYield markedHolding ps qs) :
    RuleReader.Yields
      (normalizeMapping ((textParts normalizeText es).put (.text "props") (markedProps ps)))
      (normalizeMapping ((textParts normalizeText es).put (.text "props") (markedProps qs))) := by
  have hown : PartsYield (Tag.holdingAt .object)
      ((textParts normalizeText es).put (.text "props") (markedProps ps))
      ((textParts normalizeText es).put (.text "props") (markedProps qs)) :=
    (textParts_yield normalizeText_yields .object es).put (markedProps_yields h)
  intro path r hr path'
  cases hv : es.at? "type" with
  | none =>
    rw [hv] at htype
    exact absurd rfl htype
  | some v =>
    rw [hv, Option.getD_some, Schema.equals_text, Bool.not_eq_true, Bool.not_eq_false'] at htype
    refine normalizeMapping_yields (p := textPart normalizeText v) ?_ ?_ hown hr path'
    · rw [Schema.at?_put_of_ne (by decide), textParts, at?_contents, hv]
      rfl
    · exact (Value.equals_iff_text rfl).mp htype

/-- **Two mappings with a marker** whose properties correspond give the same rule. -/
theorem normalizeMarked_yields (h : PartsYield markedHolding ps qs) (marker : Value) :
    RuleReader.Yields (normalizeMarked marker ps) (normalizeMarked marker qs) := by
  intro path r hr path'
  unfold normalizeMarked at hr ⊢
  split at hr
  · cases hr
  · next s hs =>
    obtain ⟨es, hes, hr⟩ := except_bind_ok hr
    refine except_bind_of_ok (Shorthand.parse_anywhere hes) ?_
    dsimp only at hr ⊢
    split at hr
    · cases hr
    · next htype =>
      rw [if_neg htype]
      exact normalizeMapping_object htype h hr path'

/-- A mapping that is read holds something. -/
theorem partsHold_of_normalizeEntries (h : normalizeEntries ps path = .ok r) :
    ∃ holding, PartsHold ps holding := by
  unfold normalizeEntries at h
  split at h
  · next p hp => exact ⟨_, .marked (by rw [hp]; rfl)⟩
  · next hnone =>
    obtain ⟨tag, p, hp, hname⟩ := type_of_normalizeMapping h
    exact ⟨_, .typed hnone hp hname⟩

/-- **Two mappings** whose parts correspond, by what they hold, give the same rule. -/
theorem normalizeEntries_yields {holding : Value → Holding} (hps : PartsHold ps holding)
    (h : PartsYield holding ps qs) :
    RuleReader.Yields (normalizeEntries ps) (normalizeEntries qs) := by
  intro path r hr path'
  unfold normalizeEntries at hr ⊢
  cases hps with
  | marked hmarker =>
    have hparts : Option.Rel (Part.Yields .value) (ps.at? "$$type") (qs.at? "$$type") :=
      h.at? fun _ hkey => by rw [markedHolding, isPragma_marker hkey, if_pos rfl]
    generalize ps.at? "$$type" = x at hr hmarker hparts
    generalize qs.at? "$$type" = y at hparts ⊢
    cases hparts with
    | none => cases hmarker
    | some hpq =>
      dsimp only at hr ⊢
      rw [← hpq.value rfl]
      exact normalizeMarked_yields h _ hr path'
  | typed hnone hp hname =>
    have hparts := h.field "$$type"
    rw [hnone] at hr hparts
    generalize qs.at? "$$type" = y at hparts ⊢
    cases hparts
    exact normalizeMapping_yields hp hname h hr path'

theorem normalizeUnion_yields {gs hs : List RuleReader} (h : List.Forall₂ RuleReader.Yields gs hs) :
    RuleReader.Yields (normalizeUnion gs) (normalizeUnion hs) := by
  intro path r hr path'
  cases h with
  | nil => cases hr
  | cons hg hgs =>
    obtain ⟨branches, hbranches, hr⟩ := except_bind_ok hr
    exact except_bind_of_ok (readRules_yields (.cons hg hgs) path' hbranches) hr

end

end RuleSchema
