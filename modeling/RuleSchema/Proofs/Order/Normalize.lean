import RuleSchema.Proofs.Order.Rules
import RuleSchema.Proofs.Value.Json
import RuleSchema.Rule.Normalize

/-!
# Normalising with the keys in another order

The entries of a rule mapping carry the readings of their contents.  Two such lists of entries
correspond if their readings do, whatever the order of the keys, and what is read from them
corresponds as well: the fields are looked up by name, and the properties of an object are the only
entries that are read one after the other.

* `RuleReader.Agree` and `Part.Agree` say so of readings, and of contents with all their readings.
* `readProps_agree`: the properties of an object in another order.
* `normalizeEntries_agree`: what is read from two rule mappings.
* `normalize_agree`: **what is read from two values** that are the same but for the order of keys.
-/

namespace RuleSchema

open Checked

/-! ### Readings -/

/-- The rules that are read at a place correspond. -/
def RuleReader.Agree (f g : RuleReader) : Prop :=
  ∀ path, ResultsAgree Rule.Reordered (f path) (g path)

/-- Two contents that are the same but for the order of keys, in whatever way they are read. -/
structure Part.Agree (p q : Part) : Prop where
  value : p.value.Reordered q.value
  rule : p.rule.Agree q.rule
  items : Option.Rel (List.Forall₂ RuleReader.Agree) p.items? q.items?
  props : Option.Rel (Entries.Reordered RuleReader.Agree) p.props? q.props?

theorem RuleReader.Agree.refl (f : RuleReader) : f.Agree f := by
  intro path r q hr hq
  obtain rfl : r = q := Except.ok.inj (hr.symm.trans hq)
  exact .refl r

theorem Part.Agree.refl (p : Part) : p.Agree p where
  value := .same _
  rule := .refl _
  items := optionRel_refl (fun _ => List.forall₂_same.mpr fun f _ => .refl f) _
  props := optionRel_refl
    (fun _ => .of_forall₂ (List.forall₂_same.mpr fun e _ => ⟨rfl, .refl e.2⟩)) _

theorem finishRule_agree {x y : Checked Rule} (tag : Tag) (path : String)
    (h : Agree Rule.Reordered x y) :
    ResultsAgree Rule.Reordered (finishRule tag path x) (finishRule tag path y) := by
  cases x with
  | bad ps => exact .error_left
  | good r =>
    cases y with
    | bad ps => exact .error_right
    | good q => exact .ok (h r q rfl rfl)

theorem readRules_agree {fs gs : List RuleReader} {path : String}
    (h : List.Forall₂ RuleReader.Agree fs gs) (i : Nat) :
    ResultsAgree (List.Forall₂ Rule.Reordered) (readRules path i fs) (readRules path i gs) := by
  induction h generalizing i with
  | nil => exact .ok .nil
  | cons hfg _ ih => exact (hfg _).bind fun hr => (ih (i + 1)).bind fun hrs => .ok (.cons hr hrs)

/-- What a property is read from: an entry with this text as its key. -/
def ReadFrom (path : String) (e : Value × RuleReader) (p : String × Rule) : Prop :=
  readText e.1 = .ok p.1 ∧ e.2 (path ++ "." ++ e.1.plainText) = .ok p.2

/-- Properties are read entry by entry. -/
theorem readProps_from {path : String} : ∀ {es : Entries RuleReader} {rules : List (Value × Rule)}
    {props : List (String × Rule)}, readProps path es = .ok rules → propNames rules = .good props →
      List.Forall₂ (ReadFrom path) es props
  | [], _, _, hrules, hprops => by
    cases hrules
    cases hprops
    exact .nil
  | (key, reader) :: es, _, _, hrules, hprops => by
    obtain ⟨r, hr, hrules⟩ := except_bind_ok hrules
    obtain ⟨rest, hrest, hrules⟩ := except_bind_ok hrules
    cases hrules
    obtain ⟨_, others, hhead, hothers, rfl⟩ := seq_good hprops
    obtain ⟨name, hname, rfl⟩ := map_good hhead
    refine .cons ⟨?_, hr⟩ (readProps_from hrest hothers)
    dsimp only at hname ⊢
    split at hname
    · next hkey => cases hname; exact hkey
    · cases hname

/-- The names of properties that are read from different texts are different. -/
theorem ReadFrom.distinct {path : String} {es : Entries RuleReader} {props : List (String × Rule)}
    (h : es.IsKeyed) (hprops : List.Forall₂ (ReadFrom path) es props) : DistinctNames props := by
  have hkeys : es.keys = (props.map Prod.fst).map Value.text := by
    replace h := h.texts
    induction hprops with
    | nil => rfl
    | @cons e p _ _ hp _ ih =>
      obtain ⟨⟨n, hn⟩, hes⟩ := List.forall_mem_cons.mp h
      obtain ⟨key, reader⟩ := e
      obtain rfl : key = .text n := hn
      obtain rfl : n = p.1 := Except.ok.inj hp.1
      exact congrArg (Value.text p.1 :: ·) (ih hes)
  have hnodup := h.nodup
  rw [hkeys] at hnodup
  exact hnodup.of_map

/-- **Properties in another order** are read in that order. -/
theorem readProps_agree {path : String} {es fs : Entries RuleReader}
    (h : Entries.Reordered RuleReader.Agree es fs) {rules rules' : List (Value × Rule)}
    (hrules : readProps path es = .ok rules) (hrules' : readProps path fs = .ok rules') :
    Agree (Reordering DistinctNames (SameKey Rule.Reordered)) (propNames rules)
      (propNames rules') := by
  intro props props' hprops hprops'
  refine h.transport (readProps_from hrules hprops) (readProps_from hrules' hprops') ?_
    fun hkeyed hprops => ReadFrom.distinct hkeyed hprops
  rintro e f p q ⟨hkey, hreader⟩ ⟨hname, hp⟩ ⟨hname', hq⟩
  rw [hkey] at hname' hq
  exact ⟨Except.ok.inj (hname'.symm.trans hname), hreader _ _ _ hp hq⟩

/-! ### The fields of a mapping -/

section

variable {ps qs : Entries Part} {path : String}

theorem partValues_alike (h : Entries.Reordered Part.Agree ps qs) :
    Entries.Alike Value.Reordered (partValues ps) (partValues qs) :=
  (h.mapContents fun hpq => hpq.value).alike

theorem requirePart_agree (h : Entries.Reordered Part.Agree ps qs) (field : String) (tag : Tag) :
    ResultsAgree Part.Agree (requirePart ps field tag path) (requirePart qs field tag path) := by
  have hfield := h.alike field
  unfold requirePart
  generalize ps.at? field = x at hfield ⊢
  generalize qs.at? field = y at hfield ⊢
  cases hfield with
  | none => exact .error_left
  | some hpq =>
    dsimp only
    rw [hpq.value.isNull_eq]
    split
    · exact .error_left
    · exact .ok hpq

theorem recordSide_agree (h : Entries.Reordered Part.Agree ps qs) (field : String)
    (missing : Rule) :
    ResultsAgree Rule.Reordered (recordSide ps field path missing)
      (recordSide qs field path missing) := by
  have hfield := h.alike field
  unfold recordSide
  generalize ps.at? field = x at hfield ⊢
  generalize qs.at? field = y at hfield ⊢
  cases hfield with
  | none => exact .ok (.refl missing)
  | some hpq =>
    dsimp only
    rw [hpq.value.isNull_eq]
    split
    · exact .ok (.refl missing)
    · exact hpq.rule path

/-- The properties that stand in a part of an object rule. -/
def Part.readProps (p : Part) (path : String) : Except (Stop RuleError) (Entries RuleReader) :=
  if p.value.isNull then rejectRule (.noProps path)
  else
    match p.props? with
    | some props => .ok props
    | none => rejectRule (.propsNotMapping path)

theorem Part.Agree.readProps {p q : Part} (h : p.Agree q) (path : String) :
    ResultsAgree (Entries.Reordered RuleReader.Agree) (p.readProps path) (q.readProps path) := by
  have hprops := h.props
  rw [Part.readProps, Part.readProps, h.value.isNull_eq]
  generalize p.props? = x at hprops ⊢
  generalize q.props? = y at hprops ⊢
  split
  · exact .error_left
  · cases hprops with
    | none => exact .error_left
    | some hreaders => exact .ok hreaders

theorem propsPart_agree (h : Entries.Reordered Part.Agree ps qs) :
    ResultsAgree (Entries.Reordered RuleReader.Agree) (propsPart ps path) (propsPart qs path) := by
  have hprops := h.alike "props"
  have hproperties := h.alike "properties"
  unfold propsPart
  generalize ps.at? "props" = x at hprops ⊢
  generalize qs.at? "props" = y at hprops ⊢
  generalize ps.at? "properties" = x' at hproperties ⊢
  generalize qs.at? "properties" = y' at hproperties ⊢
  cases hprops with
  | some hpq => exact hpq.readProps path
  | none =>
    cases hproperties with
    | some hpq => exact hpq.readProps path
    | none => exact .error_left

/-- The fields of an object without those that hold its properties. -/
theorem objectFields_alike (h : Entries.Reordered Part.Agree ps qs) :
    Entries.Alike Value.Reordered
      (((partValues ps).erase (.text "properties")).put (.text "props") .null)
      (((partValues qs).erase (.text "properties")).put (.text "props") .null) := by
  have hvalues := h.mapContents (Q := Value.Reordered) fun hpq => hpq.value
  have herased := (hvalues.filterKeys fun k => !(Value.text "properties").equals k).alike
  intro n
  by_cases hn : "props" = n
  · subst hn
    rw [Schema.at?_put_self, Schema.at?_put_self]
    exact .some (.same _)
  · rw [Schema.at?_put_of_ne hn, Schema.at?_put_of_ne hn]
    exact herased n

/-- An object rule with properties in another order. -/
theorem objectRule_agree {es fs : Entries Value} (h : Entries.Alike Value.Reordered es fs)
    {props props' : Checked (List (String × Rule))}
    (hprops : Agree (Reordering DistinctNames (SameKey Rule.Reordered)) props props') :
    Agree Rule.Reordered
      (Rule.object <$> CommonOptions.readAll es <*> props <*> ObjectOptions.read es)
      (Rule.object <$> CommonOptions.readAll fs <*> props' <*> ObjectOptions.read fs) := by
  have hcommon : Agree (fun F G => ∀ {props props' o},
      Reordering DistinctNames (SameKey Rule.Reordered) props props' →
        (F props o).Reordered (G props' o)) (Rule.object <$> CommonOptions.readAll es)
      (Rule.object <$> CommonOptions.readAll fs) :=
    (readAll_agree h).map fun hc _ _ _ hprops => .of_props hc hprops
  have hhead : Agree (fun F G => ∀ o, (F o).Reordered (G o))
      (Rule.object <$> CommonOptions.readAll es <*> props)
      (Rule.object <$> CommonOptions.readAll fs <*> props') :=
    hcommon.seq hprops fun hFG hprops _ => hFG hprops
  exact hhead.seq (ObjectOptions.read_agree h) fun hFG ho => ho ▸ hFG _

/-- **What is read from the fields** of two rule mappings. -/
theorem normalizeFields_agree (h : Entries.Reordered Part.Agree ps qs) (tag : Tag) :
    ResultsAgree Rule.Reordered (normalizeFields tag ps path) (normalizeFields tag qs path) := by
  have hes := partValues_alike h
  have hcommon := readAll_agree hes
  cases htag : tag.isComposite with
  | false =>
    rw [normalizeFields_simple htag, normalizeFields_simple htag]
    exact finishRule_agree tag path (simpleRule_agree hes htag)
  | true =>
    cases tag with
    | array =>
      refine (requirePart_agree h "items" .array).bind fun hpart => ?_
      refine (hpart.rule _).bind fun hitems => finishRule_agree .array path (.closed ?_)
      refine (hcommon.map (Q := fun F G => ∀ {o o'}, ArrayOptions.Reordered o o' →
        (F o).Reordered (G o')) fun hc _ _ ho => .array hc ho hitems).seq
        (ArrayOptions.read_agree hes) fun hFG ho => hFG ho
    | object =>
      have hes' := objectFields_alike h
      refine (propsPart_agree h).bind fun hreaders => ?_
      intro r r' hr hr'
      obtain ⟨rules, hrules, hr⟩ := except_bind_ok hr
      obtain ⟨rules', hrules', hr'⟩ := except_bind_ok hr'
      have hprops := readProps_agree hreaders hrules hrules'
      exact finishRule_agree .object path (objectRule_agree hes' hprops).closed r r' hr hr'
    | multi =>
      refine (requirePart_agree h "rules" .multi).bind fun {p q} hpart => ?_
      have hitems := hpart.items
      generalize p.items? = x at hitems ⊢
      generalize q.items? = y at hitems ⊢
      cases hitems with
      | none => exact .error_left
      | some hreaders =>
        cases hreaders with
        | nil => exact .error_left
        | cons hf hfs =>
          refine (readRules_agree (.cons hf hfs) 0).bind fun hbranches => ?_
          exact finishRule_agree .multi path
            (hcommon.map fun hc => .of_branches hc hbranches).closed
    | tuple =>
      refine (requirePart_agree h "items" .tuple).bind fun {p q} hpart => ?_
      have hitems := hpart.items
      generalize p.items? = x at hitems ⊢
      generalize q.items? = y at hitems ⊢
      cases hitems with
      | none => exact .error_left
      | some hreaders =>
        refine (readRules_agree hreaders 0).bind fun hslots => ?_
        exact finishRule_agree .tuple path (hcommon.map fun hc => .of_slots hc hslots).closed
    | record =>
      refine (recordSide_agree h "key" _).bind fun hkey => ?_
      refine (recordSide_agree h "value" _).bind fun hvalue => ?_
      exact finishRule_agree .record path (hcommon.map fun hc => .record hc hkey hvalue).closed
    | _ => cases htag

theorem readTag_agree {v w : Value} (h : v.Reordered w) :
    ResultsAgree Eq (readTag v path) (readTag w path) := by
  cases h with
  | same => exact .refl _
  | list => exact .error_left
  | mapping => exact .error_left

theorem normalizeMapping_agree (h : Entries.Reordered Part.Agree ps qs) :
    ResultsAgree Rule.Reordered (normalizeMapping ps path) (normalizeMapping qs path) := by
  have htype := h.alike "type"
  unfold normalizeMapping
  generalize ps.at? "type" = x at htype ⊢
  generalize qs.at? "type" = y at htype ⊢
  cases htype with
  | none => exact .error_left
  | some htype =>
    refine (readTag_agree htype.value).bind fun {tag _} htag => ?_
    subst htag
    exact normalizeFields_agree (h.filterKeys fun k => !(Value.text "type").equals k) tag

/-! ### Markers and unions -/

theorem markedProps_agree (h : Entries.Reordered Part.Agree ps qs) :
    (markedProps ps).Agree (markedProps qs) where
  value := by
    have hvalues := h.mapContents (Q := Value.Reordered) fun hpq => hpq.value
    exact .of_entries (hvalues.filterKeys fun k => !isPragma k)
  rule := .refl _
  items := .none
  props := .some ((h.filterKeys fun k => !isPragma k).mapContents fun hpq => hpq.rule)

theorem normalizeMarked_agree (h : Entries.Reordered Part.Agree ps qs) {v w : Value}
    (hvw : v.Reordered w) :
    ResultsAgree Rule.Reordered (normalizeMarked v ps path) (normalizeMarked w qs path) := by
  unfold normalizeMarked
  rw [hvw.text?_eq]
  split
  · exact .error_left
  · refine (ResultsAgree.refl _).bind fun {es _} hes => ?_
    subst hes
    dsimp only
    split
    · exact .error_left
    · refine normalizeMapping_agree (.of_forall₂ (Entries.put_sameKey ?_ _ (markedProps_agree h)))
      exact List.forall₂_same.mpr fun e _ => ⟨rfl, .refl e.2⟩

theorem normalizeEntries_agree (h : Entries.Reordered Part.Agree ps qs) :
    ResultsAgree Rule.Reordered (normalizeEntries ps path) (normalizeEntries qs path) := by
  have hmarker := h.alike "$$type"
  unfold normalizeEntries
  generalize ps.at? "$$type" = x at hmarker ⊢
  generalize qs.at? "$$type" = y at hmarker ⊢
  cases hmarker with
  | none => exact normalizeMapping_agree h
  | some hmarker => exact normalizeMarked_agree h hmarker.value

end

theorem allOptional_eq {rs qs : List Rule} (h : List.Forall₂ Rule.Reordered rs qs) :
    allOptional rs = allOptional qs := by
  induction h with
  | nil => rfl
  | cons hrq _ ih =>
    rw [allOptional, allOptional, List.all_cons, List.all_cons, hrq.common.optional]
    exact congrArg _ ih

theorem normalizeUnion_agree {fs gs : List RuleReader} (h : List.Forall₂ RuleReader.Agree fs gs) :
    RuleReader.Agree (normalizeUnion fs) (normalizeUnion gs) := by
  intro path
  cases h with
  | nil => exact .error_left
  | cons hf hfs =>
    refine (readRules_agree (.cons hf hfs) 0).bind fun {rs qs} hbranches => .ok ?_
    rw [allOptional_eq hbranches]
    exact .of_branches (.refl _) hbranches

/-! ### All sources -/

theorem itemReaders_eq (xs : List RuleSource) : itemReaders xs = xs.map normalize := by
  induction xs with
  | nil => rfl
  | cons x xs ih => exact congrArg (normalize x :: ·) ih

theorem entryReaders_eq (es : List (Value × RuleSource)) :
    entryReaders es = es.map fun e => (e.1, normalize e.2) := by
  induction es with
  | nil => rfl
  | cons e es ih => exact congrArg ((e.1, normalize e.2) :: ·) ih

/-- A source with its readings. -/
def RuleSource.part (x : RuleSource) : Part :=
  ⟨x.toValue, normalize x, listReading x, mappingReading x⟩

theorem entryParts_eq (es : List (Value × RuleSource)) :
    entryParts es = es.map fun e => (e.1, e.2.part) := by
  induction es with
  | nil => rfl
  | cons e es ih => exact congrArg ((e.1, e.2.part) :: ·) ih

/-- A value with its readings. -/
def partOf (v : Value) : Part where
  value := v
  rule := normalize (.ofValue v)
  items? := listReading (.ofValue v)
  props? := mappingReading (.ofValue v)

theorem itemReaders_ofValues (xs : List Value) :
    itemReaders (RuleSource.ofValues xs) = xs.map fun x => normalize (.ofValue x) := by
  rw [itemReaders_eq, ofValues_eq_map, List.map_map]
  rfl

theorem entryReaders_ofEntries (es : Entries Value) :
    entryReaders (RuleSource.ofEntries es) = es.map fun e => (e.1, normalize (.ofValue e.2)) := by
  rw [entryReaders_eq, ofEntries_eq_map, List.map_map]
  rfl

theorem part_ofValue (v : Value) : (RuleSource.ofValue v).part = partOf v := by
  rw [RuleSource.part, toValue_ofValue]
  rfl

theorem entryParts_ofEntries (es : Entries Value) :
    entryParts (RuleSource.ofEntries es) = es.map fun e => (e.1, partOf e.2) := by
  rw [entryParts_eq, ofEntries_eq_map, List.map_map]
  exact List.map_congr_left fun e _ => congrArg (Prod.mk e.1) (part_ofValue e.2)

/-- Values that are the same but for the order of keys are read alike in every way. -/
theorem partOf_agree {v w : Value} (h : v.Reordered w) : (partOf v).Agree (partOf w) := by
  induction h with
  | same v => exact .refl _
  | @list xs ys hlength hitems ih =>
    have hreaders : List.Forall₂ RuleReader.Agree (itemReaders (RuleSource.ofValues xs))
        (itemReaders (RuleSource.ofValues ys)) := by
      rw [itemReaders_ofValues, itemReaders_ofValues]
      refine List.forall₂_map_left_iff.mpr (List.forall₂_map_right_iff.mpr ?_)
      exact List.forall₂_iff_zip.mpr ⟨hlength, fun hmem => (ih hmem).rule⟩
    exact {
      value := .list hlength hitems
      rule := normalizeUnion_agree hreaders
      items := .some hreaders
      props := .none }
  | @mapping es mid fs hkeys hcontents hshuffled ih =>
    have hparts : Entries.Reordered (fun v w => (partOf v).Agree (partOf w)) es fs :=
      ⟨mid, sameKey_of_zip hkeys ih, hshuffled⟩
    have hrule : RuleReader.Agree (normalizeEntries (entryParts (RuleSource.ofEntries es)))
        (normalizeEntries (entryParts (RuleSource.ofEntries fs))) := by
      rw [entryParts_ofEntries, entryParts_ofEntries]
      exact fun path => normalizeEntries_agree (hparts.mapContents fun hpq => hpq)
    have hprops : Entries.Reordered RuleReader.Agree (entryReaders (RuleSource.ofEntries es))
        (entryReaders (RuleSource.ofEntries fs)) := by
      rw [entryReaders_ofEntries, entryReaders_ofEntries]
      exact hparts.mapContents fun hpq => hpq.rule
    exact {
      value := .mapping hkeys hcontents hshuffled
      rule := hrule
      items := .none
      props := .some hprops }

/-- **What is read from two values** that are the same but for the order of keys is the same rule
but for that order. -/
theorem normalize_agree {v w : Value} (h : v.Reordered w) :
    RuleReader.Agree (normalize (.ofValue v)) (normalize (.ofValue w)) :=
  (partOf_agree h).rule

end RuleSchema
