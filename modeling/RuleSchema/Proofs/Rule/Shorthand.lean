import RuleSchema.Proofs.Rule.Fields
import RuleSchema.Proofs.Schema.Names
import RuleSchema.Proofs.Text.LetterCase
import RuleSchema.Proofs.Value.Entries

/-!
# What a shorthand means

A shorthand names a type, maybe with some `[]` after it, and sets fields by its modifiers.  Its
modifiers go into the same mapping as the type and the items, and the items are a shorthand again.
So a shorthand with `[]` is an array whatever its modifiers are, and the arrays inside it have no
modifiers; but a modifier by the name of `type` takes the place of the type, and one by the name
of `items` that of the items.

* `bracketed` and `nested` are the texts with `[]` after them and the arrays that they stand for.
* `parse_ok` reads the fields of a shorthand off its segments.
* `shorthandRule_eq`: a text inside a shorthand is read as it is alone.
* `normalizeText_bracketed`: **a type with `[]` after it**, without modifiers.
* `shorthand_means_type`: **what a shorthand with modifiers is read as**.
-/

namespace RuleSchema

open Checked Shorthand Schema

/-- A text with `[]` after it, some times. -/
def bracketed (s : String) : Nat → String
  | 0 => s
  | k + 1 => bracketed s k ++ "[]"

/-- Arrays without options around a rule. -/
def nested : Nat → Rule → Rule
  | 0, r => r
  | k + 1, r => .array {} (nested k r) {}

/-- The value that modifiers set last under a name. -/
def lastSet (mods : List (String × Value)) (name : String) : Option Value :=
  mods.reverse.lookup name

/-! ### Texts -/

namespace Text

/-- The pieces between separators have none inside and are not longer than the text. -/
theorem splitOn_pieces {sep : Char} : ∀ {s : List Char}, ∀ p ∈ splitOn sep s,
    sep ∉ p ∧ p.length ≤ s.length := by
  intro s
  induction s with
  | nil =>
    intro p hp
    rw [List.mem_singleton.mp hp]
    exact ⟨List.not_mem_nil, Nat.le_refl 0⟩
  | cons c s ih =>
    intro p hp
    rw [splitOn] at hp
    split at hp
    · rcases List.mem_cons.mp hp with rfl | hp
      · exact ⟨List.not_mem_nil, Nat.zero_le _⟩
      · exact ⟨(ih p hp).1, Nat.le_succ_of_le (ih p hp).2⟩
    · next hc =>
      cases hs : splitOn sep s with
      | nil => exact absurd hs (splitOn_ne_nil sep s)
      | cons q qs =>
        rw [hs] at hp ih
        rcases List.mem_cons.mp hp with rfl | hp
        · obtain ⟨hq, hlength⟩ := ih q List.mem_cons_self
          exact ⟨List.not_mem_cons_of_ne_of_not_mem (Ne.symm hc) hq, Nat.succ_le_succ hlength⟩
        · obtain ⟨hq, hlength⟩ := ih p (List.mem_cons_of_mem _ hp)
          exact ⟨hq, Nat.le_succ_of_le hlength⟩

theorem splitOn_of_not_mem {sep : Char} : ∀ {s : List Char}, sep ∉ s → splitOn sep s = [s]
  | [], _ => rfl
  | c :: s, h => by
    rw [splitOn, if_neg (List.ne_of_not_mem_cons h).symm,
      splitOn_of_not_mem (List.not_mem_of_not_mem_cons h)]

/-- What follows a cut is part of the text, and shorter. -/
theorem cutAt_after {sep : Char} : ∀ {s before after : List Char},
    cutAt sep s = (before, some after) → after <:+ s ∧ after.length < s.length := by
  intro s
  induction s with
  | nil =>
    intro before after h
    cases h
  | cons c s ih =>
    intro before after h
    rw [cutAt] at h
    split at h
    · cases h
      exact ⟨List.suffix_cons c s, Nat.lt_succ_self _⟩
    · cases hs : cutAt sep s with
      | mk b rest =>
        rw [hs] at h
        cases h
        obtain ⟨hsuffix, hlength⟩ := ih hs
        exact ⟨hsuffix.trans (List.suffix_cons c s), Nat.lt_succ_of_lt hlength⟩

/-- Trimming leaves a stretch of the text. -/
theorem trim_stretch (s : String) : (trim s).toList <:+: s.toList := by
  have hend : (trim s).toList <+: (trimStart s).toList := by
    rw [trim, trimEnd_toList, ← List.reverse_suffix, List.reverse_reverse]
    exact List.dropWhile_suffix _
  have hstart : (trimStart s).toList <:+ s.toList := by
    rw [trimStart_toList]
    exact List.dropWhile_suffix _
  exact hend.isInfix.trans hstart.isInfix

end Text

open Text

/-- A text that can stand in a segment of a shorthand. -/
def Barless (s : String) : Prop := '|' ∉ s.toList

theorem Barless.of_stretch {s t : String} (h : Barless t) (hst : s.toList <:+: t.toList) :
    Barless s :=
  fun hs => h (hst.subset hs)

theorem trimmed_stretch (s : List Char) : (trimmed s).toList <:+: s := by
  have h := trim_stretch (String.ofList s)
  rwa [String.toList_ofList] at h

/-- The segments of a shorthand have no bars, do not begin with a blank and are not longer than
it. -/
structure IsSegment (s p : String) : Prop where
  barless : Barless p
  ink : InkFirst p.toList
  length_le : p.length ≤ s.length

theorem isSegment {s p : String} (hp : p ∈ segments s) : IsSegment s p := by
  obtain ⟨q, hq, rfl⟩ := List.mem_map.mp hp
  obtain ⟨hbar, hlength⟩ := splitOn_pieces q hq
  have hstretch := trimmed_stretch q
  refine ⟨fun h => hbar (hstretch.subset h), ?_, ?_⟩
  · exact trimStart_eq_iff.mp (trimStart_trimEnd (trimStart_trimStart _))
  · rw [← String.length_toList, ← String.length_toList]
    exact Nat.le_trans hstretch.length_le hlength

theorem head_segment (s : String) : (segments s).headD "" ∈ segments s := by
  cases h : segments s with
  | nil => exact absurd (List.map_eq_nil_iff.mp h) (splitOn_ne_nil _ _)
  | cons p ps => exact List.mem_cons_self

theorem segments_of_barless {s : String} (h : Barless s) : segments s = [trim s] := by
  rw [segments, splitOn_of_not_mem h, List.map_singleton, trimmed, String.ofList_toList]

theorem bracket_toList (s : String) : (s ++ "[]").toList = s.toList ++ ['[', ']'] :=
  String.toList_append

theorem inkFirst_bracketed {s : String} (h : InkFirst s.toList) :
    ∀ k, InkFirst (bracketed s k).toList
  | 0 => h
  | k + 1 => by
    have ih := inkFirst_bracketed h k
    rw [bracketed, bracket_toList]
    cases hs : (bracketed s k).toList with
    | nil => simp [InkFirst]; decide
    | cons c cs =>
      rw [hs] at ih
      exact ih

/-- A text that does not begin with a blank has no blank ends when brackets follow. -/
theorem trim_bracketed {s : String} (h : InkFirst s.toList) (k : Nat) :
    trim (bracketed s (k + 1)) = bracketed s (k + 1) := by
  have hend : InkFirst (bracketed s (k + 1)).toList.reverse := by
    rw [bracketed, bracket_toList, List.reverse_append]
    simp [InkFirst]
    decide
  rw [trim, trimStart_eq_iff.mpr (inkFirst_bracketed h (k + 1)), trimEnd_eq_iff.mpr hend]

/-- Without its brackets a text begins as before. -/
theorem inkFirst_of_bracketed {s : String} {k : Nat} (h : InkFirst (bracketed s k).toList) :
    InkFirst s.toList := by
  induction k with
  | zero => exact h
  | succ k ih =>
    refine ih fun c hc => h c ?_
    rw [bracketed, bracket_toList, List.head?_append, Option.mem_def.mp hc]
    rfl

theorem itemType?_append (s : String) : itemType? (s ++ "[]") = some s := by
  rw [itemType?, bracket_toList, List.reverse_append]
  simp

theorem eq_of_itemType? {s t : String} (h : itemType? s = some t) : s = t ++ "[]" := by
  rw [itemType?] at h
  split at h
  · next item hs =>
    cases h
    rw [← String.toList_inj, bracket_toList, String.toList_ofList]
    have := congrArg List.reverse hs
    simpa using this
  · cases h

/-! ### The fields of a shorthand -/

/-- The entries after some modifiers. -/
def setAll (es : Entries Value) (mods : List (String × Value)) : Entries Value :=
  mods.foldl (fun es m => es.put (.text m.1) m.2) es

theorem at?_setAll {n : String} : ∀ {mods : List (String × Value)} {es : Entries Value},
    (setAll es mods).at? n = (lastSet mods n).or (es.at? n)
  | [], _ => rfl
  | m :: mods, es => by
    have hput : (es.put (.text m.1) m.2).at? n = (List.lookup n [m]).or (es.at? n) := by
      rw [List.lookup_cons]
      by_cases hm : m.1 = n
      · subst hm
        rw [at?_put_self, beq_self_eq_true]
        rfl
      · rw [at?_put_of_ne hm, beq_eq_false_iff_ne.mpr (Ne.symm hm)]
        rfl
    rw [setAll, List.foldl_cons, ← setAll, at?_setAll, hput, lastSet, lastSet,
      List.reverse_cons, List.lookup_append, Option.or_assoc]

/-- Modifiers are read one after the other, and each is put in when it has been read. -/
theorem foldlM_modifiers {path rule : String}
    {f : Entries Value → String → Except (Stop RuleError) (Entries Value)}
    (hf : ∀ es x, f es x = readModifier path rule x >>= fun m => .ok (es.put (.text m.1) m.2)) :
    ∀ {xs : List String} {fields es : Entries Value}, xs.foldlM f fields = .ok es →
      ∃ mods, xs.mapM (readModifier path rule) = .ok mods ∧ es = setAll fields mods := by
  intro xs
  induction xs with
  | nil =>
    intro fields es h
    cases h
    exact ⟨[], rfl, rfl⟩
  | cons x xs ih =>
    intro fields es h
    rw [List.foldlM_cons] at h
    obtain ⟨es₁, hx, h⟩ := except_bind_ok h
    rw [hf] at hx
    obtain ⟨m, hm, hes₁⟩ := except_bind_ok hx
    cases hes₁
    obtain ⟨mods, hmods, rfl⟩ := ih h
    refine ⟨m :: mods, ?_, rfl⟩
    rw [List.mapM_cons, hm, hmods]
    rfl

/-- **The fields of a shorthand** are those of its type, with those of its modifiers put in. -/
theorem parse_ok {s path : String} {es : Entries Value} (h : parse s path = .ok es) :
    ∃ fields mods, readType path s ((segments s).headD "") = .ok fields ∧
      (segments s).tail.mapM (readModifier path s) = .ok mods ∧ es = setAll fields mods := by
  rw [parse] at h
  dsimp only at h
  split at h
  · cases h
  · next fields hfields =>
    obtain ⟨mods, hmods, rfl⟩ := foldlM_modifiers (fun _ _ => rfl) h
    exact ⟨fields, mods, hfields, hmods, rfl⟩

/-- A type without brackets is the only field that it sets. -/
theorem readType_lone {path rule type : String} {fields : Entries Value}
    (htype : itemType? type = none) (h : readType path rule type = .ok fields) :
    fields = [(.text "type", .text type)] := by
  rw [readType, htype] at h
  split at h <;> cases h
  rfl

theorem readType_array {path rule item : String} {fields : Entries Value}
    (h : readType path rule (item ++ "[]") = .ok fields) :
    item ≠ "" ∧ fields = [(.text "type", .text Tag.array.name), (.text "items", .text item)] := by
  rw [readType, itemType?_append] at h
  dsimp only at h
  split at h
  · cases h
  · split at h
    · cases h
    · next hitem => cases h; exact ⟨hitem, rfl⟩

theorem readNumeral?_not_text {s : List Char} {x : String} :
    readNumeral? s ≠ .ok (some (.text x)) := by
  intro h
  unfold readNumeral? at h
  dsimp only at h
  split at h
  · split at h <;> cases h
  · rw [Except.ok.injEq, Option.map_eq_some_iff] at h
    obtain ⟨_, _, h⟩ := h
    cases h

/-- A value that is read as a text is that text. -/
theorem readValue_text {s x : String} (h : readValue s = .ok (.text x)) : x = s := by
  unfold readValue at h
  split at h
  · cases h
  · split at h
    · cases h
    · obtain ⟨v?, hv, h⟩ := except_bind_ok h
      cases v? with
      | none => cases h; rfl
      | some v => cases h; exact absurd hv readNumeral?_not_text

/-- A text that a modifier sets is a part of it. -/
theorem readModifier_text {path rule segment n x : String}
    (h : readModifier path rule segment = .ok (n, .text x)) :
    x.toList <:+: segment.toList ∧ x.length < segment.length := by
  unfold readModifier at h
  split at h
  · cases h
  · dsimp only at h
    split at h
    · cases h
    · split at h
      · next value hvalue =>
        split at h
        · next v hv =>
          obtain ⟨-, rfl⟩ := Prod.mk.inj (Except.ok.inj h)
          obtain rfl := readValue_text hv
          obtain ⟨hsuffix, hlength⟩ := cutAt_after (Prod.ext rfl hvalue)
          have hstretch := trimmed_stretch value
          refine ⟨hstretch.trans hsuffix.isInfix, ?_⟩
          rw [← String.length_toList, ← String.length_toList]
          exact Nat.lt_of_le_of_lt hstretch.length_le hlength
        · cases h
      · split at h
        · exact absurd (Prod.mk.inj (Except.ok.inj h)).2 (fun h => nomatch h)
        · exact absurd (Prod.mk.inj (Except.ok.inj h)).2 (fun h => nomatch h)

/-! ### Texts without modifiers -/

theorem parse_barless {x path : String} (h : Barless x) :
    parse x path = (readType path x (trim x)).mapError .rejected := by
  rw [parse, segments_of_barless h]
  dsimp only [List.headD_cons, List.tail_cons]
  cases readType path x (trim x) <;> rfl

/-- The fields of a mapping whose texts are read by a reader. -/
def textParts (ofText : String → RuleReader) (es : Entries Value) : Entries Part :=
  es.map fun e => (e.1, textPart ofText e.2)

section

variable {ofText : String → RuleReader} {es : Entries Value} {path : String}

theorem normalizeMapping_textParts {v : Value} (h : es.at? "type" = some v) :
    normalizeMapping (textParts ofText es) path = readTag v path >>= fun tag =>
      normalizeFields tag (textParts ofText (es.erase (.text "type"))) path := by
  rw [normalizeMapping, textParts, at?_contents, h, erase_contents]
  rfl

theorem at?_type {v : Value} : Entries.at? ((.text "type", v) :: es) "type" = some v :=
  at?_cons.trans (if_pos (by simp [text_equals]))

theorem erase_type {v : Value} :
    Entries.erase ((.text "type", v) :: es) (.text "type") = es.erase (.text "type") :=
  List.filter_cons_of_neg (by simp [text_equals])

/-- A mapping with nothing but a type. -/
theorem normalizeMapping_lone (v : Value) :
    normalizeMapping (textParts ofText [(.text "type", v)]) path
      = readTag v path >>= fun tag => normalizeFields tag [] path := by
  rw [normalizeMapping_textParts at?_type, erase_type]
  rfl

/-- An array with nothing but its items. -/
theorem normalizeMapping_items (item : String) :
    normalizeMapping (textParts ofText [(.text "type", .text Tag.array.name),
        (.text "items", .text item)]) path
      = ofText item (path ++ "[]") >>= fun r => .ok (.array {} r {}) := by
  rw [normalizeMapping_textParts at?_type, erase_type]
  rfl

end

section

variable {x path : String} {fields : Entries Value}

theorem shorthandRule_succ (n : Nat) : shorthandRule (n + 1) x path =
    parse x path >>= fun es => normalizeMapping (textParts (shorthandRule n) es) path := rfl

/-- A text without bars sets the fields of its type, and no others. -/
theorem shorthandRule_barless (h : Barless x) (hfields : readType path x (trim x) = .ok fields)
    (n : Nat) : shorthandRule (n + 1) x path
      = normalizeMapping (textParts (shorthandRule n) fields) path := by
  rw [shorthandRule_succ, parse_barless h, hfields]
  rfl

theorem shorthandRule_untyped {e : RuleError} (h : Barless x)
    (he : readType path x (trim x) = .error e) (n : Nat) :
    shorthandRule (n + 1) x path = rejectRule e := by
  rw [shorthandRule_succ, parse_barless h, he]
  rfl

theorem readType_cases (hfields : readType path x (trim x) = .ok fields) :
    fields = [(.text "type", .text (trim x))] ∨
    ∃ item, trim x = item ++ "[]" ∧
      fields = [(.text "type", .text Tag.array.name), (.text "items", .text item)] := by
  cases hitem : itemType? (trim x) with
  | none => exact .inl (readType_lone hitem hfields)
  | some item =>
    have hx := eq_of_itemType? hitem
    rw [hx] at hfields
    exact .inr ⟨item, hx, (readType_array hfields).2⟩

end

theorem Barless.item {x item : String} (h : Barless x) (hx : trim x = item ++ "[]") :
    Barless item ∧ item.length < x.length := by
  have hstretch := trim_stretch x
  rw [hx, bracket_toList] at hstretch
  refine ⟨h.of_stretch (.trans (List.prefix_append _ _).isInfix hstretch), ?_⟩
  have hlength := hstretch.length_le
  rw [List.length_append, String.length_toList, String.length_toList] at hlength
  exact Nat.lt_of_lt_of_le (Nat.lt_add_of_pos_right Nat.zero_lt_two) hlength

/-- Any fuel beyond the length is enough for a text without bars. -/
theorem shorthandRule_fuel : ∀ {n m : Nat} {x : String}, Barless x → x.length < n →
    x.length < m → shorthandRule n x = shorthandRule m x := by
  intro n
  induction n with
  | zero => exact fun _ hn => absurd hn (Nat.not_lt_zero _)
  | succ n ih =>
    intro m x h hn hm
    obtain ⟨m, rfl⟩ := Nat.exists_eq_succ_of_ne_zero (Nat.ne_zero_of_lt hm)
    funext path
    cases hfields : readType path x (trim x) with
    | error e => rw [shorthandRule_untyped h hfields, shorthandRule_untyped h hfields]
    | ok fields =>
      rw [shorthandRule_barless h hfields, shorthandRule_barless h hfields]
      obtain rfl | ⟨item, hx, rfl⟩ := readType_cases hfields
      · rw [normalizeMapping_lone, normalizeMapping_lone]
      · obtain ⟨hitem, hlength⟩ := h.item hx
        rw [normalizeMapping_items, normalizeMapping_items,
          ih hitem (Nat.lt_of_lt_of_le hlength (Nat.le_of_lt_succ hn))
            (Nat.lt_of_lt_of_le hlength (Nat.le_of_lt_succ hm))]

/-- **A text inside a shorthand is read as it is alone.** -/
theorem shorthandRule_eq {n : Nat} {x : String} (h : Barless x) (hn : x.length < n) :
    shorthandRule n x = normalizeText x :=
  shorthandRule_fuel h hn (Nat.lt_succ_self _)

theorem Barless.bracketed {s : String} (h : Barless s) : ∀ k, Barless (bracketed s k)
  | 0 => h
  | k + 1 => by
    rw [Barless, RuleSchema.bracketed, bracket_toList, List.mem_append, not_or]
    exact ⟨h.bracketed k, by decide⟩

theorem Barless.of_bracketed {s : String} : ∀ {k : Nat}, Barless (RuleSchema.bracketed s k) →
    Barless s
  | 0, h => h
  | k + 1, h => by
    refine of_bracketed (k := k) (h.of_stretch ?_)
    rw [RuleSchema.bracketed, bracket_toList]
    exact (List.prefix_append _ _).isInfix

theorem length_bracketed {s : String} {k : Nat} :
    (bracketed s k).length < (bracketed s (k + 1)).length := by
  rw [bracketed, ← String.length_toList, ← String.length_toList, bracket_toList,
    List.length_append]
  exact Nat.lt_add_of_pos_right Nat.zero_lt_two

theorem bracketed_append (s : String) : ∀ k, bracketed (s ++ "[]") k = bracketed s k ++ "[]"
  | 0 => rfl
  | k + 1 => congrArg (· ++ "[]") (bracketed_append s k)

/-- **A type with `[]` after it**, without modifiers, is arrays around the type. -/
theorem normalizeText_bracketed {T : String} (hT : Barless T) (hink : InkFirst T.toList) :
    ∀ {k : Nat} {path : String} {r : Rule}, normalizeText (bracketed T k) path = .ok r →
      ∃ core, r = nested k core ∧ normalizeText T (bracketed path k) = .ok core := by
  intro k
  induction k with
  | zero => exact fun h => ⟨_, rfl, h⟩
  | succ k ih =>
    intro path r h
    have hbar := hT.bracketed (k + 1)
    cases hfields : readType path (bracketed T (k + 1)) (trim (bracketed T (k + 1))) with
    | error e =>
      rw [normalizeText, shorthandRule_untyped hbar hfields] at h
      cases h
    | ok fields =>
      rw [normalizeText, shorthandRule_barless hbar hfields] at h
      rw [trim_bracketed hink, bracketed] at hfields
      obtain ⟨_, rfl⟩ := readType_array hfields
      rw [normalizeMapping_items, shorthandRule_eq (hT.bracketed k) length_bracketed] at h
      obtain ⟨inner, hinner, h⟩ := except_bind_ok h
      cases h
      obtain ⟨core, rfl, hcore⟩ := ih hinner
      rw [bracketed_append] at hcore
      exact ⟨core, rfl, hcore⟩

/-! ### Shorthands with modifiers -/

section

variable {ofText : String → RuleReader} {es : Entries Value} {path : String} {tag : Tag} {r : Rule}

theorem partValues_textParts : partValues (textParts ofText es) = es := by
  rw [partValues, textParts, List.map_map]
  exact List.map_id _

/-- A text holds no mapping of properties. -/
theorem propsPart_textParts {readers : Entries RuleReader} :
    propsPart (textParts ofText es) path ≠ .ok readers := by
  have hpart : ∀ {n : String} {part : Part}, (textParts ofText es).at? n = some part →
      part.props? = none := by
    intro n part h
    rw [textParts, at?_contents] at h
    obtain ⟨v, _, rfl⟩ := Option.map_eq_some_iff.mp h
    rfl
  intro h
  unfold propsPart at h
  dsimp only at h
  cases hprops : (textParts ofText es).at? "props" with
  | some part =>
    rw [hprops] at h
    dsimp only at h
    rw [hpart hprops] at h
    split at h <;> cases h
  | none =>
    rw [hprops] at h
    dsimp only at h
    cases hproperties : (textParts ofText es).at? "properties" with
    | none => rw [hproperties] at h; cases h
    | some part =>
      rw [hproperties] at h
      dsimp only at h
      rw [hpart hproperties] at h
      split at h <;> cases h

theorem normalizeFields_textParts (h : normalizeFields tag (textParts ofText es) path = .ok r) :
    r.ReadAs tag es := by
  have htag : tag ≠ .object := by
    rintro rfl
    obtain ⟨readers, hreaders, _⟩ := except_bind_ok h
    exact propsPart_textParts hreaders
  have hgood := normalizeFields_good htag h
  rwa [partValues_textParts] at hgood

/-- Only arrays and tuples have items. -/
theorem tag_of_items (h : tag.HasField "items") : tag = .array ∨ tag = .tuple := by
  have hnone : ∀ {names : List FieldName},
      (∀ f ∈ commonNames ++ names, f.name ≠ "items" ∧ f.second? ≠ some "items") →
      ¬ ∃ f ∈ commonNames ++ names, f.name = "items" ∨ f.second? = some "items" := by
    rintro names hnames ⟨f, hf, hname | hname⟩
    · exact (hnames f hf).1 hname
    · exact (hnames f hf).2 hname
  cases tag with
  | array => exact .inl rfl
  | tuple => exact .inr rfl
  | _ => exact absurd h (hnone (by decide))

/-- A text holds no list of items, so that only arrays can have one. -/
theorem normalizeFields_items {v : Value} (hv : es.at? "items" = some v)
    (h : normalizeFields tag (textParts ofText es) path = .ok r) : tag = .array := by
  refine (tag_of_items (name_of_known (normalizeFields_textParts h).2 hv)).resolve_right ?_
  rintro rfl
  obtain ⟨part, hpart, h⟩ := except_bind_ok h
  have hat := requirePart_ok hpart
  rw [textParts, at?_contents, hv] at hat
  cases hat
  cases h

end

/-- What a shorthand of the type `T` with some `[]` after it and some modifiers is read as. -/
def StandsFor (T path : String) (mods : List (String × Value)) (r : Rule) : Nat → Prop
  | 0 =>
    match lastSet mods "type" with
    | none => r.tag.name = T
    | some v => v.text? = some r.tag.name
  | k + 1 =>
    ∃ c items o, r = .array c items o ∧
      match lastSet mods "items" with
      | none => ∃ core, items = nested k core ∧
          normalizeText T (bracketed path (k + 1)) = .ok core ∧
          (itemType? (trim T) = none → core.tag.name = trim T)
      | some v => ∃ x, v = .text x ∧ normalizeText x (path ++ "[]") = .ok items

theorem lastSet_isSome {mods : List (String × Value)} {m : String × Value} (hm : m ∈ mods) :
    ∃ v, lastSet mods m.1 = some v := by
  cases h : lastSet mods m.1 with
  | some v => exact ⟨v, rfl⟩
  | none =>
    have hne := List.lookup_eq_none_iff.mp h m (List.mem_reverse.mpr hm)
    rw [bne_self_eq_false] at hne
    cases hne

theorem mem_of_lastSet {mods : List (String × Value)} {n : String} {v : Value}
    (h : lastSet mods n = some v) : (n, v) ∈ mods := by
  obtain ⟨before, behind, hmods, _⟩ := List.lookup_eq_some_iff.mp h
  rw [← List.mem_reverse, hmods]
  exact List.mem_append_right _ List.mem_cons_self

/-- Each of the modifiers stands in a segment. -/
theorem segment_of_modifier {path rule : String} : ∀ {xs : List String}
    {mods : List (String × Value)}, xs.mapM (readModifier path rule) = .ok mods →
      ∀ m ∈ mods, ∃ x ∈ xs, readModifier path rule x = .ok m := by
  intro xs
  induction xs with
  | nil =>
    intro mods h
    cases h
    exact fun _ hm => absurd hm List.not_mem_nil
  | cons x xs ih =>
    intro mods h
    rw [List.mapM_cons] at h
    obtain ⟨m, hm, h⟩ := except_bind_ok h
    obtain ⟨ms, hms, h⟩ := except_bind_ok h
    cases h
    refine List.forall_mem_cons.mpr ⟨⟨x, List.mem_cons_self, hm⟩, fun m hm => ?_⟩
    obtain ⟨y, hy, hread⟩ := ih hms m hm
    exact ⟨y, List.mem_cons_of_mem _ hy, hread⟩

/-- The rule that a text without brackets and bars stands for has the type of the text. -/
theorem tag_of_normalizeText {T path : String} {core : Rule} (hT : Barless T)
    (hitem : itemType? (trim T) = none) (h : normalizeText T path = .ok core) :
    core.tag.name = trim T := by
  cases hfields : readType path T (trim T) with
  | error e =>
    rw [normalizeText, shorthandRule_untyped hT hfields] at h
    cases h
  | ok fields =>
    rw [normalizeText, shorthandRule_barless hT hfields, readType_lone hitem hfields,
      normalizeMapping_lone] at h
    obtain ⟨tag, htag, h⟩ := except_bind_ok h
    have h : normalizeFields tag (textParts normalizeText []) path = .ok core := h
    rw [(normalizeFields_textParts h).1]
    exact (Option.some.inj (readTag_ok htag)).symm

/-- The reading of an array's items, which are a text. -/
theorem textPart_items {ofText : String → RuleReader} {v : Value} {path : String} {r : Rule}
    (h : (textPart ofText v).rule path = .ok r) : ∃ x, v = .text x ∧ ofText x path = .ok r := by
  cases v with
  | text x => exact ⟨x, rfl, h⟩
  | _ => cases h

section

variable {s T path : String} {fields : Entries Value} {mods : List (String × Value)} {tag : Tag}
  {r : Rule}

/-- The fields of a shorthand, apart from its type. -/
def ownFields (fields : Entries Value) (mods : List (String × Value)) : Entries Value :=
  (setAll fields mods).erase (.text "type")

theorem at?_ownFields {n : String} (hn : n ≠ "type") :
    (ownFields fields mods).at? n = (lastSet mods n).or (fields.at? n) :=
  (find?_erase rfl rfl hn).trans at?_setAll

/-- A shorthand that is read has a type among its fields, and the others are those of a rule of
this type. -/
theorem normalizeText_ok (h : normalizeText s path = .ok r) :
    ∃ fields mods v tag, readType path s ((segments s).headD "") = .ok fields ∧
      (segments s).tail.mapM (readModifier path s) = .ok mods ∧
      (lastSet mods "type").or (fields.at? "type") = some v ∧ v.text? = some tag.name ∧
      normalizeFields tag (textParts (shorthandRule s.length) (ownFields fields mods)) path
        = .ok r := by
  rw [normalizeText, shorthandRule_succ] at h
  obtain ⟨es, hes, h⟩ := except_bind_ok h
  obtain ⟨fields, mods, hfields, hmods, rfl⟩ := parse_ok hes
  cases hv : (setAll fields mods).at? "type" with
  | none =>
    rw [normalizeMapping, textParts, at?_contents, hv] at h
    cases h
  | some v =>
    rw [normalizeMapping_textParts hv] at h
    obtain ⟨tag, htag, h⟩ := except_bind_ok h
    exact ⟨fields, mods, v, tag, hfields, hmods, at?_setAll.symm.trans hv, readTag_ok htag, h⟩

/-- A rule of one type has what the modifiers set. -/
theorem hasField_of_modifier (h : r.ReadAs tag (ownFields fields mods)) {m : String × Value}
    (hm : m ∈ mods) (hname : m.1 ≠ "type") : r.tag.HasField m.1 := by
  obtain ⟨v, hv⟩ := lastSet_isSome hm
  rw [h.1]
  refine name_of_known h.2 (v := v) ?_
  rw [at?_ownFields hname, hv]
  rfl

/-- The items of an array are the text under their name. -/
theorem array_of_items {n : Nat} (hitems : ∃ v, fields.at? "items" = some v)
    (h : normalizeFields tag (textParts (shorthandRule n) (ownFields fields mods)) path = .ok r) :
    ∃ c items o x, r = .array c items o ∧
      (lastSet mods "items").or (fields.at? "items") = some (.text x) ∧
      shorthandRule n x (path ++ "[]") = .ok items := by
  obtain ⟨v, hv⟩ : ∃ v, (ownFields fields mods).at? "items" = some v := by
    obtain ⟨w, hw⟩ := hitems
    rw [at?_ownFields (by decide), hw]
    exact Option.isSome_iff_exists.mp (Option.isSome_or.trans (Bool.or_true _))
  obtain rfl := normalizeFields_items hv h
  obtain ⟨part, items, c, o, hpart, hread, rfl⟩ := normalizeFields_array h
  rw [textParts, at?_contents, hv] at hpart
  cases hpart
  obtain ⟨x, rfl, hread⟩ := textPart_items hread
  rw [at?_ownFields (by decide)] at hv
  exact ⟨c, items, o, x, rfl, hv, hread⟩

/-- A shorthand without brackets has its type, or the one that a modifier sets. -/
theorem standsFor_lone {v : Value} (hT : itemType? T = none)
    (hfields : readType path s T = .ok fields)
    (hv : (lastSet mods "type").or (fields.at? "type") = some v)
    (hname : v.text? = some r.tag.name) : StandsFor T path mods r 0 := by
  rw [readType_lone hT hfields, at?_type] at hv
  rw [StandsFor]
  cases hset : lastSet mods "type" with
  | none =>
    rw [hset] at hv
    cases hv
    exact (Option.some.inj hname).symm
  | some w =>
    rw [hset] at hv
    cases hv
    exact hname

/-- A shorthand with brackets has items of its type, or those that a modifier sets. -/
theorem standsFor_array {k : Nat} (hsegment : IsSegment s (bracketed T (k + 1)))
    (hfields : readType path s (bracketed T (k + 1)) = .ok fields)
    (hmods : (segments s).tail.mapM (readModifier path s) = .ok mods)
    (h : normalizeFields tag (textParts (shorthandRule s.length) (ownFields fields mods)) path
      = .ok r) : StandsFor T path mods r (k + 1) := by
  obtain ⟨_, rfl⟩ := readType_array hfields
  obtain ⟨c, items, o, x, rfl, hx, hitems⟩ := array_of_items ⟨.text (bracketed T k), rfl⟩ h
  rw [StandsFor]
  refine ⟨c, items, o, rfl, ?_⟩
  cases hset : lastSet mods "items" with
  | none =>
    rw [hset] at hx
    obtain rfl : bracketed T k = x := Value.text.inj (Option.some.inj hx)
    have hbar := hsegment.barless.of_bracketed
    rw [shorthandRule_eq (hbar.bracketed k)
      (Nat.lt_of_lt_of_le length_bracketed hsegment.length_le)] at hitems
    obtain ⟨core, rfl, hcore⟩ := normalizeText_bracketed hbar
      (inkFirst_of_bracketed hsegment.ink) hitems
    rw [bracketed_append] at hcore
    exact ⟨core, rfl, hcore, fun hitem => tag_of_normalizeText hbar hitem hcore⟩
  | some w =>
    rw [hset] at hx
    obtain rfl : w = .text x := Option.some.inj hx
    obtain ⟨segment, hmem, hread⟩ := segment_of_modifier hmods _ (mem_of_lastSet hset)
    obtain ⟨hstretch, hlength⟩ := readModifier_text hread
    have hwhole := isSegment (List.mem_of_mem_tail hmem)
    rw [shorthandRule_eq (hwhole.barless.of_stretch hstretch)
      (Nat.lt_of_lt_of_le hlength hwhole.length_le)] at hitems
    exact ⟨x, rfl, hitems⟩

end

/-- **What a shorthand with modifiers is read as.**  Its modifiers set fields that rules of its
type have.  The type, or for an array the items, is what stands in the first segment, unless a
modifier of that name is put in its place. -/
theorem shorthand_means_type {s T path : String} {k : Nat} {r : Rule}
    (hhead : (segments s).headD "" = bracketed T k) (hT : itemType? T = none)
    (h : normalizeText s path = .ok r) :
    ∃ mods, (segments s).tail.mapM (readModifier path s) = .ok mods ∧
      (∀ m ∈ mods, m.1 ≠ "type" → r.tag.HasField m.1) ∧ StandsFor T path mods r k := by
  obtain ⟨fields, mods, v, tag, hfields, hmods, hv, hname, h⟩ := normalizeText_ok h
  have hread := normalizeFields_textParts h
  have hsegment := isSegment (head_segment s)
  rw [hhead] at hfields hsegment
  refine ⟨mods, hmods, fun m hm => hasField_of_modifier hread hm, ?_⟩
  cases k with
  | zero => exact standsFor_lone hT hfields hv (hread.1 ▸ hname)
  | succ k => exact standsFor_array hsegment hfields hmods h

theorem shorthand_means_type_nested :
    (segments "string[][]|min:1").headD "" = bracketed "string" 2 ∧ itemType? "string" = none ∧
    ∃ r, normalizeText "string[][]|min:1" "tags" = .ok r ∧
      ∃ mods, (segments "string[][]|min:1").tail.mapM (readModifier "tags" "string[][]|min:1")
          = .ok mods ∧
        (∀ m ∈ mods, m.1 ≠ "type" → r.tag.HasField m.1) ∧ StandsFor "string" "tags" mods r 2 :=
  ⟨by decide, by decide, _, rfl, shorthand_means_type (by decide) (by decide) rfl⟩

/-- A modifier by the name of the type takes its place. -/
example : ∃ r, normalizeText "string|type:number" "age" = .ok r ∧ r.tag = .number := ⟨_, rfl, rfl⟩

end RuleSchema
