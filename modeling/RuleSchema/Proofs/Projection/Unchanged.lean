import RuleSchema.Proofs.Order.Values
import RuleSchema.Proofs.Projection.Stages
import RuleSchema.Proofs.Validator.Declared
import RuleSchema.Proofs.Value.Document

/-!
# Values that validation leaves alone

A rule that converts nothing, fills nothing in, prepares no text, forbids nothing and drops no
unknown keys only says which values it accepts.  Validation still builds every list and every
mapping anew, and the properties of an object in the order in which they are declared; but an
accepted document comes out with the same contents, at any depth and through unions, whose result
is that of the branch that accepts first.

* `Rule.isPlain` and `Rule.keepsUnknown` say that a rule declares no change.
* `Entries.Reordered.of_alike`: entries with corresponding contents under every name.
* `Step.Preserves` and `Validator.Preserves` say that documents come out with the same contents.
* `documents_unchanged`: **accepted documents are left alone**.
-/

namespace RuleSchema

open Eval

theorem Value.Reordered.isAbsent_eq {v w : Value} (h : v.Reordered w) :
    v.isAbsent = w.isAbsent := by
  cases h <;> rfl

/-! ### Rules without changes -/

/-- Whether a rule neither prepares a value after reading it nor forbids it. -/
def Rule.letsThrough : Rule → Bool
  | .string _ o => !o.trim && !o.trimLeft && !o.trimRight && !o.lowercase && !o.uppercase &&
      o.padStart?.isNone && o.padEnd?.isNone
  | .email _ o => !o.normalize
  | .objectId _ _ conversion => conversion = .keep
  | .forbidden .. => false
  | _ => true

/-- Whether a rule declares no change of a value and forbids none. -/
def Rule.isPlain (r : Rule) : Bool :=
  !r.common.convert && r.common.default?.isNone && r.letsThrough

theorem Rule.isPlain_iff {r : Rule} : r.isPlain = true ↔
    r.common.convert = false ∧ r.common.default? = none ∧ r.letsThrough = true := by
  simp [isPlain, and_assoc]

mutual

/-- Whether no object inside drops unknown keys, under an inherited policy. -/
def Rule.keepsUnknown (ctx : Strictness) : Rule → Bool
  | .array _ items _ => Rule.keepsUnknown ctx items
  | .object _ props o => (ctx.override o.strict?).mode ≠ .remove &&
      Rule.propsKeepUnknown (ctx.override o.strict?) props
  | .multi _ branches => Rule.allKeepUnknown ctx branches
  | .tuple _ slots => Rule.allKeepUnknown ctx slots
  | .record _ key value => Rule.keepsUnknown ctx key && Rule.keepsUnknown ctx value
  | _ => true
termination_by structural r => r

/-- Whether no object inside some properties drops unknown keys. -/
def Rule.propsKeepUnknown (ctx : Strictness) : List (String × Rule) → Bool
  | [] => true
  | (_, r) :: props => Rule.keepsUnknown ctx r && Rule.propsKeepUnknown ctx props
termination_by structural props => props

/-- Whether no object inside some rules drops unknown keys. -/
def Rule.allKeepUnknown (ctx : Strictness) : List Rule → Bool
  | [] => true
  | r :: rules => Rule.keepsUnknown ctx r && Rule.allKeepUnknown ctx rules
termination_by structural rules => rules

end

theorem Rule.propsKeepUnknown_iff {ctx : Strictness} {props : List (String × Rule)} :
    propsKeepUnknown ctx props = true ↔ ∀ p ∈ props, p.2.keepsUnknown ctx = true := by
  induction props with
  | nil => simp [propsKeepUnknown]
  | cons p props ih => simp [propsKeepUnknown, ih]

theorem Rule.allKeepUnknown_iff {ctx : Strictness} {rules : List Rule} :
    allKeepUnknown ctx rules = true ↔ ∀ r ∈ rules, r.keepsUnknown ctx = true := by
  induction rules with
  | nil => simp [allKeepUnknown]
  | cons r rules ih => simp [allKeepUnknown, ih]

/-! ### Entries alike -/

/-- **Keyed entries with corresponding contents** are the same but for their order. -/
theorem Entries.Reordered.of_alike {α β : Type} {R : α → β → Prop} {es : Entries α} {fs : Entries β}
    (hes : es.IsKeyed) (hfs : fs.IsKeyed) (h : Alike R es fs) : Reordered R es fs := by
  have hfellow : ∀ e ∈ es, ∃ f, SameKey R e f ∧ f ∈ fs := by
    intro e he
    obtain ⟨n, hn⟩ := hes.texts e he
    have hrel := h n
    rw [hes.at?_eq_some.mpr (by rw [← hn]; exact he)] at hrel
    generalize hy : fs.at? n = y? at hrel
    cases hrel with
    | some hxy => exact ⟨(.text n, _), ⟨hn.symm, hxy⟩, hfs.at?_eq_some.mp hy⟩
  obtain ⟨mid, hmid⟩ := exists_forall₂ hfellow
  have hsame : List.Forall₂ (SameKey R) es mid := hmid.imp fun _ _ h => h.1
  have hkeyed : IsKeyed mid := hes.of_keys (keys_of_sameKey hsame)
  refine ⟨mid, hsame, .swapped hkeyed ?_⟩
  refine (List.perm_ext_iff_of_nodup hkeyed.nodup.of_map hfs.nodup.of_map).mpr fun f => ?_
  constructor
  · intro hf
    obtain ⟨e, -, -, hmem⟩ := exists_of_mem_right hmid hf
    exact hmem
  · intro hf
    -- the entry under this name on the left has this one as its fellow
    obtain ⟨n, hn⟩ := hfs.texts f hf
    have hrel := h n
    rw [hfs.at?_eq_some.mpr (by rw [← hn]; exact hf)] at hrel
    generalize hx : es.at? n = x? at hrel
    cases hrel with
    | some _ =>
      obtain ⟨g, hg, hsameKey, hmem⟩ := exists_of_mem_left hmid (hes.at?_eq_some.mp hx)
      have hfg : g = f := List.inj_on_of_nodup_map hfs.nodup hmem hf (hsameKey.1.trans hn.symm)
      exact hfg ▸ hg

/-! ### Steps and stages -/

/-- A step that lets the documents that it accepts through as they are but for the order of keys. -/
def Step.Preserves (step : Step) : Prop :=
  ∀ (v w : Value) (t u : Tally), v.IsDocument → step v t = (.ok w, u) → v.Reordered w

/-- A validator that lets the documents that it accepts through as they are but for the order of
keys. -/
def Validator.Preserves (d : Validator) : Prop :=
  ∀ v w : Value, v.IsDocument → d.Gives v w → v.Reordered w

/-- A validator that leaves an absent value absent, if it accepts it. -/
def Validator.KeepsAbsent (d : Validator) : Prop := ∀ w : Value, d.Gives .absent w → w = .absent

theorem ShapeOf.preserves {r : Rule} {shape : Shape} {d : Validator} {s : Stage} {rest : List Stage}
    (hs : ShapeOf r shape s) (hcheck : shape.check.Preserves) (hstages : d.stages = s :: rest)
    (hrest : ∀ s ∈ rest, ∃ cs, s.run = Stage.runChecks cs) : d.Preserves := by
  intro v w hv hw
  obtain ⟨t, u, hrun⟩ := validate_shape hstages hrest hw
  rw [hs.run] at hrun
  obtain ⟨a, s', ha, h⟩ := runShape_ok hrun
  have hav : a = v := present_ok hv.present ha
  rcases h with ⟨hwa, -⟩ | ⟨-, -, h⟩
  · rw [hwa, hav]
    exact .same v
  · rw [hav] at h
    exact hcheck _ _ _ _ hv h

/-- A step that gives back what it accepts. -/
theorem Step.preserves_of_id {step : Step}
    (h : ∀ v w t u, v.IsDocument → step v t = (.ok w, u) → w = v) : step.Preserves := by
  intro v w t u hv hw
  rw [h v w t u hv hw]
  exact .same v

theorem testStep_preserves {b : Value → Bool} {check message : String} :
    Step.Preserves fun v => if b v then pure v else failCheck check message := by
  refine Step.preserves_of_id fun v w t u _ h => ?_
  by_cases hb : b v = true
  · rw [if_pos hb] at h
    exact (pure_ok h).1
  · rw [if_neg hb] at h
    exact absurd h reject_ok

/-- A reader that reads documents as what they are. -/
theorem readStep_preserves {α : Type} {check : String} {reader : ScalarReader α}
    {toValue : α → Value} (hreader : ∀ {v a}, v.IsDocument → reader v = .ok a → toValue a = v) :
    Step.Preserves (readStep check reader toValue) := by
  refine Step.preserves_of_id fun v w t u hv h => ?_
  obtain ⟨a, rfl, ha⟩ := readStep_ok h
  exact hreader hv ha

theorem strictText_same {v : Value} {s : String} (hv : v.IsDocument) (h : strictText v = .ok s) :
    Value.text s = v := by
  cases hv <;> cases h
  rfl

theorem strictBool_same {v : Value} {b : Bool} (hv : v.IsDocument) (h : strictBool v = .ok b) :
    Value.bool b = v := by
  cases hv <;> cases h
  rfl

theorem strictNumber_same {v : Value} {n : Number} (hv : v.IsDocument)
    (h : strictNumber v = .ok n) : Value.number n = v := by
  cases hv with
  | number m =>
    cases m with
    | int m => cases h; rfl
    | float x =>
      rw [strictNumber] at h
      split at h <;> cases h
      rfl
  | _ => cases h

/-- A text in a format is read as it is. -/
theorem textStep_same {tag : Tag} {v w : Value} {t u : Tally} (hv : v.IsDocument)
    (h : textStep tag false v t = (.ok w, u)) : w = v := by
  obtain ⟨s, rfl, hs⟩ := readStep_ok h
  exact strictText_same hv hs

theorem formattedStep_preserves {r : Rule} {empty? : Option Bool}
    {problem? : String → Option String} (hconvert : r.common.convert = false) :
    Step.Preserves (formattedStep r empty? problem?) := by
  refine Step.preserves_of_id fun v w t u hv h => ?_
  obtain ⟨a, rfl, ⟨s, htext⟩, -⟩ := formattedStep_ok h
  rw [hconvert] at htext
  exact textStep_same hv htext

theorem emailStep_preserves (trimming : Bool) : Step.Preserves (emailStep false trimming) := by
  refine Step.preserves_of_id fun v w t u hv h => ?_
  obtain ⟨a, rfl, ⟨s, htext⟩, -⟩ := emailStep_ok h
  exact textStep_same hv htext

/-- No document is an instant. -/
theorem instantStep_preserves : Step.Preserves (instantStep false) := by
  intro v w t u hv h
  cases hv <;> exact absurd h reject_ok

/-! ### Lists -/

section

variable {d : Validator} {ds : List Validator} {v w : Value} {t u : Tally}

theorem validateItems_preserves (hd : d.Preserves) : ∀ {xs ys : List Value} {i : Nat} {t u : Tally},
    (∀ x ∈ xs, x.IsDocument) → validateItems d i xs t = (.ok ys, u) →
      List.Forall₂ Value.Reordered xs ys := by
  intro xs
  induction xs with
  | nil =>
    intro ys i t u _ h
    rw [(pure_ok h).1]
    exact .nil
  | cons x xs ih =>
    intro ys i t u hxs h
    obtain ⟨hx, hxs⟩ := List.forall_mem_cons.mp hxs
    obtain ⟨y, s, hy, h⟩ := bind_ok h
    obtain ⟨ys', s', hys, h⟩ := bind_ok h
    have hxy : x.Reordered y := hd x y hx ⟨t, s, part_ok hy⟩
    have hpresent : y.isAbsent = false := hxy.isAbsent_eq.symm.trans hx.present
    rw [(pure_ok h).1, hpresent, if_neg Bool.false_ne_true]
    exact .cons hxy (ih hxs hys)

theorem arrayStep_preserves (hd : d.Preserves) : Step.Preserves (arrayStep false d) := by
  intro v w t u hv h
  cases hv with
  | list hxs =>
    obtain ⟨ys, s, hys, h⟩ := bind_ok h
    rw [(pure_ok h).1]
    exact .of_items (validateItems_preserves hd hxs hys)
  | _ => exact absurd h reject_ok

theorem reordered_of_slots : ∀ {ds : List Validator} {xs ys : List Value}, xs.length = ds.length →
    (∀ d ∈ ds, d.Preserves) → (∀ x ∈ xs, x.IsDocument) →
      List.Forall₂ (fun e y => e.1.Gives e.2 y) (ds.zip xs) ys →
        List.Forall₂ Value.Reordered xs ys := by
  intro ds
  induction ds with
  | nil =>
    intro xs ys hlength _ _ h
    cases List.eq_nil_of_length_eq_zero hlength
    cases h
    exact .nil
  | cons d ds ih =>
    intro xs ys hlength hds hxs h
    cases xs with
    | nil => cases hlength
    | cons x xs =>
      obtain ⟨hd, hds⟩ := List.forall_mem_cons.mp hds
      obtain ⟨hx, hxs⟩ := List.forall_mem_cons.mp hxs
      cases h with
      | cons hy hys => exact .cons (hd _ _ hx hy) (ih (Nat.succ.inj hlength) hds hxs hys)

theorem tupleStep_preserves (hds : ∀ d ∈ ds, d.Preserves) : Step.Preserves (tupleStep ds) := by
  intro v w t u hv h
  obtain ⟨xs, ys, hitems, rfl, hys, hlength⟩ := tupleStep_ok h
  cases hv with
  | list hxs =>
    cases hitems
    exact .of_items (reordered_of_slots hlength hds hxs hys)
  | _ => cases hitems

/-! ### Mappings -/

/-- The entries of a record keep their keys and their order. -/
theorem validateEntries_preserves {keys values : Validator} (hkeys : keys.Preserves)
    (hvalues : values.Preserves) : ∀ {es done out : Entries Value} {t u : Tally},
      Entries.IsKeyed (done ++ es) → (∀ e ∈ es, e.2.IsDocument) →
        validateEntries keys values done es t = (.ok out, u) →
          ∃ fs, out = done ++ fs ∧ List.Forall₂ (SameKey Value.Reordered) es fs := by
  intro es
  induction es with
  | nil =>
    intro done out t u _ _ h
    exact ⟨[], by rw [(pure_ok h).1, List.append_nil], .nil⟩
  | cons e es ih =>
    obtain ⟨k, x⟩ := e
    intro done out t u hkeyed hdocs h
    obtain ⟨hx, hes⟩ := List.forall_mem_cons.mp hdocs
    obtain ⟨n, hn⟩ := hkeyed.texts _ (List.mem_append_right _ List.mem_cons_self)
    obtain rfl : k = .text n := hn
    obtain ⟨key, s, hkey, h⟩ := bind_ok h
    obtain ⟨y, s', hy, h⟩ := bind_ok h
    have hxy : x.Reordered y := hvalues x y hx ⟨s, s', part_ok hy⟩
    have hpresent : y.isAbsent = false := hxy.isAbsent_eq.symm.trans hx.present
    obtain rfl : key = .text n := by
      have hsame := hkeys _ _ (.text n) ⟨t, s, part_ok hkey⟩
      cases hsame
      rfl
    rw [hpresent, if_neg Bool.false_ne_true] at h
    obtain ⟨done', _, hput, h⟩ := bind_ok h
    have hdone' : done' = done ++ [(.text n, y)] := by
      have hput : (Except.ok (done.put (.text n) y) : Except Fault _) = .ok done' :=
        (ofFault_ok hput).1
      rw [← Except.ok.inj hput]
      exact Schema.put_of_none hkeyed.at?_before
    rw [hdone'] at h
    have hkeyed' : Entries.IsKeyed ((done ++ [(.text n, y)]) ++ es) := by
      refine hkeyed.of_keys ?_
      simp [Entries.keys]
    obtain ⟨fs, rfl, hfs⟩ := ih hkeyed' hes h
    refine ⟨(.text n, y) :: fs, ?_, .cons ⟨rfl, hxy⟩ hfs⟩
    rw [List.append_assoc]
    rfl

theorem recordStep_preserves {keys values : Validator} (hkeys : keys.Preserves)
    (hvalues : values.Preserves) : Step.Preserves (recordStep keys values) := by
  intro v w t u hv h
  obtain ⟨es, out, s, s', rfl, rfl, hout⟩ := recordStep_ok h
  cases hv with
  | mapping hkeyed hes =>
    have hall : Entries.IsKeyed ([] ++ es) := hkeyed
    obtain ⟨fs, rfl, hfs⟩ := validateEntries_preserves hkeys hvalues hall hes hout
    exact .of_entries (.of_forall₂ hfs)

end

section

variable {es out : Entries Value} {ds : Entries Validator} {mode : UnknownKeys} {t u : Tally}
  {n : String}

/-- Declared properties come out in their order, each at most once. -/
theorem validateDeclared_sublist : ∀ {ds : Entries Validator} {out : Entries Value} {t u : Tally},
    validateDeclared es ds t = (.ok out, u) → out.keys.Sublist ds.keys := by
  intro ds
  induction ds with
  | nil =>
    intro out t u h
    rw [(pure_ok h).1]
    exact .slnil
  | cons e ds ih =>
    obtain ⟨name, d⟩ := e
    intro out t u h
    obtain ⟨v, s, _, h⟩ := bind_ok h
    obtain ⟨others, s', hothers, h⟩ := bind_ok h
    rw [(pure_ok h).1]
    by_cases habsent : v.isAbsent = true
    · rw [if_pos habsent]
      exact (ih hothers).cons _
    · rw [if_neg habsent]
      exact (ih hothers).cons_cons _

/-- An undeclared entry is unknown. -/
theorem at?_unknown (hes : es.IsKeyed) (hn : ds.hasKey (.text n) = false) :
    (unknownEntries ds es).at? n = es.at? n := by
  have hunknown : Entries.IsKeyed (unknownEntries ds es) := hes.filter _
  refine Option.ext fun x => ?_
  rw [hunknown.at?_eq_some, hes.at?_eq_some, unknownEntries, List.mem_filter, hn]
  simp

/-- The keys of validated properties are different texts again. -/
theorem validateProperties_keyed (hes : es.IsKeyed) (hds : ds.IsKeyed)
    (h : validateProperties es ds mode t = (.ok out, u)) : out.IsKeyed := by
  obtain ⟨-, declared, hdeclared, hout⟩ := validateProperties_split h
  have hsublist := validateDeclared_sublist hdeclared
  have hmem : ∀ e ∈ declared, e.1 ∈ ds.keys := fun e he =>
    hsublist.subset (List.mem_map_of_mem he)
  have hkeyed : declared.IsKeyed := by
    refine ⟨fun e he => ?_, hsublist.nodup hds.nodup⟩
    obtain ⟨f, hf, hfe⟩ := List.mem_map.mp (hmem e he)
    exact hfe ▸ hds.texts f hf
  by_cases hpassthrough : mode = .passthrough
  · rw [if_pos hpassthrough] at hout
    rw [hout]
    have hunknown : Entries.IsKeyed (unknownEntries ds es) := hes.filter _
    constructor
    · intro e he
      exact (List.mem_append.mp he).elim (hkeyed.texts e) (hunknown.texts e)
    · rw [Entries.keys, List.map_append]
      refine List.nodup_append.mpr ⟨hkeyed.nodup, hunknown.nodup, fun a ha b hb hab => ?_⟩
      obtain ⟨e, he, rfl⟩ := List.mem_map.mp ha
      obtain ⟨f, hf, rfl⟩ := List.mem_map.mp hb
      -- a name that is declared has no unknown entry
      obtain ⟨g, hg, hge⟩ := List.mem_map.mp (hmem e he)
      have hkey : ds.hasKey f.1 = true := by
        rw [← hab, ← hge]
        exact hds.distinct.hasKey hg
      have hnot := (List.mem_filter.mp hf).2
      rw [hkey] at hnot
      cases hnot
  · rw [if_neg hpassthrough] at hout
    rw [hout]
    exact hkeyed

/-- Under a declared name stands what its validator has given. -/
theorem validateProperties_declared (hds : ds.IsKeyed) {d : Validator} (hd : (.text n, d) ∈ ds)
    (h : validateProperties es ds mode t = (.ok out, u)) :
    ∃ v, d.Gives ((es.at? n).getD .absent) v ∧
      out.at? n = if v.isAbsent then none else some v := by
  obtain ⟨-, declared, hdeclared, hout⟩ := validateProperties_split h
  obtain ⟨v, hv, hfind⟩ := validateDeclared_find hds.distinct hdeclared _ hd
  refine ⟨v, hv, ?_⟩
  rw [hout]
  split
  · have hnone : (unknownEntries ds es).at? n = none := find?_unknown hds.distinct hd
    rw [Schema.at?_append, hnone, Option.or_none]
    exact hfind
  · exact hfind

/-- Under any other name stands what has been given, unless unknown keys are dropped. -/
theorem validateProperties_undeclared (hes : es.IsKeyed) (hn : ds.hasKey (.text n) = false)
    (hmode : mode ≠ .remove) (h : validateProperties es ds mode t = (.ok out, u)) :
    out.at? n = es.at? n := by
  obtain ⟨hreject, declared, hdeclared, hout⟩ := validateProperties_split h
  have hnone : declared.at? n = none := by
    refine find?_none fun e he => ?_
    obtain ⟨-, d, hd, -⟩ := validateDeclared_ok hdeclared e he
    by_contra heq
    have hany : ds.hasKey (.text n) = true := List.any_eq_true.mpr ⟨_, hd, by simpa using heq⟩
    rw [hany] at hn
    cases hn
  by_cases hpassthrough : mode = .passthrough
  · rw [hout, if_pos hpassthrough, Schema.at?_append, hnone, Option.none_or]
    exact at?_unknown hes hn
  · have hempty : unknownEntries ds es = [] := by
      cases mode with
      | passthrough => exact absurd rfl hpassthrough
      | remove => exact absurd rfl hmode
      | reject => simpa using hreject
    rw [hout, if_neg hpassthrough, hnone, ← at?_unknown hes hn, hempty]
    rfl

/-- **Under every name the same content**: the declared properties keep theirs, and what is not
declared is kept, or there is nothing of the kind. -/
theorem validateProperties_alike (hes : es.IsKeyed) (hdocs : ∀ e ∈ es, e.2.IsDocument)
    (hds : ds.IsKeyed) (hpreserves : ∀ e ∈ ds, e.2.Preserves ∧ e.2.KeepsAbsent)
    (hmode : mode ≠ .remove) (h : validateProperties es ds mode t = (.ok out, u)) :
    Entries.Alike Value.Reordered es out := by
  intro n
  by_cases hkey : ds.hasKey (.text n) = true
  · obtain ⟨⟨name, d⟩, hd, hname⟩ := List.any_eq_true.mp hkey
    obtain rfl : name = .text n := by
      obtain ⟨m, hm⟩ := hds.texts _ hd
      have hm : name = .text m := hm
      rw [hm] at hname ⊢
      rw [beq_iff_eq.mp (show (n == m) = true from hname)]
    obtain ⟨hpreserve, habsent⟩ := hpreserves _ hd
    obtain ⟨v, hv, hat⟩ := validateProperties_declared hds hd h
    rw [hat]
    cases hx : es.at? n with
    | none =>
      rw [hx] at hv
      rw [habsent v hv, if_pos (by rfl)]
      exact .none
    | some x =>
      rw [hx] at hv
      have hdoc : x.IsDocument := hdocs _ (hes.at?_eq_some.mp hx)
      have hxv : x.Reordered v := hpreserve x v hdoc hv
      rw [← hxv.isAbsent_eq, hdoc.present, if_neg Bool.false_ne_true]
      exact .some hxv
  · rw [validateProperties_undeclared hes (by simpa using hkey) hmode h]
    cases hx : es.at? n with
    | none => exact .none
    | some x => exact .some (.same x)

theorem objectStep_preserves (hds : ds.IsKeyed)
    (hpreserves : ∀ e ∈ ds, e.2.Preserves ∧ e.2.KeepsAbsent) (hmode : mode ≠ .remove) :
    Step.Preserves (objectStep ds mode) := by
  intro v w t u hv h
  obtain ⟨es, out, s, s', rfl, rfl, hout⟩ := objectStep_ok h
  cases hv with
  | mapping hkeyed hes =>
    exact .of_entries (.of_alike hkeyed (validateProperties_keyed hkeyed hds hout)
      (validateProperties_alike hkeyed hes hds hpreserves hmode hout))

end

/-- The result of a union is that of a branch. -/
theorem unionStep_preserves {ds : List Validator} (hds : ∀ d ∈ ds, d.Preserves) :
    Step.Preserves (unionStep ds) := by
  intro v w t u hv h
  obtain ⟨d, hd, hw⟩ := unionStep_ok h
  exact hds d hd v w hv hw

/-! ### Rules without rules inside -/

/-- The steps of rules without rules inside, where nothing is converted. -/
theorem scalarStep_preserves {r : Rule} (hconvert : r.common.convert = false) :
    Step.Preserves r.scalarStep := by
  have hany : Step.Preserves anyStep := Step.preserves_of_id fun v w t u _ h => (pure_ok h).1
  have htext : ∀ tag : Tag, Step.Preserves (textStep tag false) :=
    fun tag => readStep_preserves strictText_same
  cases r <;> simp only [Rule.common] at hconvert <;>
    simp only [Rule.scalarStep, hconvert, numberStep, Bool.false_eq_true, if_false]
  case string => exact htext _
  case number => exact readStep_preserves strictNumber_same
  case boolean => exact readStep_preserves strictBool_same
  case date => exact instantStep_preserves
  case email => exact emailStep_preserves _
  case currency => exact htext _
  case «class» => exact testStep_preserves
  case function => exact testStep_preserves
  case luhn => exact htext _
  case mac => exact htext _
  case url => exact formattedStep_preserves hconvert
  case uuid => exact formattedStep_preserves hconvert
  case objectId c identity _ =>
    cases identity.identities? with
    | none => exact hany
    | some k => exact testStep_preserves
  all_goals exact hany

/-- Nothing changes a value after the shape stage of such a rule. -/
theorem Rule.isFixed_of_letsThrough {r : Rule} (h : r.letsThrough = true) : r.isFixed = true := by
  cases r with
  | string c o =>
    simp only [letsThrough, Bool.and_eq_true, Bool.not_eq_true', Option.isNone_iff_eq_none] at h
    obtain ⟨⟨⟨⟨⟨⟨htrim, hleft⟩, hright⟩, hlower⟩, hupper⟩, hstart⟩, hend⟩ := h
    simp [Rule.isFixed, StringOptions.preparation, StringOptions.padding, htrim, hleft, hright,
      hlower, hupper, hstart, hend]
  | _ => first | rfl | exact h

/-! ### Rules -/

/-- The validators of a rule without changes let documents through, and what is absent as well. -/
def Rule.Preserves (r : Rule) : Prop :=
  (∀ q ∈ r.nodes, q.isPlain = true ∧ q.NamesApart) → ∀ ctx d, r.keepsUnknown ctx = true →
    r.CompilesTo ctx d → d.Preserves

theorem Rule.tag_ne_of_letsThrough {r : Rule} (h : r.letsThrough = true) : r.tag ≠ .forbidden := by
  intro htag
  cases r with
  | forbidden => cases h
  | _ => cases htag

/-- Nothing takes the place of an absent value. -/
theorem Rule.CompilesTo.keepsAbsent {r : Rule} {ctx : Strictness} {d : Validator}
    (h : r.CompilesTo ctx d) (hplain : r.isPlain = true) : d.KeepsAbsent := by
  obtain ⟨-, hdefault, hthrough⟩ := Rule.isPlain_iff.mp hplain
  rintro w ⟨t, u, hw⟩
  rw [h.absent_eq (Rule.tag_ne_of_letsThrough hthrough) hdefault] at hw
  split at hw
  · exact (pure_ok hw).1
  · exact absurd hw reject_ok

theorem Rule.preserves (r : Rule) : r.Preserves := by
  refine Rule.induct ⟨?simple, ?array, ?object, ?multi, ?tuple, ?record⟩ r
  case simple =>
    intro r hcomposite hall ctx d _ h
    obtain ⟨hplain, -⟩ := hall r r.self_mem_nodes
    obtain ⟨hconvert, -, hthrough⟩ := Rule.isPlain_iff.mp hplain
    obtain ⟨plan, s, rest, hplan, hd, hmade⟩ :=
      h.planned hcomposite (Rule.tag_ne_of_letsThrough hthrough)
    exact hmade.shape.preserves (scalarStep_preserves hconvert) hd.stages
      (hmade.all_checks hplan (Rule.isFixed_of_letsThrough hthrough))
  case array =>
    intro c items o ih hall ctx d hkeeps h
    obtain ⟨di, _, shape, sizes, contents, checks, hdi, -, hs, hsizes, -, hcontents, hd⟩ := h.array
    have hitems := ih (fun q hq => hall q (Rule.mem_nodes_array hq)) ctx di hkeeps hdi
    have hconvert : c.convert = false :=
      (Rule.isPlain_iff.mp (hall _ (Rule.self_mem_nodes _)).1).1
    refine hs.preserves ?_ hd.stages
      (List.forall_mem_append.mpr ⟨hsizes.all_checks, hcontents.all_checks⟩)
    rw [hconvert]
    exact arrayStep_preserves hitems
  case object =>
    intro c props o ih hall ctx d hkeeps h
    obtain ⟨ds, _, shape, sizes, hds, -, hs, hsizes, hd⟩ := h.object
    rw [Rule.keepsUnknown, Bool.and_eq_true, Rule.propsKeepUnknown_iff] at hkeeps
    obtain ⟨hmode, hkeeps⟩ := hkeeps
    have hkeyed := keyed_of_props (R := fun q e => q.CompilesTo (ctx.override o.strict?) e) hds
      (hall _ (Rule.self_mem_nodes _)).2
    refine hs.preserves (objectStep_preserves hkeyed ?_ (by simpa using hmode)) hd.stages
      hsizes.all_checks
    intro e he
    obtain ⟨f, hf, rfl⟩ := List.mem_map.mp he
    obtain ⟨p, hp, -, hcompiles⟩ := exists_of_mem_right hds hf
    exact ⟨ih p hp (fun q hq => hall q (Rule.mem_nodes_object hp hq)) _ _ (hkeeps p hp) hcompiles,
      hcompiles.keepsAbsent (hall _ (Rule.mem_nodes_object hp (Rule.self_mem_nodes _))).1⟩
  case multi =>
    intro c branches ih hall ctx d hkeeps h
    obtain ⟨ds, _, shape, hds, -, hs, hd⟩ := h.multi
    have hkeeps := Rule.allKeepUnknown_iff.mp hkeeps
    refine hs.preserves (unionStep_preserves fun d' hd' => ?_) hd.stages no_stages
    obtain ⟨q, hq, hcompiles⟩ := exists_of_mem_right hds hd'
    exact ih q hq (fun p hp => hall p (Rule.mem_nodes_multi hq hp)) ctx d' (hkeeps q hq) hcompiles
  case tuple =>
    intro c slots ih hall ctx d hkeeps h
    obtain ⟨ds, _, shape, hds, -, hs, hd⟩ := h.tuple
    have hkeeps := Rule.allKeepUnknown_iff.mp hkeeps
    refine hs.preserves (tupleStep_preserves fun d' hd' => ?_) hd.stages no_stages
    obtain ⟨q, hq, hcompiles⟩ := exists_of_mem_right hds hd'
    exact ih q hq (fun p hp => hall p (Rule.mem_nodes_tuple hq hp)) ctx d' (hkeeps q hq) hcompiles
  case record =>
    intro c key value ihkey ihvalue hall ctx d hkeeps h
    obtain ⟨keys, values, _, _, shape, hkeys, hvalues, -, -, hs, hd⟩ := h.record
    rw [Rule.keepsUnknown, Bool.and_eq_true] at hkeeps
    have hkey := ihkey (fun q hq => hall q (Rule.mem_nodes_key hq)) ctx keys hkeeps.1 hkeys
    have hvalue :=
      ihvalue (fun q hq => hall q (Rule.mem_nodes_value hq)) ctx values hkeeps.2 hvalues
    exact hs.preserves (recordStep_preserves hkey hvalue) hd.stages no_stages

/-- **Accepted documents are left alone**: where no rule declares a change, none forbids values and
no object drops unknown keys, a document that is accepted comes out as it is but for the order of
keys, at any depth. -/
theorem documents_unchanged {r : Rule} {ctx : Strictness} {d : Validator} {v w : Value}
    (hplain : ∀ q ∈ r.nodes, q.isPlain = true ∧ q.NamesApart) (hkeeps : r.keepsUnknown ctx = true)
    (h : r.CompilesTo ctx d) (hv : v.IsDocument) (hw : d.Gives v w) : v.Reordered w :=
  r.preserves hplain ctx d hkeeps h v w hv hw

/-- A declared property, of a record in one branch of a union, comes before the unknown ones. -/
theorem documents_unchanged_union :
    let r := Rule.object {}
      [("id", .multi {} [.number {} {}, .record {} (.string {} {}) (.boolean {})])] {}
    let x := Value.mapping [(.text "b", .bool true), (.text "a", .bool false)]
    let v := Value.mapping [(.text "else", .list [.null]), (.text "id", x)]
    let w := Value.mapping [(.text "id", x), (.text "else", .list [.null])]
    ∃ d : Validator, r.CompilesTo {} d ∧ d.Gives v w ∧ v.Reordered w := by
  intro r x v w
  obtain ⟨d, hd, hw⟩ : ∃ d : Validator, r.CompilesTo {} d ∧ d.Gives v w :=
    ⟨_, ⟨"$", [], [], rfl⟩, [], [], rfl⟩
  refine ⟨d, hd, hw, documents_unchanged (fun q hq => ?_) (by decide) hd ?_ hw⟩
  · simp only [r, Rule.nodes, Rule.nodesOfProps, Rule.nodesOfList, List.append_nil,
      List.cons_append, List.nil_append, List.mem_cons, List.not_mem_nil, or_false] at hq
    rcases hq with rfl | rfl | rfl | rfl | rfl | rfl <;> exact ⟨rfl, by simp [Rule.NamesApart]⟩
  · refine .mapping (Entries.isKeyed_pair (by decide)) (List.forall_mem_cons.mpr ⟨.list ?_, ?_⟩)
    · exact List.forall_mem_singleton.mpr .null
    · refine List.forall_mem_singleton.mpr (.mapping (Entries.isKeyed_pair (by decide)) ?_)
      exact List.forall_mem_cons.mpr ⟨.bool _, List.forall_mem_singleton.mpr (.bool _)⟩

end RuleSchema
