import RuleSchema.Proofs.Order.Fields

/-!
# Rules with their keys in another order

A rule that is read from a rule mapping with its keys in another order is the same but for the
order of keys in the values that it holds, and the order of the properties of the objects inside.

* `Rule.Reordered` is this relation.
* `Reordered.common`: the shared options of two such rules.
* `simpleRule_agree`: what is read from the fields of two mappings, for the types without rules
  inside.
-/

namespace RuleSchema

open Checked FieldReader

/-! ### The relation -/

/-- The same rule with other shared options. -/
def Rule.withCommon (c : CommonOptions) : Rule → Rule
  | .string _ o => .string c o
  | .number _ o => .number c o
  | .boolean _ => .boolean c
  | .date _ => .date c
  | .any _ => .any c
  | .email _ o => .email c o
  | .currency _ o => .currency c o
  | .class _ k => .class c k
  | .enum _ values => .enum c values
  | .equal _ value strict => .equal c value strict
  | .forbidden _ remove => .forbidden c remove
  | .function _ => .function c
  | .luhn _ => .luhn c
  | .mac _ => .mac c
  | .url _ empty? => .url c empty?
  | .uuid _ empty? => .uuid c empty?
  | .objectId _ identity conversion => .objectId c identity conversion
  | .array _ items o => .array c items o
  | .object _ props o => .object c props o
  | .multi _ branches => .multi c branches
  | .tuple _ slots => .tuple c slots
  | .record _ key value => .record c key value

/-- The same rule but for the order of keys in values, and of the properties of objects with
distinct names. -/
inductive Rule.Reordered : Rule → Rule → Prop
  | simple {r : Rule} {c : CommonOptions} : r.tag.isComposite = false → r.common.Reordered c →
      Reordered r (r.withCommon c)
  | enum {c d : CommonOptions} {vs ws : List Value} : c.Reordered d →
      List.Forall₂ Value.Reordered vs ws → Reordered (.enum c vs) (.enum d ws)
  | equal {c d : CommonOptions} {v w : Value} {strict : Bool} : c.Reordered d → v.Reordered w →
      Reordered (.equal c v strict) (.equal d w strict)
  | array {c d : CommonOptions} {r q : Rule} {o p : ArrayOptions} : c.Reordered d →
      o.Reordered p → Reordered r q → Reordered (.array c r o) (.array d q p)
  | object {c d : CommonOptions} {es mid fs : List (String × Rule)} {o : ObjectOptions} :
      c.Reordered d → mid.map Prod.fst = es.map Prod.fst →
      (∀ {e f}, (e, f) ∈ es.zip mid → Reordered e.2 f.2) → Shuffled DistinctNames mid fs →
      Reordered (.object c es o) (.object d fs o)
  | multi {c d : CommonOptions} {rs qs : List Rule} : c.Reordered d → rs.length = qs.length →
      (∀ {r q}, (r, q) ∈ rs.zip qs → Reordered r q) → Reordered (.multi c rs) (.multi d qs)
  | tuple {c d : CommonOptions} {rs qs : List Rule} : c.Reordered d → rs.length = qs.length →
      (∀ {r q}, (r, q) ∈ rs.zip qs → Reordered r q) → Reordered (.tuple c rs) (.tuple d qs)
  | record {c d : CommonOptions} {key key' value value' : Rule} : c.Reordered d →
      Reordered key key' → Reordered value value' →
      Reordered (.record c key value) (.record d key' value')

theorem optionRel_refl {α : Type} {R : α → α → Prop} (hR : ∀ a, R a a) :
    ∀ o : Option α, Option.Rel R o o
  | none => .none
  | some a => .some (hR a)

theorem CommonOptions.Reordered.refl (c : CommonOptions) : c.Reordered c :=
  ⟨rfl, rfl, rfl, optionRel_refl .same _, rfl⟩

theorem ArrayOptions.Reordered.refl (o : ArrayOptions) : o.Reordered o :=
  ⟨rfl, rfl, rfl, rfl, optionRel_refl .same _, rfl,
    optionRel_refl (fun _ => List.forall₂_same.mpr fun v _ => .same v) _⟩

namespace Rule.Reordered

theorem of_rules {R : Rule → Rule → Prop} {rs : List Rule} (h : ∀ r ∈ rs, R r r) {r q : Rule}
    (hmem : (r, q) ∈ rs.zip rs) : R r q :=
  (List.forall₂_iff_zip.mp (List.forall₂_same.mpr h)).2 hmem

protected theorem refl (r : Rule) : Reordered r r := by
  refine Rule.induct (P := fun r => Reordered r r) ⟨fun r hr => ?simple,
    fun c items o hitems => ?array, fun c props o hprops => ?object, fun c branches h => ?multi,
    fun c slots h => ?tuple, fun c key value hkey hvalue => ?record⟩ r
  case simple =>
    have hsame : r.withCommon r.common = r := by cases r <;> rfl
    have h := simple hr (.refl r.common)
    rwa [hsame] at h
  case array => exact .array (.refl c) (.refl o) hitems
  case object =>
    have hsame : List.Forall₂ (fun e f : String × Rule => Reordered e.2 f.2) props props :=
      List.forall₂_same.mpr hprops
    exact .object (.refl c) rfl (fun hmem => (List.forall₂_iff_zip.mp hsame).2 hmem) .same
  case multi => exact .multi (.refl c) rfl fun hmem => of_rules h hmem
  case tuple => exact .tuple (.refl c) rfl fun hmem => of_rules h hmem
  case record => exact .record (.refl c) hkey hvalue

theorem of_props {c d : CommonOptions} {es fs : List (String × Rule)} {o : ObjectOptions}
    (hc : c.Reordered d) (h : Reordering DistinctNames (SameKey Reordered) es fs) :
    Reordered (.object c es o) (.object d fs o) := by
  obtain ⟨mid, hmid, hshuffled⟩ := h
  exact .object hc (keys_of_sameKey hmid) (fun hmem => ((List.forall₂_iff_zip.mp hmid).2 hmem).2)
    hshuffled

theorem of_branches {c d : CommonOptions} {rs qs : List Rule} (hc : c.Reordered d)
    (h : List.Forall₂ Reordered rs qs) : Reordered (.multi c rs) (.multi d qs) :=
  .multi hc h.length_eq fun hmem => (List.forall₂_iff_zip.mp h).2 hmem

theorem of_slots {c d : CommonOptions} {rs qs : List Rule} (hc : c.Reordered d)
    (h : List.Forall₂ Reordered rs qs) : Reordered (.tuple c rs) (.tuple d qs) :=
  .tuple hc h.length_eq fun hmem => (List.forall₂_iff_zip.mp h).2 hmem

/-- The shared options of two such rules. -/
theorem common {r q : Rule} (h : Reordered r q) : r.common.Reordered q.common := by
  cases h with
  | @simple r c hr hc =>
    have hcommon : (r.withCommon c).common = c := by cases r <;> rfl
    rwa [hcommon]
  | enum hc | equal hc | array hc | object hc | multi hc | tuple hc | record hc => exact hc

theorem tag_eq {r q : Rule} (h : Reordered r q) : r.tag = q.tag := by
  cases h with
  | @simple r c => cases r <;> rfl
  | _ => rfl

theorem isRequired_eq {r q : Rule} (h : Reordered r q) : r.isRequired = q.isRequired := by
  have htag := h.tag_eq
  have hcommon := h.common
  have hdefault : r.hasDefault = q.hasDefault := by
    have hd := hcommon.default
    rw [Rule.hasDefault, Rule.hasDefault]
    generalize r.common.default? = x at hd ⊢
    generalize q.common.default? = y at hd ⊢
    cases hd <;> rfl
  have hrequired : ∀ r : Rule, r.isRequired
      = (decide (r.tag ≠ .forbidden) && !(r.common.optional || r.hasDefault)) := by
    intro r
    cases r <;> rfl
  rw [hrequired, hrequired, htag, hcommon.optional, hdefault]

end Rule.Reordered

/-! ### Rules without rules inside -/

section

variable {es fs : Entries Value}

theorem read_convert_good {convert : Checked Bool} {c : CommonOptions}
    (h : CommonOptions.read es convert = .good c) : ∃ b, convert = .good b := by
  obtain ⟨_, _, h₁, _, _⟩ := seq_good h
  obtain ⟨_, _, h₂, _, _⟩ := seq_good h₁
  obtain ⟨_, b, _, hb, _⟩ := seq_good h₂
  exact ⟨b, hb⟩

/-- The fields of an identity, of which one says what it is converted to. -/
theorem identity_agree (h : Entries.Alike Value.Reordered es fs) :
    Agree Rule.Reordered (simpleRule es .objectId) (simpleRule fs .objectId) := by
  have hconversion := read_agree h conversion_respects (own "convert") .keep rfl
  intro r q hr hq
  obtain ⟨_, k, hf, hk, rfl⟩ := seq_good (closed_good hr)
  obtain ⟨c, hc, rfl⟩ := map_good hf
  obtain ⟨_, k', hf', hk', rfl⟩ := seq_good (closed_good hq)
  obtain ⟨c', hc', rfl⟩ := map_good hf'
  obtain ⟨_, hb⟩ := read_convert_good hc
  obtain ⟨kind, hkind, rfl⟩ := map_good hb
  obtain ⟨_, hb'⟩ := read_convert_good hc'
  obtain ⟨kind', hkind', rfl⟩ := map_good hb'
  obtain rfl := hconversion _ _ hkind hkind'
  obtain rfl := require_agree h classRef_respects _ _ _ hk hk'
  rw [hkind] at hc ⊢
  rw [hkind'] at hc' ⊢
  have hcc' := CommonOptions.read_agree h (fun a b ha hb => ?_) _ _ hc hc'
  · exact .simple (r := .objectId c k kind) rfl hcc'
  · exact Checked.good.inj (ha.symm.trans hb)

/-- **What is read from the fields of two mappings**, for a type without rules inside. -/
theorem simpleRule_agree (h : Entries.Alike Value.Reordered es fs) {tag : Tag}
    (htag : tag.isComposite = false) :
    Agree Rule.Reordered (simpleRule es tag) (simpleRule fs tag) := by
  have hcommon := readAll_agree h
  have hone : ∀ {f : CommonOptions → Rule} {names : List FieldName},
      (∀ {c d}, c.Reordered d → (f c).Reordered (f d)) →
      Agree Rule.Reordered (closed (f <$> CommonOptions.readAll es) names es)
        (closed (f <$> CommonOptions.readAll fs) names fs) :=
    fun hf => (hcommon.map hf).closed
  have htwo : ∀ {α : Type} {f : CommonOptions → α → Rule} {x y : Checked α}
      {names : List FieldName}, Agree Eq x y →
      (∀ {c d} a, c.Reordered d → (f c a).Reordered (f d a)) →
      Agree Rule.Reordered (closed (f <$> CommonOptions.readAll es <*> x) names es)
        (closed (f <$> CommonOptions.readAll fs <*> y) names fs) := by
    intro α f x y names hxy hf
    have hmap : Agree (fun F G => ∀ a, (F a).Reordered (G a)) (f <$> CommonOptions.readAll es)
        (f <$> CommonOptions.readAll fs) := hcommon.map fun hcd a => hf a hcd
    exact (hmap.seq hxy fun hFG hab => hab ▸ hFG _).closed
  cases tag with
  | string =>
    exact htwo (StringOptions.read_agree h) fun o hcd => .simple (r := .string _ o) rfl hcd
  | number =>
    exact htwo (NumberOptions.read_agree h) fun o hcd => .simple (r := .number _ o) rfl hcd
  | boolean => exact hone fun hcd => .simple (r := .boolean _) rfl hcd
  | date => exact hone fun hcd => .simple (r := .date _) rfl hcd
  | any => exact hone fun hcd => .simple (r := .any _) rfl hcd
  | email =>
    exact htwo (EmailOptions.read_agree h) fun o hcd => .simple (r := .email _ o) rfl hcd
  | currency =>
    exact htwo (CurrencyOptions.read_agree h) fun o hcd => .simple (r := .currency _ o) rfl hcd
  | «class» =>
    exact htwo (require_agree h classRef_respects _) fun k hcd =>
      .simple (r := .class _ k) rfl hcd
  | enum =>
    have hmap : Agree (fun F G => ∀ {vs ws}, List.Forall₂ Value.Reordered vs ws →
        (F vs).Reordered (G ws)) (Rule.enum <$> CommonOptions.readAll es)
        (Rule.enum <$> CommonOptions.readAll fs) :=
      hcommon.map fun hcd _ _ hvws => .enum hcd hvws
    have hvalues := require_agree h (nonEmptyList_respects anything_respects) (own "values")
    exact (hmap.seq hvalues fun hFG hvws => hFG hvws).closed
  | equal =>
    have hmap : Agree (fun F G => ∀ {v w strict}, v.Reordered w →
        (F v strict).Reordered (G w strict)) (Rule.equal <$> CommonOptions.readAll es)
        (Rule.equal <$> CommonOptions.readAll fs) :=
      hcommon.map fun hcd _ _ _ hvw => .equal hcd hvw
    have hvalue : Agree (fun F G => ∀ strict, (F strict).Reordered (G strict))
        (Rule.equal <$> CommonOptions.readAll es <*> (own "value").require es anything)
        (Rule.equal <$> CommonOptions.readAll fs <*> (own "value").require fs anything) :=
      hmap.seq (require_agree h anything_respects _) fun hFG hvw _ => hFG hvw
    exact (hvalue.seq (flag_agree h _) fun hFG hab => hab ▸ hFG _).closed
  | forbidden => exact htwo (flag_agree h _) fun b hcd => .simple (r := .forbidden _ b) rfl hcd
  | function => exact hone fun hcd => .simple (r := .function _) rfl hcd
  | luhn => exact hone fun hcd => .simple (r := .luhn _) rfl hcd
  | mac => exact hone fun hcd => .simple (r := .mac _) rfl hcd
  | url =>
    exact htwo (optionalField_agree h readBool_respects _) fun b hcd =>
      .simple (r := .url _ b) rfl hcd
  | uuid =>
    exact htwo (optionalField_agree h readBool_respects _) fun b hcd =>
      .simple (r := .uuid _ b) rfl hcd
  | objectId => exact identity_agree h
  | array | object | multi | tuple | record => cases htag

end

end RuleSchema
