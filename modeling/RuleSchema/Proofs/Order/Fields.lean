import RuleSchema.Proofs.Order.Values
import RuleSchema.Proofs.Rule.Json

/-!
# The fields of a rule mapping in another order

The fields of a rule are looked up by name, so that a rule mapping with its keys in another order
has the same fields.  The content of a field may itself have its keys in another order: a reader of
scalars does not accept such a content at all, and the readers of any values give it as it is.

* `ResultsAgree R` and `Checked.Agree R`: whenever both are results, they correspond.
* `FieldReader.Respects R`: what is read from two values that are the same but for the order of
  keys corresponds.
* `read_agree` and `require_agree`: what is read from a field of two mappings.
* `CommonOptions.Reordered` and `ArrayOptions.Reordered` relate the options that hold values of any
  kind; the other options are the same on both sides.
-/

namespace RuleSchema

/-! ### Results -/

section

variable {ε α β γ δ : Type} {R : α → β → Prop} {Q : γ → δ → Prop}

/-- Whenever both are results, they correspond. -/
def ResultsAgree (R : α → β → Prop) (x : Except ε α) (y : Except ε β) : Prop :=
  ∀ a b, x = .ok a → y = .ok b → R a b

namespace ResultsAgree

theorem ok {a : α} {b : β} (h : R a b) : ResultsAgree R (.ok a : Except ε α) (.ok b) := by
  rintro _ _ ⟨⟩ ⟨⟩
  exact h

theorem error_left {e : ε} {y : Except ε β} : ResultsAgree R (.error e) y :=
  fun _ _ h => by cases h

theorem error_right {e : ε} {x : Except ε α} : ResultsAgree R x (.error e) :=
  fun _ _ _ h => by cases h

theorem bind {x : Except ε α} {y : Except ε β} {f : α → Except ε γ} {g : β → Except ε δ}
    (h : ResultsAgree R x y) (hfg : ∀ {a b}, R a b → ResultsAgree Q (f a) (g b)) :
    ResultsAgree Q (x >>= f) (y >>= g) := by
  intro c d hc hd
  obtain ⟨a, ha, hc⟩ := except_bind_ok hc
  obtain ⟨b, hb, hd⟩ := except_bind_ok hd
  exact hfg (h a b ha hb) c d hc hd

/-- A result is the same on both sides. -/
theorem refl (x : Except ε α) : ResultsAgree Eq x x :=
  fun _ _ ha hb => Except.ok.inj (ha.symm.trans hb)

end ResultsAgree

end

namespace Checked

variable {α β γ δ : Type} {R : α → β → Prop}

/-- Whenever both are results, they correspond. -/
def Agree (R : α → β → Prop) (x : Checked α) (y : Checked β) : Prop :=
  ∀ a b, x = .good a → y = .good b → R a b

theorem Agree.map {Q : γ → δ → Prop} {x : Checked α} {y : Checked β} {f : α → γ} {g : β → δ}
    (h : Agree R x y) (hQ : ∀ {a b}, R a b → Q (f a) (g b)) : Agree Q (f <$> x) (g <$> y) := by
  intro c d hc hd
  obtain ⟨a, ha, rfl⟩ := map_good hc
  obtain ⟨b, hb, rfl⟩ := map_good hd
  exact hQ (h a b ha hb)

theorem Agree.seq {Q : γ → δ → Prop} {S : (α → γ) → (β → δ) → Prop} {f : Checked (α → γ)}
    {g : Checked (β → δ)} {x : Checked α} {y : Checked β} (hf : Agree S f g) (h : Agree R x y)
    (hQ : ∀ {F G a b}, S F G → R a b → Q (F a) (G b)) : Agree Q (f <*> x) (g <*> y) := by
  intro c d hc hd
  obtain ⟨F, a, hF, ha, rfl⟩ := seq_good hc
  obtain ⟨G, b, hG, hb, rfl⟩ := seq_good hd
  exact hQ (hf F G hF hG) (h a b ha hb)

/-- A function and its argument that are the same on both sides. -/
theorem Agree.applied {f g : Checked (α → γ)} {x y : Checked α} (hf : Agree Eq f g)
    (h : Agree Eq x y) : Agree Eq (f <*> x) (g <*> y) :=
  hf.seq h fun hFG hab => by rw [hFG, hab]

theorem Agree.mapped {x y : Checked α} (f : α → γ) (h : Agree Eq x y) :
    Agree Eq (f <$> x) (f <$> y) :=
  h.map fun hab => congrArg f hab

theorem Agree.closed {x : Checked α} {y : Checked β} {names : List FieldName}
    {es fs : Entries Value} (h : Agree R x y) :
    Agree R (RuleSchema.closed x names es) (RuleSchema.closed y names fs) :=
  fun a b ha hb => h a b (closed_good ha) (closed_good hb)

end Checked

open Checked

/-! ### Readers -/

namespace FieldReader

variable {α : Type} {R : α → α → Prop} {reader : FieldReader α}

/-- What is read from two values that are the same but for the order of keys corresponds. -/
def Respects (R : α → α → Prop) (reader : FieldReader α) : Prop :=
  ∀ {v w a b}, v.Reordered w → reader v = .ok a → reader w = .ok b → R a b

/-- A reader that accepts neither lists nor mappings reads the same from both. -/
theorem respects_of_scalar (hlist : ∀ xs, ∃ ps, reader (.list xs) = .error ps)
    (hmapping : ∀ es, ∃ ps, reader (.mapping es) = .error ps) : Respects Eq reader := by
  intro v w a b hvw hv hw
  cases hvw with
  | same => exact Except.ok.inj (hv.symm.trans hw)
  | list =>
    obtain ⟨ps, hps⟩ := hlist _
    cases hps.symm.trans hv
  | mapping =>
    obtain ⟨ps, hps⟩ := hmapping _
    cases hps.symm.trans hv

theorem readBool_respects : Respects Eq (scalar readBool) :=
  respects_of_scalar (fun _ => ⟨_, rfl⟩) fun _ => ⟨_, rfl⟩

theorem readText_respects : Respects Eq (scalar readText) :=
  respects_of_scalar (fun _ => ⟨_, rfl⟩) fun _ => ⟨_, rfl⟩

theorem readInt_respects : Respects Eq (scalar readInt) :=
  respects_of_scalar (fun _ => ⟨_, rfl⟩) fun _ => ⟨_, rfl⟩

theorem count_respects : Respects Eq count :=
  respects_of_scalar (fun _ => ⟨_, rfl⟩) fun _ => ⟨_, rfl⟩

theorem number_respects : Respects Eq number :=
  respects_of_scalar (fun _ => ⟨_, rfl⟩) fun _ => ⟨_, rfl⟩

theorem nonEmptyText_respects : Respects Eq nonEmptyText :=
  respects_of_scalar (fun _ => ⟨_, rfl⟩) fun _ => ⟨_, rfl⟩

theorem pattern_respects : Respects Eq pattern :=
  respects_of_scalar (fun _ => ⟨_, rfl⟩) fun _ => ⟨_, rfl⟩

theorem classRef_respects : Respects Eq classRef :=
  respects_of_scalar (fun _ => ⟨_, rfl⟩) fun _ => ⟨_, rfl⟩

theorem strictness_respects : Respects Eq strictness :=
  respects_of_scalar (fun _ => ⟨_, rfl⟩) fun _ => ⟨_, rfl⟩

theorem conversion_respects : Respects Eq conversion :=
  respects_of_scalar (fun _ => ⟨_, rfl⟩) fun _ => ⟨_, rfl⟩

theorem anything_respects : Respects Value.Reordered anything := by
  rintro v w _ _ hvw ⟨⟩ ⟨⟩
  exact hvw

theorem something_respects : Respects (Option.Rel Value.Reordered) something := by
  rintro v w _ _ hvw ⟨⟩ ⟨⟩
  rw [hvw.isNull_eq]
  split
  · exact .none
  · exact .some hvw

theorem nullable_respects (h : Respects R reader) : Respects (Option.Rel R) (nullable reader) := by
  intro v w a b hvw hv hw
  rw [nullable] at hv hw
  rw [hvw.isNull_eq] at hv
  split at hv
  · next hnull =>
    rw [if_pos hnull] at hw
    cases hv
    cases hw
    exact .none
  · next hnull =>
    rw [if_neg hnull] at hw
    cases hreadv : reader v with
    | error ps => rw [hreadv] at hv; cases hv
    | ok x =>
      cases hreadw : reader w with
      | error ps => rw [hreadw] at hw; cases hw
      | ok y =>
        rw [hreadv] at hv
        rw [hreadw] at hw
        cases hv
        cases hw
        exact .some (h hvw hreadv hreadw)

theorem collect_agree (h : Respects R reader) {vs ws : List Value}
    (hvws : List.Forall₂ Value.Reordered vs ws) (i : Nat) :
    Agree (List.Forall₂ R) (collect reader i vs) (collect reader i ws) := by
  induction hvws generalizing i with
  | nil => rintro _ _ ⟨⟩ ⟨⟩; exact .nil
  | @cons v w _ _ hvw _ ih =>
    have hone : Agree R (under (toString i) (reader v)) (under (toString i) (reader w)) := by
      intro a b ha hb
      cases hv : reader v with
      | error ps => rw [hv] at ha; cases ha
      | ok x =>
        cases hw : reader w with
        | error ps => rw [hw] at hb; cases hb
        | ok y =>
          rw [hv] at ha
          rw [hw] at hb
          cases ha
          cases hb
          exact h hvw hv hw
    have hcons : Agree (fun F G => ∀ {as bs}, List.Forall₂ R as bs → List.Forall₂ R (F as) (G bs))
        (List.cons <$> under (toString i) (reader v))
        (List.cons <$> under (toString i) (reader w)) :=
      hone.map fun hab _ _ habs => .cons hab habs
    exact hcons.seq (ih (i + 1)) fun hFG habs => hFG habs

theorem list_ok {v : Value} {as : List α} (h : list reader v = .ok as) :
    ∃ vs, v.items? = some vs ∧ collect reader 0 vs = .good as := by
  rw [list] at h
  split at h
  · cases h
  · next vs hvs =>
    split at h
    · next hcollect =>
      cases h
      exact ⟨vs, hvs, hcollect⟩
    · cases h

theorem list_respects (h : Respects R reader) : Respects (List.Forall₂ R) (list reader) := by
  intro v w a b hvw hv hw
  obtain ⟨vs, hvs, hv⟩ := list_ok hv
  obtain ⟨ws, hws, hw⟩ := list_ok hw
  refine collect_agree h ?_ 0 _ _ hv hw
  cases hvw with
  | same v =>
    cases hvs.symm.trans hws
    exact List.forall₂_same.mpr fun v _ => .same v
  | list hlength hpairs =>
    cases hvs
    cases hws
    exact List.forall₂_iff_zip.mpr ⟨hlength, hpairs⟩
  | mapping => cases hvs

theorem nonEmptyList_respects (h : Respects R reader) :
    Respects (List.Forall₂ R) (nonEmptyList reader) := by
  intro v w a b hvw hv hw
  obtain ⟨as, has, hv⟩ := except_bind_ok hv
  obtain ⟨bs, hbs, hw⟩ := except_bind_ok hw
  split at hv <;> cases hv
  split at hw <;> cases hw
  exact list_respects h hvw has hbs

/-- Results that are the same or none are the same. -/
theorem Respects.optional (h : Respects Eq reader) : Respects Eq (nullable reader) := by
  intro v w a b hvw hv hw
  cases nullable_respects h hvw hv hw with
  | some hab => rw [hab]
  | none => rfl

theorem Respects.listed (h : Respects Eq reader) : Respects Eq (list reader) := by
  intro v w a b hvw hv hw
  have hab := list_respects h hvw hv hw
  rwa [List.forall₂_eq_eq_eq] at hab

end FieldReader

open FieldReader

/-! ### Fields -/

section

variable {α : Type} {R : α → α → Prop} {reader : FieldReader α} {es fs : Entries Value}

theorem usedName_congr (h : Entries.Alike Value.Reordered es fs) (f : FieldName) :
    f.usedName es = f.usedName fs := by
  have hkey : ∀ n : String, es.hasKey (.text n) = fs.hasKey (.text n) := by
    intro n
    have hn := h n
    rw [Schema.hasKey_eq, Schema.hasKey_eq]
    generalize es.at? n = x at hn ⊢
    generalize fs.at? n = y at hn ⊢
    cases hn <;> rfl
  rw [FieldName.usedName, FieldName.usedName, hkey]
  simp only [hkey]

theorem content_reordered (h : Entries.Alike Value.Reordered es fs) (n : String) :
    ((es.at? n).getD .null).Reordered ((fs.at? n).getD .null) := by
  have hn := h n
  generalize es.at? n = x at hn ⊢
  generalize fs.at? n = y at hn ⊢
  cases hn with
  | some hvw => exact hvw
  | none => exact .same _

/-- **What is read from a field** of two mappings. -/
theorem read_agree (h : Entries.Alike Value.Reordered es fs) (hreader : Respects R reader)
    (f : FieldName) (default : α) (hdefault : R default default) :
    Agree R (f.read es reader default) (f.read fs reader default) := by
  intro a b ha hb
  rw [FieldName.read, usedName_congr h] at ha
  rw [FieldName.read] at hb
  split at ha
  · next hnone =>
    rw [hnone] at hb
    cases ha
    cases hb
    exact hdefault
  · next used hused =>
    rw [hused] at hb
    dsimp only at hb
    split at ha <;> cases ha
    split at hb <;> cases hb
    exact hreader (content_reordered h used) ‹_› ‹_›

theorem require_agree (h : Entries.Alike Value.Reordered es fs) (hreader : Respects R reader)
    (f : FieldName) : Agree R (f.require es reader) (f.require fs reader) := by
  intro a b ha hb
  rw [FieldName.require, usedName_congr h] at ha
  rw [FieldName.require] at hb
  split at ha
  · cases ha
  · next used hused =>
    rw [hused] at hb
    dsimp only at hb
    split at ha <;> cases ha
    split at hb <;> cases hb
    exact hreader (content_reordered h used) ‹_› ‹_›

theorem flag_agree (h : Entries.Alike Value.Reordered es fs) (f : FieldName) :
    Agree Eq (flag es f) (flag fs f) :=
  read_agree h readBool_respects f _ rfl

theorem optionalField_agree (h : Entries.Alike Value.Reordered es fs)
    (hreader : Respects Eq reader) (f : FieldName) :
    Agree Eq (optionalField es f reader) (optionalField fs f reader) :=
  read_agree h hreader.optional f _ rfl

/-! ### Options -/

/-- The same options but for the order of keys in the default. -/
structure CommonOptions.Reordered (c d : CommonOptions) : Prop where
  optional : c.optional = d.optional
  nullable : c.nullable = d.nullable
  convert : c.convert = d.convert
  default : Option.Rel Value.Reordered c.default? d.default?
  description : c.description? = d.description?

/-- The same options but for the order of keys in the values. -/
structure ArrayOptions.Reordered (o p : ArrayOptions) : Prop where
  empty : o.empty? = p.empty?
  min : o.min? = p.min?
  max : o.max? = p.max?
  length : o.length? = p.length?
  contains : Option.Rel Value.Reordered o.contains? p.contains?
  unique : o.unique = p.unique
  enum : Option.Rel (List.Forall₂ Value.Reordered) o.enum? p.enum?

theorem CommonOptions.read_agree (h : Entries.Alike Value.Reordered es fs)
    {convert convert' : Checked Bool} (hconvert : Agree Eq convert convert') :
    Agree CommonOptions.Reordered (CommonOptions.read es convert)
      (CommonOptions.read fs convert') := by
  intro c d hc hd
  obtain ⟨_, description?, h₁, hdescription, rfl⟩ := seq_good hc
  obtain ⟨_, default?, h₂, hdefault, rfl⟩ := seq_good h₁
  obtain ⟨_, converts, h₃, hconverts, rfl⟩ := seq_good h₂
  obtain ⟨_, nullable, h₄, hnullable, rfl⟩ := seq_good h₃
  obtain ⟨optional, hoptional, rfl⟩ := map_good h₄
  obtain ⟨_, description?', h₁', hdescription', rfl⟩ := seq_good hd
  obtain ⟨_, default?', h₂', hdefault', rfl⟩ := seq_good h₁'
  obtain ⟨_, converts', h₃', hconverts', rfl⟩ := seq_good h₂'
  obtain ⟨_, nullable', h₄', hnullable', rfl⟩ := seq_good h₃'
  obtain ⟨optional', hoptional', rfl⟩ := map_good h₄'
  exact {
    optional := flag_agree h _ _ _ hoptional hoptional'
    nullable := flag_agree h _ _ _ hnullable hnullable'
    convert := hconvert _ _ hconverts hconverts'
    default := RuleSchema.read_agree h something_respects _ _ .none _ _ hdefault hdefault'
    description := optionalField_agree h readText_respects _ _ _ hdescription hdescription' }

theorem readAll_agree (h : Entries.Alike Value.Reordered es fs) :
    Agree CommonOptions.Reordered (CommonOptions.readAll es) (CommonOptions.readAll fs) :=
  CommonOptions.read_agree h (flag_agree h _)

theorem StringOptions.read_agree (h : Entries.Alike Value.Reordered es fs) :
    Agree Eq (StringOptions.read es) (StringOptions.read fs) := by
  have hflag := flag_agree h
  have hcount := fun f => optionalField_agree h count_respects f
  have hbool := fun f => optionalField_agree h readBool_respects f
  have htext := fun f => optionalField_agree h readText_respects f
  have hint := fun f => optionalField_agree h readInt_respects f
  have hpattern := fun f => optionalField_agree h pattern_respects f
  have henum := fun f => optionalField_agree h readText_respects.listed f
  have hpad := fun f => RuleSchema.read_agree h nonEmptyText_respects f " " rfl
  exact (hbool _).mapped _ |>.applied (hcount _) |>.applied (hcount _) |>.applied (hcount _)
    |>.applied (hpattern _) |>.applied (htext _) |>.applied (htext _) |>.applied (henum _)
    |>.applied (hflag _) |>.applied (hflag _) |>.applied (hflag _) |>.applied (hflag _)
    |>.applied (hflag _) |>.applied (hflag _) |>.applied (hflag _) |>.applied (hflag _)
    |>.applied (hflag _) |>.applied (hflag _) |>.applied (hflag _) |>.applied (hflag _)
    |>.applied (hint _) |>.applied (hint _) |>.applied (hpad _)

theorem NumberOptions.read_agree (h : Entries.Alike Value.Reordered es fs) :
    Agree Eq (NumberOptions.read es) (NumberOptions.read fs) := by
  have hflag := flag_agree h
  have hnumber := fun f => optionalField_agree h number_respects f
  exact (hnumber _).mapped _ |>.applied (hnumber _) |>.applied (hnumber _)
    |>.applied (hnumber _) |>.applied (hflag _) |>.applied (hflag _) |>.applied (hflag _)

theorem EmailOptions.read_agree (h : Entries.Alike Value.Reordered es fs) :
    Agree Eq (EmailOptions.read es) (EmailOptions.read fs) := by
  have hcount := fun f => optionalField_agree h count_respects f
  exact (optionalField_agree h readBool_respects _).mapped _ |>.applied (hcount _)
    |>.applied (hcount _) |>.applied (flag_agree h _)

theorem CurrencyOptions.read_agree (h : Entries.Alike Value.Reordered es fs) :
    Agree Eq (CurrencyOptions.read es) (CurrencyOptions.read fs) := by
  have hseparator := fun f (d : String) =>
    RuleSchema.read_agree h nonEmptyText_respects f d rfl
  exact (optionalField_agree h readText_respects _).mapped _ |>.applied (flag_agree h _)
    |>.applied (hseparator _ _) |>.applied (hseparator _ _)
    |>.applied (optionalField_agree h pattern_respects _)

theorem ObjectOptions.read_agree (h : Entries.Alike Value.Reordered es fs) :
    Agree Eq (ObjectOptions.read es) (ObjectOptions.read fs) := by
  have hcount := fun f => optionalField_agree h count_respects f
  exact (optionalField_agree h strictness_respects _).mapped _ |>.applied (hcount _)
    |>.applied (hcount _)

theorem ArrayOptions.read_agree (h : Entries.Alike Value.Reordered es fs) :
    Agree ArrayOptions.Reordered (ArrayOptions.read es) (ArrayOptions.read fs) := by
  intro o p ho hp
  obtain ⟨_, enum?, h₁, henum, rfl⟩ := seq_good ho
  obtain ⟨_, unique, h₂, hunique, rfl⟩ := seq_good h₁
  obtain ⟨_, contains?, h₃, hcontains, rfl⟩ := seq_good h₂
  obtain ⟨_, length?, h₄, hlength, rfl⟩ := seq_good h₃
  obtain ⟨_, max?, h₅, hmax, rfl⟩ := seq_good h₄
  obtain ⟨_, min?, h₆, hmin, rfl⟩ := seq_good h₅
  obtain ⟨empty?, hempty, rfl⟩ := map_good h₆
  obtain ⟨_, enum?', h₁', henum', rfl⟩ := seq_good hp
  obtain ⟨_, unique', h₂', hunique', rfl⟩ := seq_good h₁'
  obtain ⟨_, contains?', h₃', hcontains', rfl⟩ := seq_good h₂'
  obtain ⟨_, length?', h₄', hlength', rfl⟩ := seq_good h₃'
  obtain ⟨_, max?', h₅', hmax', rfl⟩ := seq_good h₄'
  obtain ⟨_, min?', h₆', hmin', rfl⟩ := seq_good h₅'
  obtain ⟨empty?', hempty', rfl⟩ := map_good h₆'
  have hcount := fun f => optionalField_agree h count_respects f
  exact {
    empty := optionalField_agree h readBool_respects _ _ _ hempty hempty'
    min := hcount _ _ _ hmin hmin'
    max := hcount _ _ _ hmax hmax'
    length := hcount _ _ _ hlength hlength'
    contains := RuleSchema.read_agree h something_respects _ _ .none _ _ hcontains hcontains'
    unique := flag_agree h _ _ _ hunique hunique'
    enum := RuleSchema.read_agree h
      (nullable_respects (list_respects anything_respects)) _ _ .none _ _ henum henum' }

end

end RuleSchema
