import Mathlib.Data.List.Nodup
import RuleSchema.Proofs.Calls.Rules
import RuleSchema.Proofs.Order.Entries
import RuleSchema.Proofs.Validator.Runs
import RuleSchema.Proofs.Value.Entries

/-!
# Declared properties and their names

The properties of an object have different names, and so one validator answers for each name.  What
stands under a name in a validated mapping is what that validator has given, unless that is absent;
and the entries that are kept because nothing is declared about them stand under no such name.

The properties are validated one by one.  Without one of its keys a mapping is therefore validated
as before, apart from the property of that name, which is absent now.

* `Distinct` says of entries that their keys are different texts, and `Rule.NamesApart` of a rule
  that the names of its properties are different.
* `validateDeclared_cons_ok` takes the first declared property apart from the others.
* `validateDeclared_find`: **under each name stands what its validator has given**.
* `find?_unknown`: no unknown entry has the name of a property.
* `validateDeclared_split` takes the validation of the declared properties apart around
  one of them.
* `validateProperties_erase`: **the mapping without a key** is accepted or rejected as the absent
  property is, and the others stay what they are.
-/

namespace RuleSchema

open Eval

/-! ### Names -/

/-- The keys of entries are texts, all of them different. -/
structure Distinct {α : Type} (es : Entries α) : Prop where
  texts : ∀ e ∈ es, e.1.text?.isSome = true
  different : es.Pairwise fun a b => a.1.text? ≠ b.1.text?

namespace Distinct

variable {α β : Type} {es : Entries α}

theorem text {e : Value × α} (h : Distinct es) (he : e ∈ es) : ∃ n, e.1.text? = some n :=
  Option.isSome_iff_exists.mp (h.texts e he)

theorem hasKey {e : Value × α} (h : Distinct es) (he : e ∈ es) : es.hasKey e.1 = true := by
  obtain ⟨n, hn⟩ := h.text he
  exact hasKey_of_text he hn hn

theorem filter (h : Distinct es) (p : Value × α → Bool) : Distinct (es.filter p) :=
  ⟨fun e he => h.texts e (List.mem_of_mem_filter he), h.different.filter p⟩

theorem tail {e : Value × α} (h : Distinct (e :: es)) : Distinct es :=
  ⟨fun f hf => h.texts f (List.mem_cons_of_mem _ hf), (List.pairwise_cons.mp h.different).2⟩

/-- A key has one content. -/
theorem unique {k : Value} {a b : α} (h : Distinct es) (ha : (k, a) ∈ es) (hb : (k, b) ∈ es) :
    a = b := by
  have hnodup : (es.map fun e => e.1.text?).Nodup := List.pairwise_map.mpr h.different
  exact (Prod.mk.inj (List.inj_on_of_nodup_map hnodup ha hb rfl)).2

/-- Entries with the same keys. -/
theorem of_keys {fs : Entries β} (h : Distinct es) (hkeys : Entries.keys fs = Entries.keys es) :
    Distinct fs := by
  have htexts : fs.map (fun e => e.1.text?) = es.map fun e => e.1.text? := by
    have h := congrArg (List.map Value.text?) hkeys
    rw [Entries.keys, Entries.keys, List.map_map, List.map_map] at h
    exact h
  constructor
  · intro f hf
    have hmem := List.mem_map_of_mem (f := fun e : Value × β => e.1.text?) hf
    rw [htexts] at hmem
    obtain ⟨e, he, heq⟩ := List.mem_map.mp hmem
    rw [← heq]
    exact h.texts e he
  · have hpairs := h.different
    rw [← List.pairwise_map (f := fun e : Value × α => e.1.text?) (R := (· ≠ ·)), ← htexts,
      List.pairwise_map] at hpairs
    exact hpairs

end Distinct

/-- The properties that a rule declares have different names, as the entries of any mapping. -/
def Rule.NamesApart : Rule → Prop
  | .object _ props _ => (props.map Prod.fst).Nodup
  | _ => True

/-- The validators of properties stand under different names. -/
theorem keyed_of_props {R : Rule → Validator → Prop} {props : List (String × Rule)}
    {ds : List (String × Validator)}
    (h : List.Forall₂ (fun p e => e.1 = p.1 ∧ R p.2 e.2) props ds)
    (hnames : (props.map Prod.fst).Nodup) :
    Entries.IsKeyed (ds.map fun e => (Value.text e.1, e.2)) := by
  have hkeys : ds.map Prod.fst = props.map Prod.fst := by
    induction h with
    | nil => rfl
    | cons he _ ih =>
      rw [List.map_cons, List.map_cons, he.1, ih (List.nodup_cons.mp hnames).2]
  constructor
  · intro e he
    obtain ⟨f, -, rfl⟩ := List.mem_map.mp he
    exact ⟨f.1, rfl⟩
  · have htexts : Entries.keys (ds.map fun e => (Value.text e.1, e.2))
        = (props.map Prod.fst).map Value.text := by
      rw [← hkeys, Entries.keys, List.map_map, List.map_map]
      rfl
    rw [htexts]
    exact hnames.map fun m n => Value.text.inj

theorem Entries.IsKeyed.distinct {α : Type} {es : Entries α} (h : es.IsKeyed) : Distinct es := by
  constructor
  · intro e he
    obtain ⟨n, hn⟩ := h.texts e he
    rw [hn]
    rfl
  · refine (List.pairwise_map.mp h.nodup).imp_of_mem fun {a b} ha hb hne heq => hne ?_
    obtain ⟨m, hm⟩ := h.texts a ha
    obtain ⟨n, hn⟩ := h.texts b hb
    rw [hm, hn] at heq ⊢
    exact congrArg Value.text (Option.some.inj heq)

/-! ### Lookups -/

section

variable {es : Entries Value}

theorem find?_none {α : Type} {es : Entries α} {k : Value} (h : ∀ e ∈ es, k.equals e.1 = false) :
    es.find? k = none := by
  rw [Entries.find?, List.find?_eq_none.mpr fun e he => by rw [h e he]; exact Bool.false_ne_true]
  rfl

/-- A name has no unknown entry. -/
theorem find?_unknown {α : Type} {ds : Entries α} (hdistinct : Distinct ds) {e : Value × α}
    (he : e ∈ ds) : (unknownEntries ds es).find? e.1 = none := by
  obtain ⟨n, hn⟩ := hdistinct.text he
  refine find?_none fun f hf => Bool.eq_false_iff.mpr fun heq => ?_
  have hf' : f.1.text? = some n := (Value.equals_iff_text hn).mp heq
  have hkey : ds.hasKey f.1 = true := hasKey_of_text he hn hf'
  have hunknown := (List.mem_filter.mp hf).2
  rw [hkey] at hunknown
  cases hunknown

/-- A value that may be absent, and what a lookup finds of it. -/
theorem getD_present {v : Value} :
    (if v.isAbsent then none else some v : Option Value).getD .absent = v := by
  by_cases habsent : v.isAbsent = true
  · rw [if_pos habsent, Value.eq_absent habsent]
    rfl
  · rw [if_neg habsent]
    rfl

/-! ### Validated properties -/

/-- **The first declared property and the others**: no other property has its name. -/
theorem validateDeclared_cons_ok {name : Value} {d : Validator} {ds : Entries Validator}
    {out : Entries Value} {t u : Tally} (hdistinct : Distinct ((name, d) :: ds))
    (h : validateDeclared es ((name, d) :: ds) t = (.ok out, u)) :
    ∃ v others s s', d.validate ((es.find? name).getD .absent) t = (.ok v, s) ∧
      validateDeclared es ds s = (.ok others, s') ∧
      out = (if v.isAbsent then others else (name, v) :: others) ∧
      out.find? name = (if v.isAbsent then none else some v) ∧
      ∀ e ∈ ds, out.find? e.1 = others.find? e.1 := by
  obtain ⟨v, s, hv, h⟩ := bind_ok h
  obtain ⟨others, s', hothers, h⟩ := bind_ok h
  have hout := (pure_ok h).1
  obtain ⟨hne, -⟩ := List.pairwise_cons.mp hdistinct.different
  obtain ⟨n, hn⟩ := hdistinct.text List.mem_cons_self
  have hn : name.text? = some n := hn
  refine ⟨v, others, s, s', mapReason_ok hv, hothers, hout, ?_, fun e he => ?_⟩
  · by_cases habsent : v.isAbsent = true
    · rw [hout, if_pos habsent, if_pos habsent]
      refine find?_none fun f hf => Bool.eq_false_iff.mpr fun heq => ?_
      obtain ⟨-, d', hd', -⟩ := validateDeclared_ok hothers f hf
      exact hne _ hd' (hn.trans ((Value.equals_iff_text hn).mp heq).symm)
    · rw [hout, if_neg habsent, if_neg habsent, Entries.find?_cons,
        if_pos ((Value.equals_iff_text hn).mpr hn)]
  · by_cases habsent : v.isAbsent = true
    · rw [hout, if_pos habsent]
    · obtain ⟨m, hm⟩ := hdistinct.tail.text he
      have hkey : ¬ e.1.equals name = true := by
        rw [Value.equals_iff_text hm]
        intro heq
        exact hne e he (heq.trans hm.symm)
      rw [hout, if_neg habsent, Entries.find?_cons, if_neg hkey]

/-- **Under each name stands what its validator has given**, if that is not absent. -/
theorem validateDeclared_find : ∀ {ds : Entries Validator} {out : Entries Value} {t u : Tally},
    Distinct ds → validateDeclared es ds t = (.ok out, u) → ∀ e ∈ ds, ∃ v,
      e.2.Gives ((es.find? e.1).getD .absent) v ∧
        out.find? e.1 = if v.isAbsent then none else some v := by
  intro ds
  induction ds with
  | nil =>
    intro out t u _ _ e he
    exact absurd he List.not_mem_nil
  | cons e ds ih =>
    obtain ⟨name, d⟩ := e
    intro out t u hdistinct h f hf
    obtain ⟨v, others, s, s', hv, hothers, -, hself, hother⟩ := validateDeclared_cons_ok hdistinct h
    rcases List.mem_cons.mp hf with rfl | hf
    · exact ⟨v, ⟨t, s, hv⟩, hself⟩
    · rw [hother f hf]
      exact ih hdistinct.tail hothers f hf

end

/-! ### Without a key -/

section

variable {es : Entries Value} {f name : Value} {n m : String}

/-- The key of a declared property is not unknown. -/
theorem unknownEntries_erase {α : Type} {ds : Entries α} {d : α} (hf : f.text? = some m)
    (hd : (f, d) ∈ ds) : unknownEntries ds (es.erase f) = unknownEntries ds es := by
  rw [unknownEntries, unknownEntries, Entries.erase, List.filter_filter]
  refine List.filter_congr fun e _ => ?_
  cases he : f.equals e.1 with
  | false => simp
  | true =>
    have hkey : ds.hasKey e.1 = true :=
      hasKey_of_text hd hf ((Value.equals_iff_text hf).mp he)
    simp [hkey]

/-- Validators of other names do not notice. -/
theorem validateDeclared_erase (hf : f.text? = some m) : ∀ {ds : Entries Validator},
    (∀ e ∈ ds, ∃ n, e.1.text? = some n ∧ n ≠ m) →
      validateDeclared (es.erase f) ds = validateDeclared es ds
  | [], _ => rfl
  | (name, d) :: ds, h => by
    obtain ⟨n, hn, hnm⟩ := h _ List.mem_cons_self
    rw [validateDeclared, validateDeclared, find?_erase hn hf hnm,
      validateDeclared_erase hf fun e he => h e (List.mem_cons_of_mem _ he)]

end

/-! ### One property among others -/

/-- The entries of validated properties, with one that may be absent between the others. -/
def around (before : Entries Value) (name v : Value) (behind : Entries Value) : Entries Value :=
  before ++ if v.isAbsent then behind else (name, v) :: behind

theorem around_erase {before behind : Entries Value} {f v w : Value} {m : String}
    (hf : f.text? = some m) :
    Entries.erase (around before f v behind) f = Entries.erase (around before f w behind) f := by
  have hself : f.equals f = true := (Value.equals_iff_text hf).mpr hf
  have hone : ∀ v : Value, Entries.erase (around before f v behind) f
      = Entries.erase before f ++ Entries.erase behind f := by
    intro v
    rw [around, Entries.erase, List.filter_append]
    split
    · rfl
    · rw [List.filter_cons_of_neg (by simp [hself])]
      rfl
  rw [hone, hone]

variable {es : Entries Value} {ds : Entries Validator}

theorem validateDeclared_append (xs ys : Entries Validator) :
    validateDeclared es (xs ++ ys) = (do
      let before ← validateDeclared es xs
      let behind ← validateDeclared es ys
      return before ++ behind) := by
  induction xs with
  | nil => simp [validateDeclared]
  | cons e xs ih =>
    obtain ⟨name, d⟩ := e
    rw [List.cons_append, validateDeclared, validateDeclared, ih]
    simp only [bind_assoc, pure_bind]
    refine congrArg _ (funext fun v => congrArg _ (funext fun before => ?_))
    refine congrArg _ (funext fun behind => ?_)
    cases v.isAbsent <;> rfl

section

variable {xs ys : Entries Validator} {f : Value} {d : Validator} {t u : Tally}

/-- **The validation of declared properties, taken apart** around one of them. -/
theorem validateDeclared_split (hds : ∀ e ∈ xs ++ (f, d) :: ys, e.2.CallsWithin noCalls)
    {out : Entries Value} (h : validateDeclared es (xs ++ (f, d) :: ys) t = (.ok out, u)) :
    ∃ before v behind, validateDeclared es xs = pure before ∧
      d.validate ((es.find? f).getD .absent) = pure v ∧ validateDeclared es ys = pure behind ∧
      out = around before f v behind := by
  rw [validateDeclared_append] at h
  obtain ⟨before, _, hbefore, h⟩ := bind_ok h
  obtain ⟨rest, _, hrest, h⟩ := bind_ok h
  obtain ⟨v, _, hv, hrest⟩ := bind_ok hrest
  obtain ⟨behind, _, hbehind, hrest⟩ := bind_ok hrest
  refine ⟨before, v, behind, ?_, ?_, ?_, ?_⟩
  · exact (validateDeclared_local fun e he =>
      hds e (List.mem_append_left _ he) _).eq_pure hbefore
  · exact (hds _ (List.mem_append_right _ List.mem_cons_self) _).eq_pure
      (mapReason_ok hv)
  · exact (validateDeclared_local fun e he =>
      hds e (List.mem_append_right _ (List.mem_cons_of_mem _ he)) _).eq_pure hbehind
  · rw [(pure_ok h).1, (pure_ok hrest).1, around]

/-- The result of the properties of a mapping, from that of the declared ones. -/
theorem validateProperties_split {mode : UnknownKeys} {out : Entries Value}
    (h : validateProperties es ds mode t = (.ok out, u)) :
    ¬ (mode = .reject && !(unknownEntries ds es).isEmpty) = true ∧
      ∃ declared, validateDeclared es ds t = (.ok declared, u) ∧
        out = if mode = .passthrough then declared ++ unknownEntries ds es else declared := by
  unfold validateProperties at h
  split at h
  · exact absurd h reject_ok
  · next hmode =>
    obtain ⟨declared, _, hdeclared, h⟩ := bind_ok h
    obtain ⟨rfl, rfl⟩ := pure_ok h
    exact ⟨hmode, declared, hdeclared, rfl⟩

theorem validateProperties_eq {mode : UnknownKeys}
    (h : ¬ (mode = .reject && !(unknownEntries ds es).isEmpty) = true) :
    validateProperties es ds mode = (do
      let declared ← validateDeclared es ds
      return if mode = .passthrough then declared ++ unknownEntries ds es else declared) := by
  unfold validateProperties
  rw [if_neg h]

/-- The other names of validators, around one of them. -/
theorem Distinct.others {m : String} (h : Distinct (xs ++ (f, d) :: ys)) (hf : f.text? = some m) :
    (∀ e ∈ xs, ∃ n, e.1.text? = some n ∧ n ≠ m) ∧ ∀ e ∈ ys, ∃ n, e.1.text? = some n ∧ n ≠ m := by
  obtain ⟨-, hrest, hbetween⟩ := List.pairwise_append.mp h.different
  refine ⟨fun e he => ?_, fun e he => ?_⟩
  · obtain ⟨n, hn⟩ := h.text (List.mem_append_left _ he)
    refine ⟨n, hn, fun hnm => hbetween e he _ List.mem_cons_self ?_⟩
    rw [hn, hnm]
    exact hf.symm
  · obtain ⟨n, hn⟩ := h.text (List.mem_append_right _ (List.mem_cons_of_mem _ he))
    refine ⟨n, hn, fun hnm => (List.pairwise_cons.mp hrest).1 e he ?_⟩
    rw [hn, hnm]
    exact hf

/-- **Without a key**, the properties of an accepted mapping are accepted if the absent one is,
and no other property changes; otherwise they are rejected for it. -/
theorem validateProperties_erase {mode : UnknownKeys} {out : Entries Value}
    (hdistinct : Distinct ds)
    (hds : ∀ e ∈ ds, e.2.CallsWithin noCalls) (hd : (f, d) ∈ ds)
    (h : validateProperties es ds mode t = (.ok out, u)) :
    (∀ w, d.validate .absent = pure w → ∃ out',
      validateProperties (es.erase f) ds mode = pure out' ∧
        Entries.erase out' f = Entries.erase out f) ∧
    ∀ e, d.validate .absent = .reject e →
      validateProperties (es.erase f) ds mode = .reject (.inside (e.under f)) := by
  obtain ⟨m, hf⟩ := hdistinct.text hd
  have hunknown : unknownEntries ds (es.erase f) = unknownEntries ds es :=
    unknownEntries_erase hf hd
  obtain ⟨hmode, declared, hdeclared, rfl⟩ := validateProperties_split h
  rw [validateProperties_eq (by rw [hunknown]; exact hmode), hunknown]
  obtain ⟨xs, ys, rfl⟩ := List.append_of_mem hd
  obtain ⟨hxs, hys⟩ := hdistinct.others hf
  obtain ⟨before, v, behind, hbefore, hv, hbehind, rfl⟩ := validateDeclared_split hds hdeclared
  rw [validateDeclared_append, validateDeclared_erase hf hxs, hbefore, pure_bind, validateDeclared,
    find?_erase_self, Option.getD_none, validateDeclared_erase hf hys, hbehind]
  refine ⟨fun w hw => ?_, fun e he => ?_⟩
  · refine ⟨if mode = .passthrough
      then around before f w behind ++ unknownEntries (xs ++ (f, d) :: ys) es
      else around before f w behind, ?_, ?_⟩
    · rw [hw, mapReason_pure, pure_bind, pure_bind, pure_bind, pure_bind, around]
    · split
      · rw [Entries.erase, List.filter_append, Entries.erase, List.filter_append]
        exact congrArg (· ++ _) (around_erase hf)
      · exact around_erase hf
  · rw [he, mapReason_reject]
    rfl

end

end RuleSchema
