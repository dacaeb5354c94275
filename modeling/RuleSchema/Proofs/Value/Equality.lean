import RuleSchema.Proofs.Number.Exact
import RuleSchema.Proofs.Order.Values
import RuleSchema.Proofs.Value.Document
import RuleSchema.Proofs.Value.Entries
import RuleSchema.Value.Sameness

/-!
# Equality and sameness of documents

Two documents are equal if they are of one kind and have equal contents: numbers by their place on
the extended line, whether they are whole numbers or doubles, lists item by item, mappings under
every name, in whatever order.  A truth value equals no number.

Equality by content counts truth values as numbers, and strict sameness compares with it what stands
inside of lists and mappings.  So both are equality of documents, after the truth values have been
replaced by the numbers 0 and 1: everywhere for the one, and inside of lists and mappings for the
other.  What holds of equality of documents holds of them.

On the documents in which every number is defined, strict sameness is an equivalence.  So whether
the values of a list are all different does not depend on their order, although each is compared
with the earlier ones only, and whether a value is among them depends only on which values, up to
sameness, the list has.  Loose sameness is reflexive and symmetric.  It is not transitive: two
different texts can read as one number.

* `Value.JsonEqual` is equality of documents.
* `Value.numbered` and `Value.counted` replace the truth values.
* `equals_iff` and `same_iff`: **what the two comparisons compare.**
* `Value.IsDefined` are the documents without an undefined number.
* `allDifferent_iff`: what the loop over the earlier values decides.
* `strict_sameness_lawful`: **the laws of the comparisons** and what follows for lists.
-/

namespace RuleSchema

/-! ### Numbers -/

theorem Position.order_eq_iff {p q : Position} : p.order q = .eq ↔ p = q := by
  cases p with
  | «at» x =>
    cases q with
    | «at» y =>
      change (if x < y then Ordering.lt else if x = y then .eq else .gt) = .eq ↔ _
      rw [Position.at.injEq]
      by_cases hless : x < y
      · rw [if_pos hless]
        exact iff_of_false (by simp) (by omega)
      · rw [if_neg hless]
        by_cases heq : x = y <;> simp [heq]
    | _ => simp [Position.order]
  | _ => cases q <;> simp [Position.order]

namespace Number

variable {m n : Number}

/-- Numbers are equal if they lie at one place. -/
theorem equals_iff : m.equals n = true ↔ ∃ p, m.position? = some p ∧ n.position? = some p := by
  rw [equals, order?]
  cases hm : m.position? with
  | none => simp
  | some p =>
    cases hn : n.position? with
    | none => simp
    | some q =>
      change (some (p.order q) == some .eq) = true ↔ _
      rw [beq_iff_eq, Option.some_inj, Position.order_eq_iff]
      constructor
      · rintro rfl
        exact ⟨p, rfl, rfl⟩
      · rintro ⟨r, hp, hq⟩
        rw [Option.some.inj hp, Option.some.inj hq]

theorem equals_comm (m n : Number) : m.equals n = n.equals m := by
  rw [Bool.eq_iff_iff, equals_iff, equals_iff]
  exact exists_congr fun p => and_comm

/-- Every number but the undefined one equals itself. -/
theorem equals_self (h : n ≠ .float .nan) : n.equals n = true := by
  have hplace : ∃ p, n.position? = some p := by
    cases n with
    | int k => exact ⟨_, rfl⟩
    | float x =>
      cases x with
      | nan => exact absurd rfl h
      | infinite negative => cases negative <;> exact ⟨_, rfl⟩
      | finite negative m => cases negative <;> exact ⟨_, rfl⟩
  obtain ⟨p, hp⟩ := hplace
  exact equals_iff.mpr ⟨p, hp, hp⟩

end Number

/-! ### Entries -/

theorem optionRel_iff {α β : Type} {R : α → β → Prop} {a? : Option α} {b? : Option β} :
    Option.Rel R a? b? ↔ a?.isSome = b?.isSome ∧ ∀ x y, a? = some x → b? = some y → R x y := by
  cases a? <;> cases b? <;> simp

namespace Entries

section

variable {α β : Type} {R : α → β → Prop} {es : Entries α} {fs : Entries β}

theorem IsKeyed.mem_keys (h : es.IsKeyed) {n : String} :
    Value.text n ∈ es.keys ↔ (es.at? n).isSome = true := by
  rw [Option.isSome_iff_exists]
  constructor
  · intro hmem
    obtain ⟨⟨_, x⟩, he, rfl⟩ := List.mem_map.mp hmem
    exact ⟨x, h.at?_eq_some.mpr he⟩
  · rintro ⟨x, hx⟩
    exact List.mem_map_of_mem (h.at?_eq_some.mp hx)

/-- **Corresponding contents under every name**: as many entries, each with a counterpart. -/
theorem alike_iff (hes : es.IsKeyed) (hfs : fs.IsKeyed) : Alike R es fs ↔
    es.length = fs.length ∧ ∀ e ∈ es, ∃ f ∈ fs, f.1 = e.1 ∧ R e.2 f.2 := by
  constructor
  · intro h
    have hsame : ∀ k, k ∈ es.keys ↔ k ∈ fs.keys := by
      have hname : ∀ n, Value.text n ∈ es.keys ↔ Value.text n ∈ fs.keys := fun n => by
        rw [hes.mem_keys, hfs.mem_keys, (optionRel_iff.mp (h n)).1]
      intro k
      constructor
      · intro hk
        obtain ⟨e, he, rfl⟩ := List.mem_map.mp hk
        obtain ⟨n, hn⟩ := hes.texts e he
        exact hn ▸ (hname n).mp (hn ▸ hk)
      · intro hk
        obtain ⟨f, hf, rfl⟩ := List.mem_map.mp hk
        obtain ⟨n, hn⟩ := hfs.texts f hf
        exact hn ▸ (hname n).mpr (hn ▸ hk)
    have hperm : es.keys.Perm fs.keys := (List.perm_ext_iff_of_nodup hes.nodup hfs.nodup).mpr hsame
    refine ⟨by simpa [keys] using hperm.length_eq, fun e he => ?_⟩
    obtain ⟨n, hn⟩ := hes.texts e he
    obtain ⟨k, x⟩ := e
    obtain rfl : k = .text n := hn
    obtain ⟨hsome, hcontents⟩ := optionRel_iff.mp (h n)
    have hx := hes.at?_eq_some.mpr he
    obtain ⟨y, hy⟩ := Option.isSome_iff_exists.mp (hsome ▸ Option.isSome_of_mem hx)
    exact ⟨_, hfs.at?_eq_some.mp hy, rfl, hcontents x y hx hy⟩
  · rintro ⟨hlength, h⟩ n
    -- different keys that all are keys of a mapping of the same size are all of its keys
    have hsubset : es.keys ⊆ fs.keys := by
      intro k hk
      obtain ⟨e, he, rfl⟩ := List.mem_map.mp hk
      obtain ⟨f, hf, hkey, -⟩ := h e he
      exact hkey ▸ List.mem_map_of_mem hf
    have hperm : es.keys.Perm fs.keys :=
      (List.subperm_of_subset hes.nodup hsubset).perm_of_length_le (by simp [keys, hlength])
    refine optionRel_iff.mpr ⟨?_, fun x y hx hy => ?_⟩
    · rw [Bool.eq_iff_iff, ← hes.mem_keys, ← hfs.mem_keys, hperm.mem_iff]
    · obtain ⟨⟨k, z⟩, hf, rfl, hxz⟩ := h _ (hes.at?_eq_some.mp hx)
      rwa [Option.some.inj (hy.symm.trans (hfs.at?_eq_some.mpr hf))]

end

end Entries

/-! ### Equal documents -/

namespace Value

/-- Two documents are equal: numbers that lie at one place, lists that are equal item by item, and
mappings with equal contents under every name. -/
inductive JsonEqual : Value → Value → Prop
  | null : JsonEqual .null .null
  | bool (b : Bool) : JsonEqual (.bool b) (.bool b)
  | number {m n : Number} {p : Position} : m.position? = some p → n.position? = some p →
      JsonEqual (.number m) (.number n)
  | text (s : String) : JsonEqual (.text s) (.text s)
  -- by pairs and by names: inside another relation this one would have no induction
  | list {xs ys : List Value} : xs.length = ys.length →
      (∀ {x y}, (x, y) ∈ xs.zip ys → JsonEqual x y) → JsonEqual (.list xs) (.list ys)
  | mapping {es fs : Entries Value} : (∀ n, (es.at? n).isSome = (fs.at? n).isSome) →
      (∀ {n x y}, es.at? n = some x → fs.at? n = some y → JsonEqual x y) →
      JsonEqual (.mapping es) (.mapping fs)

section

variable {a b v w : Value} {m n : Number} {xs ys : List Value} {es fs : Entries Value}

theorem jsonEqual_number : JsonEqual (.number m) (.number n) ↔ m.equals n = true := by
  rw [Number.equals_iff]
  constructor
  · rintro ⟨⟩
    exact ⟨_, ‹_›, ‹_›⟩
  · rintro ⟨p, hm, hn⟩
    exact .number hm hn

theorem jsonEqual_list : JsonEqual (.list xs) (.list ys) ↔ List.Forall₂ JsonEqual xs ys := by
  rw [List.forall₂_iff_zip]
  constructor
  · rintro ⟨⟩
    exact ⟨‹_›, ‹_›⟩
  · rintro ⟨hlength, hitems⟩
    exact .list hlength hitems

theorem jsonEqual_mapping :
    JsonEqual (.mapping es) (.mapping fs) ↔ Entries.Alike JsonEqual es fs := by
  constructor
  · intro h n
    cases h with
    | mapping hnames hcontents =>
      exact optionRel_iff.mpr ⟨hnames n, fun x y hx hy => hcontents hx hy⟩
  · intro h
    refine .mapping (fun n => (optionRel_iff.mp (h n)).1) fun {n x y} hx hy => ?_
    exact (optionRel_iff.mp (h n)).2 x y hx hy

namespace JsonEqual

theorem symm (h : a.JsonEqual b) : b.JsonEqual a := by
  induction h with
  | null => exact .null
  | bool b => exact .bool b
  | number hm hn => exact .number hn hm
  | text s => exact .text s
  | list hlength _ ih =>
    exact jsonEqual_list.mpr (List.forall₂_iff_zip.mpr ⟨hlength, ih⟩).flip
  | mapping hnames _ ih => exact .mapping (fun n => (hnames n).symm) fun hx hy => ih hy hx

theorem trans (hab : a.JsonEqual b) : ∀ {c}, b.JsonEqual c → a.JsonEqual c := by
  induction hab with
  | null => exact id
  | bool b => exact id
  | number hm hn =>
    intro c hbc
    cases hbc with
    | number hn' hk =>
      obtain rfl := Option.some.inj (hn.symm.trans hn')
      exact .number hm hk
  | text s => exact id
  | @list xs ys hlength _ ih =>
    intro c hbc
    cases hbc with
    | @list _ zs hlength' hitems =>
      refine .list (hlength.trans hlength') fun {x z} hmem => ?_
      obtain ⟨i, hi, hpair⟩ := List.mem_iff_getElem.mp hmem
      rw [List.getElem_zip] at hpair
      obtain ⟨rfl, rfl⟩ := Prod.mk.inj hpair
      have hx : i < xs.length := by simp at hi; omega
      have hz : i < zs.length := by simp at hi; omega
      have hy : i < ys.length := hlength ▸ hx
      refine ih (y := ys[i]) ?_ (hitems ?_)
      · exact List.mem_iff_getElem.mpr ⟨i, by simp; omega, List.getElem_zip⟩
      · exact List.mem_iff_getElem.mpr ⟨i, by simp; omega, List.getElem_zip⟩
  | @mapping es fs hnames _ ih =>
    intro c hbc
    cases hbc with
    | @mapping _ gs hnames' hcontents =>
      refine .mapping (fun n => (hnames n).trans (hnames' n)) fun {n x z} hx hz => ?_
      have hsome : (fs.at? n).isSome = true := hnames n ▸ Option.isSome_of_mem hx
      obtain ⟨y, hy⟩ := Option.isSome_iff_exists.mp hsome
      exact ih hx hy (hcontents hy hz)

end JsonEqual

/-! ### Truth values as numbers -/

mutual

/-- A value with every truth value replaced by the number 0 or 1. -/
def numbered : Value → Value
  | .bool b => .int b.toNat
  | .list xs => .list (numberedItems xs)
  | .mapping es => .mapping (numberedEntries es)
  | v => v
termination_by structural v => v

/-- The items, each with its truth values replaced. -/
def numberedItems : List Value → List Value
  | [] => []
  | x :: xs => numbered x :: numberedItems xs
termination_by structural xs => xs

/-- The entries, with the truth values of the contents replaced. -/
def numberedEntries : List (Value × Value) → List (Value × Value)
  | [] => []
  | (k, x) :: es => (k, numbered x) :: numberedEntries es
termination_by structural es => es

end

/-- A value with the truth values inside of it replaced; a truth value stays one. -/
def counted : Value → Value
  | .bool b => .bool b
  | v => v.numbered

theorem numberedItems_eq (xs : List Value) : numberedItems xs = xs.map numbered := by
  induction xs with
  | nil => rfl
  | cons x xs ih => rw [numberedItems, ih, List.map_cons]

theorem numberedEntries_eq (es : Entries Value) :
    numberedEntries es = es.map fun e => (e.1, e.2.numbered) := by
  induction es with
  | nil => rfl
  | cons e es ih => rw [numberedEntries, ih, List.map_cons]

theorem numbered_list : (Value.list xs).numbered = .list (xs.map numbered) := by
  rw [numbered, numberedItems_eq]

theorem numbered_mapping :
    (Value.mapping es).numbered = .mapping (es.map fun e => (e.1, e.2.numbered)) := by
  rw [numbered, numberedEntries_eq]

theorem jsonEqual_numbered_list : (Value.list xs).numbered.JsonEqual (Value.list ys).numbered ↔
    List.Forall₂ (fun x y => x.numbered.JsonEqual y.numbered) xs ys := by
  rw [numbered_list, numbered_list, jsonEqual_list, List.forall₂_map_left_iff,
    List.forall₂_map_right_iff]

theorem jsonEqual_numbered_mapping :
    (Value.mapping es).numbered.JsonEqual (Value.mapping fs).numbered ↔
      Entries.Alike (fun x y => x.numbered.JsonEqual y.numbered) es fs := by
  rw [numbered_mapping, numbered_mapping, jsonEqual_mapping]
  refine forall_congr' fun n => ?_
  rw [at?_contents, at?_contents]
  cases es.at? n <;> cases fs.at? n <;> simp

/-- Equal documents are equal when their truth values have been replaced. -/
theorem JsonEqual.numbered (h : a.JsonEqual b) : a.numbered.JsonEqual b.numbered := by
  induction h with
  | null => exact .null
  | bool b => exact jsonEqual_number.mpr (Number.equals_self (by simp))
  | number hm hn => exact .number hm hn
  | text s => exact .text s
  | list hlength _ ih =>
    exact jsonEqual_numbered_list.mpr (List.forall₂_iff_zip.mpr ⟨hlength, ih⟩)
  | mapping hnames _ ih =>
    refine jsonEqual_numbered_mapping.mpr fun n => optionRel_iff.mpr ⟨hnames n, fun x y hx hy => ?_⟩
    exact ih hx hy

theorem JsonEqual.counted (h : a.JsonEqual b) : a.counted.JsonEqual b.counted := by
  cases h with
  | bool b => exact .bool b
  | null => exact .null
  | number hm hn => exact .number hm hn
  | text s => exact .text s
  | list hlength hitems => exact (JsonEqual.list hlength hitems).numbered
  | mapping hnames hcontents => exact (JsonEqual.mapping hnames hcontents).numbered

/-! ### What is compared -/

theorem equalsAll_iff : ∀ {xs ys : List Value},
    equalsAll xs ys = true ↔ List.Forall₂ (fun x y => x.equals y = true) xs ys
  | [], [] => by simp [equalsAll]
  | [], _ :: _ => by simp [equalsAll]
  | _ :: _, [] => by simp [equalsAll]
  | x :: xs, y :: ys => by
    rw [equalsAll, Bool.and_eq_true, List.forall₂_cons, equalsAll_iff]

theorem text_equals_iff {k l : Value} (hk : ∃ n, k = .text n) (hl : ∃ n, l = .text n) :
    k.equals l = true ↔ l = k := by
  obtain ⟨m, rfl⟩ := hk
  obtain ⟨n, rfl⟩ := hl
  rw [Value.equals_iff_text rfl, text?, Option.some_inj, Value.text.injEq]

theorem numbered_number : (Value.number n).numbered = .number n := rfl

theorem numbered_bool (b : Bool) : (Value.bool b).numbered = .int b.toNat := rfl

/-- **Equality by content** is equality of the documents with numbers for their truth values. -/
theorem equals_iff (hv : v.IsDocument) :
    ∀ {w : Value}, w.IsDocument → (v.equals w = true ↔ v.numbered.JsonEqual w.numbered) := by
  induction hv with
  | null =>
    intro w hw
    cases hw with
    | null => exact iff_of_true rfl .null
    | _ => exact iff_of_false Bool.false_ne_true (fun h => by cases h)
  | bool b =>
    intro w hw
    cases hw with
    | bool c =>
      rw [numbered_bool, numbered_bool, jsonEqual_number, Number.int_equals]
      cases b <;> cases c <;> decide
    | number n => rw [numbered_bool, numbered_number, jsonEqual_number, equals, Number.equals_comm]
    | _ => exact iff_of_false Bool.false_ne_true (fun h => by cases h)
  | number m =>
    intro w hw
    cases hw with
    | bool c => rw [numbered_bool, numbered_number, jsonEqual_number, equals]
    | number n => rw [numbered_number, numbered_number, jsonEqual_number, equals]
    | _ => exact iff_of_false Bool.false_ne_true (fun h => by cases h)
  | text s =>
    intro w hw
    cases hw with
    | text t =>
      rw [equals, beq_iff_eq]
      constructor
      · rintro rfl
        exact .text s
      · rintro ⟨⟩
        rfl
    | _ => exact iff_of_false Bool.false_ne_true (fun h => by cases h)
  | @list xs _ ih =>
    intro w hw
    cases hw with
    | @list ys hys =>
      rw [equals, equalsAll_iff, jsonEqual_numbered_list, List.forall₂_iff_zip,
        List.forall₂_iff_zip]
      refine and_congr_right fun _ => forall_congr' fun x => forall_congr' fun y => ?_
      exact forall_congr' fun hmem => ih x (List.of_mem_zip hmem).1 (hys y (List.of_mem_zip hmem).2)
    | _ => exact iff_of_false Bool.false_ne_true (fun h => by cases h)
  | @mapping es hes _ ih =>
    intro w hw
    cases hw with
    | @mapping fs hfs hcontents =>
      rw [equals, equalsWithin_eq, jsonEqual_numbered_mapping, Entries.alike_iff hes hfs,
        Bool.and_eq_true, beq_iff_eq, List.all_eq_true]
      refine and_congr_right fun _ => forall₂_congr fun e he => ?_
      rw [List.any_eq_true]
      refine exists_congr fun f => and_congr_right fun hf => ?_
      rw [Bool.and_eq_true, text_equals_iff (hes.texts e he) (hfs.texts f hf),
        ih e he (hcontents f hf)]
    | _ => exact iff_of_false Bool.false_ne_true (fun h => by cases h)

/-- Values of which none is a truth value are strictly the same if they are equal by content. -/
theorem same_eq_equals (hv : v.IsDocument) (hw : w.IsDocument) (hvb : ∀ b, v ≠ .bool b)
    (hwb : ∀ b, w ≠ .bool b) : v.same w = v.equals w := by
  cases hv with
  | bool b => exact absurd rfl (hvb b)
  | _ =>
    cases hw with
    | bool b => exact absurd rfl (hwb b)
    | _ => simp [same, equals, kindName]

theorem counted_eq_numbered (h : ∀ b, v ≠ .bool b) : v.counted = v.numbered := by
  cases v with
  | bool b => exact absurd rfl (h b)
  | _ => rfl

theorem bool_same (b : Bool) : (Value.bool b).same w = true ↔ .bool b = w := by
  cases w <;> simp [same]

theorem same_bool (b : Bool) : v.same (.bool b) = true ↔ v = .bool b := by
  cases v <;> simp [same]

/-- A truth value is equal to itself only. -/
theorem jsonEqual_counted_bool (b : Bool) : (Value.bool b).counted.JsonEqual w.counted ↔
    .bool b = w := by
  cases w with
  | bool c =>
    constructor
    · rintro ⟨⟩
      rfl
    · intro h
      cases h
      exact .bool b
  | _ => exact iff_of_false (fun h => by cases h) (by simp)

/-- **Strict sameness** is equality of the documents with numbers for the truth values inside. -/
theorem same_iff (hv : v.IsDocument) (hw : w.IsDocument) :
    v.same w = true ↔ v.counted.JsonEqual w.counted := by
  by_cases hvb : ∃ b, v = .bool b
  · obtain ⟨b, rfl⟩ := hvb
    rw [bool_same, jsonEqual_counted_bool]
  · by_cases hwb : ∃ b, w = .bool b
    · obtain ⟨b, rfl⟩ := hwb
      rw [same_bool, eq_comm, ← jsonEqual_counted_bool]
      exact ⟨JsonEqual.symm, JsonEqual.symm⟩
    · have hv' : ∀ b, v ≠ .bool b := fun b h => hvb ⟨b, h⟩
      have hw' : ∀ b, w ≠ .bool b := fun b h => hwb ⟨b, h⟩
      rw [same_eq_equals hv hw hv' hw', counted_eq_numbered hv', counted_eq_numbered hw',
        equals_iff hv hw]

end

/-! ### Defined documents -/

/-- A document in which every number is defined. -/
inductive IsDefined : Value → Prop
  | null : IsDefined .null
  | bool (b : Bool) : IsDefined (.bool b)
  | number {n : Number} : n ≠ .float .nan → IsDefined (.number n)
  | text (s : String) : IsDefined (.text s)
  | list {xs : List Value} : (∀ x ∈ xs, IsDefined x) → IsDefined (.list xs)
  | mapping {es : Entries Value} : es.IsKeyed → (∀ e ∈ es, IsDefined e.2) →
      IsDefined (.mapping es)

section

variable {u v w x : Value} {before xs ys : List Value}

theorem IsDefined.isDocument (h : v.IsDefined) : v.IsDocument := by
  induction h with
  | null => exact .null
  | bool b => exact .bool b
  | number _ => exact .number _
  | text s => exact .text s
  | list _ ih => exact .list ih
  | mapping hkeyed _ ih => exact .mapping hkeyed ih

/-- Each of these documents is equal to itself. -/
theorem JsonEqual.refl (h : v.IsDefined) : v.JsonEqual v := by
  induction h with
  | null => exact .null
  | bool b => exact .bool b
  | number hn => exact jsonEqual_number.mpr (Number.equals_self hn)
  | text s => exact .text s
  | list _ ih => exact jsonEqual_list.mpr (List.forall₂_same.mpr ih)
  | mapping hkeyed _ ih =>
    refine .mapping (fun n => rfl) fun {n x y} hx hy => ?_
    obtain rfl : x = y := Option.some.inj (hx.symm.trans hy)
    exact ih _ (hkeyed.at?_eq_some.mp hx)

/-! ### The two comparisons -/

theorem same_self (h : v.IsDefined) : v.same v = true :=
  (same_iff h.isDocument h.isDocument).mpr (JsonEqual.refl h).counted

theorem same_comm (hv : v.IsDocument) (hw : w.IsDocument) : v.same w = w.same v := by
  rw [Bool.eq_iff_iff, same_iff hv hw, same_iff hw hv]
  exact ⟨JsonEqual.symm, JsonEqual.symm⟩

theorem same_trans (hu : u.IsDocument) (hv : v.IsDocument) (hw : w.IsDocument)
    (huv : u.same v = true) (hvw : v.same w = true) : u.same w = true := by
  rw [same_iff hu hv] at huv
  rw [same_iff hv hw] at hvw
  exact (same_iff hu hw).mpr (huv.trans hvw)

theorem looselySame_self (h : v.IsDefined) : v.looselySame v = true := by
  rw [looselySame, same_self h, Bool.true_or]

theorem looselySame_comm (hv : v.IsDocument) (hw : w.IsDocument) :
    v.looselySame w = w.looselySame v := by
  rw [looselySame, looselySame, same_comm hv hw]
  refine congrArg (w.same v || ·) ?_
  cases hv <;> cases hw <;> rfl

/-! ### Lists of values -/

/-- The loop compares each value with all that come before it. -/
theorem differentFrom_iff : differentFrom before xs = true ↔
    (∀ x ∈ before, ∀ y ∈ xs, x.same y = false) ∧ xs.Pairwise fun x y => x.same y = false := by
  induction xs generalizing before with
  | nil => simp [differentFrom]
  | cons y ys ih =>
    have hamong : (!isAmong before y) = true ↔ ∀ x ∈ before, x.same y = false := by
      simp [isAmong]
    rw [differentFrom, Bool.and_eq_true, hamong, ih, List.pairwise_cons]
    constructor
    · rintro ⟨hy, hys, hpairs⟩
      refine ⟨fun x hx => List.forall_mem_cons.mpr ⟨hy x hx, ?_⟩, ?_, hpairs⟩
      · exact hys x (List.mem_append_left _ hx)
      · exact hys y (List.mem_append_right _ (List.mem_singleton_self y))
    · rintro ⟨hall, hy, hpairs⟩
      refine ⟨fun x hx => hall x hx y List.mem_cons_self, ?_, hpairs⟩
      intro x hx
      rcases List.mem_append.mp hx with hx | hx
      · exact fun z hz => hall x hx z (List.mem_cons_of_mem _ hz)
      · obtain rfl := List.mem_singleton.mp hx
        exact hy

theorem allDifferent_iff_pairwise :
    allDifferent xs = true ↔ xs.Pairwise fun x y => x.same y = false := by
  rw [allDifferent, differentFrom_iff]
  simp

/-- **No two values at different places** are the same. -/
theorem allDifferent_iff (hxs : ∀ x ∈ xs, x.IsDocument) : allDifferent xs = true ↔
    ∀ i j, (hi : i < xs.length) → (hj : j < xs.length) → i ≠ j → xs[i].same xs[j] = false := by
  rw [allDifferent_iff_pairwise, List.pairwise_iff_getElem]
  constructor
  · intro h i j hi hj hne
    rcases Nat.lt_or_gt_of_ne hne with hlt | hgt
    · exact h i j hi hj hlt
    · have hcomm := same_comm (hxs _ (List.getElem_mem hi)) (hxs _ (List.getElem_mem hj))
      exact hcomm.trans (h j i hj hi hgt)
  · intro h i j hi hj hlt
    exact h i j hi hj (Nat.ne_of_lt hlt)

theorem allDifferent_perm (hxs : ∀ x ∈ xs, x.IsDocument) (h : xs.Perm ys) :
    allDifferent xs = allDifferent ys := by
  have hboth : ∀ {zs : List Value}, (∀ z ∈ zs, z.IsDocument) →
      (allDifferent zs = true ↔ zs.Pairwise fun x y => x.same y = false ∧ y.same x = false) := by
    intro zs hzs
    rw [allDifferent_iff_pairwise]
    refine List.Pairwise.iff_of_mem fun {x y} hx hy => ?_
    rw [same_comm (hzs y hy) (hzs x hx), and_self]
  rw [Bool.eq_iff_iff, hboth hxs, hboth fun y hy => hxs y (h.mem_iff.mpr hy)]
  exact h.pairwise_iff fun hxy => hxy.symm

/-- What is among some values is among those that have the same ones. -/
theorem isAmong_of_isAmong (hx : x.IsDocument) (hxs : ∀ y ∈ xs, y.IsDocument)
    (hys : ∀ y ∈ ys, y.IsDocument) (hsub : ∀ y ∈ xs, isAmong ys y = true)
    (h : isAmong xs x = true) : isAmong ys x = true := by
  obtain ⟨y, hy, hyx⟩ := List.any_eq_true.mp h
  obtain ⟨z, hz, hzy⟩ := List.any_eq_true.mp (hsub y hy)
  exact List.any_eq_true.mpr ⟨z, hz, same_trans (hys z hz) (hxs y hy) hx hzy hyx⟩

end

/-- **The laws of the two comparisons.**  On documents without an undefined number, strict sameness
is an equivalence, and loose sameness is reflexive and symmetric.  So values are all different just
if no two at different places are the same, in whatever order they are, and a value is among the
same ones, up to sameness, or among none of them. -/
theorem strict_sameness_lawful :
    Equivalence (fun v w : {v : Value // v.IsDefined} => v.1.same w.1 = true) ∧
    (∀ v : Value, v.IsDefined → v.looselySame v = true) ∧
    (∀ v w : Value, v.IsDefined → w.IsDefined → v.looselySame w = w.looselySame v) ∧
    ∀ xs : List Value, (∀ x ∈ xs, x.IsDefined) →
      (allDifferent xs = true ↔ ∀ i j, (hi : i < xs.length) → (hj : j < xs.length) → i ≠ j →
        xs[i].same xs[j] = false) ∧
      ∀ ys : List Value,
        (xs.Perm ys → allDifferent xs = allDifferent ys) ∧
        ((∀ y ∈ ys, y.IsDefined) → (∀ x ∈ xs, isAmong ys x = true) →
          (∀ y ∈ ys, isAmong xs y = true) →
          ∀ x : Value, x.IsDefined → isAmong xs x = isAmong ys x) := by
  refine ⟨⟨?_, ?_, ?_⟩, fun v => looselySame_self, ?_, fun xs hxs => ⟨?_, fun ys => ⟨?_, ?_⟩⟩⟩
  · rintro ⟨v, hv⟩
    exact same_self hv
  · rintro ⟨v, hv⟩ ⟨w, hw⟩ h
    exact (same_comm hw.isDocument hv.isDocument).trans h
  · rintro ⟨u, hu⟩ ⟨v, hv⟩ ⟨w, hw⟩ huv hvw
    exact same_trans hu.isDocument hv.isDocument hw.isDocument huv hvw
  · exact fun v w hv hw => looselySame_comm hv.isDocument hw.isDocument
  · exact allDifferent_iff fun x hx => (hxs x hx).isDocument
  · exact allDifferent_perm fun x hx => (hxs x hx).isDocument
  · intro hys hsub hsub' x hx
    have hxs' : ∀ x ∈ xs, x.IsDocument := fun x hx => (hxs x hx).isDocument
    have hys' : ∀ y ∈ ys, y.IsDocument := fun y hy => (hys y hy).isDocument
    rw [Bool.eq_iff_iff]
    exact ⟨isAmong_of_isAmong hx.isDocument hxs' hys' hsub,
      isAmong_of_isAmong hx.isDocument hys' hxs' hsub'⟩

/-- A mapping with a number and one with a truth value, in another order, are strictly the same:
lists with one in the place of the other have the same values. -/
theorem strict_sameness_lawful_mappings :
    let a := Value.mapping [(.text "n", .int 1), (.text "m", .text "1")]
    let b := Value.mapping [(.text "m", .text "1"), (.text "n", .bool true)]
    a.IsDefined ∧ b.IsDefined ∧ a.same b = true ∧ b.same a = true ∧ b.looselySame b = true ∧
      a.looselySame b = b.looselySame a ∧
      (allDifferent [a, .text "1"] = true ↔ ∀ i j, (hi : i < 2) → (hj : j < 2) → i ≠ j →
        [a, .text "1"][i].same [a, .text "1"][j] = false) ∧
      allDifferent [a, .text "1"] = allDifferent [.text "1", a] ∧
      isAmong [a, .text "1"] b = isAmong [.text "1", b, a] b := by
  have ha : IsDefined (.mapping [(.text "n", .int 1), (.text "m", .text "1")]) := by
    refine .mapping (Entries.isKeyed_pair (by decide)) ?_
    exact List.forall_mem_cons.mpr ⟨.number (by decide), List.forall_mem_singleton.mpr (.text _)⟩
  have hb : IsDefined (.mapping [(.text "m", .text "1"), (.text "n", .bool true)]) := by
    refine .mapping (Entries.isKeyed_pair (by decide)) ?_
    exact List.forall_mem_cons.mpr ⟨.text _, List.forall_mem_singleton.mpr (.bool true)⟩
  obtain ⟨hequivalence, hself, hcomm, hlists⟩ := strict_sameness_lawful
  have hab : Value.same (.mapping [(.text "n", .int 1), (.text "m", .text "1")])
      (.mapping [(.text "m", .text "1"), (.text "n", .bool true)]) = true := by decide +kernel
  have hxs := List.forall_mem_cons.mpr ⟨ha, List.forall_mem_singleton.mpr (IsDefined.text "1")⟩
  have hys := List.forall_mem_cons.mpr ⟨.text "1", List.forall_mem_cons.mpr
    ⟨hb, List.forall_mem_singleton.mpr ha⟩⟩
  have hba := hequivalence.symm (x := ⟨_, ha⟩) (y := ⟨_, hb⟩) hab
  refine ⟨ha, hb, hab, hba, hself _ hb, hcomm _ _ ha hb, (hlists _ hxs).1,
    ((hlists _ hxs).2 _).1 (.swap _ _ []), ((hlists _ hxs).2 _).2 hys ?_ ?_ _ hb⟩
  · decide +kernel
  · decide +kernel

end Value

end RuleSchema
