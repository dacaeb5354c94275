import Mathlib.Data.List.Nodup
import RuleSchema.Json.Canonical
import RuleSchema.Proofs.Value.Json

/-!
# The canonical text of a document

The keys of a document are texts, so that they can be sorted.  What is sorted is a document
again, and writing it fails only at a whole number that is too long to be written.

The tools of a catalog are sorted by texts as well.  A list that is sorted by distinct texts is the
only one with its members, so that it does not matter in which order they came.

* `keyClash?_texts`: texts can be sorted.
* `sortedBy_perm`, `sortedBy_strict`, `sortedBy_congr` are the laws of sorting by texts.
* `sortTexts_congr` and `sortTexts_strict` are those for the texts alone.
* `mergeSort_texts`: sorting by keys that are texts is sorting by texts.
* `Value.holdsLong` says of a value that there is such a number inside.
* `sortDeep_json`: a document is sorted, which brings in no such number.
* `jsonAt_json`, `fingerprint_json`: a document is written, or else it holds one.
-/

namespace RuleSchema

/-- Texts can be sorted. -/
theorem keyClash?_texts : ∀ {keys : List Value}, (∀ k ∈ keys, k.text?.isSome = true) →
    keyClash? keys = none
  | [], _ => rfl
  | [_], _ => rfl
  | a :: b :: keys, h => by
    have hless : ∃ less, Value.less b a = .ok less := by
      have ha := h a List.mem_cons_self
      have hb := h b (List.mem_cons_of_mem _ List.mem_cons_self)
      cases a <;> cases ha <;> cases b <;> cases hb <;> exact ⟨_, rfl⟩
    obtain ⟨less, hless⟩ := hless
    rw [keyClash?, hless]
    exact keyClash?_texts fun k hk => h k (List.mem_cons_of_mem _ hk)

/-- Entries whose keys are texts are sorted by them. -/
theorem sortKeys_texts {α : Type} {es : Entries α} (h : ∀ e ∈ es, ∃ n, e.1 = .text n) :
    ∃ sorted, sortKeys es = .ok sorted ∧ ∀ e, e ∈ sorted ↔ e ∈ es := by
  have hclash : keyClash? (es.map Prod.fst) = none :=
    keyClash?_texts (List.forall_mem_map.mpr fun e he => by
      obtain ⟨n, hn⟩ := h e he
      rw [hn]
      rfl)
  refine ⟨es.mergeSort fun e f => keyAtMost e.1 f.1, by rw [sortKeys, hclash], fun e => ?_⟩
  exact List.mem_mergeSort

/-! ### Sorting by texts -/

section

variable {α : Type} {name : α → String} {l l' : List α}

/-- Members in the order of their names. -/
def sortedBy (name : α → String) (l : List α) : List α :=
  l.mergeSort fun a b => !decide (name b < name a)

theorem sortTexts_eq (xs : List String) : sortTexts xs = sortedBy id xs := rfl

theorem sortedBy_perm : (sortedBy name l).Perm l := List.mergeSort_perm l _

theorem sortedBy_pairwise : (sortedBy name l).Pairwise fun a b => name a ≤ name b := by
  have hsorted := @List.pairwise_mergeSort α (fun a b => !decide (name b < name a)) ?_ ?_ l
  · refine hsorted.imp fun h => ?_
    rwa [Bool.not_eq_true', decide_eq_false_iff_not, String.not_lt] at h
  · intro a b c hab hbc
    rw [Bool.not_eq_true', decide_eq_false_iff_not, String.not_lt] at hab hbc ⊢
    exact String.le_trans hab hbc
  · intro a b
    rw [Bool.or_eq_true, Bool.not_eq_true', Bool.not_eq_true', decide_eq_false_iff_not,
      decide_eq_false_iff_not, String.not_lt, String.not_lt]
    exact String.le_total (name a) (name b)

/-- Sorting by distinct names leaves no choice. -/
theorem sortedBy_congr (h : l.Perm l') (hdistinct : ∀ a ∈ l, ∀ b ∈ l, name a = name b → a = b) :
    sortedBy name l = sortedBy name l' := by
  refine List.Perm.eq_of_pairwise (fun a b ha hb hab hba => ?_) sortedBy_pairwise
    sortedBy_pairwise (sortedBy_perm.trans (h.trans sortedBy_perm.symm))
  exact hdistinct a (sortedBy_perm.subset ha) b (h.symm.subset (sortedBy_perm.subset hb))
    (String.le_antisymm hab hba)

/-- Among distinct names none stands twice. -/
theorem sortedBy_strict (h : (l.map name).Nodup) :
    (sortedBy name l).Pairwise fun a b => name a < name b := by
  have hdistinct : (sortedBy name l).Pairwise fun a b => name a ≠ name b := by
    rw [← List.pairwise_map (f := name) (R := (· ≠ ·))]
    exact (sortedBy_perm.map name).nodup_iff.mpr h
  exact (sortedBy_pairwise.and hdistinct).imp fun h => Std.lt_of_le_of_ne h.1 h.2

end

theorem sortTexts_congr {xs ys : List String} (h : xs.Perm ys) : sortTexts xs = sortTexts ys := by
  rw [sortTexts_eq, sortTexts_eq]
  exact sortedBy_congr h fun _ _ _ _ h => h

theorem sortTexts_strict {xs : List String} (h : xs.Nodup) : (sortTexts xs).Pairwise (· < ·) := by
  change (sortedBy id xs).Pairwise fun a b => id a < id b
  exact sortedBy_strict (by rwa [List.map_id])

theorem mem_sortTexts {xs : List String} {x : String} : x ∈ sortTexts xs ↔ x ∈ xs :=
  List.mem_mergeSort

/-- **Sorting by keys that are texts** is sorting by those texts. -/
theorem mergeSort_texts {α : Type} {key : α → Value} {l : List α}
    (h : ∀ a ∈ l, ∃ n, key a = .text n) :
    (l.mergeSort fun a b => keyAtMost (key a) (key b))
      = sortedBy (fun a => ((key a).text?).getD "") l := by
  have hless : ∀ a ∈ l, ∀ b ∈ l, keyAtMost (key a) (key b)
      = !decide (((key b).text?).getD "" < ((key a).text?).getD "") := by
    intro a ha b hb
    obtain ⟨m, hm⟩ := h a ha
    obtain ⟨n, hn⟩ := h b hb
    rw [hm, hn]
    rfl
  have hsame := List.map_mergeSort (r := fun a b => keyAtMost (key a) (key b)) (f := id)
    (s := fun a b => !decide (((key b).text?).getD "" < ((key a).text?).getD "")) hless
  rwa [List.map_id, List.map_id] at hsame

/-! ### Long numbers -/

/-- Whether a number cannot be written. -/
def Number.isLong : Number → Bool
  | .int n => digitLimit < (toString n).length && digitLimit < Binary64.digitCount n.natAbs
  | .float _ => false

mutual

/-- Whether a value has a number inside that cannot be written. -/
def Value.holdsLong : Value → Bool
  | .number n => n.isLong
  | .list xs => Value.someHoldLong xs
  | .mapping es => Value.entriesHoldLong es
  | _ => false
termination_by structural v => v

/-- Whether one of some values has a number inside that cannot be written. -/
def Value.someHoldLong : List Value → Bool
  | [] => false
  | x :: xs => Value.holdsLong x || Value.someHoldLong xs
termination_by structural xs => xs

/-- Whether the content of one of some entries has a number inside that cannot be written. -/
def Value.entriesHoldLong : List (Value × Value) → Bool
  | [] => false
  | (_, x) :: es => Value.holdsLong x || Value.entriesHoldLong es
termination_by structural es => es

end

theorem entriesHoldLong_iff {es : Entries Value} :
    Value.entriesHoldLong es = true ↔ ∃ e ∈ es, e.2.holdsLong = true := by
  induction es with
  | nil => simp [Value.entriesHoldLong]
  | cons e es ih => simp [Value.entriesHoldLong, ih]

/-! ### Sorting -/

/-- Entries whose contents are no faults. -/
theorem sequenceEntries_ok {P : Value → Value → Prop} : ∀ {es : List (Value × Except Fault Value)},
    (∀ e ∈ es, ∃ x, e.2 = .ok x ∧ P e.1 x) →
      ∃ ws, sequenceEntries es = .ok ws ∧ ∀ w ∈ ws, P w.1 w.2
  | [], _ => ⟨[], rfl, fun _ h => absurd h List.not_mem_nil⟩
  | e :: es, h => by
    obtain ⟨⟨x, hx, hP⟩, hes⟩ := List.forall_mem_cons.mp h
    obtain ⟨ws, hws, hall⟩ := sequenceEntries_ok hes
    refine ⟨(e.1, x) :: ws, ?_, List.forall_mem_cons.mpr ⟨hP, hall⟩⟩
    rw [sequenceEntries] at hws ⊢
    rw [List.mapM_cons, hx, hws]
    rfl

/-- A document that holds no longer numbers than another value. -/
def SortedOf (long : Bool) (w : Value) : Prop :=
  w.isJson = true ∧ (w.holdsLong = true → long = true)

mutual

/-- **A document is sorted**, and the sorted one is a document with no other numbers. -/
theorem sortDeep_json : ∀ {v : Value}, v.isJson = true →
    ∃ w, sortDeep v = .ok w ∧ SortedOf v.holdsLong w
  | .null, _ => ⟨.null, rfl, rfl, id⟩
  | .bool b, _ => ⟨.bool b, rfl, rfl, id⟩
  | .number n, _ => ⟨.number n, rfl, rfl, id⟩
  | .text s, _ => ⟨.text s, rfl, rfl, id⟩
  | .list xs, h => by
    obtain ⟨ys, hys, hjson, hlong⟩ := sortDeepItems_json h
    exact ⟨.list ys, by rw [sortDeep, hys]; rfl, hjson, hlong⟩
  | .mapping es, h => by
    have hes := sortDeepEntries_json h
    obtain ⟨sorted, hsorted, hmem⟩ := sortKeys_texts fun e he => (hes e he).1
    obtain ⟨ws, hws, hall⟩ := sequenceEntries_ok
      (P := fun k x => (∃ n, k = .text n) ∧ SortedOf (Value.entriesHoldLong es) x)
      fun e he => by
        obtain ⟨hname, x, hx, hsorted⟩ := hes e ((hmem e).mp he)
        exact ⟨x, hx, hname, hsorted⟩
    refine ⟨.mapping ws, ?_, ?_, ?_⟩
    · rw [sortDeep, hsorted]
      change (sequenceEntries sorted >>= _) = _
      rw [hws]
      rfl
    · exact Value.isJson_mapping.mpr fun w hw => ⟨(hall w hw).1, (hall w hw).2.1⟩
    · intro hlong
      obtain ⟨w, hw, hlong⟩ := entriesHoldLong_iff.mp hlong
      exact (hall w hw).2.2 hlong

theorem sortDeepItems_json : ∀ {xs : List Value}, Value.allJson xs = true →
    ∃ ys, sortDeepItems xs = .ok ys ∧ SortedOf (Value.someHoldLong xs) (.list ys)
  | [], _ => ⟨[], rfl, rfl, id⟩
  | x :: xs, h => by
    rw [Value.allJson, Bool.and_eq_true] at h
    obtain ⟨y, hy, hjson, hlong⟩ := sortDeep_json h.1
    obtain ⟨ys, hys, hjsons, hlongs⟩ := sortDeepItems_json h.2
    refine ⟨y :: ys, by rw [sortDeepItems, hy, hys]; rfl, ?_, fun hl => ?_⟩
    · exact Value.isJson_list.mpr (List.forall_mem_cons.mpr ⟨hjson, Value.isJson_list.mp hjsons⟩)
    · rw [Value.someHoldLong, Bool.or_eq_true]
      exact (Bool.or_eq_true_iff.mp hl).imp hlong hlongs

theorem sortDeepEntries_json : ∀ {es : Entries Value}, Value.entriesJson es = true →
    ∀ e ∈ sortDeepEntries es, (∃ n, e.1 = .text n) ∧
      ∃ x, e.2 = .ok x ∧ SortedOf (Value.entriesHoldLong es) x
  | [], _ => fun _ h => absurd h List.not_mem_nil
  | (.text n, x) :: es, h => by
    rw [Value.entriesJson, Bool.and_eq_true] at h
    obtain ⟨y, hy, hjson, hlong⟩ := sortDeep_json h.1
    refine List.forall_mem_cons.mpr ⟨⟨⟨n, rfl⟩, y, hy, hjson, fun hl => ?_⟩, fun e he => ?_⟩
    · rw [Value.entriesHoldLong, hlong hl, Bool.true_or]
    · obtain ⟨hname, z, hz, hjson', hlong'⟩ := sortDeepEntries_json h.2 e he
      refine ⟨hname, z, hz, hjson', fun hl => ?_⟩
      rw [Value.entriesHoldLong, hlong' hl, Bool.or_true]

end

/-! ### Writing -/

/-- A result, or a number that is too long. -/
def WrittenUnless {α : Type} (long : Bool) (r : Except Fault α) : Prop :=
  ∀ f, r = .error f → f = .numberTooLong ∧ long = true

theorem WrittenUnless.bind {α β : Type} {long : Bool} {r : Except Fault α}
    {g : α → Except Fault β} (hr : WrittenUnless long r) (hg : ∀ a, WrittenUnless long (g a)) :
    WrittenUnless long (r >>= g) := by
  intro f hf
  cases r with
  | ok a => exact hg a f hf
  | error e => exact Except.error.inj hf ▸ hr e rfl

theorem WrittenUnless.ok {α : Type} {long : Bool} {a : α} : WrittenUnless long (.ok a) :=
  fun _ h => nomatch h

theorem WrittenUnless.mono {α : Type} {long long' : Bool} {r : Except Fault α}
    (h : WrittenUnless long r) (hlong : long = true → long' = true) : WrittenUnless long' r :=
  fun f hf => ⟨(h f hf).1, hlong (h f hf).2⟩

theorem number_toJson (n : Number) : WrittenUnless n.isLong n.toJson := by
  cases n with
  | float x => exact .ok
  | int n =>
    intro f hf
    rw [Number.toJson, wholeText] at hf
    split at hf
    · next hlong => cases hf; exact ⟨rfl, hlong⟩
    · cases hf

mutual

theorem jsonAt_json (style : JsonStyle) : ∀ {v : Value} (level : Nat), v.isJson = true →
    WrittenUnless v.holdsLong (Value.jsonAt style level v)
  | .null, _, _ => .ok
  | .bool _, _, _ => .ok
  | .number n, _, _ => number_toJson n
  | .text _, _, _ => .ok
  | .list _, level, h => (jsonItems_json style (level + 1) h).bind fun _ => .ok
  | .mapping _, level, h => (jsonEntries_json style (level + 1) h).bind fun _ => .ok

theorem jsonItems_json (style : JsonStyle) : ∀ {xs : List Value} (level : Nat),
    Value.allJson xs = true → WrittenUnless (Value.someHoldLong xs) (Value.jsonItems style level xs)
  | [], _, _ => .ok
  | x :: xs, level, h => by
    rw [Value.allJson, Bool.and_eq_true] at h
    refine ((jsonAt_json style level h.1).mono fun hl => ?_).bind fun _ =>
      ((jsonItems_json style level h.2).mono fun hl => ?_).bind fun _ => .ok
    · rw [Value.someHoldLong, hl, Bool.true_or]
    · rw [Value.someHoldLong, hl, Bool.or_true]

theorem jsonEntries_json (style : JsonStyle) : ∀ {es : Entries Value} (level : Nat),
    Value.entriesJson es = true →
      WrittenUnless (Value.entriesHoldLong es) (Value.jsonEntries style level es)
  | [], _, _ => .ok
  | (.text n, x) :: es, level, h => by
    rw [Value.entriesJson, Bool.and_eq_true] at h
    have hkey : WrittenUnless false (Value.keyText (.text n)) := .ok
    refine (hkey.mono fun hl => nomatch hl).bind fun _ =>
      ((jsonAt_json style level h.1).mono fun hl => ?_).bind fun _ =>
        ((jsonEntries_json style level h.2).mono fun hl => ?_).bind fun _ => .ok
    · rw [Value.entriesHoldLong, hl, Bool.true_or]
    · rw [Value.entriesHoldLong, hl, Bool.or_true]

end

/-- **The fingerprint of a document** can be taken, unless it holds a number that cannot be
written. -/
theorem fingerprint_json {v : Value} (hv : v.isJson = true) :
    WrittenUnless v.holdsLong (fingerprint v) := by
  obtain ⟨w, hw, hjson, hlong⟩ := sortDeep_json hv
  have hdump : WrittenUnless v.holdsLong (dumpJson v none) := by
    rw [dumpJson, hw]
    exact (jsonAt_json _ 0 hjson).mono hlong
  exact hdump.bind fun _ => .ok

end RuleSchema
