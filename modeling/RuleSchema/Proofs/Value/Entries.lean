import RuleSchema.Value.Entries

/-!
# Lookups in entries

Keys that are texts are found by their text, so that a lookup does not see the entries of
another text, and finds the same in entries whose contents are changed one by one.

* `Value.equals_iff_text`: which values a text is equal to.
* `hasKey_of_text`: a text is a key if it is the text of one.
* `find?_append`: lookups in entries behind others.
* `find?_erase`, `find?_erase_self`: lookups in the entries without a key.
* `at?_contents`: lookups in entries with other contents.
* `keys_put`: the keys after something has been put in.
-/

namespace RuleSchema

/-- A value is equal to a text just if it is that text. -/
theorem Value.equals_iff_text {k v : Value} {n : String} (hk : k.text? = some n) :
    k.equals v = true ↔ v.text? = some n := by
  have hname : ∀ {t u : Tag}, t.name = u.name → t = u := fun {t u} h =>
    Option.some.inj ((Tag.ofName?_name t).symm.trans ((congrArg _ h).trans (Tag.ofName?_name u)))
  have hfalse : (none : Option String) = some n ↔ False := by simp
  cases k with
  | text s =>
    cases hk
    cases v <;> simp only [Value.equals, Value.text?, beq_iff_eq, Option.some.injEq, hfalse,
      Bool.false_eq_true] <;> exact eq_comm
  | tag t =>
    cases hk
    cases v <;> simp only [Value.equals, Value.text?, beq_iff_eq, Option.some.injEq, hfalse,
      Bool.false_eq_true]
    · exact eq_comm
    · exact ⟨fun h => congrArg _ h.symm, fun h => hname h.symm⟩
  | _ => cases hk

section

variable {α β : Type} {es : Entries α} {f name : Value} {n m : String}

theorem hasKey_of_text {e : Value × α} (he : e ∈ es) (hn : e.1.text? = some n)
    (hname : name.text? = some n) : es.hasKey name = true :=
  List.any_eq_true.mpr ⟨e, he, (Value.equals_iff_text hname).mpr hn⟩

/-- Entries behind others are found under the keys that these do not have. -/
theorem find?_append (xs ys : Entries α) :
    Entries.find? (xs ++ ys) name = (xs.find? name).or (ys.find? name) := by
  rw [Entries.find?, List.find?_append, Option.map_or]
  rfl

/-- Another text is found as before. -/
theorem find?_erase (hname : name.text? = some n) (hf : f.text? = some m) (hnm : n ≠ m) :
    (es.erase f).find? name = es.find? name := by
  rw [Entries.find?, Entries.find?, Entries.erase, List.find?_filter]
  refine congrArg (Option.map Prod.snd) (congrArg (fun p => List.find? p es) (funext fun e => ?_))
  cases he : name.equals e.1 with
  | false => rw [decide_eq_false (by simp)]
  | true =>
    have hne : f.equals e.1 = false := by
      rw [← Bool.not_eq_true, Value.equals_iff_text hf]
      intro h
      rw [Value.equals_iff_text hname, h] at he
      exact hnm (Option.some.inj he).symm
    simp [hne]

theorem find?_erase_self : (es.erase f).find? f = none := by
  rw [Entries.find?, Entries.erase, List.find?_filter, Option.map_eq_none_iff,
    List.find?_eq_none]
  intro e _
  cases f.equals e.1 <;> simp

/-- Contents that are changed one by one are found changed. -/
theorem at?_contents (g : α → β) :
    Entries.at? (es.map fun e => (e.1, g e.2)) n = (es.at? n).map g := by
  rw [Entries.at?, Entries.at?, Entries.find?, Entries.find?, List.find?_map, Option.map_map,
    Option.map_map]
  rfl

theorem erase_contents (g : α → β) :
    Entries.erase (es.map fun e => (e.1, g e.2)) f = (es.erase f).map fun e => (e.1, g e.2) := by
  rw [Entries.erase, Entries.erase, List.filter_map]
  rfl

/-- A key that is not there is put at the end. -/
theorem put_new {es : Entries Value} {k x : Value} (h : ∀ e ∈ es, k.equals e.1 = false) :
    es.put k x = es ++ [(k, x)] := by
  induction es with
  | nil => rfl
  | cons e es ih =>
    obtain ⟨he, hes⟩ := List.forall_mem_cons.mp h
    rw [Entries.put, he, if_neg Bool.false_ne_true, ih hes]
    rfl

/-- Putting an entry keeps the keys, or adds one that is different from them. -/
theorem keys_put (es : Entries Value) (k x : Value) :
    (es.put k x).keys = es.keys ∨ (∀ e ∈ es, k.equals e.1 = false) ∧
      (es.put k x).keys = es.keys ++ [k] := by
  by_cases hnew : ∀ e ∈ es, k.equals e.1 = false
  · refine .inr ⟨hnew, ?_⟩
    rw [put_new hnew, Entries.keys, List.map_append]
    rfl
  · refine .inl ?_
    induction es with
    | nil => exact absurd (fun e he => absurd he List.not_mem_nil) hnew
    | cons e es ih =>
      rw [Entries.put]
      by_cases he : k.equals e.1 = true
      · rw [if_pos he]
        rfl
      · rw [if_neg he]
        have hes : ¬ ∀ e ∈ es, k.equals e.1 = false := by
          intro hes
          exact hnew (List.forall_mem_cons.mpr ⟨by simpa using he, hes⟩)
        exact congrArg (e.1 :: ·) (ih hes)

end

end RuleSchema
