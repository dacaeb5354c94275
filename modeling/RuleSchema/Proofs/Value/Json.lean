import RuleSchema.Json.Form
import RuleSchema.Rule.Source
import RuleSchema.Value.Order

/-!
# The values of JSON documents

A JSON document is made of null, truth values, numbers, texts, lists and mappings whose
keys are texts.  Rules and payloads come from such documents, and so does the schema of a
signature become one.

* `Value.isJson` are the values of documents, and `Value.entriesJson` the entries of an
  object.
* `Entries.HoldsJson` says of entries that their keys are texts and their contents values
  of documents, and the operations on entries keep it.
* `jsonForm?_of_json`: such a value has a form in JSON, without a fault.
-/

namespace RuleSchema

mutual

/-- Whether a value is one of a JSON document. -/
def Value.isJson : Value → Bool
  | .null => true
  | .bool _ => true
  | .number _ => true
  | .text _ => true
  | .list xs => Value.allJson xs
  | .mapping es => Value.entriesJson es
  | _ => false
termination_by structural v => v

/-- Whether some values are all of JSON documents. -/
def Value.allJson : List Value → Bool
  | [] => true
  | x :: xs => Value.isJson x && Value.allJson xs
termination_by structural xs => xs

/-- Whether some entries are those of an object of a JSON document. -/
def Value.entriesJson : List (Value × Value) → Bool
  | [] => true
  | (.text _, x) :: es => Value.isJson x && Value.entriesJson es
  | _ :: _ => false
termination_by structural es => es

end

/-- The keys of entries are texts, and their contents are values of JSON documents. -/
def Entries.HoldsJson (es : Entries Value) : Prop :=
  ∀ e ∈ es, (∃ n, e.1 = .text n) ∧ e.2.isJson = true

namespace Value

theorem allJson_iff {xs : List Value} : allJson xs = true ↔ ∀ x ∈ xs, x.isJson = true := by
  induction xs with
  | nil => simp [allJson]
  | cons x xs ih => simp [allJson, ih]

theorem entriesJson_iff {es : Entries Value} :
    entriesJson es = true ↔ Entries.HoldsJson es := by
  induction es with
  | nil => simp [entriesJson, Entries.HoldsJson]
  | cons e es ih =>
    obtain ⟨k, x⟩ := e
    rw [Entries.HoldsJson, List.forall_mem_cons, ← Entries.HoldsJson, ← ih]
    cases k <;> simp [entriesJson]

theorem isJson_list {xs : List Value} :
    (Value.list xs).isJson = true ↔ ∀ x ∈ xs, x.isJson = true := by
  rw [isJson, allJson_iff]

theorem isJson_mapping {es : Entries Value} :
    (Value.mapping es).isJson = true ↔ Entries.HoldsJson es := by
  rw [isJson, entriesJson_iff]

/-- The items of a value of a document. -/
theorem isJson_items {v : Value} {xs : List Value} (hv : v.isJson = true)
    (hxs : v.items? = some xs) : ∀ x ∈ xs, x.isJson = true := by
  cases v <;> cases hxs
  · exact isJson_list.mp hv
  · cases hv

/-- The values of documents cannot be called. -/
theorem isCallable_of_isJson {v : Value} (h : v.isJson = true) : v.isCallable = false := by
  cases v <;> first | rfl | cases h

end Value

namespace Entries.HoldsJson

variable {es fs : Entries Value} {k : Value} {n : String} {v : Value}

theorem nil : Entries.HoldsJson [] := fun _ h => absurd h List.not_mem_nil

theorem cons (hv : v.isJson = true) (h : Entries.HoldsJson es) :
    Entries.HoldsJson ((.text n, v) :: es) :=
  List.forall_mem_cons.mpr ⟨⟨⟨n, rfl⟩, hv⟩, h⟩

theorem append (hes : Entries.HoldsJson es) (hfs : Entries.HoldsJson fs) :
    Entries.HoldsJson (es ++ fs) :=
  List.forall_mem_append.mpr ⟨hes, hfs⟩

theorem filter (h : Entries.HoldsJson es) (p : Value × Value → Bool) :
    Entries.HoldsJson (es.filter p) :=
  fun e he => h e (List.mem_filter.mp he).1

theorem erase (h : Entries.HoldsJson es) (k : Value) : Entries.HoldsJson (es.erase k) :=
  h.filter _

theorem put (h : Entries.HoldsJson es) (hv : v.isJson = true) :
    Entries.HoldsJson (es.put (.text n) v) := by
  induction es with
  | nil => exact .cons hv .nil
  | cons e es ih =>
    obtain ⟨⟨hk, hx⟩, hes⟩ := List.forall_mem_cons.mp h
    rw [Entries.put]
    split
    · exact List.forall_mem_cons.mpr ⟨⟨hk, hv⟩, hes⟩
    · exact List.forall_mem_cons.mpr ⟨⟨hk, hx⟩, ih hes⟩

theorem find? (h : Entries.HoldsJson es) (hv : es.find? k = some v) : v.isJson = true := by
  obtain ⟨e, he, rfl⟩ := Option.map_eq_some_iff.mp hv
  exact (h e (List.mem_of_find?_eq_some he)).2

theorem at? (h : Entries.HoldsJson es) (hv : es.at? n = some v) : v.isJson = true :=
  h.find? hv

/-- What stands under a name, or null. -/
theorem getD (h : Entries.HoldsJson es) (n : String) :
    ((es.at? n).getD .null).isJson = true := by
  cases hv : es.at? n with
  | none => rfl
  | some v => exact h.at? hv

theorem ofPairs (h : Entries.HoldsJson es) : Entries.HoldsJson (Entries.ofPairs es) := by
  have hfold : ∀ (ps acc : Entries Value), Entries.HoldsJson ps → Entries.HoldsJson acc →
      Entries.HoldsJson (ps.foldl (fun es e => es.put e.1 e.2) acc) := by
    intro ps
    induction ps with
    | nil => intro acc _ hacc; exact hacc
    | cons p ps ih =>
      intro acc hps hacc
      obtain ⟨⟨⟨n, hn⟩, hx⟩, hps⟩ := List.forall_mem_cons.mp hps
      rw [List.foldl_cons, hn]
      exact ih _ hps (hacc.put hx)
  exact hfold es [] h .nil

end Entries.HoldsJson

/-! ### Forms -/

mutual

/-- A value of a document has a form, which is one of a document too. -/
theorem jsonForm_of_json : ∀ {v : Value}, v.isJson = true →
    ∃ form, v.jsonForm = .ok form ∧ form.isJson = true
  | .null, _ => ⟨.null, rfl, rfl⟩
  | .bool b, _ => ⟨.bool b, rfl, rfl⟩
  | .number n, _ => ⟨.number n, rfl, rfl⟩
  | .text s, _ => ⟨.text s, rfl, rfl⟩
  | .list xs, h => by
    obtain ⟨forms, hforms, hjson⟩ := jsonForms_of_json h
    exact ⟨.list forms, by rw [Value.jsonForm, hforms]; rfl, hjson⟩
  | .mapping es, h => by
    obtain ⟨forms, hforms, hjson⟩ := jsonEntryForms_of_json h
    refine ⟨.mapping (Entries.ofPairs forms), by rw [Value.jsonForm, hforms]; rfl, ?_⟩
    exact Value.isJson_mapping.mpr (Value.entriesJson_iff.mp hjson).ofPairs

theorem jsonForms_of_json : ∀ {xs : List Value}, Value.allJson xs = true →
    ∃ forms, Value.jsonForms xs = .ok forms ∧ Value.allJson forms = true
  | [], _ => ⟨[], rfl, rfl⟩
  | x :: xs, h => by
    rw [Value.allJson, Bool.and_eq_true] at h
    obtain ⟨form, hform, hx⟩ := jsonForm_of_json h.1
    obtain ⟨forms, hforms, hxs⟩ := jsonForms_of_json h.2
    refine ⟨form :: forms, by rw [Value.jsonForms, hform, hforms]; rfl, ?_⟩
    rw [Value.allJson, hx, hxs]
    rfl

theorem jsonEntryForms_of_json : ∀ {es : Entries Value}, Value.entriesJson es = true →
    ∃ forms, Value.jsonEntryForms es = .ok forms ∧ Value.entriesJson forms = true
  | [], _ => ⟨[], rfl, rfl⟩
  | (.text n, x) :: es, h => by
    rw [Value.entriesJson, Bool.and_eq_true] at h
    obtain ⟨form, hform, hx⟩ := jsonForm_of_json h.1
    obtain ⟨forms, hforms, hes⟩ := jsonEntryForms_of_json h.2
    refine ⟨(.text n, form) :: forms, ?_, ?_⟩
    · rw [Value.jsonEntryForms, Value.keyForm, hform, hforms]
      rfl
    · rw [Value.entriesJson, hx, hes]
      rfl

end

theorem jsonForm?_of_json {v : Value} (h : v.isJson = true) :
    ∃ form, v.jsonForm? = .ok (some form) ∧ form.isJson = true := by
  obtain ⟨form, hform, hjson⟩ := jsonForm_of_json h
  exact ⟨form, by rw [Value.jsonForm?, hform], hjson⟩

/-! ### Sources -/

theorem ofValues_eq_map : ∀ xs : List Value, RuleSource.ofValues xs = xs.map RuleSource.ofValue
  | [] => rfl
  | _ :: xs => congrArg _ (ofValues_eq_map xs)

theorem ofEntries_eq_map : ∀ es : Entries Value,
    RuleSource.ofEntries es = es.map fun e => (e.1, RuleSource.ofValue e.2)
  | [] => rfl
  | _ :: es => congrArg _ (ofEntries_eq_map es)

mutual

/-- The source that is a value is that value. -/
theorem toValue_ofValue : ∀ v : Value, (RuleSource.ofValue v).toValue = v
  | .list xs => by rw [RuleSource.ofValue, RuleSource.toValue, toValues_ofValues]
  | .mapping es => by rw [RuleSource.ofValue, RuleSource.toValue, toEntries_ofEntries]
  | .absent | .null | .bool _ | .number _ | .text _ | .bytes _ | .tuple _ | .instant _ | .cls _
  | .object .. | .func .. | .pattern .. | .tag _ | .rule .. => by
    simp only [RuleSource.ofValue, RuleSource.toValue]

theorem toValues_ofValues : ∀ xs : List Value, RuleSource.toValues (RuleSource.ofValues xs) = xs
  | [] => rfl
  | x :: xs => by
    rw [RuleSource.ofValues, RuleSource.toValues, toValue_ofValue x, toValues_ofValues xs]

theorem toEntries_ofEntries : ∀ es : Entries Value,
    RuleSource.toEntries (RuleSource.ofEntries es) = es
  | [] => rfl
  | (k, x) :: es => by
    rw [RuleSource.ofEntries, RuleSource.toEntries, toValue_ofValue x, toEntries_ofEntries es]

end

end RuleSchema
