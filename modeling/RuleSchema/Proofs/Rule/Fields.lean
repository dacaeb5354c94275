import RuleSchema.Proofs.Evaluation
import RuleSchema.Proofs.Value.Entries
import RuleSchema.Rule.Normalize

/-!
# The fields of a rule

A rule mapping that is read has the type that it names, and no other fields than those that rules of
this type have.

* `Checked.closed_map` and `Checked.closed_seq` take a result apart that has been read from some
  fields.
* `Tag.fields` are the names of the fields of a type.
* `normalizeFields_good`: **what is read has its type and knows its fields**.
-/

namespace RuleSchema

/-! ### Checked results -/

namespace Checked

variable {α β : Type}

theorem map_good {f : α → β} {x : Checked α} {b : β} (h : f <$> x = .good b) :
    ∃ a, x = .good a ∧ b = f a := by
  cases x with
  | good a => cases h; exact ⟨a, rfl, rfl⟩
  | bad ps => cases h

theorem seq_good {f : Checked (α → β)} {x : Checked α} {b : β} (h : f <*> x = .good b) :
    ∃ g a, f = .good g ∧ x = .good a ∧ b = g a := by
  cases f with
  | good g =>
    cases x with
    | good a => cases h; exact ⟨g, a, rfl, rfl, rfl⟩
    | bad ps => cases h
  | bad ps => cases h

section

variable {γ : Type} {names : List FieldName} {es : Entries Value}

theorem closed_good {x : Checked α} {a : α} (h : closed x names es = .good a) : x = .good a := by
  unfold closed at h
  split at h
  · cases h; rfl
  · cases h

/-- All fields are known. -/
theorem closed_known {x : Checked α} {a : α} (h : closed x names es = .good a) :
    unknownFields (commonNames ++ names) es = [] := by
  unfold closed at h
  split at h
  · assumption
  · cases h

/-- What is made of one part of the fields. -/
theorem closed_map {f : α → β} {x : Checked α} {b : β}
    (h : closed (f <$> x) names es = .good b) :
    ∃ a, x = .good a ∧ b = f a ∧ unknownFields (commonNames ++ names) es = [] := by
  obtain ⟨a, ha, rfl⟩ := map_good (closed_good h)
  exact ⟨a, ha, rfl, closed_known h⟩

/-- What is made of two parts of the fields. -/
theorem closed_seq {f : α → β → γ} {x : Checked α} {y : Checked β} {c : γ}
    (h : closed (f <$> x <*> y) names es = .good c) :
    ∃ a b, x = .good a ∧ y = .good b ∧ c = f a b ∧
      unknownFields (commonNames ++ names) es = [] := by
  obtain ⟨g, b, hg, hb, rfl⟩ := seq_good (closed_good h)
  obtain ⟨a, ha, rfl⟩ := map_good hg
  exact ⟨a, b, ha, hb, rfl, closed_known h⟩

end

end Checked

open Checked

/-! ### The fields of a type -/

/-- The names of the fields that rules of a type have. -/
def Tag.fields : Tag → List FieldName
  | .string => commonNames ++ StringOptions.names
  | .number => commonNames ++ NumberOptions.names
  | .email => commonNames ++ EmailOptions.names
  | .currency => commonNames ++ CurrencyOptions.names
  | .class => commonNames ++ [both "instanceOf" "instance_of"]
  | .enum => commonNames ++ [own "values"]
  | .equal => commonNames ++ [own "value", own "strict"]
  | .forbidden => commonNames ++ [own "remove"]
  | .url | .uuid => commonNames ++ [own "empty"]
  | .objectId => commonNames ++ [both "ObjectID" "object_id"]
  | .array => commonNames ++ ArrayOptions.names
  | .object => commonNames ++ ObjectOptions.names
  | .multi => commonNames ++ [own "rules"]
  | .tuple => commonNames ++ [own "items"]
  | .record => commonNames ++ [own "key", own "value"]
  | .boolean | .date | .any | .function | .luhn | .mac => commonNames ++ []

/-- Whether rules of a type have a field of this name. -/
def Tag.HasField (tag : Tag) (name : String) : Prop :=
  ∃ f ∈ tag.fields, f.name = name ∨ f.second? = some name

theorem usedName_eq {f : FieldName} {es : Entries Value} {n : String}
    (h : f.usedName es = some n) : f.name = n ∨ f.second? = some n := by
  unfold FieldName.usedName at h
  split at h
  · exact .inl (Option.some.inj h)
  · exact .inr (Option.eq_some_of_filter_eq_some h)

/-- A field that is not unknown has one of the names. -/
theorem name_of_known {names : List FieldName} {es : Entries Value} {n : String} {v : Value}
    (h : unknownFields names es = []) (hv : es.at? n = some v) :
    ∃ f ∈ names, f.name = n ∨ f.second? = some n := by
  obtain ⟨e, he, rfl⟩ := Option.map_eq_some_iff.mp hv
  have hkey : (Value.text n).equals e.1 = true := by simpa using List.find?_some he
  have htext := (Value.equals_iff_text rfl).mp hkey
  have hknown := List.filterMap_eq_nil_iff.mp h e (List.mem_of_find?_eq_some he)
  rw [htext] at hknown
  dsimp only at hknown
  split at hknown
  · next hused =>
    obtain ⟨f, hf, hn⟩ := List.mem_filterMap.mp (List.contains_iff_mem.mp hused)
    exact ⟨f, hf, usedName_eq hn⟩
  · cases hknown

/-- What is made of fields that are known. -/
def Rule.ReadAs (r : Rule) (tag : Tag) (es : Entries Value) : Prop :=
  r.tag = tag ∧ unknownFields tag.fields es = []

section

variable {tag : Tag} {es : Entries Value} {path : String} {r : Rule}

theorem simpleRule_good (htag : tag.isComposite = false) (h : simpleRule es tag = .good r) :
    r.ReadAs tag es := by
  have hone : ∀ {f : CommonOptions → Rule} {names : List FieldName},
      (∀ c, (f c).tag = tag) → tag.fields = commonNames ++ names →
      closed (f <$> CommonOptions.readAll es) names es = .good r → r.ReadAs tag es := by
    intro f names hf hnames h
    obtain ⟨c, -, rfl, hknown⟩ := closed_map h
    exact ⟨hf c, hnames ▸ hknown⟩
  have htwo : ∀ {α : Type} {f : CommonOptions → α → Rule} {x : Checked CommonOptions}
      {y : Checked α} {names : List FieldName},
      (∀ c a, (f c a).tag = tag) → tag.fields = commonNames ++ names →
      closed (f <$> x <*> y) names es = .good r → r.ReadAs tag es := by
    intro α f x y names hf hnames h
    obtain ⟨c, a, -, -, rfl, hknown⟩ := closed_seq h
    exact ⟨hf c a, hnames ▸ hknown⟩
  cases tag with
  | string | number | email | currency | «class» | enum | forbidden | url | uuid | objectId =>
    exact htwo (fun _ _ => rfl) rfl h
  | boolean | date | any | function | luhn | mac => exact hone (fun _ => rfl) rfl h
  | equal =>
    obtain ⟨_, strict, h₁, _, rfl⟩ := seq_good (closed_good h)
    obtain ⟨_, value, h₂, _, rfl⟩ := seq_good h₁
    obtain ⟨c, _, rfl⟩ := map_good h₂
    exact ⟨rfl, closed_known h⟩
  | array | object | multi | tuple | record => cases htag

theorem finishRule_ok {x : Checked Rule} (h : finishRule tag path x = .ok r) : x = .good r := by
  cases x with
  | good r => cases h; rfl
  | bad ps => cases h

/-- **What is read has its type and knows its fields**, if it is not an object. -/
theorem normalizeFields_good {parts : Entries Part} (htag : tag ≠ .object)
    (h : normalizeFields tag parts path = .ok r) : r.ReadAs tag (partValues parts) := by
  cases tag with
  | array =>
    obtain ⟨part, _, h⟩ := except_bind_ok h
    obtain ⟨items, _, h⟩ := except_bind_ok h
    obtain ⟨c, o, -, -, rfl, hknown⟩ := closed_seq (finishRule_ok h)
    exact ⟨rfl, hknown⟩
  | object => exact absurd rfl htag
  | multi =>
    obtain ⟨part, _, h⟩ := except_bind_ok h
    split at h
    · cases h
    · cases h
    · obtain ⟨branches, _, h⟩ := except_bind_ok h
      obtain ⟨c, -, rfl, hknown⟩ := closed_map (finishRule_ok h)
      exact ⟨rfl, hknown⟩
  | tuple =>
    obtain ⟨part, _, h⟩ := except_bind_ok h
    split at h
    · cases h
    · obtain ⟨slots, _, h⟩ := except_bind_ok h
      obtain ⟨c, -, rfl, hknown⟩ := closed_map (finishRule_ok h)
      exact ⟨rfl, hknown⟩
  | record =>
    obtain ⟨key, _, h⟩ := except_bind_ok h
    obtain ⟨value, _, h⟩ := except_bind_ok h
    obtain ⟨c, -, rfl, hknown⟩ := closed_map (finishRule_ok h)
    exact ⟨rfl, hknown⟩
  | _ => exact simpleRule_good rfl (finishRule_ok h)

/-- Rules without rules inside are read from the values of their fields. -/
theorem normalizeFields_simple (htag : tag.isComposite = false) (parts : Entries Part) :
    normalizeFields tag parts path = finishRule tag path (simpleRule (partValues parts) tag) := by
  cases tag <;> first | rfl | cases htag

theorem requirePart_ok {parts : Entries Part} {field : String} {part : Part}
    (h : requirePart parts field tag path = .ok part) : parts.at? field = some part := by
  unfold requirePart at h
  split at h
  · next hpart =>
    split at h <;> cases h
    exact hpart
  · cases h

/-- An array has its items read. -/
theorem normalizeFields_array {parts : Entries Part}
    (h : normalizeFields .array parts path = .ok r) :
    ∃ part items c o, parts.at? "items" = some part ∧ part.rule (path ++ "[]") = .ok items ∧
      r = .array c items o := by
  obtain ⟨part, hpart, h⟩ := except_bind_ok h
  obtain ⟨items, hitems, h⟩ := except_bind_ok h
  obtain ⟨c, o, -, -, rfl, -⟩ := closed_seq (finishRule_ok h)
  exact ⟨part, items, c, o, requirePart_ok hpart, hitems, rfl⟩

/-- The type that a value names. -/
theorem readTag_ok {v : Value} (h : readTag v path = .ok tag) : v.text? = some tag.name := by
  unfold readTag at h
  split at h
  · cases h
    rfl
  · split at h
    · next hname =>
      cases h
      exact congrArg some (Tag.name_of_ofName? hname).symm
    · cases h
  · cases h

end

end RuleSchema
