import RuleSchema.Proofs.Json.Canonical
import RuleSchema.Proofs.Signature.Faults
import RuleSchema.Tool.Description

/-!
# Describing operations

The schema of a call is a document, because the schemas of validators are documents.  So an
operation with a complete signature can be described, as long as it has a name.

* `SignatureBody.Shown` is what a schema needs of the validators of a signature.
* `Signature.inputSchema_json`: the schema of a call is a document.
* `describeTool_texts`: an operation is described under its name, unless that is empty.
-/

namespace RuleSchema

variable {s : Signature} {ds : Entries Validator}

/-- The schemas of all validators of a signature can be written, and the names of its fields are
texts. -/
inductive SignatureBody.Shown : SignatureBody → Prop
  | whole {d : Validator} : d.WritableStages → Shown (.whole d)
  | fields {ds : Entries Validator} :
      (∀ e ∈ ds, (∃ n, e.1 = .text n) ∧ e.2.WritableStages) → Shown (.fields ds)
  | brokenWhole : Shown .brokenWhole

/-- So it is in a signature from a document. -/
theorem SignatureBody.Sound.shown {F : Fault → Prop} {body : SignatureBody} (h : body.Sound F) :
    body.Shown := by
  cases h with
  | whole hd => exact .whole hd.writable
  | fields hds => exact .fields fun e he => ⟨(hds e he).1, (hds e he).2.writable⟩
  | brokenWhole => exact .brokenWhole

/-! ### Schemas -/

theorem exportEntries_json : ∀ {ds : Entries Validator},
    (∀ e ∈ ds, (∃ n, e.1 = .text n) ∧ e.2.WritableStages) →
      ∃ schemas ds', exportEntries ds = .ok (schemas, ds') ∧ Entries.HoldsJson schemas
  | [], _ => ⟨[], [], rfl, .nil⟩
  | (name, d) :: ds, h => by
    obtain ⟨⟨⟨n, rfl⟩, hd⟩, hds⟩ := List.forall_mem_cons.mp h
    obtain ⟨schema, d', hexport, hschema, -⟩ := d.export_writable hd
    obtain ⟨schemas, ds', hexports, hschemas⟩ := exportEntries_json hds
    refine ⟨(.text n, .mapping schema) :: schemas, (.text n, d') :: ds', ?_, ?_⟩
    · rw [exportEntries, hexport, hexports]
      rfl
    · exact .cons hschema.isJson hschemas

/-- The list of required fields is a list of texts. -/
theorem requiredFields_json (h : ∀ e ∈ ds, ∃ n, e.1 = .text n) :
    ∃ required, requiredFields ds = .ok required ∧ (Value.list required).isJson = true := by
  have hnames : ∀ e ∈ ds.filter fun e => e.2.required, ∃ n, e.1 = .text n :=
    fun e he => h e (List.mem_of_mem_filter he)
  obtain ⟨sorted, hsorted, hmem⟩ := sortKeys_texts hnames
  refine ⟨Entries.keys sorted, by rw [requiredFields, hsorted]; rfl, ?_⟩
  refine Value.isJson_list.mpr (List.forall_mem_map.mpr fun e he => ?_)
  obtain ⟨n, hn⟩ := hnames e ((hmem e).mp he)
  rw [hn]
  rfl

theorem fieldsSchema_json {properties : Entries Value} {required : List Value}
    {mode : UnknownKeys} (hp : Entries.HoldsJson properties)
    (hr : (Value.list required).isJson = true) :
    Entries.HoldsJson (fieldsSchema properties required mode) := by
  refine (Entries.HoldsJson.append (.append (.cons rfl .nil)
    (.cons (Value.isJson_mapping.mpr hp) .nil)) ?_).append ?_
  · split
    · exact .nil
    · exact .cons hr .nil
  · split
    · exact .cons rfl .nil
    · exact .nil

theorem wrappedSchema_json {schema : Schema} (h : Entries.HoldsJson schema) (required : Bool) :
    Entries.HoldsJson (wrappedSchema schema required) := by
  refine (Entries.HoldsJson.append (.append (.cons rfl .nil) (.cons ?_ .nil))
    (.cons rfl .nil)).append ?_
  · exact Value.isJson_mapping.mpr (.cons (Value.isJson_mapping.mpr h) .nil)
  · split
    · exact .cons rfl .nil
    · exact .nil

/-- **The schema of a call is a document.** -/
theorem Signature.inputSchema_json (hbody : s.body.Shown) (hs : s.isComplete = true) :
    ∃ schema s', s.inputSchema = .ok (schema, s') ∧ Entries.HoldsJson schema := by
  obtain ⟨body, policy, failures⟩ := s
  have hfields : ∀ ds : Entries Validator,
      (∀ e ∈ ds, (∃ n, e.1 = .text n) ∧ e.2.WritableStages) →
        ∃ schema s', Signature.inputSchema ⟨.fields ds, policy, failures⟩ = .ok (schema, s') ∧
          Entries.HoldsJson schema := by
    intro ds hds
    obtain ⟨schemas, ds', hexports, hschemas⟩ := exportEntries_json hds
    obtain ⟨required, hrequired, hlist⟩ := requiredFields_json fun e he => (hds e he).1
    refine ⟨fieldsSchema schemas required policy.mode, ⟨.fields ds', policy, failures⟩, ?_,
      fieldsSchema_json hschemas hlist⟩
    rw [inputSchema_fields]
    exact (schema_fields_iff hs).mpr ⟨schemas, ds', required, hexports, hrequired, rfl, rfl⟩
  cases hbody with
  | whole hd =>
    obtain ⟨schema₁, d₁, h₁, -, hd₁⟩ := Validator.export_writable hd
    obtain ⟨schema₂, d₂, h₂, hschema, -⟩ := Validator.export_writable hd₁
    refine ⟨_, _, (inputSchema_whole_iff hs).mpr
      ⟨schema₁, d₁, schema₂, d₂, h₁, h₂, rfl, rfl⟩, ?_⟩
    split
    · exact hschema.holdsJson
    · exact wrappedSchema_json hschema.holdsJson _
  | fields hds => exact hfields _ hds
  | brokenWhole => exact hfields [] fun _ h => absurd h List.not_mem_nil

/-! ### Descriptions -/

/-- A text or null. -/
inductive Value.IsNote : Value → Prop
  | none : IsNote .null
  | text (s : String) : IsNote (.text s)

/-- A name is read, unless it is empty. -/
theorem require_name (name : String) :
    (name = "" ∧ ∃ problems, FieldName.require ⟨"name", none⟩ [(.text "name", .text name)]
      FieldReader.nonEmptyText = .bad problems) ∨
    FieldName.require ⟨"name", none⟩ [(.text "name", .text name)] FieldReader.nonEmptyText
      = .good name := by
  have hused : FieldName.usedName ⟨"name", none⟩ [(.text "name", .text name)] = some "name" := rfl
  have hcontent : (Entries.at? [(Value.text "name", Value.text name)] "name").getD .null
      = .text name := rfl
  rw [FieldName.require, hused]
  dsimp only
  rw [hcontent]
  by_cases hname : name = ""
  · subst hname
    exact .inl ⟨rfl, _, rfl⟩
  · have hread : FieldReader.nonEmptyText (.text name) = .ok name := if_neg hname
    rw [hread]
    exact .inr rfl

/-- A title and what an operation does are texts, or they are not given. -/
theorem require_notes {title description : Value} (htitle : title.IsNote)
    (hdescription : description.IsNote) :
    (∃ t?, FieldName.require ⟨"title", none⟩ [(.text "title", title)]
      (FieldReader.nullable (FieldReader.scalar readText)) = .good t?) ∧
    ∃ d?, FieldName.require ⟨"description", none⟩ [(.text "description", description)]
      (FieldReader.nullable (FieldReader.scalar readText)) = .good d? := by
  constructor
  · cases htitle <;> exact ⟨_, rfl⟩
  · cases hdescription <;> exact ⟨_, rfl⟩

/-- A description is read from its texts, unless the name is empty. -/
theorem read_texts {title description : Value} (name : String) (schema : Value)
    (htitle : title.IsNote) (hdescription : description.IsNote) :
    (name = "" ∧ ∃ problems, ToolDescription.read (.text name) title description schema
      = .bad problems) ∨
    ∃ t, ToolDescription.read (.text name) title description schema = .good t ∧ t.name = name ∧
      t.inputSchema = schema := by
  obtain ⟨⟨title?, ht⟩, description?, hd⟩ := require_notes htitle hdescription
  rw [ToolDescription.read]
  dsimp only
  rw [ht, hd]
  rcases require_name name with ⟨hempty, problems, hname⟩ | hname
  · rw [hname]
    exact .inl ⟨hempty, _, rfl⟩
  · rw [hname]
    exact .inr ⟨_, rfl, rfl, rfl⟩

theorem document_json {t : ToolDescription} (h : t.inputSchema.isJson = true) :
    t.document.isJson = true := by
  have hentry : ∀ (key : String) (text? : Option String),
      Entries.HoldsJson (ToolDescription.textEntry key text?) := by
    intro key text?
    cases text? with
    | none => exact .nil
    | some text => exact .cons rfl .nil
  exact Value.isJson_mapping.mpr ((((hentry _ _).append (.cons h .nil)).append
    (.cons rfl .nil)).append (hentry _ _))

/-- **An operation is described** under its name, unless that is empty. -/
theorem describeTool_texts (hbody : s.body.Shown) (hs : s.isComplete = true) {name : String}
    {title description : Value} (htitle : title.IsNote) (hdescription : description.IsNote) :
    (name = "" ∧ ∃ problems, describeTool s (.text name) title description
      = .error (.rejected (.invalid problems))) ∨
    ∃ t, describeTool s (.text name) title description = .ok t ∧ t.name = name ∧
      t.document.isJson = true := by
  obtain ⟨schema, s', hschema, hjson⟩ := Signature.inputSchema_json hbody hs
  obtain ⟨sorted, hsorted, hdocument, -⟩ := sortDeep_json (Value.isJson_mapping.mpr hjson)
  rcases read_texts name sorted htitle hdescription with
    ⟨hempty, problems, hread⟩ | ⟨t, hread, hname, ht⟩
  · exact .inl ⟨hempty, problems, by simp only [describeTool, hschema, hsorted, hread]⟩
  · refine .inr ⟨t, by simp only [describeTool, hschema, hsorted, hread], hname, ?_⟩
    exact document_json (ht ▸ hdocument)

/-- What is too long in the document of a description is in its schema. -/
theorem document_holdsLong (t : ToolDescription) :
    t.document.holdsLong = t.inputSchema.holdsLong := by
  have hentry : ∀ (key : String) (text? : Option String) (es : Entries Value),
      Value.entriesHoldLong (ToolDescription.textEntry key text? ++ es)
        = Value.entriesHoldLong es := by
    intro key text? es
    cases text? <;> rfl
  change Value.entriesHoldLong (ToolDescription.textEntry "description" t.description? ++
    [(.text "inputSchema", t.inputSchema)] ++ [(.text "name", .text t.name)] ++
      ToolDescription.textEntry "title" t.title?) = _
  have hrest : Value.entriesHoldLong ((.text "inputSchema", t.inputSchema) ::
      (.text "name", .text t.name) :: ToolDescription.textEntry "title" t.title?)
        = (t.inputSchema.holdsLong || Value.entriesHoldLong
          (ToolDescription.textEntry "title" t.title? ++ [])) := by
    rw [List.append_nil]
    rfl
  rw [List.append_assoc, List.append_assoc, hentry, List.singleton_append, List.singleton_append,
    hrest, hentry]
  exact Bool.or_false _

/-- An operation whose schema has no number that is too long is described, with a fingerprint. -/
theorem describeTool_short {schema : Schema} {s' : Signature} {name : String}
    {title description : Value} (hschema : s.inputSchema = .ok (schema, s'))
    (hjson : (Value.mapping schema).isJson = true)
    (hshort : (Value.mapping schema).holdsLong = false) (hname : name ≠ "")
    (htitle : title.IsNote) (hdescription : description.IsNote) :
    ∃ t print, describeTool s (.text name) title description = .ok t ∧
      t.fingerprint = .ok print := by
  obtain ⟨sorted, hsorted, hsjson, hlong⟩ := sortDeep_json hjson
  rcases read_texts name sorted htitle hdescription with ⟨hempty, -⟩ | ⟨t, hread, -, ht⟩
  · exact absurd hempty hname
  · have hdescribe : describeTool s (.text name) title description = .ok t := by
      simp only [describeTool, hschema, hsorted, hread]
    have hdocument : t.document.isJson = true := document_json (ht ▸ hsjson)
    cases hprint : t.fingerprint with
    | ok print => exact ⟨t, print, hdescribe, hprint⟩
    | error f =>
      have htoo := (fingerprint_json hdocument f hprint).2
      rw [document_holdsLong, ht] at htoo
      rw [hlong htoo] at hshort
      cases hshort

end RuleSchema
