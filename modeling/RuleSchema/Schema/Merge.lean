import RuleSchema.Fault
import RuleSchema.Value.Entries

/-!
# Joining schemas

A schema is a mapping of keywords.  Joining a fragment to it adds the keywords that it lacks; one
that it has with another value is added under `allOf`, so that both constraints hold.

The fragments of a validator's stages are joined to one schema.  The conjunction `allOf` of that
schema is the one of the first fragment that brings one, provided that no conflict has opened a
conjunction before; what later conflicts add to it is then added to the fragment as well, and found
there by the next joining.

* `mergeSchema` joins a fragment to a schema.
* `nullableSchema` is a schema that admits null as well.
* `joinFragments` joins fragments, and gives them back as they are afterwards.
-/

namespace RuleSchema

/-- The keywords of a schema. -/
abbrev Schema := Entries Value

/-- A schema with one keyword. -/
def keyword (name : String) (v : Value) : Schema := [(.text name, v)]

/-- Adds an alternative keyword to the conjunction of a schema. -/
def appendConjunct (schema : Schema) (key value : Value) : Except Fault Schema :=
  match schema.at? "allOf" with
  | none => .ok (schema.put (.text "allOf") (.list [.mapping [(key, value)]]))
  | some (.list xs) => .ok (schema.put (.text "allOf") (.list (xs ++ [.mapping [(key, value)]])))
  | some v => .error (.noOperation v.kindName "append")

/-- Joins one keyword to a schema. -/
def mergeKeyword (schema : Schema) (key value : Value) : Except Fault Schema :=
  match schema.find? key with
  | none => .ok (schema ++ [(key, value)])
  | some old => if old.equals value then .ok schema else appendConjunct schema key value

/-- Joins a fragment to a schema. -/
def mergeSchema (schema fragment : Schema) : Except Fault Schema :=
  fragment.foldlM (fun s entry => mergeKeyword s entry.1 entry.2) schema

/-- A schema that admits null besides what `schema` admits. -/
def nullableSchema (schema : Schema) : Except Fault Schema :=
  let nothing : Value := .text "null"
  match schema.at? "type" with
  | some (.text kind) => .ok (schema.put (.text "type") (.list [.text kind, nothing]))
  | some (.tag t) => .ok (schema.put (.text "type") (.list [.tag t, nothing]))
  | some (.list kinds) =>
    .ok (if kinds.any nothing.equals then schema
      else schema.put (.text "type") (.list (kinds ++ [nothing])))
  | _ =>
    match schema.at? "anyOf" with
    | some v =>
      match v.elements? with
      | some xs =>
        .ok (schema.put (.text "anyOf") (.list (xs ++ [.mapping (keyword "type" nothing)])))
      | none => .error (.noElements v.kindName)
    | none =>
      .ok (if schema.isEmpty then schema
        else [(.text "anyOf", .list [.mapping schema, .mapping (keyword "type" nothing)])])

/-! ## Several fragments -/

/-- A schema in the making. -/
structure Joining where
  schema : Schema
  /-- The number of the fragment whose conjunction the schema shares. -/
  sharer? : Option Nat

namespace Joining

/-- Whether a key is the one of the conjunction. -/
def isConjunction (key : Value) : Bool := key.equals (.text "allOf")

/-- Joins one keyword of the fragment with number `i`. -/
def keyword (i : Nat) (j : Joining) (key value : Value) : Except Fault Joining := do
  let opens := isConjunction key && !j.schema.hasKey (.text "allOf")
  return ⟨← mergeKeyword j.schema key value, if opens then some i else j.sharer?⟩

/-- Joins fragments, the first of which has number `i`. -/
def fragments (i : Nat) (j : Joining) : List Schema → Except Fault Joining
  | [] => .ok j
  | f :: fs => do
    let j ← f.foldlM (fun j entry => j.keyword i entry.1 entry.2) j
    fragments (i + 1) j fs

end Joining

/-- The joint schema of some fragments, and the fragments after the joining. -/
def joinFragments (fs : List Schema) : Except Fault (Schema × List Schema) := do
  let j ← Joining.fragments 0 ⟨[], none⟩ fs
  match j.sharer?, j.schema.at? "allOf" with
  | some i, some conjunction =>
    return (j.schema, fs.modify i fun f => f.put (.text "allOf") conjunction)
  | _, _ => return (j.schema, fs)

end RuleSchema
