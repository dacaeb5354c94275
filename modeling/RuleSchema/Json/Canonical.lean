import RuleSchema.Digest.Sha256
import RuleSchema.Json.Text
import RuleSchema.Value.Order

/-!
# Canonical documents

A document whose mappings are sorted by key at every depth has one text, so that equal documents
have equal texts and equal fingerprints, however their keys were put in.

* `sortDeep` sorts the keys, `dumpJson` writes the sorted document, `fingerprint` is the digest of
  its compact text.
-/

namespace RuleSchema

/-- Entries whose contents may be faults, as entries or as the first fault. -/
def sequenceEntries (es : List (Value × Except Fault Value)) : Except Fault (Entries Value) :=
  es.mapM fun e => e.2.map fun x => (e.1, x)

mutual

/-- A document with its mappings sorted at every depth and its tuples as lists. -/
def sortDeep : Value → Except Fault Value
  | .mapping es => do
    let sorted ← sortKeys (sortDeepEntries es)
    return .mapping (← sequenceEntries sorted)
  | .list xs => do return .list (← sortDeepItems xs)
  | .tuple xs => do return .list (← sortDeepItems xs)
  | v => .ok v
termination_by structural x => x

/-- Items with their mappings sorted. -/
def sortDeepItems : List Value → Except Fault (List Value)
  | [] => .ok []
  | x :: xs => do
    let y ← sortDeep x
    return y :: (← sortDeepItems xs)
termination_by structural x => x

/-- Entries with the mappings of their contents sorted, or with the fault of a content. -/
def sortDeepEntries : List (Value × Value) → List (Value × Except Fault Value)
  | [] => []
  | (k, x) :: es => (k, sortDeep x) :: sortDeepEntries es
termination_by structural x => x

end

/-- The canonical text of a document, on one line or indented. -/
def dumpJson (v : Value) (indent? : Option String) : Except Fault String := do
  let sorted ← sortDeep v
  sorted.toJson (match indent? with
    | none => .compact
    | some indent => .indented indent)

/-- The fingerprint of a document. -/
def fingerprint (v : Value) : Except Fault String := do
  let text ← dumpJson v none
  return "sha256:" ++ Sha256.hex (Text.toUtf8 text)

end RuleSchema
