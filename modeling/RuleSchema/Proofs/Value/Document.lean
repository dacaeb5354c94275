import RuleSchema.Payload.Error
import RuleSchema.Proofs.Order.Entries

/-!
# Documents and the places in them

A JSON document is walked along the keys of mappings and the indices of lists.  Besides the values
that a walk finds, two other things have a place there: the key of an entry, and a value that is
missing from a mapping.

* `Value.IsDocument` are the values of JSON documents, whose mappings have different keys.
* `Value.resolve?` walks along a path.
* `Value.HasAt` says what is at a place: a value, a key, or the absence of one.
* `HasAt.last`: how far the walk to a place succeeds.
-/

namespace RuleSchema

/-! ### Documents -/

theorem Entries.isKeyed_pair {α : Type} {m n : String} {y z : α} (h : m ≠ n) :
    Entries.IsKeyed [(.text m, y), (.text n, z)] :=
  ⟨by simp, by simpa [Entries.keys] using h⟩

/-- A JSON document: its mappings have different texts as keys. -/
inductive Value.IsDocument : Value → Prop
  | null : IsDocument .null
  | bool (b : Bool) : IsDocument (.bool b)
  | number (n : Number) : IsDocument (.number n)
  | text (s : String) : IsDocument (.text s)
  | list {xs : List Value} : (∀ x ∈ xs, IsDocument x) → IsDocument (.list xs)
  | mapping {es : Entries Value} : es.IsKeyed → (∀ e ∈ es, IsDocument e.2) →
      IsDocument (.mapping es)

namespace Value

variable {v w x y k : Value} {es : Entries Value} {init path : Path}

theorem IsDocument.present (h : v.IsDocument) : v.isAbsent = false := by
  cases h <;> rfl

theorem IsDocument.keyed (h : (Value.mapping es).IsDocument) : es.IsKeyed := by
  cases h with
  | mapping hkeyed _ => exact hkeyed

theorem IsDocument.content {e : Value × Value} (h : (Value.mapping es).IsDocument) (he : e ∈ es) :
    e.2.IsDocument := by
  cases h with
  | mapping _ hcontents => exact hcontents e he

theorem IsDocument.item {xs : List Value} (h : (Value.list xs).IsDocument) (hx : x ∈ xs) :
    x.IsDocument := by
  cases h with
  | list hitems => exact hitems x hx

theorem mem_of_find? (h : es.find? k = some x) : ∃ l, (l, x) ∈ es := by
  obtain ⟨e, he, rfl⟩ := Option.map_eq_some_iff.mp h
  exact ⟨e.1, List.mem_of_find?_eq_some he⟩

/-! ### Walks -/

/-- The part of a value under a key, or at an index. -/
def part? : Value → Value → Option Value
  | .mapping es, k => Entries.find? es k
  | .list xs, .int i => if 0 ≤ i then xs[i.toNat]? else none
  | _, _ => none

/-- The value to which a path leads. -/
def resolve? (v : Value) : Path → Option Value
  | [] => some v
  | k :: path => (v.part? k).bind fun x => x.resolve? path

theorem IsDocument.part (h : v.IsDocument) (hx : v.part? k = some x) : x.IsDocument := by
  cases v with
  | mapping es =>
    obtain ⟨l, hl⟩ := mem_of_find? hx
    exact h.content hl
  | list xs =>
    unfold part? at hx
    split at hx
    · next heq => cases heq
    · next i heq =>
      cases heq
      split at hx
      · exact h.item (List.mem_of_getElem? hx)
      · cases hx
    · cases hx
  | _ => cases hx

/-- What is at a place of a document: a value, the key of an entry, or no value where a mapping
has no such key. -/
inductive HasAt : Value → Path → Value → Prop
  | here (v : Value) : HasAt v [] v
  | part {v k x : Value} {path : Path} {y : Value} : v.part? k = some x → HasAt x path y →
      HasAt v (k :: path) y
  | key {es : Entries Value} {k x : Value} : es.find? k = some x → HasAt (.mapping es) [k] k
  | missing {es : Entries Value} {k : Value} : es.find? k = none → HasAt (.mapping es) [k] .absent

/-- What is found in a mapping of a document is found under a key that is not absent. -/
theorem IsDocument.key_present (h : (Value.mapping es).IsDocument) (hx : es.find? k = some x) :
    k.isAbsent = false := by
  obtain ⟨e, he, -⟩ := Option.map_eq_some_iff.mp hx
  obtain ⟨n, hn⟩ := h.keyed.texts e (List.mem_of_find?_eq_some he)
  have hequals : k.equals e.1 = true :=
    List.find?_some (p := fun f : Value × Value => k.equals f.1) he
  rw [hn] at hequals
  cases k <;> first | rfl | cases hequals

/-- **The walk to a place** succeeds up to the last step, and that step fails just where nothing
is, since the mapping has no such key. -/
theorem HasAt.last (h : v.HasAt path y) (hv : v.IsDocument) : path = init ++ [k] →
    ∃ x, v.resolve? init = some x ∧
      if y.isAbsent then ∃ es : Entries Value, x = .mapping es ∧ es.find? k = none
      else (x.part? k).isSome = true := by
  induction h generalizing init with
  | here v => intro hpath; exact absurd hpath (by simp)
  | @part v l x path y hx hrest ih =>
    intro hpath
    cases init with
    | nil =>
      obtain ⟨rfl, rfl⟩ := List.cons.inj hpath
      cases hrest
      exact ⟨v, rfl, by rw [(hv.part hx).present, hx]; exact rfl⟩
    | cons l' init =>
      obtain ⟨rfl, hinit⟩ := List.cons.inj hpath
      obtain ⟨z, hz, hlast⟩ := ih (hv.part hx) hinit
      exact ⟨z, by rw [resolve?, hx]; exact hz, hlast⟩
  | @key es l x hx =>
    intro hpath
    obtain ⟨rfl, hkey⟩ : [] = init ∧ [l] = [k] := List.append_inj' hpath rfl
    cases hkey
    refine ⟨_, rfl, ?_⟩
    rw [hv.key_present hx, if_neg Bool.false_ne_true, part?, hx]
    rfl
  | @missing es l hes =>
    intro hpath
    obtain ⟨rfl, hkey⟩ : [] = init ∧ [l] = [k] := List.append_inj' hpath rfl
    cases hkey
    exact ⟨_, rfl, es, rfl, hes⟩

end Value

end RuleSchema
