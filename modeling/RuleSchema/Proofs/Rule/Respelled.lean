import RuleSchema.Compile.Basic
import RuleSchema.Proofs.Rule.Readings

/-!
# Rules that are read in part

What a rule is normalised from has rules inside: the items of an array, the properties of an
object, the branches of a union, the slots of a tuple, the two sides of a record, at any depth.
Some of them may have been read before, so that their results stand in their places.

* `PartlyRead` relates a source to the same source with the results of some rules inside it.
* `part_yields`: what is read from a source does not depend on its place.
* `normalize_partlyRead`: **a source that is read in part is read as the source**, and so it is
  compiled.
-/

namespace RuleSchema

/-- The second source is the first one with the results of some of its rules in their places.  The
first argument says whether it is a rule, a list of rules, named rules, or a value that stays as it
is. -/
inductive PartlyRead : Holding → RuleSource → RuleSource → Prop
  | same {held : Holding} (x : RuleSource) : PartlyRead held x x
  | read {x : RuleSource} {r : Rule} {path : String} : normalize x path = .ok r →
      PartlyRead .rule x (.ready r)
  | union {xs ys : List RuleSource} : PartlyRead .rules (.list xs) (.list ys) →
      PartlyRead .rule (.list xs) (.list ys)
  | rules {xs ys : List RuleSource} : xs.length = ys.length →
      (∀ {x y}, (x, y) ∈ xs.zip ys → PartlyRead .rule x y) →
      PartlyRead .rules (.list xs) (.list ys)
  | props {es fs : List (Value × RuleSource)} : fs.map Prod.fst = es.map Prod.fst →
      (∀ {e f}, (e, f) ∈ es.zip fs → PartlyRead .rule e.2 f.2) →
      PartlyRead .props (.mapping es) (.mapping fs)
  | mapping {es fs : List (Value × RuleSource)} {holding : Value → Holding} :
      PartsHold (entryParts es) holding → fs.map Prod.fst = es.map Prod.fst →
      (∀ {e f}, (e, f) ∈ es.zip fs → PartlyRead (holding e.1) e.2 f.2) →
      PartlyRead .rule (.mapping es) (.mapping fs)

namespace RuleSource

/-- A property that passes from the sources inside a source to the source. -/
structure Hereditary (P : RuleSource → Prop) : Prop where
  ready : ∀ r, P (.ready r)
  text : ∀ s, P (.text s)
  list : ∀ xs : List RuleSource, (∀ x ∈ xs, P x) → P (.list xs)
  mapping : ∀ es : List (Value × RuleSource), (∀ e ∈ es, P e.2) → P (.mapping es)
  other : ∀ v, P (.other v)

variable {P : RuleSource → Prop}

mutual

/-- **Induction over sources.** -/
theorem induct (h : Hereditary P) : ∀ x : RuleSource, P x
  | .ready r => h.ready r
  | .text s => h.text s
  | .list xs => h.list xs (induct_list h xs)
  | .mapping es => h.mapping es (induct_entries h es)
  | .other v => h.other v
termination_by structural x => x

theorem induct_list (h : Hereditary P) : ∀ xs : List RuleSource, ∀ x ∈ xs, P x
  | [], _, hx => absurd hx List.not_mem_nil
  | y :: xs, x, hx => by
    rcases List.mem_cons.mp hx with hx | hx
    · rw [hx]; exact induct h y
    · exact induct_list h xs x hx
termination_by structural xs => xs

theorem induct_entries (h : Hereditary P) :
    ∀ es : List (Value × RuleSource), ∀ e ∈ es, P e.2
  | [], _, he => absurd he List.not_mem_nil
  | (key, x) :: es, e, he => by
    rcases List.mem_cons.mp he with he | he
    · rw [he]; exact induct h x
    · exact induct_entries h es e he
termination_by structural es => es

end

end RuleSource

open RuleSource

section

variable {x y : RuleSource} {xs ys : List RuleSource} {es fs : List (Value × RuleSource)}
  {r : Rule} {path : String} {held : Holding}

/-! ### Sources that are read anywhere -/

/-- A part whose readings give the same everywhere gives what it holds, whatever that is. -/
theorem Part.Yields.self {p : Part} (hrule : p.rule.Yields p.rule)
    (hitems : ∀ readers, p.items? = some readers → ∀ f ∈ readers, f.Yields f)
    (hprops : ∀ readers, p.props? = some readers → ∀ e ∈ readers, e.2.Yields e.2) :
    p.Yields held p where
  isNull := rfl
  value _ := rfl
  rule _ := hrule
  items _ readers hreaders :=
    ⟨readers, hreaders, List.forall₂_same.mpr fun f hf => hitems readers hreaders f hf⟩
  props _ readers hreaders :=
    ⟨readers, hreaders, List.forall₂_same.mpr fun e he => ⟨rfl, hprops readers hreaders e he⟩⟩

/-- A list of sources, each of which is read as another. -/
theorem itemReaders_yield (h : List.Forall₂ (fun x y => x.part.Yields .rule y.part) xs ys) :
    List.Forall₂ RuleReader.Yields (itemReaders xs) (itemReaders ys) := by
  rw [itemReaders_eq, itemReaders_eq, List.forall₂_map_left_iff, List.forall₂_map_right_iff]
  exact h.imp fun _ _ hxy => hxy.rule rfl

theorem entryReaders_yield
    (h : List.Forall₂ (SameKey fun x y => x.part.Yields .rule y.part) es fs) :
    List.Forall₂ (SameKey RuleReader.Yields) (entryReaders es) (entryReaders fs) := by
  rw [entryReaders_eq, entryReaders_eq, List.forall₂_map_left_iff, List.forall₂_map_right_iff]
  exact h.imp fun _ _ hef => ⟨hef.1, hef.2.rule rfl⟩

theorem entryParts_yield {holding : Value → Holding}
    (h : List.Forall₂ (KeyedBy fun key x y => x.part.Yields (holding key) y.part) es fs) :
    PartsYield holding (entryParts es) (entryParts fs) := by
  rw [entryParts_eq, entryParts_eq, PartsYield, List.forall₂_map_left_iff,
    List.forall₂_map_right_iff]
  exact h

/-- **What is read from a source** does not depend on its place. -/
theorem part_yields : ∀ (x : RuleSource) (held : Holding), x.part.Yields held x.part := by
  refine induct {
    ready := fun r held => ?_
    text := fun s held => ?_
    list := fun xs ih held => ?_
    mapping := fun es ih held => ?_
    other := fun v held => ?_ }
  · exact .self (fun h _ => h) nofun nofun
  · exact .self (normalizeText_yields s) nofun nofun
  · have hreaders : List.Forall₂ RuleReader.Yields (itemReaders xs) (itemReaders xs) :=
      itemReaders_yield (List.forall₂_same.mpr fun x hx => ih x hx .rule)
    refine .self (normalizeUnion_yields hreaders) ?_ nofun
    rintro _ ⟨⟩
    exact List.forall₂_same.mp hreaders
  · have hreaders : List.Forall₂ (SameKey RuleReader.Yields) (entryReaders es) (entryReaders es) :=
      entryReaders_yield (List.forall₂_same.mpr fun e he => ⟨rfl, ih e he .rule⟩)
    refine .self (fun hr path' => ?_) nofun ?_
    · obtain ⟨holding, hholds⟩ := partsHold_of_normalizeEntries hr
      refine normalizeEntries_yields hholds (entryParts_yield ?_) hr path'
      exact List.forall₂_same.mpr fun e he => ⟨rfl, ih e he _⟩
    · rintro _ ⟨⟩ e he
      exact (List.forall₂_same.mp hreaders e he).2
  · refine .self ?_ nofun nofun
    intro path r hr
    cases v with
    | tag t => exact normalizeText_yields t.name hr
    | _ => cases hr

theorem normalize_anywhere (h : normalize x path = .ok r) (path' : String) :
    normalize x path' = .ok r :=
  (part_yields x .rule).rule rfl h path'

/-! ### Sources that are read in part -/

theorem toValue_isNull (r : Rule) : r.toValue.isNull = false := by
  cases r <;> rfl

/-- Nothing is read from null. -/
theorem isNull_of_normalize (h : normalize x path = .ok r) : x.toValue.isNull = false := by
  cases x with
  | ready r => exact toValue_isNull r
  | other v =>
    cases v with
    | null => cases h
    | _ => rfl
  | _ => rfl

theorem PartlyRead.of_rules (h : List.Forall₂ (PartlyRead .rule) xs ys) :
    PartlyRead .rules (.list xs) (.list ys) := by
  obtain ⟨hlength, hpairs⟩ := List.forall₂_iff_zip.mp h
  exact .rules hlength hpairs

theorem PartlyRead.of_props (h : List.Forall₂ (KeyedBy fun _ => PartlyRead .rule) es fs) :
    PartlyRead .props (.mapping es) (.mapping fs) :=
  .props (keys_of_sameKey h) fun hmem => (List.forall₂_zip h hmem).2

theorem PartlyRead.of_parts {holding : Value → Holding} (hholds : PartsHold (entryParts es) holding)
    (h : List.Forall₂ (KeyedBy fun key => PartlyRead (holding key)) es fs) :
    PartlyRead .rule (.mapping es) (.mapping fs) := by
  have hkeys : List.Forall₂ (SameKey fun _ _ => True) es fs := h.imp fun _ _ hef => ⟨hef.1, trivial⟩
  exact .mapping hholds (keys_of_sameKey hkeys) fun hmem => (List.forall₂_zip h hmem).2

/-- **What a source gives** the same source read in part gives everywhere. -/
theorem PartlyRead.yields (h : PartlyRead held x y) : x.part.Yields held y.part := by
  induction h with
  | same x => exact part_yields x _
  | @read x r path hx =>
    refine { isNull := ?_, value := nofun, rule := fun _ => ?_, items := nofun, props := nofun }
    · exact (isNull_of_normalize hx).trans (toValue_isNull r).symm
    · intro path' r' hr' _
      have hsame := normalize_anywhere hx path'
      exact hsame.symm.trans hr'
  | union _ ih =>
    refine { isNull := rfl, value := nofun, rule := fun _ => ?_, items := nofun, props := nofun }
    obtain ⟨_, ⟨⟩, hreaders⟩ := ih.items rfl _ rfl
    exact normalizeUnion_yields hreaders
  | rules hlength _ ih =>
    refine { isNull := rfl, value := nofun, rule := nofun, items := fun _ => ?_, props := nofun }
    rintro _ ⟨⟩
    exact ⟨_, rfl, itemReaders_yield (List.forall₂_iff_zip.mpr ⟨hlength, ih⟩)⟩
  | props hkeys _ ih =>
    refine { isNull := rfl, value := nofun, rule := nofun, items := nofun, props := fun _ => ?_ }
    rintro _ ⟨⟩
    exact ⟨_, rfl, entryReaders_yield (sameKey_of_zip hkeys ih)⟩
  | mapping hholds hkeys _ ih =>
    refine { isNull := rfl, value := nofun, rule := fun _ => ?_, items := nofun, props := nofun }
    exact normalizeEntries_yields hholds (entryParts_yield (keyedBy_of_zip hkeys ih))

end

/-- **A source that is read in part is read as the source.**  What is read from a source is read
from it with any of its rules replaced by what is read from them, and from the result itself; so the
compiler makes the same validator of all of them, and it may read again what has been read. -/
theorem normalize_partlyRead {x y : RuleSource} {r : Rule} {path : String}
    (hxy : PartlyRead .rule x y) (hx : normalize x path = .ok r) :
    (∀ path', normalize y path' = .ok r) ∧ (∀ path', normalize (.ready r) path' = .ok r) ∧
    (∀ ts ctx path', compileSource ts y ctx path' = compileSource ts x ctx path') ∧
    ∀ ts ctx (child : Rule) path',
      compileSource ts (.ready child) ctx path' = compileRule ts child ctx path' := by
  have hy : ∀ path', normalize y path' = .ok r := hxy.yields.rule rfl hx
  refine ⟨hy, fun _ => rfl, fun ts ctx path' => ?_, fun ts ctx child path' => ?_⟩
  · rw [compileSource, compileSource, hy path', normalize_anywhere hx path']
  · rfl

/-- Sources that are read in part: a branch of a union is read and, in another branch, a slot. -/
theorem normalize_partlyRead_nested : ∃ (x y : RuleSource) (r : Rule),
    x = .mapping [(.text "type", .text "object"), (.text "props", .mapping [(.text "pair",
      .list [.text "number|min:1", .mapping [(.text "type", .text "tuple"),
        (.text "items", .list [.text "boolean", .text "date"])]])])] ∧
    y = .mapping [(.text "type", .text "object"), (.text "props", .mapping [(.text "pair",
      .list [.ready (.number {} { min? := some (.int 1) }), .mapping [(.text "type", .text "tuple"),
        (.text "items", .list [.text "boolean", .ready (.date {})])]])])] ∧
    r = .object {} [("pair", .multi {} [.number {} { min? := some (.int 1) },
      .tuple {} [.boolean {}, .date {}]])] {} ∧
    PartlyRead .rule x y ∧ normalize x "$" = .ok r ∧ normalize y "$" = .ok r := by
  have hnumber : normalize (.text "number|min:1") "$"
      = .ok (.number {} { min? := some (.int 1) }) := rfl
  have hdate : normalize (.text "date") "$" = .ok (.date {}) := rfl
  have hslots : PartlyRead .rules (.list [.text "boolean", .text "date"])
      (.list [.text "boolean", .ready (.date {})]) :=
    .of_rules (.cons (.same _) (.cons (.read hdate) .nil))
  have htuple : PartlyRead .rule
      (.mapping [(.text "type", .text "tuple"),
        (.text "items", .list [.text "boolean", .text "date"])])
      (.mapping [(.text "type", .text "tuple"),
        (.text "items", .list [.text "boolean", .ready (.date {})])]) := by
    refine .of_parts (.typed rfl rfl (rfl : _ = some Tag.tuple.name)) ?_
    exact .cons (keyedBy_self (.same _)) (.cons (keyedBy_self hslots) .nil)
  have hpair := PartlyRead.union (.of_rules (.cons (.read hnumber) (.cons htuple .nil)))
  have hprops := PartlyRead.of_props (.cons (keyedBy_self (k := Value.text "pair") hpair) .nil)
  have hfields : List.Forall₂ (KeyedBy fun key => PartlyRead (Tag.object.holdingAt key)) _ _ :=
    .cons (keyedBy_self (k := Value.text "type") (.same (.text "object")))
      (.cons (keyedBy_self (k := Value.text "props") hprops) .nil)
  have hobject := PartlyRead.of_parts (.typed rfl rfl rfl) hfields
  refine ⟨_, _, _, rfl, rfl, rfl, hobject, rfl, ?_⟩
  exact (normalize_partlyRead hobject (rfl : normalize _ "$" = _)).1 "$"

end RuleSchema
