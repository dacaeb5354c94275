import RuleSchema.Rule.Basic

/-!
# Induction over rules

`Rule` is nested: objects, unions and tuples hold lists of rules.  `Rule.induct`
is the induction that every property of all rules goes through: a property that
passes from the rules inside a rule to the rule (`Hereditary`) is one of all rules.
There is one case for each type that contains rules, and one for all the others.

`Rule.nodes` are the rules that a rule consists of, itself among them, so that what is
asked of a rule and of all rules inside it is asked of a list.
-/

namespace RuleSchema.Rule

/-- A property that passes from the rules inside a rule to the rule. -/
structure Hereditary (P : Rule → Prop) : Prop where
  simple : ∀ r : Rule, r.tag.isComposite = false → P r
  array : ∀ c items o, P items → P (.array c items o)
  object : ∀ c (props : List (String × Rule)) o, (∀ e ∈ props, P e.2) → P (.object c props o)
  multi : ∀ c (branches : List Rule), (∀ r ∈ branches, P r) → P (.multi c branches)
  tuple : ∀ c (slots : List Rule), (∀ r ∈ slots, P r) → P (.tuple c slots)
  record : ∀ c key value, P key → P value → P (.record c key value)

variable {P : Rule → Prop}

mutual

/-- **Induction over rules.** -/
theorem induct (h : Hereditary P) : ∀ r : Rule, P r
  | .array c items o => h.array c items o (induct h items)
  | .object c props o => h.object c props o (induct_props h props)
  | .multi c branches => h.multi c branches (induct_list h branches)
  | .tuple c slots => h.tuple c slots (induct_list h slots)
  | .record c key value => h.record c key value (induct h key) (induct h value)
  | .string .. | .number .. | .boolean _ | .date _ | .any _ | .email .. | .currency .. | .class ..
  | .enum .. | .equal .. | .forbidden .. | .function _ | .luhn _ | .mac _ | .url .. | .uuid ..
  | .objectId .. => h.simple _ rfl
termination_by structural r => r

theorem induct_props (h : Hereditary P) : ∀ props : List (String × Rule), ∀ e ∈ props, P e.2
  | [], _, he => absurd he List.not_mem_nil
  | (name, r) :: props, e, he => by
    rcases List.mem_cons.mp he with he | he
    · rw [he]; exact induct h r
    · exact induct_props h props e he
termination_by structural props => props

theorem induct_list (h : Hereditary P) : ∀ rules : List Rule, ∀ r ∈ rules, P r
  | [], _, hr => absurd hr List.not_mem_nil
  | q :: rules, r, hr => by
    rcases List.mem_cons.mp hr with hr | hr
    · rw [hr]; exact induct h q
    · exact induct_list h rules r hr
termination_by structural rules => rules

end

/-- A rule of the type that forbids values. -/
theorem eq_forbidden {r : Rule} (h : r.tag = .forbidden) : ∃ c remove, r = .forbidden c remove := by
  cases r <;> first | exact ⟨_, _, rfl⟩ | cases h

/-! ### The rules of a tree -/

mutual

/-- A rule and all rules inside it. -/
def nodes : Rule → List Rule
  | .array c items o => .array c items o :: nodes items
  | .object c props o => .object c props o :: nodesOfProps props
  | .multi c branches => .multi c branches :: nodesOfList branches
  | .tuple c slots => .tuple c slots :: nodesOfList slots
  | .record c key value => .record c key value :: (nodes key ++ nodes value)
  | r => [r]
termination_by structural r => r

/-- Named rules and all rules inside them. -/
def nodesOfProps : List (String × Rule) → List Rule
  | [] => []
  | (_, r) :: props => nodes r ++ nodesOfProps props
termination_by structural props => props

/-- Some rules and all rules inside them. -/
def nodesOfList : List Rule → List Rule
  | [] => []
  | r :: rules => nodes r ++ nodesOfList rules
termination_by structural rules => rules

end

theorem self_mem_nodes (r : Rule) : r ∈ r.nodes := by
  cases r <;> exact List.mem_cons_self

theorem nodes_of_simple {r : Rule} (hr : r.tag.isComposite = false) : r.nodes = [r] := by
  cases r <;> first | rfl | cases hr

theorem mem_nodesOfProps {q : Rule} : ∀ {props : List (String × Rule)},
    q ∈ nodesOfProps props ↔ ∃ e ∈ props, q ∈ e.2.nodes
  | [] => by simp [nodesOfProps]
  | (name, r) :: props => by simp [nodesOfProps, @mem_nodesOfProps q props]

theorem mem_nodesOfList {q : Rule} : ∀ {rules : List Rule},
    q ∈ nodesOfList rules ↔ ∃ r ∈ rules, q ∈ r.nodes
  | [] => by simp [nodesOfList]
  | r :: rules => by simp [nodesOfList, @mem_nodesOfList q rules]

section

variable {c : CommonOptions} {q r key value : Rule}

theorem mem_nodes_array {o : ArrayOptions} (h : q ∈ r.nodes) : q ∈ (Rule.array c r o).nodes :=
  List.mem_cons_of_mem _ h

theorem mem_nodes_object {props : List (String × Rule)} {o : ObjectOptions} {e : String × Rule}
    (he : e ∈ props) (h : q ∈ e.2.nodes) : q ∈ (Rule.object c props o).nodes :=
  List.mem_cons_of_mem _ (mem_nodesOfProps.mpr ⟨e, he, h⟩)

theorem mem_nodes_multi {branches : List Rule} (hr : r ∈ branches) (h : q ∈ r.nodes) :
    q ∈ (Rule.multi c branches).nodes :=
  List.mem_cons_of_mem _ (mem_nodesOfList.mpr ⟨r, hr, h⟩)

theorem mem_nodes_tuple {slots : List Rule} (hr : r ∈ slots) (h : q ∈ r.nodes) :
    q ∈ (Rule.tuple c slots).nodes :=
  List.mem_cons_of_mem _ (mem_nodesOfList.mpr ⟨r, hr, h⟩)

theorem mem_nodes_key (h : q ∈ key.nodes) : q ∈ (Rule.record c key value).nodes :=
  List.mem_cons_of_mem _ (List.mem_append_left _ h)

theorem mem_nodes_value (h : q ∈ value.nodes) : q ∈ (Rule.record c key value).nodes :=
  List.mem_cons_of_mem _ (List.mem_append_right _ h)

end

/-- The rules inside a rule of a tree belong to the tree. -/
theorem nodes_trans {p q r : Rule} (hp : p ∈ r.nodes) (hq : q ∈ p.nodes) : q ∈ r.nodes := by
  refine induct (P := fun r => ∀ p ∈ r.nodes, q ∈ p.nodes → q ∈ r.nodes) ?_ r p hp hq
  refine ⟨?simple, ?array, ?object, ?multi, ?tuple, ?record⟩
  case simple =>
    intro r hr p hp hq
    rw [nodes_of_simple hr, List.mem_singleton] at hp
    exact hp ▸ hq
  case array =>
    intro c items o ih p hp hq
    rcases List.mem_cons.mp hp with rfl | hp
    · exact hq
    · exact mem_nodes_array (ih p hp hq)
  case object =>
    intro c props o ih p hp hq
    rcases List.mem_cons.mp hp with rfl | hp
    · exact hq
    · obtain ⟨e, he, hp⟩ := mem_nodesOfProps.mp hp
      exact mem_nodes_object he (ih e he p hp hq)
  case multi =>
    intro c branches ih p hp hq
    rcases List.mem_cons.mp hp with rfl | hp
    · exact hq
    · obtain ⟨r, hr, hp⟩ := mem_nodesOfList.mp hp
      exact mem_nodes_multi hr (ih r hr p hp hq)
  case tuple =>
    intro c slots ih p hp hq
    rcases List.mem_cons.mp hp with rfl | hp
    · exact hq
    · obtain ⟨r, hr, hp⟩ := mem_nodesOfList.mp hp
      exact mem_nodes_tuple hr (ih r hr p hp hq)
  case record =>
    intro c key value ihk ihv p hp hq
    rcases List.mem_cons.mp hp with rfl | hp
    · exact hq
    · rcases List.mem_append.mp hp with hp | hp
      · exact mem_nodes_key (ihk p hp hq)
      · exact mem_nodes_value (ihv p hp hq)

end RuleSchema.Rule
