import RuleSchema.Proofs.Catalog.Asking
import RuleSchema.Proofs.Catalog.Settled

/-!
# The history of a catalog

A catalog is rebuilt, its tools are listed and looked up, and their arguments are validated, in any
order.  Whatever has been asked of it, it is what the last rebuilding has made it: only a rebuilding
changes the tools, and what it makes of operations depends on no earlier one.

* `CatalogRequest` are the requests, `Catalog.afterAll` is what a list of them leaves of a catalog.
* `Catalog.Sound` is the invariant, which `Sound.after` preserves.
* `Catalog.Lawful` is what the invariant means for those who use the catalog.
* `Sound.asksAll`: requests that only ask leave the tools what they are.
* `rebuild_afresh`: a rebuilding gives what it would give in another catalog.
* `mem_changed`: which names are reported as changed.
* `history_lawful`: **a catalog is lawful, whatever its history**.
-/

namespace RuleSchema

open Eval

/-! ### Requests -/

/-- What is asked of a catalog. -/
inductive CatalogRequest where
  | rebuild (ops : List Operation)
  | find (name : String)
  | list
  | call (name : String) (arguments : Value)

/-- A request that leaves the tools alone. -/
def CatalogRequest.asks : CatalogRequest → Bool
  | .rebuild _ => false
  | _ => true

namespace Catalog

/-- What a request leaves of a catalog, also if it ends in a rejection or a fault. -/
def after (c : Catalog) : CatalogRequest → Catalog
  | .rebuild ops => Prod.snd (RuleSchema.rebuild ops c)
  | .find name => Prod.snd (findTool name c)
  | .list => c
  | .call name arguments => Prod.snd (callTool name arguments c)

/-- What a list of requests leaves of a catalog. -/
def afterAll (c : Catalog) (rs : List CatalogRequest) : Catalog := rs.foldl after c

/-- The invariant of a catalog: its tools have different names, their signatures last, and their
fingerprints are those of their descriptions. -/
structure Sound (c : Catalog) : Prop where
  usual : c.compiler.treatments = Treatments.usual
  names : (c.tools.map Tool.name).Nodup
  registered : ∀ t ∈ c.tools, t.Registered

end Catalog

section

variable {c c' : Catalog} {op : Operation} {ops : List Operation} {n : String} {k : Compiler}

/-! ### What a rebuilding makes -/

/-- Tools that have been made of some operations, after others. -/
structure MadeOf (ops : List Operation) (tools tools' : List Tool) : Prop where
  names : (tools'.map Tool.name).Nodup
  made : ∃ new, tools' = tools ++ new ∧ (∀ t ∈ new, t.Registered) ∧
    (new.map fun t => Value.text t.name).Sublist (ops.map Operation.exposedName)

/-- What becomes of one operation, next to the tools that there are. -/
theorem enrol_registers (hk : k.treatments = Treatments.usual) (hop : op.IsNamed)
    (tools : List Tool) : (enrol tools op).Ends k (fun _ => True) fun r =>
      ∀ t, r = .ok t → t.Registered ∧ op.exposedName = .text t.name ∧
        ∀ u ∈ tools, u.name ≠ t.name := by
  obtain ⟨name, hname⟩ := hop
  intro c hc
  by_cases htaken : ∃ t ∈ tools, t.name = name
  · rw [enrol_taken hname htaken]
    refine ⟨hc, rfl, ?_⟩
    rintro _ ⟨⟩
  · have hfree : ∀ t ∈ tools, t.name ≠ name := fun t ht hn => htaken ⟨t, ht, hn⟩
    obtain ⟨c', henrol, hc'⟩ := enrol_free (c := c) hname hfree
    rw [henrol]
    refine ⟨hc'.compiler.trans hc, hc'.tools, ?_⟩
    cases halone : op.alone c.compiler c.tally with
    | error e => trivial
    | ok r =>
      rintro t rfl
      obtain ⟨-, hmade⟩ := Operation.alone_becomes (hc ▸ hk) hname halone
      obtain ⟨hregistered, htool⟩ := hmade t rfl
      exact ⟨hregistered, htool ▸ hname, htool ▸ hfree⟩

theorem enrolAll_registers (hk : k.treatments = Treatments.usual) : ∀ {ops : List Operation}
    (tools : List Tool) (failures : List OperationFailure), (∀ op ∈ ops, op.IsNamed) →
      (tools.map Tool.name).Nodup →
        (enrolAll tools failures ops).Ends k (fun _ => True) fun p => MadeOf ops tools p.1
  | [], tools, failures, _, hnames =>
    .pure ⟨hnames, [], (List.append_nil _).symm, List.forall_mem_nil _, .slnil⟩
  | op :: ops, tools, failures, h, hnames => by
    obtain ⟨hop, hops⟩ := List.forall_mem_cons.mp h
    refine .bind (enrol_registers hk hop tools) fun r hr => ?_
    cases r with
    | error fs =>
      refine (enrolAll_registers hk tools (failures ++ fs) hops hnames).mono (fun _ h => h) ?_
      rintro p ⟨hnames', new, hp, hnew, hsublist⟩
      exact ⟨hnames', new, hp, hnew, hsublist.cons _⟩
    | ok t =>
      obtain ⟨hregistered, hname, hfresh⟩ := hr t rfl
      have hnames₁ : ((tools ++ [t]).map Tool.name).Nodup := by
        rw [List.map_append]
        refine List.nodup_append.mpr ⟨hnames, List.nodup_singleton _, ?_⟩
        intro a ha b hb
        obtain ⟨u, hu, rfl⟩ := List.mem_map.mp ha
        rw [List.mem_singleton.mp hb]
        exact hfresh u hu
      refine (enrolAll_registers hk (tools ++ [t]) failures hops hnames₁).mono (fun _ h => h) ?_
      rintro p ⟨hnames', new, hp, hnew, hsublist⟩
      refine ⟨hnames', t :: new, ?_, List.forall_mem_cons.mpr ⟨hregistered, hnew⟩, ?_⟩
      · rw [hp, List.append_assoc, List.singleton_append]
      · rw [List.map_cons, List.map_cons, hname]
        exact hsublist.cons_cons _

/-- What a rebuilding leaves: the tools that it makes, or those that there were. -/
theorem rebuild_registers (hk : c.compiler.treatments = Treatments.usual)
    (h : ∀ op ∈ ops, op.IsNamed) :
    (∃ b c', rebuild ops c = (.ok b, c') ∧ c'.compiler = c.compiler ∧ MadeOf ops [] c'.tools ∧
      b.registered = c'.tools.map Tool.name ∧
      b.changed = sortTexts ((c'.tools.filter (Tool.isChanged c.tools)).map Tool.name)) ∨
    ∃ e c', rebuild ops c = (.error e, c') ∧ c'.compiler = c.compiler ∧ c'.tools = c.tools := by
  obtain ⟨hcompiler, htools, hend⟩ := enrolAll_registers hk [] [] h List.nodup_nil c rfl
  rw [rebuild_run]
  generalize enrolAll [] [] ops c = run at hcompiler htools hend
  obtain ⟨e | ⟨tools, failures⟩, c'⟩ := run
  · exact .inr ⟨e, c', rfl, hcompiler, htools⟩
  · exact .inl ⟨_, _, rfl, hcompiler, hend, rfl, rfl⟩

/-! ### The invariant -/

/-- The operations of a rebuilding are to be called by texts. -/
def CatalogRequest.IsNamed : CatalogRequest → Prop
  | .rebuild ops => ∀ op ∈ ops, op.IsNamed
  | _ => True

theorem CatalogRequest.isNamed_of_asks {r : CatalogRequest} (h : r.asks = true) : r.IsNamed := by
  cases r with
  | rebuild _ => cases h
  | _ => trivial

theorem MadeOf.registered {tools : List Tool} (h : MadeOf ops [] tools) :
    ∀ t ∈ tools, t.Registered := by
  obtain ⟨-, new, rfl, hnew, -⟩ := h
  exact hnew

namespace Catalog

variable {r : CatalogRequest} {rs : List CatalogRequest}

/-- A catalog without tools has the invariant. -/
theorem Sound.of_empty (hk : c.compiler.treatments = Treatments.usual) (h : c.tools = []) :
    c.Sound :=
  ⟨hk, by rw [h]; exact List.nodup_nil, by rw [h]; exact List.forall_mem_nil _⟩

/-- **A request that only asks** leaves the tools what they are. -/
theorem Sound.asks (h : c.Sound) (hr : r.asks = true) :
    SameTools c.tools (c.after r).tools ∧ (c.after r).compiler = c.compiler ∧
      ∀ t ∈ (c.after r).tools, t.Registered := by
  cases r with
  | rebuild ops => cases hr
  | find name =>
    rw [after, findTool_run]
    exact ⟨.refl _, rfl, h.registered⟩
  | list => exact ⟨.refl _, rfl, h.registered⟩
  | call name arguments =>
    rw [after]
    cases hfind : Tool.find? c.tools name with
    | none =>
      rw [callTool_unknown hfind]
      exact ⟨.refl _, rfl, h.registered⟩
    | some t =>
      have ht := h.registered t (List.mem_of_find?_eq_some hfind)
      obtain ⟨hcompiler, htools, -⟩ := callTool_known hfind ht.lasting arguments
      obtain ⟨hsame, hregistered⟩ := ask_same name h.registered
      rw [htools]
      exact ⟨hsame, hcompiler, hregistered⟩

/-- **Every request preserves the invariant.** -/
theorem Sound.after (h : c.Sound) (hr : r.IsNamed) :
    (c.after r).Sound ∧ (c.after r).compiler = c.compiler := by
  cases hasks : r.asks with
  | true =>
    obtain ⟨hsame, hcompiler, hregistered⟩ := h.asks hasks
    exact ⟨⟨hcompiler ▸ h.usual, hsame.names ▸ h.names, hregistered⟩, hcompiler⟩
  | false =>
    cases r with
    | rebuild ops =>
      rw [Catalog.after]
      rcases rebuild_registers h.usual hr with
        ⟨b, c', hrun, hcompiler, hmade, -, -⟩ | ⟨e, c', hrun, hcompiler, htools⟩
      · rw [hrun]
        exact ⟨⟨hcompiler ▸ h.usual, hmade.names, hmade.registered⟩, hcompiler⟩
      · rw [hrun]
        exact ⟨⟨hcompiler ▸ h.usual, htools ▸ h.names, htools ▸ h.registered⟩, hcompiler⟩
    | _ => cases hasks

theorem Sound.afterAll (h : c.Sound) (hrs : ∀ r ∈ rs, r.IsNamed) :
    (c.afterAll rs).Sound ∧ (c.afterAll rs).compiler = c.compiler := by
  induction rs generalizing c with
  | nil => exact ⟨h, rfl⟩
  | cons r rs ih =>
    obtain ⟨hr, hrest⟩ := List.forall_mem_cons.mp hrs
    obtain ⟨hafter, hcompiler⟩ := h.after hr
    obtain ⟨hall, hcompiler'⟩ := ih hafter hrest
    exact ⟨hall, hcompiler'.trans hcompiler⟩

/-- **Requests that only ask** leave the tools what they are. -/
theorem Sound.asksAll (h : c.Sound) (hrs : ∀ r ∈ rs, r.asks = true) :
    SameTools c.tools (c.afterAll rs).tools := by
  induction rs generalizing c with
  | nil => exact .refl _
  | cons r rs ih =>
    obtain ⟨hr, hrest⟩ := List.forall_mem_cons.mp hrs
    obtain ⟨hsame, hcompiler, hregistered⟩ := h.asks hr
    have hafter : (c.after r).Sound :=
      ⟨hcompiler ▸ h.usual, hsame.names ▸ h.names, hregistered⟩
    exact hsame.trans (ih hafter hrest)

/-- What a catalog is to those who use it. -/
structure Lawful (c : Catalog) : Prop where
  /-- A registered tool has its name, it is complete, and its fingerprint is that of its
  description. -/
  found : ∀ n t, Tool.find? c.tools n = some t → t.description.name = n ∧
    t.signature.isComplete = true ∧ t.description.fingerprint = .ok t.fingerprint
  /-- The tools are listed once each, in the strict order of their names. -/
  listed : ∃ tools : List Tool, tools.Perm c.tools ∧
    (tools.Pairwise fun t u => t.name < u.name) ∧
    toolDocuments c = tools.map fun t => t.description.document
  /-- A call of a registered tool is rejected for its arguments only. -/
  known : ∀ n t arguments, Tool.find? c.tools n = some t →
    ∀ r, Prod.fst (callTool n arguments c) = .error (.rejected r) → ∃ p, r = .rejected p
  /-- Any other call is rejected as one of an unknown tool. -/
  unknown : ∀ n arguments, Tool.find? c.tools n = none →
    Prod.fst (callTool n arguments c) = .error (.rejected (.unknownTool n))

/-- **The invariant makes a catalog lawful.** -/
theorem Sound.lawful (h : c.Sound) : c.Lawful where
  found n t hfind := by
    have ht := h.registered t (List.mem_of_find?_eq_some hfind)
    exact ⟨Tool.find?_name hfind, ht.lasting.complete, ht.fingerprint⟩
  listed :=
    ⟨sortedBy Tool.name c.tools, sortedBy_perm, sortedBy_strict h.names, toolDocuments_eq c⟩
  known n t arguments hfind r hr := by
    have ht := h.registered t (List.mem_of_find?_eq_some hfind)
    have hjudged := (callTool_known hfind ht.lasting arguments).2.2
    rw [hr] at hjudged
    exact hjudged r rfl
  unknown n arguments hfind := by
    rw [callTool_unknown hfind]

end Catalog

/-! ### Rebuilding afresh -/

/-- The functions that run early in one of these operations. -/
noncomputable def calledBy (ops : List Operation) : Nat → Bool :=
  functionsThat fun n => ∃ op ∈ ops, op.RunsEarly n

theorem calledBy_runsEarly (hop : op ∈ ops) (m : Nat) (hm : op.RunsEarly m) :
    calledBy ops m = true :=
  functionsThat_iff.mpr ⟨op, hop, hm⟩

theorem calledBy_documents (h : ∀ op ∈ ops, op.IsDocument) (t u : Tally) :
    t.inside (calledBy ops) = u.inside (calledBy ops) := by
  have hnone : calledBy ops = noCalls := by
    funext m
    rw [noCalls, ← Bool.not_eq_true, calledBy, functionsThat_iff]
    rintro ⟨op, hop, hm⟩
    exact (h op hop).not_runsEarly m hm
  rw [hnone, inside_noCalls, inside_noCalls]

/-- Two catalogs that compile alike: with the same compiler, and with the functions of a set called
as often. -/
structure Catalog.Alike (S : Nat → Bool) (c d : Catalog) : Prop where
  compiler : c.compiler = d.compiler
  inside : c.tally.inside S = d.tally.inside S

variable {S : Nat → Bool} {d : Catalog}

theorem enrol_alike (hop : op.IsNamed) (hS : ∀ m, op.RunsEarly m → S m = true) (h : c.Alike S d)
    (tools : List Tool) :
    Prod.fst (enrol tools op c) = Prod.fst (enrol tools op d) ∧
      (Prod.snd (enrol tools op c)).Alike S (Prod.snd (enrol tools op d)) := by
  obtain ⟨name, hname⟩ := hop
  by_cases htaken : ∃ t ∈ tools, t.name = name
  · rw [enrol_taken hname htaken, enrol_taken hname htaken]
    exact ⟨rfl, h⟩
  · have hfree : ∀ t ∈ tools, t.name ≠ name := fun t ht hn => htaken ⟨t, ht, hn⟩
    obtain ⟨c', henrol, hc'⟩ := enrol_free (c := c) hname hfree
    obtain ⟨d', henrol', hd'⟩ := enrol_free (c := d) hname hfree
    have hlocal := op.compile_local hS c.compiler none
    rw [henrol, henrol', ← h.compiler]
    refine ⟨op.alone_congr hS hname h.inside, hc'.compiler.trans (h.compiler.trans
      hd'.compiler.symm), ?_⟩
    change c'.tally.inside S = d'.tally.inside S
    rw [hc'.tally, hd'.tally, ← h.compiler]
    exact hlocal.inside _ _ h.inside

theorem enrolAll_alike : ∀ {ops : List Operation} (tools : List Tool)
    (failures : List OperationFailure) {c d : Catalog}, (∀ op ∈ ops, op.IsNamed) →
      (∀ op ∈ ops, ∀ m, op.RunsEarly m → S m = true) → c.Alike S d →
        Prod.fst (enrolAll tools failures ops c) = Prod.fst (enrolAll tools failures ops d)
  | [], _, _, _, _, _, _, _ => rfl
  | op :: ops, tools, failures, c, d, hnamed, hS, h => by
    obtain ⟨hop, hops⟩ := List.forall_mem_cons.mp hnamed
    obtain ⟨hcalls, hrest⟩ := List.forall_mem_cons.mp hS
    obtain ⟨hresult, halike⟩ := enrol_alike hop hcalls h tools
    rw [enrolAll, CatalogM.bind_run, CatalogM.bind_run]
    generalize enrol tools op c = run at hresult halike
    generalize enrol tools op d = run' at hresult halike
    obtain ⟨r, c'⟩ := run
    obtain ⟨r', d'⟩ := run'
    obtain rfl : r = r' := hresult
    rcases r with e | fs | t
    · rfl
    · exact enrolAll_alike _ _ hops hrest halike
    · exact enrolAll_alike _ _ hops hrest halike

/-- **A rebuilding** makes of operations what it would make of them in another catalog with the same
compiler. -/
theorem rebuild_afresh {b : Build} (hnamed : ∀ op ∈ ops, op.IsNamed)
    (h : c.Alike (calledBy ops) d) (hrun : rebuild ops c = (.ok b, c')) :
    ∃ b' d', rebuild ops d = (.ok b', d') ∧ d'.tools = c'.tools ∧
      b'.registered = b.registered ∧ b'.failures = b.failures := by
  have hsame := enrolAll_alike [] [] hnamed (fun _ hop => calledBy_runsEarly hop) h
  rw [rebuild_run] at hrun ⊢
  generalize enrolAll [] [] ops c = run at hsame hrun
  generalize enrolAll [] [] ops d = run' at hsame
  obtain ⟨r, c₁⟩ := run
  obtain ⟨r', d₁⟩ := run'
  obtain rfl : r = r' := hsame
  cases r with
  | error e => cases hrun
  | ok p =>
    cases hrun
    exact ⟨_, _, rfl, rfl, rfl, rfl⟩

/-! ### Changes -/

/-- No two texts of descriptions have the same digest by coincidence. -/
def NoCollision (tools tools' : List Tool) : Prop :=
  ∀ p ∈ tools, ∀ t ∈ tools', ∀ x y, dumpJson p.description.document none = .ok x →
    dumpJson t.description.document none = .ok y →
      Sha256.hex (Text.toUtf8 x) = Sha256.hex (Text.toUtf8 y) → x = y

/-- A fingerprint is the digest of a text. -/
theorem fingerprint_ok {v : Value} {print : String} (h : fingerprint v = .ok print) :
    ∃ x, dumpJson v none = .ok x ∧ print = "sha256:" ++ Sha256.hex (Text.toUtf8 x) := by
  obtain ⟨x, hx, h⟩ := except_bind_ok h
  exact ⟨x, hx, (Except.ok.inj h).symm⟩

/-- Without collisions two descriptions have the same fingerprint just if they have the same
text. -/
theorem fingerprint_eq_iff {tools tools' : List Tool} (h : NoCollision tools tools') {p t : Tool}
    (hp : p ∈ tools) (ht : t ∈ tools') (hprint : p.description.fingerprint = .ok p.fingerprint)
    (hprint' : t.description.fingerprint = .ok t.fingerprint) :
    p.fingerprint = t.fingerprint ↔
      dumpJson p.description.document none = dumpJson t.description.document none := by
  obtain ⟨x, hx, hpx⟩ := fingerprint_ok hprint
  obtain ⟨y, hy, hty⟩ := fingerprint_ok hprint'
  rw [hpx, hty, hx, hy, Except.ok.injEq]
  constructor
  · intro hsame
    exact h p hp t ht x y hx hy (String.append_right_inj _ |>.mp hsame)
  · rintro rfl
    rfl

/-- **Which names are reported as changed**: those of tools that are new or have another text. -/
theorem mem_changed {previous tools : List Tool} (h : NoCollision previous tools)
    (hnames : (tools.map Tool.name).Nodup)
    (hprevious : ∀ p ∈ previous, p.Registered) (htools : ∀ t ∈ tools, t.Registered) :
    n ∈ sortTexts ((tools.filter (Tool.isChanged previous)).map Tool.name) ↔
      ∃ t, Tool.find? tools n = some t ∧ ∀ p, Tool.find? previous n = some p →
        dumpJson p.description.document none ≠ dumpJson t.description.document none := by
  have hchanged : ∀ t ∈ tools, (Tool.isChanged previous t = true ↔
      ∀ p, Tool.find? previous t.name = some p →
        dumpJson p.description.document none ≠ dumpJson t.description.document none) := by
    intro t ht
    rw [Tool.isChanged]
    cases hfind : Tool.find? previous t.name with
    | none =>
      refine iff_of_true rfl fun p hp => ?_
      cases hp
    | some p =>
      have hp := List.mem_of_find?_eq_some hfind
      have hprint := fingerprint_eq_iff h hp ht (hprevious p hp).fingerprint
        (htools t ht).fingerprint
      rw [bne_iff_ne, Ne, hprint]
      refine ⟨fun hne q hq => ?_, fun hall => hall p rfl⟩
      cases hq
      exact hne
  rw [mem_sortTexts, List.mem_map]
  constructor
  · rintro ⟨t, ht, rfl⟩
    obtain ⟨hmem, hfilter⟩ := List.mem_filter.mp ht
    exact ⟨t, (Tool.find?_eq_some hnames).mpr ⟨hmem, rfl⟩, (hchanged t hmem).mp hfilter⟩
  · rintro ⟨t, hfind, hall⟩
    obtain ⟨hmem, rfl⟩ := (Tool.find?_eq_some hnames).mp hfind
    exact ⟨t, List.mem_filter.mpr ⟨hmem, (hchanged t hmem).mpr hall⟩, rfl⟩

/-! ### The law -/

/-- What a rebuilding of a catalog has led to: in every fresh catalog it would have led to the same
tools; they are registered in the order of their operations; and those names are reported as
changed, in their order, that are new or have another description than before. -/
structure RebuiltFrom (c : Catalog) (ops : List Operation) (b : Build) (c' : Catalog) : Prop where
  afresh : ∀ d : Catalog, d.tools = [] → c.Alike (calledBy ops) d →
    ∃ b' d', rebuild ops d = (.ok b', d') ∧ d'.tools = c'.tools ∧
      b'.registered = b.registered ∧ b'.failures = b.failures
  registered : b.registered = c'.tools.map Tool.name
  ordered : (b.registered.map Value.text).Sublist (ops.map Operation.exposedName)
  sorted : b.changed.Pairwise (· < ·)
  changed : NoCollision c.tools c'.tools → ∀ n, n ∈ b.changed ↔
    ∃ t, Tool.find? c'.tools n = some t ∧ ∀ p, Tool.find? c.tools n = some p →
      dumpJson p.description.document none ≠ dumpJson t.description.document none

theorem Catalog.Sound.rebuilt {b : Build} (h : c.Sound) (hnamed : ∀ op ∈ ops, op.IsNamed)
    (hrun : rebuild ops c = (.ok b, c')) : RebuiltFrom c ops b c' := by
  rcases rebuild_registers h.usual hnamed with
    ⟨_, _, hrun', -, hmade, hregistered, hchanged⟩ | ⟨_, _, hrun', -⟩
  · cases hrun.symm.trans hrun'
    have htools := hmade.registered
    obtain ⟨hnames, new, hnew, -, hsublist⟩ := hmade
    refine ⟨fun d _ hd => rebuild_afresh hnamed hd hrun, hregistered, ?_, ?_, fun hc n => ?_⟩
    · rw [hregistered, List.map_map, hnew]
      exact hsublist
    · rw [hchanged]
      refine sortTexts_strict (hnames.sublist ?_)
      exact List.filter_sublist.map _
    · rw [hchanged]
      exact mem_changed hc hnames h.registered htools
  · cases hrun.symm.trans hrun'

/-- **A catalog is lawful, whatever its history.**  After any requests, also such that end in a
rejection or a fault, it is lawful; requests that only ask leave its tools what they are; a
rebuilding that stops leaves them alone; and one that ends makes of its operations what it would
make of them in a fresh catalog. -/
theorem history_lawful (c₀ : Catalog) (hk : c₀.compiler.treatments = Treatments.usual)
    (h₀ : c₀.tools = []) (rs : List CatalogRequest) (hrs : ∀ r ∈ rs, r.IsNamed) :
    (c₀.afterAll rs).Lawful ∧ (c₀.afterAll rs).compiler = c₀.compiler ∧
      (∀ asks : List CatalogRequest, (∀ r ∈ asks, r.asks = true) →
        SameTools (c₀.afterAll rs).tools ((c₀.afterAll rs).afterAll asks).tools) ∧
      ∀ ops, (∀ op ∈ ops, op.IsNamed) →
        (∀ e c', rebuild ops (c₀.afterAll rs) = (.error e, c') →
          c'.tools = (c₀.afterAll rs).tools) ∧
        ∀ b c', rebuild ops (c₀.afterAll rs) = (.ok b, c') →
          RebuiltFrom (c₀.afterAll rs) ops b c' := by
  obtain ⟨hsound, hcompiler⟩ := (Catalog.Sound.of_empty hk h₀).afterAll hrs
  refine ⟨hsound.lawful, hcompiler, fun asks => hsound.asksAll, fun ops hnamed =>
    ⟨fun e c' hrun => ?_, fun b c' hrun => hsound.rebuilt hnamed hrun⟩⟩
  rcases rebuild_registers hsound.usual hnamed with ⟨_, _, hrun', -⟩ | ⟨_, _, hrun', -, htools⟩
  · cases hrun.symm.trans hrun'
  · cases hrun.symm.trans hrun'
    exact htools

/-- A tool that has gone and come back is reported as changed. -/
theorem history_lawful_ping :
    let ping : Operation := { name := .text "ping" }
    let c : Catalog := Catalog.afterAll {}
      [.rebuild [ping], .call "ping" .null, .find "pong", .rebuild []]
    c.Lawful ∧ SameTools c.tools (c.afterAll [.list, .call "ping" .null]).tools ∧
      ∃ b c', rebuild [ping] c = (.ok b, c') ∧ "ping" ∈ b.changed ∧
        ∃ b' d', rebuild [ping] {} = (.ok b', d') ∧ d'.tools = c'.tools := by
  intro ping c
  have hnamed : ∀ op ∈ [ping], op.IsNamed := List.forall_mem_singleton.mpr ⟨"ping", rfl⟩
  have hrs : ∀ r ∈ [CatalogRequest.rebuild [ping], .call "ping" .null, .find "pong", .rebuild []],
      r.IsNamed :=
    List.forall_mem_cons.mpr ⟨hnamed, List.forall_mem_cons.mpr ⟨trivial,
      List.forall_mem_cons.mpr ⟨trivial, List.forall_mem_singleton.mpr (List.forall_mem_nil _)⟩⟩⟩
  obtain ⟨hlawful, hcompiler, hasks, hrebuilds⟩ := history_lawful {} rfl rfl _ hrs
  have hk : c.compiler.treatments = Treatments.usual := congrArg Compiler.treatments hcompiler
  have hempty : c.tools = [] := by
    have hnone : ∀ d : Catalog, (d.after (.rebuild [])).tools = [] := fun _ => rfl
    exact hnone _
  obtain ⟨tool, htool⟩ := ping.alone_empty c.compiler c.tally rfl
    (show "ping" ≠ "" by decide) rfl .none .none
  have hdocument : ping.IsDocument := ⟨⟨_, rfl⟩, .none, .none, .none, [], .nil, rfl⟩
  obtain ⟨b, c', hrun, -, htools⟩ := rebuild_one hdocument.exposedName htool
  have hrebuilt := (hrebuilds [ping] hnamed).2 _ c' hrun
  refine ⟨hlawful, hasks _ ?_, _, c', hrun, ?_, ?_⟩
  · exact List.forall_mem_cons.mpr ⟨rfl, List.forall_mem_singleton.mpr rfl⟩
  · have hnocollision : NoCollision c.tools c'.tools := by
      rw [hempty]
      exact fun _ hp => absurd hp List.not_mem_nil
    refine (hrebuilt.changed hnocollision "ping").mpr ⟨tool, ?_, fun p hp => ?_⟩
    · obtain ⟨-, hname⟩ := (Operation.alone_becomes hk rfl htool).2 tool rfl
      rw [htools]
      have hnames : ([tool].map Tool.name).Nodup := List.nodup_singleton _
      exact (Tool.find?_eq_some hnames).mpr ⟨List.mem_singleton_self _, hname⟩
    · rw [hempty] at hp
      cases hp
  · have hinside := calledBy_documents (List.forall_mem_singleton.mpr hdocument) c.tally []
    obtain ⟨b', d', hrun', hsame, -⟩ := hrebuilt.afresh {} rfl ⟨hcompiler, hinside⟩
    exact ⟨b', d', hrun', hsame⟩

end

end RuleSchema
