import RuleSchema.Proofs.Catalog.History
import RuleSchema.Proofs.Order.Signatures

/-!
# Rebuilding with the keys in another order

Whoever writes the keys of a rule mapping in another order, at whatever depth, changes nothing that
is shown: the operation has the same description, and with it the same document and the same
fingerprint.  A catalog that is rebuilt after such an edit has the same tools under the same names,
and nothing is reported as changed.

* `Operation.Rewritten` says that an operation is the same but for the order of keys, or the same
  altogether.
* `alone_rewritten`: what such an operation becomes alone.
* `rebuild_rewritten`: a rebuild after such an edit.
* `key_order_unseen`: **descriptions and rebuilds do not see the order of keys**.
-/

namespace RuleSchema

open Eval

/-! ### Documents -/

theorem HoldsJson.of_reordered {es fs : Entries Value}
    (h : Entries.Reordered (fun v w => v.isJson = true → w.isJson = true) es fs)
    (hes : es.HoldsJson) : fs.HoldsJson := by
  obtain ⟨mid, hmid, hshuffled⟩ := h
  intro f hf
  obtain ⟨e, he, hkey, hjson⟩ := exists_of_mem_right hmid (hshuffled.perm.symm.subset hf)
  exact ⟨hkey ▸ (hes e he).1, hjson (hes e he).2⟩

/-- A document is still one with its keys in another order. -/
theorem Value.Reordered.isJson {v w : Value} (h : v.Reordered w) :
    v.isJson = true → w.isJson = true := by
  induction h with
  | same => exact fun h => h
  | list hlength _ ih =>
    intro hjson
    refine Value.isJson_list.mpr fun y hy => ?_
    obtain ⟨x, hx, hxy⟩ := exists_of_mem_right (List.forall₂_iff_zip.mpr ⟨hlength, ih⟩) hy
    exact hxy (Value.isJson_list.mp hjson x hx)
  | mapping hkeys _ hshuffled ih =>
    intro hjson
    refine Value.isJson_mapping.mpr (HoldsJson.of_reordered ?_ (Value.isJson_mapping.mp hjson))
    exact ⟨_, sameKey_of_zip hkeys ih, hshuffled⟩

/-! ### Operations -/

/-- The parameters of an operation compile without an error. -/
def Operation.Compiles (k : Compiler) (op : Operation) : Prop :=
  ∃ t s u, k.compile op.params none t = (.ok s, u) ∧ s.isComplete = true

/-- The same operation but for the order of keys in its parameters. -/
structure Operation.Edited (op op' : Operation) : Prop where
  name : op'.name = op.name
  toolName : op'.toolName = op.toolName
  title : op'.title = op.title
  description : op'.description = op.description
  params : ∃ es fs : Entries Value, op.params = .mapping (RuleSource.ofEntries es) ∧
    op'.params = .mapping (RuleSource.ofEntries fs) ∧ (Value.mapping es).Reordered (.mapping fs)

/-- The same operation, or the same but for the order of keys in parameters that compile either
way. -/
def Operation.Rewritten (k : Compiler) (op op' : Operation) : Prop :=
  op' = op ∨ op.Edited op' ∧ op.Compiles k ∧ op'.Compiles k

/-- What is shown of a tool: its description, and the fingerprint by which changes are noticed. -/
def Tool.shown (t : Tool) : ToolDescription × String := (t.description, t.fingerprint)

/-- What is shown of an operation: its tool, or the failures that are reported. -/
def Fate.shown (r : Fate) : Except (List OperationFailure) (ToolDescription × String) :=
  r.map Tool.shown

section

variable {k : Compiler} {op op' : Operation}

theorem Operation.Edited.exposedName (h : op.Edited op') : op'.exposedName = op.exposedName := by
  rw [Operation.exposedName, Operation.exposedName, h.name, h.toolName]

theorem ofEntries_injective {es fs : Entries Value}
    (h : RuleSource.ofEntries es = RuleSource.ofEntries fs) : es = fs := by
  rw [← toEntries_ofEntries es, h, toEntries_ofEntries]

theorem Operation.Edited.isDocument (h : op.Edited op') (hop : op.IsDocument) :
    op'.IsDocument := by
  obtain ⟨es, fs, hparams, hparams', hreordered⟩ := h.params
  obtain ⟨es', hes, hdocument⟩ := hop.params
  have hsame := RuleSource.mapping.inj (hparams.symm.trans hdocument)
  obtain rfl : es = es' := ofEntries_injective hsame
  exact {
    name := h.name ▸ hop.name
    toolName := h.toolName ▸ hop.toolName
    title := h.title ▸ hop.title
    description := h.description ▸ hop.description
    params := ⟨fs, Value.isJson_mapping.mp (hreordered.isJson (Value.isJson_mapping.mpr hes)),
      hparams'⟩ }

/-- A document compiles to one signature, whatever has been called before. -/
theorem Operation.Compiles.eq_pure (hop : op.IsDocument) (h : op.Compiles k) :
    ∃ s, k.compile op.params none = pure s ∧ s.isComplete = true := by
  obtain ⟨t, s, u, hs, hcomplete⟩ := h
  have hlocal := op.compile_local (S := noCalls)
    (fun n hn => absurd hn (hop.not_runsEarly n)) k none
  exact ⟨s, hlocal.eq_pure hs, hcomplete⟩

/-- The tools of an operation and of an edited one are shown alike. -/
theorem makeTool_edited (h : op.Edited op') {s s' : Signature}
    (hdescribe : ∀ name title description,
      describeTool s name title description = describeTool s' name title description) {tool : Tool}
    (hmake : makeTool op s = .ok tool) :
    ∃ tool', makeTool op' s' = .ok tool' ∧ tool'.shown = tool.shown := by
  obtain ⟨d, hd, hmake⟩ := except_bind_ok hmake
  obtain ⟨print, hprint, hmake⟩ := except_bind_ok hmake
  cases hmake
  refine ⟨⟨op'.name, d, s'.described, print⟩, ?_, rfl⟩
  rw [makeTool, h.exposedName, h.title, h.description, ← hdescribe, hd]
  change (d.fingerprint.mapError Stop.fault >>= _) = _
  rw [hprint]
  rfl

/-- The signatures of an operation and of an edited one are described alike. -/
theorem describe_edited (hk : k.treatments = Treatments.usual) (hop : op.IsDocument)
    (h : op.Edited op') {s s' : Signature} (hs : k.compile op.params none = pure s)
    (hs' : k.compile op'.params none = pure s') (hcomplete : s.isComplete = true)
    (hcomplete' : s'.isComplete = true) (name title description : Value) :
    describeTool s name title description = describeTool s' name title description := by
  obtain ⟨es, hes, hparams⟩ := hop.params
  obtain ⟨fs, hfs, hparams'⟩ := (h.isDocument hop).params
  obtain ⟨es', fs', hes', hfs', hreordered⟩ := h.params
  obtain rfl := ofEntries_injective (RuleSource.mapping.inj (hparams.symm.trans hes'))
  obtain rfl := ofEntries_injective (RuleSource.mapping.inj (hparams'.symm.trans hfs'))
  have hrun : ∀ {x : RuleSource} {s : Signature}, k.compile x none = pure s →
      k.compile x none [] = (.ok s, []) := fun h => congrFun h []
  rw [hparams] at hs
  rw [hparams'] at hs'
  have hparallel := compile_parallel hk hreordered.entries (hrun hs) (hrun hs') hcomplete hcomplete'
  exact describeTool_eq hparallel (shown_of_compile hk hes (hrun hs))
    (shown_of_compile hk hfs (hrun hs')) name title description

/-- **What a rewritten operation becomes alone.** -/
theorem alone_rewritten (hk : k.treatments = Treatments.usual) (hop : op.IsDocument)
    (h : op.Rewritten k op') {t u : Tally} {r : Fate} (hr : op.alone k t = .ok r) :
    ∃ r', op'.alone k u = .ok r' ∧ Fate.shown r' = Fate.shown r := by
  obtain ⟨name, hname⟩ := hop.exposedName
  rcases h with rfl | ⟨hedited, hcompiles, hcompiles'⟩
  · refine ⟨r, ?_, rfl⟩
    rw [← hr]
    refine Operation.alone_congr (S := noCalls)
      (fun n hn => absurd hn (hop.not_runsEarly n)) hname ?_
    rw [inside_noCalls, inside_noCalls]
  · have hop' := hedited.isDocument hop
    obtain ⟨s, hs, hcomplete⟩ := hcompiles.eq_pure hop
    obtain ⟨s', hs', hcomplete'⟩ := hcompiles'.eq_pure hop'
    rw [Operation.alone_pure hname hs hcomplete] at hr
    cases hmake : makeTool op s with
    | error e => rw [hmake] at hr; cases hr
    | ok tool =>
      rw [hmake] at hr
      cases hr
      obtain ⟨tool', hmake', halike⟩ := makeTool_edited hedited
        (describe_edited hk hop hedited hs hs' hcomplete hcomplete') hmake
      refine ⟨.ok tool', ?_, congrArg Except.ok halike⟩
      rw [Operation.alone_pure (hedited.exposedName.trans hname) hs' hcomplete', hmake']
      rfl

end

/-! ### Catalogs -/

section

variable {k : Compiler} {op op' : Operation} {ops ops' : List Operation} {tools tools' : List Tool}
  {c : Catalog}

theorem descriptions_of_shown (h : tools'.map Tool.shown = tools.map Tool.shown) :
    tools'.map Tool.description = tools.map Tool.description := by
  have hfirst := congrArg (List.map Prod.fst) h
  rwa [List.map_map, List.map_map] at hfirst

theorem names_of_shown (h : tools'.map Tool.shown = tools.map Tool.shown) :
    tools'.map Tool.name = tools.map Tool.name := by
  have hnames := congrArg (List.map ToolDescription.name) (descriptions_of_shown h)
  rwa [List.map_map, List.map_map] at hnames

theorem Operation.Rewritten.exposedName (h : op.Rewritten k op') :
    op'.exposedName = op.exposedName := by
  rcases h with rfl | ⟨hedited, -, -⟩
  · rfl
  · exact hedited.exposedName

theorem Operation.Rewritten.nameTaken (h : op.Rewritten k op') : nameTaken op' = nameTaken op := by
  rcases h with rfl | ⟨hedited, -, -⟩
  · rfl
  · rw [RuleSchema.nameTaken, RuleSchema.nameTaken, hedited.exposedName, hedited.name]

/-- What becomes of a rewritten operation, next to tools that are shown alike. -/
theorem enrol_rewritten (hk : k.treatments = Treatments.usual) (hop : op.IsDocument)
    (h : op.Rewritten k op') (htools : tools'.map Tool.shown = tools.map Tool.shown)
    {c₁ d : Catalog} (hc : c.compiler = k) (hd : d.compiler = k) {r : Fate}
    (hr : enrol tools op c = (.ok r, c₁)) :
    c₁.compiler = k ∧ ∃ r' d₁, enrol tools' op' d = (.ok r', d₁) ∧ d₁.compiler = k ∧
      Fate.shown r' = Fate.shown r := by
  obtain ⟨name, hname⟩ := hop.exposedName
  have hname' : op'.exposedName = .text name := h.exposedName.trans hname
  have hnames := names_of_shown htools
  by_cases htaken : name ∈ tools.map Tool.name
  · rw [enrol_taken hname (List.mem_map.mp htaken)] at hr
    cases hr
    refine ⟨hc, _, d, enrol_taken hname' (List.mem_map.mp (hnames ▸ htaken)), hd, ?_⟩
    rw [h.nameTaken]
  · have hfree : ∀ {ts : List Tool}, name ∉ ts.map Tool.name → ∀ t ∈ ts, t.name ≠ name :=
      fun hts t ht hn => hts (hn ▸ List.mem_map_of_mem ht)
    obtain ⟨c', hrun, hc'⟩ := enrol_free (c := c) hname (hfree htaken)
    obtain ⟨d', hrun', hd'⟩ := enrol_free (c := d) hname' (hfree (hnames ▸ htaken))
    rw [hrun, hc] at hr
    obtain ⟨halone, rfl⟩ := Prod.mk.inj hr
    obtain ⟨r', halone', halike⟩ := alone_rewritten hk hop h (u := d.tally) halone
    exact ⟨hc'.compiler.trans hc, r', d', by rw [hrun', hd, halone'], hd'.compiler.trans hd, halike⟩

theorem enrolAll_rewritten (hk : k.treatments = Treatments.usual)
    (hops : ∀ op ∈ ops, op.IsDocument) (h : List.Forall₂ (Operation.Rewritten k) ops ops')
    (failures : List OperationFailure) :
    ∀ {tools tools' : List Tool} {c c₁ d : Catalog} {p : List Tool × List OperationFailure},
      tools'.map Tool.shown = tools.map Tool.shown → c.compiler = k → d.compiler = k →
      enrolAll tools failures ops c = (.ok p, c₁) →
        ∃ ts d₁, enrolAll tools' failures ops' d = (.ok (ts, p.2), d₁) ∧
          ts.map Tool.shown = p.1.map Tool.shown := by
  -- on the operations: so far the tools are shown alike, and the failures are the same
  induction h generalizing failures with
  | nil =>
    intro tools tools' c c₁ d p htools hc _ hp
    cases hp
    exact ⟨tools', d, rfl, htools⟩
  | @cons op op' ops ops' hop _ ih =>
    intro tools tools' c c₁ d p htools hc hd hp
    obtain ⟨hdocument, hops⟩ := List.forall_mem_cons.mp hops
    rw [enrolAll, CatalogM.bind_run] at hp
    generalize hrun : enrol tools op c = run at hp
    obtain ⟨e | r, c₂⟩ := run
    · cases hp
    obtain ⟨hc₂, r', d₂, hrun', hd₂, halike⟩ := enrol_rewritten hk hdocument hop htools hc hd hrun
    rw [enrolAll, CatalogM.bind_run, hrun']
    cases r with
    | ok tool =>
      cases r' with
      | error fs => cases halike
      | ok tool' =>
        refine ih hops failures ?_ hc₂ hd₂ hp
        rw [List.map_append, List.map_append, htools, List.map_singleton, List.map_singleton,
          Except.ok.inj halike]
    | error fs =>
      cases r' with
      | ok tool' => cases halike
      | error fs' =>
        obtain rfl := Except.error.inj halike
        exact ih hops _ htools hc₂ hd₂ hp

/-- Nothing has changed if the tools are shown as before. -/
theorem unchanged_of_shown (hnames : (tools.map Tool.name).Nodup)
    (h : tools'.map Tool.shown = tools.map Tool.shown) :
    tools'.filter (Tool.isChanged tools) = [] := by
  refine List.filter_eq_nil_iff.mpr fun u hu => ?_
  obtain ⟨t, ht, hshown⟩ := List.mem_map.mp (h ▸ List.mem_map_of_mem hu)
  have hname : t.name = u.name := congrArg (fun p => ToolDescription.name p.1) hshown
  have hprint : t.fingerprint = u.fingerprint := congrArg Prod.snd hshown
  rw [Tool.isChanged, (Tool.find?_eq_some hnames).mpr ⟨ht, hname⟩]
  dsimp only
  rw [hprint, bne_self_eq_false]
  exact Bool.false_ne_true

/-- The documents of a catalog are those of the descriptions of its tools, in order. -/
theorem toolDocuments_descriptions (c : Catalog) :
    toolDocuments c = (sortedBy ToolDescription.name (c.tools.map Tool.description)).map
      ToolDescription.document := by
  have hsorted := List.map_mergeSort (f := Tool.description)
    (r := fun a b => !decide (b.name < a.name)) (s := fun a b => !decide (b.name < a.name))
    (l := c.tools) fun _ _ _ _ => rfl
  rw [sortedBy, ← hsorted, List.map_map]
  rfl

theorem documents_of_shown {c d : Catalog} (h : d.tools.map Tool.shown = c.tools.map Tool.shown) :
    toolDocuments d = toolDocuments c := by
  rw [toolDocuments_descriptions, toolDocuments_descriptions, descriptions_of_shown h]

theorem SameTools.shown (h : SameTools tools tools') :
    tools'.map Tool.shown = tools.map Tool.shown := by
  induction h with
  | nil => rfl
  | cons htu _ ih =>
    rw [List.map_cons, List.map_cons, ih, Tool.shown, Tool.shown, htu.description, htu.fingerprint]

/-- **A rebuild after such an edit** makes tools that are shown as before, and it reports nothing as
changed; it does not matter what has been asked of the catalog in between. -/
theorem rebuild_rewritten (hk : c.compiler.treatments = Treatments.usual)
    (hops : ∀ op ∈ ops, op.IsDocument) (h : List.Forall₂ (Operation.Rewritten c.compiler) ops ops')
    {b : Build} {c' : Catalog} (hrun : rebuild ops c = (.ok b, c')) {asks : List CatalogRequest}
    (hasks : ∀ r ∈ asks, r.asks = true) :
    ∃ b' d, rebuild ops' (c'.afterAll asks) = (.ok b', d) ∧ b'.changed = [] ∧
      b'.registered = b.registered ∧ b'.failures = b.failures ∧
      toolDocuments d = toolDocuments c' := by
  have hnamed : ∀ op ∈ ops, op.IsNamed := fun op hop => (hops op hop).exposedName
  rcases rebuild_registers hk hnamed with
    ⟨_, _, hrun', hcompiler, hmade, hregistered, -⟩ | ⟨_, _, hrun', -⟩
  swap
  · cases hrun.symm.trans hrun'
  cases hrun.symm.trans hrun'
  -- a change is noticed against the tools that the requests in between have left
  have hsound : c'.Sound := ⟨hcompiler ▸ hk, hmade.names, hmade.registered⟩
  have hsame := SameTools.shown (hsound.asksAll hasks)
  obtain ⟨hasked, hcompiler'⟩ :=
    hsound.afterAll fun r hr => CatalogRequest.isNamed_of_asks (hasks r hr)
  rw [rebuild_run] at hrun
  generalize henrol : enrolAll [] [] ops c = run at hrun
  obtain ⟨e | p, c₁⟩ := run
  · cases hrun
  obtain ⟨ts, d₁, henrol', hshown⟩ :=
    enrolAll_rewritten hk hops h [] rfl rfl (hcompiler'.trans hcompiler) henrol
  cases hrun
  rw [rebuild_run, henrol']
  refine ⟨_, _, rfl, ?_, names_of_shown hshown, rfl, documents_of_shown hshown⟩
  dsimp only
  rw [unchanged_of_shown hasked.names (hshown.trans hsame.symm)]
  exact List.mergeSort_nil

/-- **Descriptions and rebuilds do not see the order of keys.**  If the parameters of an operation
compile, and compile with their keys in another order, at any depth, they are described as the same
tool, with the same document and the same fingerprint.  A rebuild after such edits makes tools that
are shown as before and reports nothing as changed, whatever has been asked of the catalog in
between. -/
theorem key_order_unseen (k : Compiler) (hk : k.treatments = Treatments.usual) :
    (∀ es fs : Entries Value, es.HoldsJson → (Value.mapping es).Reordered (.mapping fs) →
      ∀ inherited? t t' s s' u u',
        k.compile (.mapping (RuleSource.ofEntries es)) inherited? t = (.ok s, u) →
        k.compile (.mapping (RuleSource.ofEntries fs)) inherited? t' = (.ok s', u') →
        s.isComplete = true → s'.isComplete = true →
          (∀ name title description,
            describeTool s name title description = describeTool s' name title description) ∧
          ∀ name title description, name ≠ "" → title.IsNote → description.IsNote →
            ∃ d, describeTool s (.text name) title description = .ok d ∧
              describeTool s' (.text name) title description = .ok d) ∧
    ∀ c : Catalog, c.compiler = k → ∀ ops ops', (∀ op ∈ ops, op.IsDocument) →
      List.Forall₂ (Operation.Rewritten k) ops ops' → ∀ b c', rebuild ops c = (.ok b, c') →
        ∀ asks : List CatalogRequest, (∀ r ∈ asks, r.asks = true) →
          ∃ b' d, rebuild ops' (c'.afterAll asks) = (.ok b', d) ∧ b'.changed = [] ∧
            b'.registered = b.registered ∧ b'.failures = b.failures ∧
            toolDocuments d = toolDocuments c' := by
  refine ⟨fun es fs hes hreordered inherited? t t' s s' u u' hs hs' hcomplete hcomplete' => ?_, ?_⟩
  · have hfs : fs.HoldsJson :=
      Value.isJson_mapping.mp (hreordered.isJson (Value.isJson_mapping.mpr hes))
    have hbody := shown_of_compile hk hes hs
    have hsame := describeTool_eq
      (compile_parallel hk hreordered.entries hs hs' hcomplete hcomplete') hbody
      (shown_of_compile hk hfs hs')
    refine ⟨hsame, fun name title description hname htitle hdescription => ?_⟩
    rcases describeTool_texts hbody hcomplete htitle hdescription with ⟨hempty, -⟩ | ⟨d, hd, -⟩
    · exact absurd hempty hname
    · exact ⟨d, hd, (hsame _ _ _).symm.trans hd⟩
  · rintro c rfl ops ops' hops h b c' hrun asks hasks
    exact rebuild_rewritten hk hops h hrun hasks

/-- Two fields change places, and so do the keys of their rules and of a default. -/
theorem key_order_unseen_pair :
    let es : Entries Value := [
      (.text "deep", .mapping [(.text "type", .text "boolean"), (.text "default", .bool true)]),
      (.text "extra", .mapping [(.text "type", .text "any"),
        (.text "default", .mapping [(.text "b", .bool true), (.text "a", .null)])])]
    let fs : Entries Value := [
      (.text "extra", .mapping [
        (.text "default", .mapping [(.text "a", .null), (.text "b", .bool true)]),
        (.text "type", .text "any")]),
      (.text "deep", .mapping [(.text "default", .bool true), (.text "type", .text "boolean")])]
    let op : Operation := { name := .text "scan", params := .mapping (RuleSource.ofEntries es) }
    let op' : Operation := { op with params := .mapping (RuleSource.ofEntries fs) }
    (∃ s s' d, Compiler.compile {} op.params none [] = (.ok s, []) ∧
      Compiler.compile {} op'.params none [] = (.ok s', []) ∧
      describeTool s (.text "scan") .null .null = .ok d ∧
      describeTool s' (.text "scan") .null .null = .ok d) ∧
    ∃ b c b' d, rebuild [op] {} = (.ok b, c) ∧ b.registered = ["scan"] ∧
      rebuild [op'] (c.afterAll [.list, .call "scan" .null]) = (.ok b', d) ∧ b'.changed = [] ∧
      toolDocuments d = toolDocuments c := by
  intro es fs op op'
  have hreordered : (Value.mapping es).Reordered (.mapping fs) :=
    .swap (by decide) (.swap (by decide) (.same _) (.same _))
      (.swap (by decide) (.same _) (.swap (by decide) (.same _) (.same _)))
  have hes : es.HoldsJson := Value.isJson_mapping.mp rfl
  obtain ⟨ds, ds', schemas, hs, hexport, hnone, hjson, hshort⟩ :
      ∃ ds ds' schemas,
        Compiler.compile {} op.params none = (pure ⟨.fields ds, {}, []⟩ : Eval _ _) ∧
        exportEntries ds = .ok (schemas, ds') ∧ (ds.filter fun e => e.2.required) = [] ∧
        (Value.mapping (fieldsSchema schemas [] (Strictness.mode {}))).isJson = true ∧
        (Value.mapping (fieldsSchema schemas [] (Strictness.mode {}))).holdsLong = false :=
    ⟨_, _, _, rfl, rfl, rfl, rfl, rfl⟩
  obtain ⟨s', hs', hcomplete'⟩ :
      ∃ s', Compiler.compile {} op'.params none = (pure s' : Eval _ _) ∧ s'.isComplete = true :=
    ⟨_, rfl, rfl⟩
  obtain ⟨hdescriptions, hrebuilds⟩ := key_order_unseen {} rfl
  have hrun := congrFun hs []
  have hrun' := congrFun hs' []
  obtain ⟨-, hdescribed⟩ := hdescriptions es fs hes hreordered none [] [] _ s' [] [] hrun hrun' rfl
    hcomplete'
  obtain ⟨d, hd, hd'⟩ := hdescribed "scan" .null .null (by decide) .none .none
  refine ⟨⟨_, s', d, hrun, hrun', hd, hd'⟩, ?_⟩
  have hschema : Signature.inputSchema ⟨.fields ds, {}, []⟩
      = .ok (fieldsSchema schemas [] (Strictness.mode {}), ⟨.fields ds', {}, []⟩) := by
    have hrequired : requiredFields ds = .ok [] := by
      rw [requiredFields_eq, hnone]
      exact congrArg Except.ok List.mergeSort_nil
    rw [Signature.inputSchema_fields]
    exact (Signature.schema_fields_iff rfl).mpr ⟨schemas, ds', [], hexport, hrequired, rfl, rfl⟩
  obtain ⟨tool, htool⟩ := op.alone_short (k := {}) [] rfl (show "scan" ≠ "" by decide) hs rfl
    hschema hjson hshort .none .none
  have hdocument : ∀ q ∈ [op], q.IsDocument :=
    List.forall_mem_singleton.mpr ⟨⟨_, rfl⟩, .none, .none, .none, es, hes, rfl⟩
  obtain ⟨b, c, hbuilt, hregistered, -⟩ := rebuild_one (c := {}) ⟨_, rfl⟩ htool
  have hrewritten : List.Forall₂ (Operation.Rewritten {}) [op] [op'] := by
    refine .cons (.inr ⟨⟨rfl, rfl, rfl, rfl, es, fs, rfl, rfl, hreordered⟩, ?_, ?_⟩) .nil
    · exact ⟨[], _, [], hrun, rfl⟩
    · exact ⟨[], _, [], hrun', hcomplete'⟩
  obtain ⟨b', c', hagain, hchanged, -, -, hdocuments⟩ := hrebuilds {} rfl [op] [op'] hdocument
    hrewritten _ c hbuilt [.list, .call "scan" .null]
    (List.forall_mem_cons.mpr ⟨rfl, List.forall_mem_singleton.mpr rfl⟩)
  have hname : tool.name = "scan" := ((Operation.alone_becomes rfl rfl htool).2 tool rfl).2
  exact ⟨b, c, b', c', hbuilt, hname ▸ hregistered, hagain, hchanged, hdocuments⟩

end

end RuleSchema
