import PromptGraph.Compile.Graph
import PromptGraph.Proofs.Loops
import PromptGraph.Proofs.Registry
import PromptGraph.Proofs.Tables

/-!
# The Run of a Compile

What a compile of a whole workflow does, in terms of its nodes.

The registry is asked at every node but fetches only at the first. A registry
that serves a catalog, at hand or by its next fetch, goes on serving it, so the
run is a fold over the nodes in which each node is compiled against the same
catalog. The classes reported as unknown are carried along and change no result.

The prompt is filled as the fold goes on. Inserting keeps the last of several
compiled nodes with one id, and nodes of excluded classes are never inserted, so
an entry is the compiled form of the last node with its id that is not excluded.
`FilledFrom` is this as an invariant of the nodes done so far.

## Main definitions

* `Catalog.schemaOf`: The schema that a class is compiled with.
* `Registry.Serves`: A registry has a catalog or is about to get it.
* `Surroundings.run`: The run over nodes with a catalog at hand.
* `Surroundings.siteIn`: A node with all that it is compiled with.
* `WorkflowGraph.entryNode?`: The node that an entry of a prompt comes from.
* `keptIds`: The ids of the nodes that are not left out.
* `Surroundings.FilledFrom`: A prompt holds what nodes compile to.

## Theorems

* `compileNodes_eq_run`, `compileNodes_of_fetch`: The run with its reports.
* `compileNodes_of_serves`: The run over the nodes is a fold.
* `compileNodes_of_failing`: A failing fetch ends the run.
* `Surroundings.FilledFrom.get?_eq_some`, `Surroundings.FilledFrom.isSome_get?_iff`:
  The entries of a filled prompt.
* `WorkflowGraph.source?_siteIn`: The source of a slot, in terms of the workflow.
* `WorkflowGraph.result_compile`: The result of a compile.
* `WorkflowGraph.result_compile_of_fetch`, `WorkflowGraph.result_compile_of_failing`:
  The same with a catalog, and without one.
* `WorkflowGraph.compile_of_nodes`: A compile succeeds if its nodes compile.
* `WorkflowGraph.compile_run`, `WorkflowGraph.compile_ok`: What a compile that
  succeeds has done.
* `WorkflowGraph.exists_prompt_iff`: When a compile succeeds, in terms of its nodes.
* `WorkflowGraph.compile_keys`: The ids of its prompt.
* `WorkflowGraph.compile_entry`, `WorkflowGraph.get?_of_entryNode?`: Where an entry
  of its prompt comes from.
* `WorkflowGraph.compile_error`: How a compile fails.
-/

namespace PromptGraph

/-- The schema that nodes of a class are compiled with: an unknown class has no
    inputs. -/
def Catalog.schemaOf (catalog : Catalog) (classType : String) : ClassSchema :=
  (catalog.get? classType).getD .empty

namespace Registry

/-- The registry has the catalog at hand, or its next fetch gives it. -/
def Serves (registry : Registry) (catalog : Catalog) : Prop :=
  registry.loaded = .filled catalog ∨
    registry.loaded = .empty ∧ registry.source registry.fetches = .ok catalog

end Registry

namespace Progress

/-- The progress once a class has been looked up: an unknown class is reported
    the first time. -/
def looked (progress : Progress) (classType : String) (schema : Option ClassSchema) : Progress :=
  if schema.isNone && progress.reports classType then
    { progress with reported := classType :: progress.reported }
  else progress

@[simp] theorem prompt_looked (progress : Progress) (classType : String)
    (schema : Option ClassSchema) :
    (progress.looked classType schema).prompt = progress.prompt := by
  unfold looked
  split <;> rfl

theorem result_settle (progress : Progress) (classType : String) (schema : Option ClassSchema) :
    (progress.settle classType schema).result =
      .ok (progress.looked classType schema, schema.getD .empty) := by
  unfold settle looked
  cases schema with
  | some schema => rfl
  | none =>
      by_cases hreports : progress.reports classType = true
      · simp only [hreports, if_true, Option.isNone_none, Bool.and_self]
        rfl
      · simp only [hreports, Bool.false_eq_true, if_false, Option.isNone_none, Bool.and_false]
        rfl

theorem prompt_add (progress : Progress) (node : GraphNode) (compiled : CompiledNode) :
    (progress.add node compiled).prompt =
      if isExcluded node.classType then progress.prompt
      else progress.prompt.insert node.id compiled := by
  unfold add
  split <;> rfl

end Progress

theorem result_compileNode (around : Surroundings) (progress : Progress) (node : GraphNode)
    (schema : Option ClassSchema) :
    (compileNode around progress node schema).result =
      (around.site node (schema.getD .empty)).compile.result >>= fun compiled =>
        .ok ((progress.looked node.classType schema).add node compiled) := by
  unfold compileNode
  simp only [Traced.result_bind, Progress.result_settle, Traced.result_pure]
  rfl

/-- A node whose class has been looked up fails as it does on its own, for adding what
    it compiles to never fails. -/
theorem compileNode_error (around : Surroundings) (progress : Progress) (node : GraphNode)
    (schema : Option ClassSchema) (error : CompileError) :
    (compileNode around progress node schema).result = .error error ↔
      (around.site node (schema.getD .empty)).compile.result = .error error := by
  rw [result_compileNode, bind_eq_error]
  simp only [reduceCtorEq, and_false, exists_false, or_false]

section Run

variable (around : Surroundings) (catalog : Catalog) (progress : Progress)

/-- The run over nodes with a catalog at hand. -/
def Surroundings.run (nodes : List GraphNode) : Traced CompileError Progress :=
  nodes.foldlM (fun progress node =>
    compileNode around progress node (catalog.get? node.classType)) progress

/-- The first of several nodes, once its class has been looked up. -/
theorem compileNodes_of_answer (registry registry' : Registry) (events : List Event)
    (node : GraphNode) (rest : List GraphNode)
    (hanswer : registry.schema? node.classType =
      (registry', ⟨events, .ok (catalog.get? node.classType)⟩))
    (hrest : ∀ next, (compileNodes around registry' next rest).2 = around.run catalog next rest) :
    (compileNodes around registry progress (node :: rest)).2 =
      ⟨events ++ (around.run catalog progress (node :: rest)).events,
        (around.run catalog progress (node :: rest)).result⟩ := by
  have hstep : (do
      let schema ← Traced.mapError CompileError.registryFetch
        ⟨events, .ok (catalog.get? node.classType)⟩
      compileNode around progress node schema) =
        ⟨events ++ (compileNode around progress node (catalog.get? node.classType)).events,
          (compileNode around progress node (catalog.get? node.classType)).result⟩ := rfl
  unfold Surroundings.run at hrest ⊢
  unfold compileNodes
  simp only [hanswer, hstep]
  rw [List.foldlM_cons]
  cases hresult : (compileNode around progress node (catalog.get? node.classType)).result with
  | error e => simp only [bind, Traced.andThen, hresult]
  | ok next => simp only [bind, Traced.andThen, hresult, hrest, List.append_assoc]

/-- With the catalog at hand nothing but the nodes is reported. -/
theorem compileNodes_eq_run (registry : Registry) (nodes : List GraphNode)
    (h : registry.loaded = .filled catalog) :
    (compileNodes around registry progress nodes).2 = around.run catalog progress nodes := by
  induction nodes generalizing progress with
  | nil => rfl
  | cons node rest ih =>
      exact compileNodes_of_answer around catalog progress registry registry [] node rest
        (Registry.ask_of_loaded _ registry catalog h) ih

/-- Without it the fetch is reported first. -/
theorem compileNodes_of_fetch (source : Source) (fetches : Nat)
    (hfetch : source fetches = .ok catalog) (node : GraphNode) (rest : List GraphNode) :
    (compileNodes around ⟨source, fetches, .empty⟩ progress (node :: rest)).2 =
      ⟨[.fetching, .fetched catalog.size] ++ (around.run catalog progress (node :: rest)).events,
        (around.run catalog progress (node :: rest)).result⟩ :=
  compileNodes_of_answer around catalog progress _ _ _ node rest
    (Registry.ask_of_served _ source fetches catalog hfetch)
    fun next => compileNodes_eq_run around catalog next _ rest rfl

end Run

/-- While the registry serves a catalog, the run is a fold of its steps, each with
    the schema from that catalog. -/
theorem compileNodes_of_serves (around : Surroundings) (catalog : Catalog)
    (nodes : List GraphNode) (registry : Registry) (progress : Progress)
    (h : registry.Serves catalog) :
    (compileNodes around registry progress nodes).2.result =
      nodes.foldlM (fun progress node =>
        (compileNode around progress node (catalog.get? node.classType)).result) progress := by
  rw [← Traced.result_foldlM]
  rcases h with hloaded | ⟨hnone, hfetch⟩
  · rw [compileNodes_eq_run around catalog progress registry nodes hloaded]
    rfl
  · rcases registry with ⟨source, fetches, loaded⟩
    obtain rfl : loaded = .empty := hnone
    cases nodes with
    | nil => rfl
    | cons node rest =>
        rw [compileNodes_of_fetch around catalog progress source fetches hfetch node rest]
        rfl

theorem compileNodes_of_failing (around : Surroundings) (registry : Registry)
    (progress : Progress) (node : GraphNode) (rest : List GraphNode) (error : RegistryError)
    (hloaded : registry.loaded = .empty)
    (hfetch : registry.source registry.fetches = .error error) :
    (compileNodes around registry progress (node :: rest)).2.result =
      .error (.registryFetch error) := by
  have hschema : (registry.schema? node.classType).2.result = .error error := by
    rcases registry with ⟨source, fetches, loaded⟩
    obtain rfl : loaded = .empty := hloaded
    unfold Registry.schema?
    rw [Registry.ask_of_failing _ source fetches error hfetch]
  have hstep : (do
      let schema ← (registry.schema? node.classType).2.mapError CompileError.registryFetch
      compileNode around progress node schema).result = .error (.registryFetch error) := by
    rw [Traced.result_bind]
    unfold Traced.mapError
    rw [hschema]
    rfl
  unfold compileNodes
  simp only []
  rw [hstep]

/-- The last of several nodes that has an id and is not left out of prompts. -/
def lastKept? (nodes : List GraphNode) (id : NodeId) : Option GraphNode :=
  nodes.reverse.find? fun node => !isExcluded node.classType && node.id = id

theorem lastKept?_snoc (nodes : List GraphNode) (node : GraphNode) (id : NodeId) :
    lastKept? (nodes ++ [node]) id =
      if !isExcluded node.classType && node.id = id then some node else lastKept? nodes id :=
  find?_reverse_snoc _ nodes node

theorem lastKept?_split (before after : List GraphNode) (node : GraphNode) (id : NodeId) :
    lastKept? (before ++ node :: after) id =
      (lastKept? after id).or (if !isExcluded node.classType && node.id = id then some node
        else lastKept? before id) :=
  find?_reverse_split _ before after node

theorem mem_of_lastKept? (nodes : List GraphNode) (id : NodeId) (node : GraphNode)
    (h : lastKept? nodes id = some node) : node ∈ nodes :=
  List.mem_reverse.mp (List.mem_of_find?_eq_some h)

theorem isSome_lastKept?_iff (nodes : List GraphNode) (id : NodeId) :
    (lastKept? nodes id).isSome = true ↔
      ∃ node ∈ nodes, node.id = id ∧ isExcluded node.classType = false := by
  unfold lastKept?
  simp only [List.find?_isSome, List.mem_reverse, Bool.and_eq_true, Bool.not_eq_true',
    decide_eq_true_eq, and_comm]

/-- No node with an id is kept if all that have it are left out of prompts. -/
theorem lastKept?_eq_none_iff (nodes : List GraphNode) (id : NodeId) :
    lastKept? nodes id = none ↔
      ∀ node ∈ nodes, node.id = id → isExcluded node.classType = true := by
  rw [← Option.not_isSome_iff_eq_none, isSome_lastKept?_iff]
  simp only [not_exists, not_and, Bool.not_eq_false]

/-- The ids of the nodes that are not left out of prompts, as they are first met. -/
def keptIds (nodes : List GraphNode) : List NodeId :=
  ((nodes.filter fun node => !isExcluded node.classType).map GraphNode.id).eraseDups

theorem keptIds_snoc (nodes : List GraphNode) (node : GraphNode) :
    keptIds (nodes ++ [node]) =
      if isExcluded node.classType = true ∨ node.id ∈ keptIds nodes then keptIds nodes
      else keptIds nodes ++ [node.id] := by
  unfold keptIds
  rw [List.filter_append, List.map_append]
  generalize (nodes.filter fun node => !isExcluded node.classType).map GraphNode.id = ids
  -- The new node adds its id if it is kept and the id is new.
  by_cases hexcluded : isExcluded node.classType = true
  · simp [hexcluded]
  · simp [hexcluded, eraseDups_snoc]

namespace Surroundings

/-- A node with the schema that a catalog has for its class. -/
def siteIn (around : Surroundings) (catalog : Catalog) (node : GraphNode) : Site :=
  around.site node (catalog.schemaOf node.classType)

/-- A prompt holds what nodes compile to: each of them compiles, and an entry is
    what the last node with its id that is not excluded compiles to. -/
def FilledFrom (around : Surroundings) (catalog : Catalog) (nodes : List GraphNode)
    (prompt : CompiledPrompt) : Prop :=
  (∀ node ∈ nodes, ∃ compiled, (around.siteIn catalog node).compile.result = .ok compiled) ∧
    ∀ id, prompt.get? id = (lastKept? nodes id).bind fun node =>
      (around.siteIn catalog node).compile.result.toOption

theorem filledFrom_snoc (around : Surroundings) (catalog : Catalog) (nodes : List GraphNode)
    (progress next : Progress) (node : GraphNode)
    (h : around.FilledFrom catalog nodes progress.prompt)
    (hstep : (compileNode around progress node (catalog.get? node.classType)).result = .ok next) :
    around.FilledFrom catalog (nodes ++ [node]) next.prompt := by
  rw [result_compileNode, bind_eq_ok] at hstep
  rcases hstep with ⟨compiled, hcompiled, hnext⟩
  rw [Except.ok.injEq] at hnext
  have hsite : (around.siteIn catalog node).compile.result = .ok compiled := hcompiled
  refine ⟨fun other hother => ?_, fun id => ?_⟩
  · -- The nodes done before compile by assumption, and this one just did.
    rcases List.mem_append.mp hother with hold | hnew
    · exact h.1 other hold
    · rw [List.mem_singleton.mp hnew]
      exact ⟨compiled, hsite⟩
  · rw [← hnext, Progress.prompt_add, Progress.prompt_looked, lastKept?_snoc]
    by_cases hexcluded : isExcluded node.classType = true
    · -- An excluded node is neither inserted nor the last entry of any id.
      simp only [hexcluded, if_true, Bool.not_true, Bool.false_and, Bool.false_eq_true, if_false]
      exact h.2 id
    · simp only [hexcluded, Bool.false_eq_true, if_false, Bool.not_false, Bool.true_and]
      unfold CompiledPrompt.get? CompiledPrompt.insert
      rw [OrderedMap.get?_insert]
      -- For its own id it takes the place of any earlier node.
      by_cases hid : node.id = id
      · simp only [hid, decide_true, if_true, Option.bind_some, hsite, Except.toOption]
      · have hid' : ¬id = node.id := fun heq => hid heq.symm
        simp only [hid, hid', decide_false, if_false, Bool.false_eq_true]
        exact h.2 id

/-- A node adds its id to the prompt, unless it is left out or its id is there. -/
theorem keys_of_compileNode (around : Surroundings) (schema : Option ClassSchema)
    (nodes : List GraphNode) (progress next : Progress) (node : GraphNode)
    (h : progress.prompt.nodes.keys = keptIds nodes)
    (hstep : (compileNode around progress node schema).result = .ok next) :
    next.prompt.nodes.keys = keptIds (nodes ++ [node]) := by
  rw [result_compileNode, bind_eq_ok] at hstep
  rcases hstep with ⟨compiled, -, hnext⟩
  rw [← Except.ok.inj hnext, Progress.prompt_add, Progress.prompt_looked, keptIds_snoc, ← h]
  by_cases hexcluded : isExcluded node.classType = true
  · simp only [hexcluded, if_true, true_or]
  · simp only [hexcluded, Bool.false_eq_true, if_false, false_or]
    exact Entries.keys_insert node.id compiled progress.prompt.nodes.entries

namespace FilledFrom

variable {around : Surroundings} {catalog : Catalog} {nodes : List GraphNode}
  {prompt : CompiledPrompt}

theorem get?_eq_some (h : around.FilledFrom catalog nodes prompt) (id : NodeId)
    (entry : CompiledNode) (hentry : prompt.get? id = some entry) :
    ∃ node, lastKept? nodes id = some node ∧
      (around.siteIn catalog node).compile.result = .ok entry := by
  rw [h.2, Option.bind_eq_some_iff] at hentry
  rcases hentry with ⟨node, hnode, hcompiled⟩
  refine ⟨node, hnode, ?_⟩
  cases hresult : (around.siteIn catalog node).compile.result with
  | error e =>
      rw [hresult] at hcompiled
      cases hcompiled
  | ok compiled =>
      rw [hresult] at hcompiled
      cases hcompiled
      rfl

theorem exists_entry (h : around.FilledFrom catalog nodes prompt) (id : NodeId)
    (node : GraphNode) (hnode : lastKept? nodes id = some node) :
    ∃ entry, prompt.get? id = some entry ∧
      (around.siteIn catalog node).compile.result = .ok entry := by
  rcases h.1 node (mem_of_lastKept? nodes id node hnode) with ⟨entry, hentry⟩
  refine ⟨entry, ?_, hentry⟩
  rw [h.2, hnode, Option.bind_some, hentry]
  rfl

/-- A prompt has the ids of the nodes that are not left out. -/
theorem isSome_get?_iff (h : around.FilledFrom catalog nodes prompt) (id : NodeId) :
    (prompt.get? id).isSome = true ↔
      ∃ node ∈ nodes, node.id = id ∧ isExcluded node.classType = false := by
  rw [← isSome_lastKept?_iff, Option.isSome_iff_exists, Option.isSome_iff_exists]
  constructor
  · rintro ⟨entry, hentry⟩
    rcases h.get?_eq_some id entry hentry with ⟨node, hnode, -⟩
    exact ⟨node, hnode⟩
  · rintro ⟨node, hnode⟩
    rcases h.exists_entry id node hnode with ⟨entry, hentry, -⟩
    exact ⟨entry, hentry⟩

end FilledFrom

end Surroundings

namespace WorkflowGraph

/-- The node that an entry of a prompt comes from: the last one with the id that is
    not left out. -/
def entryNode? (graph : WorkflowGraph) (id : NodeId) : Option GraphNode :=
  lastKept? graph.nodes id

theorem source?_siteIn (graph : WorkflowGraph) (strict : Bool) (catalog : Catalog)
    (node : GraphNode) (slot : Slot) :
    ((graph.surroundings strict).siteIn catalog node).source? slot =
      (sourceByScan? graph.links ⟨node.id, slot⟩).bind fun source =>
        (graph.node? source.node).map fun origin => (origin, source.slot) := by
  have hlinks : (LinkIndex.ofLinks graph.links).source? ⟨node.id, slot⟩ =
      sourceByScan? graph.links ⟨node.id, slot⟩ := LinkIndex.source?_ofLinks _ _
  have hnodes : ∀ id, (NodeIndex.ofNodes graph.nodes).node? id = graph.node? id :=
    NodeIndex.node?_ofNodes graph.nodes
  unfold Site.source? Surroundings.siteIn Surroundings.site surroundings
  simp only [hlinks, hnodes, Option.bind_eq_bind, Option.map_eq_bind]
  rfl

theorem result_compile (graph : WorkflowGraph) (options : CompileOptions) (source : Source)
    (fetches : Nat) (hvalid : options.valid = true) :
    (graph.compile options source fetches).run.result =
      (compileNodes (graph.surroundings options.strictTypes) { source, fetches } {}
        graph.nodes).2.result >>= fun progress => .ok progress.prompt := by
  unfold WorkflowGraph.compile
  simp only [hvalid, Bool.not_true, Bool.false_eq_true, if_false, Traced.result_bind,
    Traced.result_pure]
  rfl

/-- With a catalog the run is a fold over the nodes. -/
theorem result_compile_of_fetch (graph : WorkflowGraph) (options : CompileOptions)
    (source : Source) (fetches : Nat) (catalog : Catalog) (hvalid : options.valid = true)
    (hfetch : source fetches = .ok catalog) :
    (graph.compile options source fetches).run.result =
      graph.nodes.foldlM (fun progress node =>
        (compileNode (graph.surroundings options.strictTypes) progress node
          (catalog.get? node.classType)).result) {} >>= fun progress => .ok progress.prompt := by
  have hserves : Registry.Serves { source, fetches } catalog := Or.inr ⟨rfl, hfetch⟩
  rw [result_compile _ _ _ _ hvalid, compileNodes_of_serves _ catalog _ _ _ hserves]

/-- Without a catalog only a workflow without nodes gets through. -/
theorem result_compile_of_failing (graph : WorkflowGraph) (options : CompileOptions)
    (source : Source) (fetches : Nat) (failure : RegistryError) (hvalid : options.valid = true)
    (hfetch : source fetches = .error failure) :
    (graph.compile options source fetches).run.result =
      if graph.nodes = [] then .ok .empty else .error (.registryFetch failure) := by
  rw [result_compile _ _ _ _ hvalid]
  cases hnodes : graph.nodes with
  | nil => rfl
  | cons node rest =>
      have hrun := compileNodes_of_failing (graph.surroundings options.strictTypes)
        { source, fetches } {} node rest failure rfl hfetch
      rw [hrun, if_neg (List.cons_ne_nil node rest)]
      rfl

/-- A compile with a catalog succeeds if every node compiles against it. -/
theorem compile_of_nodes (graph : WorkflowGraph) (options : CompileOptions) (source : Source)
    (fetches : Nat) (catalog : Catalog) (hvalid : options.valid = true)
    (hfetch : source fetches = .ok catalog) (h : ∀ node ∈ graph.nodes, ∃ compiled,
      ((graph.surroundings options.strictTypes).siteIn catalog node).compile.result =
        .ok compiled) :
    ∃ prompt, (graph.compile options source fetches).run.result = .ok prompt := by
  have hstep : ∀ node ∈ graph.nodes, ∀ progress, ∃ next,
      (compileNode (graph.surroundings options.strictTypes) progress node
        (catalog.get? node.classType)).result = .ok next := by
    intro node hnode progress
    rcases h node hnode with ⟨compiled, hcompiled⟩
    refine ⟨(progress.looked node.classType (catalog.get? node.classType)).add node compiled, ?_⟩
    rw [result_compileNode, bind_eq_ok]
    exact ⟨compiled, hcompiled, rfl⟩
  rcases foldlM_total graph.nodes hstep {} with ⟨progress, hrun⟩
  rw [graph.result_compile_of_fetch options source fetches catalog hvalid hfetch, hrun]
  exact ⟨progress.prompt, rfl⟩

/-- A compile that succeeds has fetched a catalog, unless there was nothing to
    compile, and has gone through the nodes with it. -/
theorem compile_run (graph : WorkflowGraph) (options : CompileOptions) (source : Source)
    (fetches : Nat) (prompt : CompiledPrompt)
    (h : (graph.compile options source fetches).run.result = .ok prompt) :
    options.valid = true ∧ ∃ catalog progress,
      (graph.nodes ≠ [] → source fetches = .ok catalog) ∧
      graph.nodes.foldlM (fun progress node =>
        (compileNode (graph.surroundings options.strictTypes) progress node
          (catalog.get? node.classType)).result) {} = .ok progress ∧
      progress.prompt = prompt := by
  by_cases hvalid : options.valid = true
  · refine ⟨hvalid, ?_⟩
    cases hfetch : source fetches with
    | ok catalog =>
        rw [graph.result_compile_of_fetch options source fetches catalog hvalid hfetch,
          bind_eq_ok] at h
        rcases h with ⟨progress, hrun, hprompt⟩
        exact ⟨catalog, progress, fun _ => rfl, hrun, Except.ok.inj hprompt⟩
    | error failure =>
        rw [graph.result_compile_of_failing options source fetches failure hvalid hfetch] at h
        by_cases hnodes : graph.nodes = []
        · rw [if_pos hnodes] at h
          rw [hnodes]
          exact ⟨.empty, {}, fun hne => absurd rfl hne, rfl, Except.ok.inj h⟩
        · rw [if_neg hnodes] at h
          cases h
  · unfold WorkflowGraph.compile at h
    simp only [hvalid, Bool.not_false, if_true] at h
    cases h

/-- The prompt of a compile that succeeds holds what the nodes compile to. -/
theorem compile_ok (graph : WorkflowGraph) (options : CompileOptions) (source : Source)
    (fetches : Nat) (prompt : CompiledPrompt)
    (h : (graph.compile options source fetches).run.result = .ok prompt) :
    ∃ catalog, (graph.nodes ≠ [] → source fetches = .ok catalog) ∧
      (graph.surroundings options.strictTypes).FilledFrom catalog graph.nodes prompt := by
  rcases graph.compile_run options source fetches prompt h with
    ⟨-, catalog, progress, hfetch, hrun, rfl⟩
  refine ⟨catalog, hfetch, ?_⟩
  have hblank : (graph.surroundings options.strictTypes).FilledFrom catalog []
      ({} : Progress).prompt := ⟨fun node hnode => (by cases hnode), fun id => rfl⟩
  exact foldlM_history
    (fun nodes progress => (graph.surroundings options.strictTypes).FilledFrom catalog nodes
      progress.prompt) graph.nodes
    (fun nodes node progress next hfilled hstep =>
      Surroundings.filledFrom_snoc _ catalog nodes progress next node hfilled hstep)
    [] {} progress hblank hrun

/-- A compile succeeds exactly with valid options and, unless there is nothing to
    compile, with a catalog against which every node compiles. -/
theorem exists_prompt_iff (graph : WorkflowGraph) (options : CompileOptions) (source : Source)
    (fetches : Nat) :
    (∃ prompt, (graph.compile options source fetches).run.result = .ok prompt) ↔
      options.valid = true ∧ (graph.nodes ≠ [] → ∃ catalog, source fetches = .ok catalog ∧
        ∀ node ∈ graph.nodes, ∃ compiled,
          ((graph.surroundings options.strictTypes).siteIn catalog node).compile.result =
            .ok compiled) := by
  constructor
  · rintro ⟨prompt, h⟩
    rcases graph.compile_run options source fetches prompt h with ⟨hvalid, -⟩
    rcases graph.compile_ok options source fetches prompt h with ⟨catalog, hfetch, hfilled⟩
    exact ⟨hvalid, fun hnodes => ⟨catalog, hfetch hnodes, hfilled.1⟩⟩
  · rintro ⟨hvalid, hcompiled⟩
    by_cases hnodes : graph.nodes = []
    · -- Nothing is fetched, and the prompt is empty.
      refine ⟨.empty, ?_⟩
      rw [result_compile _ _ _ _ hvalid, hnodes]
      rfl
    · rcases hcompiled hnodes with ⟨catalog, hfetch, hall⟩
      exact graph.compile_of_nodes options source fetches catalog hvalid hfetch hall

/-- The ids of a prompt are those of the nodes that are not left out, in the order in
    which they are first met. -/
theorem compile_keys (graph : WorkflowGraph) (options : CompileOptions) (source : Source)
    (fetches : Nat) (prompt : CompiledPrompt)
    (h : (graph.compile options source fetches).run.result = .ok prompt) :
    prompt.nodes.keys = keptIds graph.nodes := by
  rcases graph.compile_run options source fetches prompt h with
    ⟨-, catalog, progress, -, hrun, rfl⟩
  exact foldlM_history (fun nodes progress => progress.prompt.nodes.keys = keptIds nodes)
    graph.nodes
    (fun nodes node progress next hkeys hstep =>
      Surroundings.keys_of_compileNode _ _ nodes progress next node hkeys hstep)
    [] {} progress rfl hrun

/-- An entry of the prompt is what the node of its id compiles to, against the catalog
    that was fetched. -/
theorem compile_entry (graph : WorkflowGraph) (options : CompileOptions) (source : Source)
    (fetches : Nat) (prompt : CompiledPrompt)
    (h : (graph.compile options source fetches).run.result = .ok prompt) (id : NodeId)
    (entry : CompiledNode) (hentry : prompt.get? id = some entry) :
    ∃ catalog node, source fetches = .ok catalog ∧ graph.entryNode? id = some node ∧
      ((graph.surroundings options.strictTypes).siteIn catalog node).compile.result =
        .ok entry := by
  rcases graph.compile_ok options source fetches prompt h with ⟨catalog, hfetch, hfilled⟩
  rcases hfilled.get?_eq_some id entry hentry with ⟨node, hnode, hcompiled⟩
  -- There is a node, so the catalog has been fetched.
  have hnodes : graph.nodes ≠ [] := List.ne_nil_of_mem (mem_of_lastKept? _ id node hnode)
  exact ⟨catalog, node, hfetch hnodes, hnode, hcompiled⟩

/-- What the node of an id compiles to is the entry of the prompt. -/
theorem get?_of_entryNode? (graph : WorkflowGraph) (options : CompileOptions) (source : Source)
    (fetches : Nat) (catalog : Catalog) (hfetch : source fetches = .ok catalog)
    (prompt : CompiledPrompt)
    (h : (graph.compile options source fetches).run.result = .ok prompt) (id : NodeId)
    (node : GraphNode) (hnode : graph.entryNode? id = some node) (entry : CompiledNode)
    (hcompiled : ((graph.surroundings options.strictTypes).siteIn catalog node).compile.result =
      .ok entry) : prompt.get? id = some entry := by
  rcases graph.compile_ok options source fetches prompt h with ⟨served, hserved, hfilled⟩
  have hnodes : graph.nodes ≠ [] := List.ne_nil_of_mem (mem_of_lastKept? _ id node hnode)
  -- The catalog of the run is the one that the source gives.
  cases hfetch.symm.trans (hserved hnodes)
  rcases hfilled.exists_entry id node hnode with ⟨entry', hentry, hcompiled'⟩
  cases hcompiled.symm.trans hcompiled'
  exact hentry

/-- A compile fails because of its options, its source of catalogs, or one of its
    nodes. -/
theorem compile_error (graph : WorkflowGraph) (options : CompileOptions) (source : Source)
    (fetches : Nat) (error : CompileError)
    (h : (graph.compile options source fetches).run.result = .error error) :
    error = .invalidOptions ∨ (∃ failure, error = .registryFetch failure) ∨
      ∃ catalog, source fetches = .ok catalog ∧ ∃ node ∈ graph.nodes,
        ((graph.surroundings options.strictTypes).siteIn catalog node).compile.result =
          .error error := by
  by_cases hvalid : options.valid = true
  · cases hfetch : source fetches with
    | ok catalog =>
        -- The fold over the nodes fails, so it does at one of them.
        rw [graph.result_compile_of_fetch options source fetches catalog hvalid hfetch,
          bind_eq_error] at h
        rcases h with hrun | ⟨progress, -, hprompt⟩
        · rcases foldlM_error_split _ _ error hrun with ⟨before, node, after, m, hsplit, -, hfail⟩
          have hmem : node ∈ graph.nodes :=
            hsplit ▸ List.mem_append_right before (List.mem_cons_self ..)
          exact Or.inr (Or.inr ⟨catalog, rfl, node, hmem,
            (compileNode_error _ _ _ _ error).mp hfail⟩)
        · cases hprompt
    | error failure =>
        rw [graph.result_compile_of_failing options source fetches failure hvalid hfetch] at h
        by_cases hnodes : graph.nodes = []
        · rw [if_pos hnodes] at h
          cases h
        · rw [if_neg hnodes] at h
          cases h
          exact Or.inr (Or.inl ⟨failure, rfl⟩)
  · unfold WorkflowGraph.compile at h
    simp only [hvalid, Bool.not_false, if_true] at h
    cases h
    exact Or.inl rfl

end WorkflowGraph

end PromptGraph
