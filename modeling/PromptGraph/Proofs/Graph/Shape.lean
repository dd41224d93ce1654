import PromptGraph.Proofs.Graph.Order
import PromptGraph.Proofs.Graph.Reports

/-!
# The Shape of a Prompt

Which keys a prompt has, in which order, and how many.

An id has its place in the prompt from the first node that has it and is not left out, and its
entry from the last. A node that is left out does neither: it is counted, and this is all that
there is of it. So with distinct ids each node is in the prompt or counted as left out, and the two
counts that are reported in the end add up to the number of nodes.

## Theorems

* `lastKept?_eq_some`: Where the last node with an id stands.
* `Surroundings.excluded_run`: How many nodes a run has left out.
* `length_keptIds`: How many ids are kept if no two nodes have the same.
* `WorkflowGraph.compile_shape`: The keys, classes and counts of a prompt.
-/

namespace PromptGraph

/-- After the last node that has an id and is not left out, those with the id are left out. -/
theorem lastKept?_eq_some (nodes : List GraphNode) (id : NodeId) (node : GraphNode)
    (h : lastKept? nodes id = some node) :
    ∃ before after, nodes = before ++ node :: after ∧ node.id = id ∧
      isExcluded node.classType = false ∧
      ∀ later ∈ after, later.id = id → isExcluded later.classType = true := by
  unfold lastKept? at h
  rcases (find?_reverse_eq_some_iff _ nodes node).mp h with ⟨before, after, hsplit, hnode, hlater⟩
  rw [Bool.and_eq_true, Bool.not_eq_true', decide_eq_true_eq] at hnode
  refine ⟨before, after, hsplit, hnode.2, hnode.1, fun later hmem hid => ?_⟩
  simpa [hid] using hlater later hmem

/-- With distinct ids every node is kept or left out. -/
theorem length_keptIds (nodes : List GraphNode) (h : (nodes.map GraphNode.id).Nodup) :
    (keptIds nodes).length + nodes.countP (fun node => isExcluded node.classType) =
      nodes.length := by
  rw [keptIds_of_nodup nodes h, List.length_map, ← List.countP_eq_length_filter, Nat.add_comm]
  have hsum := List.length_eq_countP_add_countP
    (fun node : GraphNode => isExcluded node.classType) (l := nodes)
  simp only [decide_not, Bool.decide_eq_true] at hsum
  exact hsum.symm

namespace Surroundings

variable (around : Surroundings) (catalog : Catalog)

/-- A run counts the nodes that it leaves out. -/
theorem excluded_run (nodes : List GraphNode) (progress : Progress)
    (h : (around.run catalog {} nodes).result = .ok progress) :
    progress.excluded = nodes.countP fun node => isExcluded node.classType := by
  unfold run at h
  rw [Traced.result_foldlM] at h
  refine foldlM_history (fun done progress => progress.excluded =
    done.countP fun node => isExcluded node.classType) nodes
    (fun done node progress next hdone hstep => ?_) [] {} progress rfl h
  rw [result_compileNode, bind_eq_ok] at hstep
  rcases hstep with ⟨compiled, -, hnext⟩
  -- Looking up the class counts nothing; adding the node counts it if it is left out.
  have hlooked : (progress.looked node.classType (catalog.get? node.classType)).excluded =
      progress.excluded := by
    unfold Progress.looked
    split <;> rfl
  rw [← Except.ok.inj hnext, List.countP_append, List.countP_singleton, ← hdone, ← hlooked]
  unfold Progress.add
  cases isExcluded node.classType <;> rfl

end Surroundings

namespace WorkflowGraph

variable (graph : WorkflowGraph) (options : CompileOptions) (source : Source) (fetches : Nat)

/-- The counts are reported once, when the compile is done. -/
theorem counts_compile (prompt : CompiledPrompt)
    (h : (graph.compile options source fetches).run.result = .ok prompt) :
    (graph.compile options source fetches).run.events.filterMap Event.counts? =
      [(prompt.size, graph.nodes.countP fun node => isExcluded node.classType)] := by
  rcases graph.events_compile options source fetches prompt h with
    ⟨catalog, progress, -, hrun, -, hevents⟩
  have hcompiles := Surroundings.compiles_of_run _ catalog graph.nodes {} progress hrun
  -- None of the reports for the nodes has counts.
  have hnodes : ((graph.surroundings options.strictTypes).run catalog {}
      graph.nodes).events.filterMap Event.counts? = [] := by
    rw [Surroundings.events_run _ catalog graph.nodes [] {} progress (.start catalog) hrun,
      Surroundings.filterMap_reportsFrom _ catalog [] graph.nodes hcompiles Event.counts?
        (fun _ => none) (fun e he => (e.sorts_of_isNote he).2.2) (fun _ => rfl)
        fun _ _ _ _ => rfl]
    exact List.filterMap_eq_nil_iff.mpr fun _ _ => rfl
  rw [hevents, filterMap_compiling _ (fun _ _ _ => rfl) rfl fun _ => rfl, hnodes,
    Surroundings.excluded_run _ catalog graph.nodes progress hrun]
  rfl

/-- The shape of the prompt of a compile that succeeds.

    Its keys are the ids of the nodes that are not left out, in the order of the workflow, each at
    the place of its first such node. The entry of a key has the class of the last such node, so
    no entry is of a class that is left out. The counts that are reported, once, are that of the
    keys and that of the nodes left out. If no two nodes have the same id, they add up to the
    number of nodes. -/
theorem compile_shape (prompt : CompiledPrompt)
    (h : (graph.compile options source fetches).run.result = .ok prompt) :
    prompt.nodes.keys =
      ((graph.nodes.filter fun node => !isExcluded node.classType).map GraphNode.id).eraseDups ∧
    (∀ id ∈ prompt.nodes.keys, ∃ entry before node after, prompt.get? id = some entry ∧
      graph.nodes = before ++ node :: after ∧ node.id = id ∧
      isExcluded node.classType = false ∧
      (∀ later ∈ after, later.id = id → isExcluded later.classType = true) ∧
      entry.classType = node.classType) ∧
    (∀ e ∈ prompt.nodes.entries, isExcluded e.2.classType = false) ∧
    (∃ compiled excluded,
      (graph.compile options source fetches).run.events.filterMap Event.counts? =
        [(compiled, excluded)] ∧
      compiled = prompt.nodes.keys.length ∧
      excluded = graph.nodes.countP (fun node => isExcluded node.classType) ∧
      ((graph.nodes.map GraphNode.id).Nodup → compiled + excluded = graph.nodes.length)) := by
  have hkeys := graph.compile_keys options source fetches prompt h
  have hsize : prompt.size = prompt.nodes.keys.length := (List.length_map _).symm
  -- An entry comes from the last node that has its id and is not left out.
  have hentry : ∀ id entry, prompt.get? id = some entry → ∃ before node after,
      graph.nodes = before ++ node :: after ∧ node.id = id ∧ isExcluded node.classType = false ∧
      (∀ later ∈ after, later.id = id → isExcluded later.classType = true) ∧
      entry.classType = node.classType := by
    intro id entry hget
    rcases graph.compile_entry options source fetches prompt h id entry hget with
      ⟨catalog, node, -, hnode, hcompiled⟩
    rcases lastKept?_eq_some graph.nodes id node hnode with
      ⟨before, after, hsplit, hid, hkept, hlater⟩
    exact ⟨before, node, after, hsplit, hid, hkept, hlater,
      Site.classType_of_compile _ entry hcompiled⟩
  refine ⟨hkeys, fun id hid => ?_, fun e he => ?_, _, _,
    graph.counts_compile options source fetches prompt h, hsize, rfl, fun hdistinct => ?_⟩
  · have hcontains := (prompt.nodes.mem_keys_iff id).mp hid
    rcases Option.isSome_iff_exists.mp hcontains with ⟨entry, hget⟩
    rcases hentry id entry hget with ⟨before, node, after, hrest⟩
    exact ⟨entry, before, node, after, hget, hrest⟩
  · rcases hentry e.1 e.2 (Entries.lookup_of_mem _ prompt.nodes.distinct e he) with
      ⟨before, node, after, -, -, hkept, -, hclass⟩
    rw [hclass]
    exact hkept
  · rw [hsize, hkeys]
    exact length_keptIds graph.nodes hdistinct

/-- A workflow with a node that was copied twice under one id, the second time as a note. -/
def revised : WorkflowGraph where
  nodes := [⟨"7", "Note", [], [], .empty⟩, ⟨"2", "Loader", [], [], .empty⟩,
    ⟨"7", "Sampler", [], [], .empty⟩, ⟨"2", "Upscaler", [], [], .empty⟩,
    ⟨"2", "Note", [], [], .empty⟩]

/-- The copied node has its place from the first copy and its class from the second, the third being
    left out. The note before the sampler does not give the id of both a place. In a workflow with
    distinct ids the counts add up to the number of nodes. -/
theorem revised_shape :
    (∃ prompt, (revised.compile {} (fun _ => .ok .empty) 0).run.result = .ok prompt ∧
      prompt.nodes.keys = ["2", "7"] ∧
      (∃ entry, prompt.get? "2" = some entry ∧ entry.classType = "Upscaler") ∧
      (revised.compile {} (fun _ => .ok .empty) 0).run.events.filterMap Event.counts? =
        [(2, 2)]) ∧
    (remarked.nodes.map GraphNode.id).Nodup ∧
    ∃ compiled excluded,
      (remarked.compile {} (fun _ => .ok samplerCatalog) 0).run.events.filterMap Event.counts? =
        [(compiled, excluded)] ∧ compiled + excluded = 4 := by
  have hdistinct : (remarked.nodes.map GraphNode.id).Nodup := by decide
  rcases compile_shape revised {} (fun _ => .ok .empty) 0 _ rfl with
    ⟨hkeys, hentries, -, compiled, excluded, hcounts, rfl, rfl, -⟩
  rcases hentries "2" (by decide) with ⟨entry, -, -, -, hentry, -⟩
  rcases compile_shape remarked {} (fun _ => .ok samplerCatalog) 0 _ rfl with
    ⟨-, -, -, compiled', excluded', hcounts', -, -, hsum⟩
  exact ⟨⟨_, rfl, hkeys, ⟨entry, hentry, by cases hentry; rfl⟩, hcounts⟩, hdistinct, compiled',
    excluded', hcounts', hsum hdistinct⟩

end WorkflowGraph

end PromptGraph
