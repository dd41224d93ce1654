import PromptGraph.Proofs.Graph.Run
import PromptGraph.Proofs.Node.Sight

/-!
# Two Workflows Side by Side

What it takes for a node to be compiled alike in two workflows, and for two
prompts to have the same entry.

A link is followed to the last node with an id. What it brings is the same in two
workflows if the nodes found there supply the same, which they do if the nodes of
the one supply, one by one, what those of the other do. With the same source for
each slot, every node then sees the same in both workflows.

An entry of a prompt is what one node compiles to. So two prompts have the same
entry under an id if it is that of the same node in both workflows, and that node
compiles to the same in both.

## Main definitions

* `WorkflowGraph.withNodes`: The workflow with other nodes.

## Theorems

* `WorkflowGraph.map_node?_eq`: Looking up nodes in workflows that look the same.
* `WorkflowGraph.map_source?_siteIn`: What a link brings, in terms of the workflow.
* `WorkflowGraph.siteIn_seesAlike`: A node sees the same in two workflows.
* `keptIds_congr`: Which ids are kept is decided by ids and classes.
* `WorkflowGraph.get?_eq_of_sameNode`: Prompts with the same entry.
-/

namespace PromptGraph

/-- The kept ids of nodes depend on their ids and classes only. -/
theorem keptIds_congr (nodes nodes' : List GraphNode)
    (h : nodes.map (fun node => (node.id, node.classType)) =
      nodes'.map fun node => (node.id, node.classType)) : keptIds nodes = keptIds nodes' := by
  have hpairs : ∀ nodes : List GraphNode, keptIds nodes =
      (((nodes.map fun node => (node.id, node.classType)).filter
        fun pair => !isExcluded pair.2).map Prod.fst).eraseDups := by
    intro nodes
    unfold keptIds
    rw [List.filter_map, List.map_map]
    rfl
  rw [hpairs, hpairs, h]

namespace WorkflowGraph

/-- The workflow with other nodes, and the same links. -/
def withNodes (graph : WorkflowGraph) (nodes : List GraphNode) : WorkflowGraph :=
  { graph with nodes }

variable (graph graph' : WorkflowGraph)

/-- The nodes found under an id look the same in some way that shows their ids if all nodes do,
    one by one. -/
theorem map_node?_eq {α : Type} (f : GraphNode → NodeId × α) (hid : ∀ node, (f node).1 = node.id)
    (h : graph.nodes.map f = graph'.nodes.map f) (id : NodeId) :
    (graph.node? id).map f = (graph'.node? id).map f := by
  -- A search by id can be made among what is shown.
  have hsearch : ∀ nodes : List GraphNode, (nodes.reverse.find? (·.id = id)).map f =
      (nodes.map f).reverse.find? (·.1 = id) := by
    intro nodes
    rw [← List.map_reverse, List.find?_map]
    simp only [Function.comp_def, hid]
  unfold node?
  rw [hsearch, hsearch, h]

/-- What is shown of the source of a slot is what is shown of the node found for it. -/
theorem map_source?_siteIn {α : Type} (f : GraphNode → α) (strict : Bool) (catalog : Catalog)
    (node : GraphNode) (slot : Slot) :
    (((graph.surroundings strict).siteIn catalog node).source? slot).map
        (fun s => (f s.1, s.2)) =
      (sourceByScan? graph.links ⟨node.id, slot⟩).bind fun source =>
        ((graph.node? source.node).map f).map fun a => (a, source.slot) := by
  rw [source?_siteIn, Option.map_bind]
  refine congrArg _ (funext fun source => ?_)
  simp only [Function.comp_apply, Option.map_map, Function.comp_def]

variable {graph graph'}

/-- A node sees the same in two workflows if its linked slots have the same sources and the
    nodes with an id supply the same. -/
theorem siteIn_seesAlike (strict : Bool) (catalog catalog' : Catalog) (node node' : GraphNode)
    (hface : node.face = node'.face)
    (hschema : catalog.schemaOf node.classType = catalog'.schemaOf node.classType)
    (hlinks : ∀ s ∈ node.slots, s.2.isLinkBound = true →
      sourceByScan? graph.links ⟨node.id, s.1⟩ = sourceByScan? graph'.links ⟨node.id, s.1⟩)
    (hsupply : ∀ id, (graph.node? id).map GraphNode.supply =
      (graph'.node? id).map GraphNode.supply) :
    ((graph.surroundings strict).siteIn catalog node).SeesAlike
      ((graph'.surroundings strict).siteIn catalog' node') where
  face := hface
  schema := hschema.trans (congrArg catalog'.schemaOf (GraphNode.classType_eq_of_face hface))
  strict := rfl
  supply := by
    intro s hs hlink
    unfold Site.supply?
    rw [map_source?_siteIn, map_source?_siteIn, ← GraphNode.id_eq_of_face hface,
      hlinks s hs hlink]
    simp only [hsupply]

variable {options : CompileOptions} {source source' : Source} {fetches fetches' : Nat}
  {prompt prompt' : CompiledPrompt}

/-- Two prompts have the same entry under an id if it is that of the same node, and that node
    compiles to the same in both workflows. -/
theorem get?_eq_of_sameNode (hsource : source fetches = source' fetches')
    (h : (graph.compile options source fetches).run.result = .ok prompt)
    (h' : (graph'.compile options source' fetches').run.result = .ok prompt') (id : NodeId)
    (hnode : graph.entryNode? id = graph'.entryNode? id)
    (hcompiled : ∀ catalog node, graph.entryNode? id = some node →
      ((graph.surroundings options.strictTypes).siteIn catalog node).compile.result.toOption =
        ((graph'.surroundings options.strictTypes).siteIn catalog node).compile.result.toOption) :
    prompt.get? id = prompt'.get? id := by
  rcases graph.compile_ok options source fetches prompt h with ⟨catalog, hfetch, hfilled⟩
  rcases graph'.compile_ok options source' fetches' prompt' h' with ⟨catalog', hfetch', hfilled'⟩
  unfold entryNode? at hnode hcompiled
  rw [hfilled.2, hfilled'.2, ← hnode]
  cases hkept : lastKept? graph.nodes id with
  | none => rw [Option.bind_none, Option.bind_none]
  | some node =>
      -- Both have a node, so both have fetched, and the catalogs are the same.
      have hmem := mem_of_lastKept? _ id node hkept
      have hmem' := mem_of_lastKept? _ id node (hnode.symm.trans hkept)
      have hserved := (hfetch (List.ne_nil_of_mem hmem)).symm.trans
        (hsource.trans (hfetch' (List.ne_nil_of_mem hmem')))
      cases hserved
      rw [Option.bind_some, Option.bind_some]
      exact hcompiled catalog node hkept

end WorkflowGraph

end PromptGraph
