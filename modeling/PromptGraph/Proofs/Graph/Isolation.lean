import PromptGraph.Proofs.Graph.Dangling
import PromptGraph.Proofs.Graph.Supply

/-!
# Isolated Nodes

What becomes of a prompt if one node of a workflow is replaced by another with the
same id and the same class.

Sockets and values belong to a node alone. Nothing that its compile reads, drops or
stores is left behind for the next node, and a link that starts at the node brings
its id and its class, which are those of the other. The one value that gets out of
a node is the first value of a primitive one, so a primitive node has to keep it.

The ids of the prompt are those of the workflow, and they stay as they are. An entry
under another id is that of the same node as before, also if several nodes have the
id of the one that is replaced.

## Main definitions

* `WorkflowGraph.Replacement`: A node of a workflow and another to take its place.
* `WorkflowGraph.Replacement.result`: The workflow with the other node.

## Theorems

* `WorkflowGraph.Replacement.siteIn_seesAlike`: No node sees the difference.
* `WorkflowGraph.Replacement.keptIds_result`: The kept ids stay as they are.
* `WorkflowGraph.Replacement.lastKept?_result`: Which nodes the entries are of.
* `WorkflowGraph.compile_replacement`: All other entries stay as they are.
-/

namespace PromptGraph

namespace WorkflowGraph

/-- A node of a workflow and another to take its place, with the same id and the same class.
    A primitive node has the same first value. -/
structure Replacement (graph : WorkflowGraph) where
  before : List GraphNode
  node : GraphNode
  after : List GraphNode
  other : GraphNode
  nodes_eq : graph.nodes = before ++ node :: after
  id_eq : other.id = node.id
  classType_eq : other.classType = node.classType
  first_eq : node.classType = primitiveClass → other.values.first? = node.values.first?

namespace Replacement

variable {graph : WorkflowGraph} (replacement : graph.Replacement)

/-- The workflow with the other node. -/
def result : WorkflowGraph :=
  graph.withNodes (replacement.before ++ replacement.other :: replacement.after)

theorem nodes_result :
    replacement.result.nodes =
      replacement.before ++ replacement.other :: replacement.after := rfl

/-- The other node supplies what the node does. -/
theorem supply_other : replacement.other.supply = replacement.node.supply := by
  unfold GraphNode.supply
  rw [replacement.id_eq, replacement.classType_eq]
  by_cases hprimitive : replacement.node.classType = primitiveClass
  · rw [if_pos hprimitive, if_pos hprimitive, replacement.first_eq hprimitive]
  · rw [if_neg hprimitive, if_neg hprimitive]

/-- A node sees the same in both workflows. -/
theorem siteIn_seesAlike (strict : Bool) (catalog : Catalog) (node : GraphNode) :
    ((graph.surroundings strict).siteIn catalog node).SeesAlike
      ((replacement.result.surroundings strict).siteIn catalog node) := by
  refine WorkflowGraph.siteIn_seesAlike strict catalog catalog node node rfl rfl
    (fun s _ _ => rfl) (map_node?_eq graph replacement.result GraphNode.supply (fun _ => rfl) ?_)
  rw [replacement.nodes_result, replacement.nodes_eq, List.map_append, List.map_append,
    List.map_cons, List.map_cons, replacement.supply_other]

theorem keptIds_result : keptIds replacement.result.nodes = keptIds graph.nodes := by
  refine keptIds_congr _ _ ?_
  rw [replacement.nodes_result, replacement.nodes_eq, List.map_append, List.map_append,
    List.map_cons, List.map_cons, replacement.id_eq, replacement.classType_eq]

/-- The last node kept with an id is the same in both workflows, or it is the node, and then
    the other one: the node has the id and is kept, and no later node with the id is. -/
theorem lastKept?_result (id : NodeId) :
    lastKept? replacement.result.nodes id = lastKept? graph.nodes id ∨
      (replacement.node.id = id ∧ isExcluded replacement.node.classType = false ∧
        ∀ later ∈ replacement.after, later.id = id → isExcluded later.classType = true) ∧
      lastKept? graph.nodes id = some replacement.node ∧
        lastKept? replacement.result.nodes id = some replacement.other := by
  rw [replacement.nodes_result, replacement.nodes_eq, lastKept?_split, lastKept?_split,
    replacement.id_eq, replacement.classType_eq]
  -- A later node with the id comes before the node, and an earlier one after it.
  cases hafter : lastKept? replacement.after id with
  | some later => exact Or.inl rfl
  | none =>
      rw [Option.none_or, Option.none_or]
      by_cases hhere : (!isExcluded replacement.node.classType &&
        decide (replacement.node.id = id)) = true
      · rw [if_pos hhere, if_pos hhere]
        rw [Bool.and_eq_true, Bool.not_eq_true', decide_eq_true_eq] at hhere
        exact Or.inr ⟨⟨hhere.2, hhere.1, (lastKept?_eq_none_iff _ id).mp hafter⟩, rfl, rfl⟩
      · rw [if_neg hhere, if_neg hhere]
        exact Or.inl rfl

end Replacement

/-- If a workflow compiles before and after a node of it is replaced, the prompts have the same
    ids in the same order, and the same entries under all ids but that of the node. -/
theorem compile_replacement (graph : WorkflowGraph) (replacement : graph.Replacement)
    (options : CompileOptions) (source source' : Source) (fetches fetches' : Nat)
    (hsource : source fetches = source' fetches') (prompt prompt' : CompiledPrompt)
    (h : (graph.compile options source fetches).run.result = .ok prompt)
    (h' : (replacement.result.compile options source' fetches').run.result = .ok prompt') :
    prompt.nodes.keys = prompt'.nodes.keys ∧
      ∀ id, id ≠ replacement.node.id → prompt.get? id = prompt'.get? id := by
  refine ⟨?_, fun id hid => ?_⟩
  · rw [compile_keys graph options source fetches prompt h,
      compile_keys _ options source' fetches' prompt' h', replacement.keptIds_result]
  · refine get?_eq_of_sameNode hsource h h' id ?_ fun catalog node _ =>
      (Site.compile_seesAlike (replacement.siteIn_seesAlike options.strictTypes catalog
        node)).toOption_eq
    -- The entry under another id is not that of the node.
    rcases replacement.lastKept?_result id with hsame | ⟨⟨hhere, -⟩, -, -⟩
    · exact hsame.symm
    · exact absurd hhere.symm hid

/-- A sampler whose seed is fed by a primitive node. -/
def dialed : WorkflowGraph where
  nodes := [⟨"1", primitiveClass, [], [], .sequence [jsonOfUInt64 5]⟩,
    ⟨"2", "Sampler", [.linked "seed" 7], [], .empty⟩]
  links := [⟨some 7, "1", 0, "2", 0⟩]

/-- The primitive node gets a socket and another value behind the first. -/
def dialedReplacement : dialed.Replacement where
  before := []
  node := ⟨"1", primitiveClass, [], [], .sequence [jsonOfUInt64 5]⟩
  after := [⟨"2", "Sampler", [.linked "seed" 7], [], .empty⟩]
  other := ⟨"1", primitiveClass, [.bound "value"], [],
    .sequence [jsonOfUInt64 5, jsonOfUInt64 30]⟩
  nodes_eq := rfl
  id_eq := rfl
  classType_eq := rfl
  first_eq := fun _ => rfl

/-- The entry of the sampler stays as it is. -/
theorem dialed_sampler_kept :
    ∃ prompt prompt' entry,
      (dialed.compile { strictTypes := false } (fun _ => .ok .empty) 0).run.result =
        .ok prompt ∧
      (dialedReplacement.result.compile { strictTypes := false } (fun _ => .ok .empty)
        0).run.result = .ok prompt' ∧
      prompt.get? "2" = some entry ∧ prompt'.get? "2" = some entry := by
  rcases dialed.compile_of_resolves { strictTypes := false } (fun _ => .ok .empty) 0 .empty
    (by decide) rfl rfl (by decide) with ⟨prompt, h⟩
  rcases dialedReplacement.result.compile_of_resolves { strictTypes := false }
    (fun _ => .ok .empty) 0 .empty (by decide) rfl rfl (by decide) with ⟨prompt', h'⟩
  rcases dialed.compile_replacement dialedReplacement { strictTypes := false }
    (fun _ => .ok .empty) (fun _ => .ok .empty) 0 0 rfl prompt prompt' h h' with
    ⟨-, hentries⟩
  rcases dialed.compile_ok _ _ _ prompt h with ⟨catalog, -, hfilled⟩
  rcases hfilled.exists_entry "2" ⟨"2", "Sampler", [.linked "seed" 7], [], .empty⟩ rfl with
    ⟨entry, hentry, -⟩
  exact ⟨prompt, prompt', entry, h, h', hentry, (hentries "2" (by decide)).symm.trans hentry⟩

end WorkflowGraph

end PromptGraph
