import Mathlib.Data.List.Find
import PromptGraph.Proofs.Graph.References
import PromptGraph.Proofs.Graph.Supply

/-!
# The Order of Nodes

What becomes of a prompt if the nodes of a workflow are put into another order,
no two of them having the same id.

The nodes are compiled one after the other, but none of them is looked at through
its place. A link leads to the only node with an id, whether that comes before or
after, so each node sees the same in both orders. The compile succeeds if all
nodes compile, and this does not depend on which is first; the error of a compile
that fails may, for it is that of the first node that does.

The ids are what the order can be seen by. A prompt has them in the order of the
nodes, less those that are left out.

## Theorems

* `WorkflowGraph.node?_withNodes`: Looking up a node in another order.
* `WorkflowGraph.compile_withNodes`: A node is compiled alike in both orders.
* `lastKept?_perm`: An entry is that of the same node in both orders.
* `keptIds_of_nodup`: The kept ids of nodes with distinct ids.
* `WorkflowGraph.compile_perm`: The order of nodes decides about the order of the
  prompt and nothing else.
-/

namespace PromptGraph

/-- Nothing is erased from a list without repetitions. -/
theorem eraseDups_of_nodup {α : Type} [BEq α] [LawfulBEq α] (items : List α) (h : items.Nodup) :
    items.eraseDups = items := by
  induction items with
  | nil => rfl
  | cons a rest ih =>
      rcases List.nodup_cons.mp h with ⟨ha, hrest⟩
      have hothers : rest.filter (fun b => !b == a) = rest := by
        refine List.filter_eq_self.mpr fun b hb => ?_
        rw [Bool.not_eq_true', beq_eq_false_iff_ne]
        rintro rfl
        exact ha hb
      rw [List.eraseDups_cons, hothers, ih hrest]

/-- Nodes with distinct ids that are kept have all their ids kept, in their order. -/
theorem keptIds_of_nodup (nodes : List GraphNode) (h : (nodes.map GraphNode.id).Nodup) :
    keptIds nodes = (nodes.filter fun node => !isExcluded node.classType).map GraphNode.id :=
  eraseDups_of_nodup _ (h.sublist (List.filter_sublist.map _))

section Perm

variable {nodes nodes' : List GraphNode} (hperm : nodes.Perm nodes')
  (hdistinct : (nodes.map GraphNode.id).Nodup)
include hperm hdistinct

/-- A search from the end for a node with an id finds the same in another order. -/
theorem find?_reverse_perm (p : GraphNode → Bool) (id : NodeId)
    (hid : ∀ node, p node = true → node.id = id) :
    nodes.reverse.find? p = nodes'.reverse.find? p := by
  have hreverse : nodes.reverse.Perm nodes'.reverse :=
    (List.reverse_perm nodes).trans (hperm.trans (List.reverse_perm nodes').symm)
  -- There is at most one node with the id.
  refine List.find?_eq_find?_of_perm hreverse fun node hnode other hother => ?_
  exact List.inj_on_of_nodup_map hdistinct (List.mem_reverse.mp hnode.1)
    (List.mem_reverse.mp hother.1) ((hid node hnode.2).trans (hid other hother.2).symm)

theorem lastKept?_perm (id : NodeId) : lastKept? nodes id = lastKept? nodes' id := by
  refine find?_reverse_perm hperm hdistinct _ id fun node hnode => ?_
  rw [Bool.and_eq_true, decide_eq_true_eq] at hnode
  exact hnode.2

end Perm

namespace WorkflowGraph

variable (graph : WorkflowGraph) (nodes : List GraphNode) (hperm : graph.nodes.Perm nodes)
  (hdistinct : (graph.nodes.map GraphNode.id).Nodup)
include hperm hdistinct

theorem node?_withNodes (id : NodeId) : (graph.withNodes nodes).node? id = graph.node? id :=
  (find?_reverse_perm hperm hdistinct _ id fun _ hnode => of_decide_eq_true hnode).symm

/-- A node is compiled alike in both orders. -/
theorem compile_withNodes (strict : Bool) (catalog : Catalog) (node : GraphNode) :
    EndAlike CompileError.SameButLink Eq
      ((graph.surroundings strict).siteIn catalog node).compile.result
      (((graph.withNodes nodes).surroundings strict).siteIn catalog node).compile.result := by
  refine Site.compile_seesAlike (siteIn_seesAlike strict catalog catalog node node rfl
    rfl (fun s _ _ => rfl) fun id => ?_)
  rw [node?_withNodes graph nodes hperm hdistinct]

/-- With its nodes in another order a workflow compiles if it did before, and the other way
    round. The two prompts have the same entries, and each has its ids in the order of the
    nodes that it is made from. -/
theorem compile_perm (options : CompileOptions) (source source' : Source) (fetches fetches' : Nat)
    (hsource : source fetches = source' fetches') :
    ((∃ prompt, (graph.compile options source fetches).run.result = .ok prompt) ↔
      ∃ prompt, ((graph.withNodes nodes).compile options source' fetches').run.result =
        .ok prompt) ∧
    ∀ prompt prompt', (graph.compile options source fetches).run.result = .ok prompt →
      ((graph.withNodes nodes).compile options source' fetches').run.result = .ok prompt' →
        (∀ id, prompt.get? id = prompt'.get? id) ∧
        prompt.nodes.keys =
          (graph.nodes.filter fun node => !isExcluded node.classType).map GraphNode.id ∧
        prompt'.nodes.keys =
          (nodes.filter fun node => !isExcluded node.classType).map GraphNode.id := by
  have hnode := graph.compile_withNodes nodes hperm hdistinct options.strictTypes
  constructor
  · rw [exists_prompt_iff, exists_prompt_iff, hsource]
    have hnodes : (graph.withNodes nodes).nodes = nodes := rfl
    have hempty : graph.nodes = [] ↔ nodes = [] :=
      ⟨fun h => (h ▸ hperm).nil_eq.symm, fun h => (h ▸ hperm).eq_nil⟩
    -- That all nodes compile is said without their order.
    simp only [hnodes, ne_eq, hempty, hperm.mem_iff, (hnode _ _).ok_iff]
  · intro prompt prompt' h h'
    refine ⟨fun id => ?_, ?_, ?_⟩
    · exact get?_eq_of_sameNode hsource h h' id (lastKept?_perm hperm hdistinct id)
        fun catalog node _ => (hnode catalog node).toOption_eq
    · rw [graph.compile_keys options source fetches prompt h, keptIds_of_nodup _ hdistinct]
    · rw [compile_keys _ options source' fetches' prompt' h']
      exact keptIds_of_nodup nodes ((hperm.map _).nodup_iff.mp hdistinct)

omit hperm hdistinct

/-- With the nodes of the workflow in reverse order the sampler comes before its sources. It
    has the same entry, and its id is the first. -/
theorem annotated_reversed :
    ∃ prompt prompt',
      (annotated.compile { strictTypes := false } (fun _ => .ok .empty) 0).run.result =
        .ok prompt ∧
      ((annotated.withNodes annotated.nodes.reverse).compile { strictTypes := false }
        (fun _ => .ok .empty) 0).run.result = .ok prompt' ∧
      prompt.get? "4" = prompt'.get? "4" ∧ prompt.nodes.keys = ["1", "4"] ∧
      prompt'.nodes.keys = ["4", "1"] := by
  rcases annotated_entry with ⟨prompt, -, h, -⟩
  rcases annotated.compile_perm annotated.nodes.reverse (List.reverse_perm _).symm (by decide)
    { strictTypes := false } (fun _ => .ok .empty) (fun _ => .ok .empty) 0 0 rfl with
    ⟨hiff, hsame⟩
  rcases hiff.mp ⟨prompt, h⟩ with ⟨prompt', h'⟩
  rcases hsame prompt prompt' h h' with ⟨hentries, hkeys, hkeys'⟩
  exact ⟨prompt, prompt', h, h', hentries "4", hkeys, hkeys'⟩

end WorkflowGraph

end PromptGraph
