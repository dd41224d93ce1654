import PromptGraph.Proofs.Graph.Run
import PromptGraph.Proofs.Node.Dangling

/-!
# Dangling Links of a Workflow

When a lenient compile of a workflow fails, and with which error.

A lenient node fails exactly at its first linked socket without a source, and
what a socket's source is can be read off the workflow: some link leads to its
slot, and the last that does starts at a node that is there. The run over the
nodes fails at the first node that does, so the error of a compile is about the
first such socket in the order of the nodes and then of their sockets. Excluded
nodes are no exception, for they are compiled before they are left out.

## Main definitions

* `WorkflowGraph.Resolves`: A socket that is fed by a link has a source in the
  workflow.
* `WorkflowGraph.FirstDangling`: An error is about the first socket without one.

## Theorems

* `WorkflowGraph.resolves_siteIn`: Having a source at a site is having one in the
  workflow.
* `WorkflowGraph.compile_of_resolves`: A workflow without dangling links compiles
  leniently.
* `WorkflowGraph.compile_lenient_iff`: When a lenient compile succeeds, and the
  error if it does not.
-/

namespace PromptGraph

namespace Surroundings

variable (around : Surroundings) (catalog : Catalog)

/-- A run over nodes that fails does so at the first node with a dangling link. -/
theorem foldlM_compileNode_error (nodes : List GraphNode) (progress : Progress)
    (error : CompileError)
    (h : nodes.foldlM (fun progress node =>
      (compileNode around progress node (catalog.get? node.classType)).result) progress =
        .error error) :
    ∃ before node after, nodes = before ++ node :: after ∧
      (∀ n ∈ before, ∀ s ∈ n.slots, (around.siteIn catalog n).Resolves s) ∧
      (around.siteIn catalog node).compile.result = .error error := by
  rcases foldlM_error_split nodes progress error h with
    ⟨before, node, after, m, hsplit, hbefore, hfail⟩
  refine ⟨before, node, after, hsplit, fun n hn => ?_, ?_⟩
  · rcases foldlM_ok_at _ before n hn progress m hbefore with ⟨a, b, hstep⟩
    rw [result_compileNode, bind_eq_ok] at hstep
    rcases hstep with ⟨compiled, hcompiled, -⟩
    exact (around.siteIn catalog n).resolves_of_compile compiled hcompiled
  · exact (compileNode_error _ _ _ _ error).mp hfail

end Surroundings

namespace WorkflowGraph

/-- A socket of a node that is fed by a link has a source: some link leads to its
    slot, and the last one that does starts at a node of the workflow. -/
def Resolves (graph : WorkflowGraph) (node : GraphNode) (s : Slot × InputSocket) : Prop :=
  s.2.isLinkBound = true →
    ∃ link, graph.links.reverse.find? (·.target = ⟨node.id, s.1⟩) = some link ∧
      ∃ origin ∈ graph.nodes, origin.id = link.src

theorem resolves_iff (graph : WorkflowGraph) (node : GraphNode) (s : Slot × InputSocket) :
    graph.Resolves node s ↔ (s.2.isLinkBound = true →
      (graph.links.reverse.find? (·.target = ⟨node.id, s.1⟩)).any
        (fun link => graph.nodes.any (·.id = link.src)) = true) := by
  unfold Resolves
  simp only [Option.any_eq_true, List.any_eq_true, decide_eq_true_eq]

instance (graph : WorkflowGraph) (node : GraphNode) (s : Slot × InputSocket) :
    Decidable (graph.Resolves node s) :=
  decidable_of_iff' _ (graph.resolves_iff node s)

/-- An error is about the first socket of a workflow that has no source, in the
    order of the nodes and then of their sockets. -/
def FirstDangling (graph : WorkflowGraph) (error : CompileError) : Prop :=
  ∃ before node after, graph.nodes = before ++ node :: after ∧
    (∀ n ∈ before, ∀ s ∈ n.slots, graph.Resolves n s) ∧
    ∃ front s back, node.slots = front ++ s :: back ∧
      (∀ t ∈ front, graph.Resolves node t) ∧ ¬graph.Resolves node s ∧
      error = .linkDangling node.id node.classType s.2.name s.1 s.2.link

variable (graph : WorkflowGraph)

theorem isSome_node?_iff (id : NodeId) :
    (graph.node? id).isSome = true ↔ ∃ origin ∈ graph.nodes, origin.id = id := by
  unfold node?
  simp only [List.find?_isSome, List.mem_reverse, decide_eq_true_eq]

theorem resolves_siteIn (strict : Bool) (catalog : Catalog) (node : GraphNode)
    (s : Slot × InputSocket) :
    ((graph.surroundings strict).siteIn catalog node).Resolves s ↔ graph.Resolves node s := by
  unfold Site.Resolves Resolves
  rw [source?_siteIn]
  unfold sourceByScan?
  cases graph.links.reverse.find? (·.target = ⟨node.id, s.1⟩) with
  | none => simp only [Option.map_none, Option.bind_none, reduceCtorEq, false_and, exists_false,
      Option.isSome_none, Bool.false_eq_true]
  | some link =>
      simp only [Option.map_some, Option.bind_some, Option.isSome_map, isSome_node?_iff,
        Link.source, Option.some.injEq, exists_eq_left']

section Lenient

variable (options : CompileOptions) (source : Source) (fetches : Nat) (catalog : Catalog)
  (hvalid : options.valid = true) (hlenient : options.strictTypes = false)
  (hfetch : source fetches = .ok catalog)
include hvalid hlenient hfetch

theorem compile_of_resolves (h : ∀ node ∈ graph.nodes, ∀ s ∈ node.slots, graph.Resolves node s) :
    ∃ prompt, (graph.compile options source fetches).run.result = .ok prompt := by
  refine graph.compile_of_nodes options source fetches catalog hvalid hfetch fun node hnode => ?_
  exact Site.compile_lenient _ hlenient fun s hs =>
    (graph.resolves_siteIn _ catalog node s).mpr (h node hnode s hs)

/-- The error of a lenient compile is about the first socket without a source. -/
theorem firstDangling_of_error (error : CompileError)
    (h : (graph.compile options source fetches).run.result = .error error) :
    graph.FirstDangling error := by
  rw [graph.result_compile_of_fetch options source fetches catalog hvalid hfetch,
    bind_eq_error] at h
  rcases h with hrun | ⟨progress, -, hprompt⟩
  · rcases Surroundings.foldlM_compileNode_error _ catalog _ _ error hrun with
      ⟨before, node, after, hsplit, hbefore, hfail⟩
    rcases Site.compile_lenient_error _ hlenient error hfail with
      ⟨front, s, back, hslots, hfront, hnot, herror⟩
    -- What the two splits say of sites is now said of the workflow.
    refine ⟨before, node, after, hsplit, fun n hn s hs => ?_, front, s, back, hslots,
      fun t ht => ?_, ?_, herror⟩
    · exact (graph.resolves_siteIn _ catalog n s).mp (hbefore n hn s hs)
    · exact (graph.resolves_siteIn _ catalog node t).mp (hfront t ht)
    · exact fun hs => hnot ((graph.resolves_siteIn _ catalog node s).mpr hs)
  · cases hprompt

end Lenient

/-- A lenient compile against a catalog that is served succeeds exactly when every
    linked socket of every node has a source, and the error of one that fails is
    about the first that has none. -/
theorem compile_lenient_iff (options : CompileOptions) (source : Source) (fetches : Nat)
    (catalog : Catalog) (hvalid : options.valid = true) (hlenient : options.strictTypes = false)
    (hfetch : source fetches = .ok catalog) :
    ((∃ prompt, (graph.compile options source fetches).run.result = .ok prompt) ↔
      ∀ node ∈ graph.nodes, ∀ s ∈ node.slots, graph.Resolves node s) ∧
    ∀ error, (graph.compile options source fetches).run.result = .error error →
      graph.FirstDangling error := by
  refine ⟨⟨?_, graph.compile_of_resolves options source fetches catalog hvalid hlenient hfetch⟩,
    graph.firstDangling_of_error options source fetches catalog hvalid hlenient hfetch⟩
  rintro ⟨prompt, hprompt⟩ node hnode s hs
  -- Every node of a compile that succeeds compiles, whichever catalog it was.
  rcases graph.compile_ok options source fetches prompt hprompt with ⟨served, -, hfilled⟩
  rcases hfilled.1 node hnode with ⟨compiled, hcompiled⟩
  exact (graph.resolves_siteIn _ served node s).mp
    (Site.resolves_of_compile _ compiled hcompiled s hs)

/-- A workflow whose only link starts at a node that is not there. -/
def severed : WorkflowGraph :=
  { nodes := [⟨"4", "KSampler", [.linked "model" 1], [], .empty⟩]
    links := [⟨some 1, "9", 0, "4", 0⟩] }

/-- A lenient compile of it fails, with an error about the socket of that link. -/
theorem compile_severed :
    (¬∃ prompt, (severed.compile { strictTypes := false } (fun _ => .ok .empty) 0).run.result =
        .ok prompt) ∧
    ∀ error, (severed.compile { strictTypes := false } (fun _ => .ok .empty) 0).run.result =
      .error error → severed.FirstDangling error := by
  have hiff := compile_lenient_iff severed { strictTypes := false } (fun _ => .ok .empty) 0 .empty
    (by decide) rfl rfl
  have hdangling : ¬∀ node ∈ severed.nodes, ∀ s ∈ node.slots, severed.Resolves node s := by decide
  exact ⟨fun hprompt => hdangling (hiff.1.mp hprompt), hiff.2⟩

end WorkflowGraph

end PromptGraph
