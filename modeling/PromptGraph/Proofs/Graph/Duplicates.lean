import PromptGraph.Proofs.Graph.References

/-!
# Nodes with the Same Id

What a prompt has under an id that several nodes of a workflow share.

There are two ways of choosing among them. A link is followed to the last node
with the id, whatever its class. The prompt is filled node by node, and a node of
an excluded class is passed over, so an entry is that of the last node with the
id that is not left out. The two agree as long as the last node of an id is kept,
or none is. If an excluded node comes after one that is kept, links lead to the
excluded node, but the entry of the other stays in the prompt.

## Main definitions

* `WorkflowGraph.LastWins`: The last node with an id decides about its entry.

## Theorems

* `lastKept?_of_kept`: The last node with an id is the last kept one if it is kept.
* `WorkflowGraph.compile_lastWins_iff`: When the last node decides.
* `WorkflowGraph.shared_note_not_lastWins`: It need not decide.
-/

namespace PromptGraph

/-- If the last node with an id is kept, it is the last one that is kept. -/
theorem lastKept?_of_kept (nodes : List GraphNode) (id : NodeId) (node : GraphNode)
    (hlast : nodes.reverse.find? (·.id = id) = some node)
    (hkept : isExcluded node.classType = false) : lastKept? nodes id = some node := by
  rcases List.find?_eq_some_iff_append.mp hlast with ⟨hid, after, before, hsplit, hafter⟩
  refine List.find?_eq_some_iff_append.mpr ⟨?_, after, before, hsplit, fun other hother => ?_⟩
  · rw [hkept, hid]
    rfl
  · -- A later node with the id would be the last one.
    have hother' := hafter other hother
    rw [Bool.not_eq_true'] at hother' ⊢
    rw [hother', Bool.and_false]

namespace WorkflowGraph

variable (graph : WorkflowGraph)

/-- A prompt has under an id what the last node with it, the given one, compiles to, and
    nothing if that node is left out. -/
def LastWins (strict : Bool) (catalog : Catalog) (prompt : CompiledPrompt) (id : NodeId)
    (node : GraphNode) : Prop :=
  if isExcluded node.classType then prompt.get? id = none
  else ∃ entry, prompt.get? id = some entry ∧
    ((graph.surroundings strict).siteIn catalog node).compile.result = .ok entry

/-- In a compile that succeeds, the last node with an id decides about its entry, unless
    that node is left out and an earlier one with the id is not. In any case the entry is
    what the last node compiles to that is not left out. -/
theorem compile_lastWins_iff (options : CompileOptions) (source : Source) (fetches : Nat)
    (prompt : CompiledPrompt)
    (h : (graph.compile options source fetches).run.result = .ok prompt) (id : NodeId)
    (node : GraphNode) (hnode : graph.node? id = some node) :
    ∃ catalog, source fetches = .ok catalog ∧
      (graph.LastWins options.strictTypes catalog prompt id node ↔
        (isExcluded node.classType = true →
          ∀ other ∈ graph.nodes, other.id = id → isExcluded other.classType = true)) ∧
      ∀ kept, graph.entryNode? id = some kept → ∃ entry, prompt.get? id = some entry ∧
        ((graph.surroundings options.strictTypes).siteIn catalog kept).compile.result =
          .ok entry := by
  rcases graph.compile_ok options source fetches prompt h with ⟨catalog, hfetch, hfilled⟩
  have hmem : node ∈ graph.nodes := List.mem_reverse.mp (List.mem_of_find?_eq_some hnode)
  refine ⟨catalog, hfetch (List.ne_nil_of_mem hmem), ?_, hfilled.exists_entry id⟩
  unfold LastWins
  cases hclass : isExcluded node.classType with
  | false =>
      -- The node is kept, so it is the one that the entry comes from.
      have hkept := lastKept?_of_kept graph.nodes id node hnode hclass
      simp only [Bool.false_eq_true, if_false, false_implies, iff_true]
      exact hfilled.exists_entry id node hkept
  | true =>
      simp only [if_true, true_implies]
      rw [← lastKept?_eq_none_iff, hfilled.2 id, Option.bind_eq_none_iff]
      constructor
      · intro hnone
        cases hkept : lastKept? graph.nodes id with
        | none => rfl
        | some kept =>
            -- A node that is kept would have left its entry.
            rcases hfilled.1 kept (mem_of_lastKept? _ id kept hkept) with ⟨entry, hentry⟩
            have hempty := hnone kept hkept
            rw [hentry] at hempty
            cases hempty
      · intro hnone kept hkept
        rw [hnone] at hkept
        cases hkept

/-- A node without sockets and values. -/
def bare (id : NodeId) (classType : String) : GraphNode := ⟨id, classType, [], [], .empty⟩

/-- A workflow in which a loader shares its id with a note before it and with a node of
    some class after it. -/
def shared (classType : String) : WorkflowGraph :=
  { nodes := [bare "1" "Note", bare "1" "Loader", bare "1" classType] }

/-- A sampler as the last node takes the place of the loader. -/
theorem shared_sampler_lastWins :
    ∃ prompt, ((shared "Sampler").compile {} (fun _ => .ok .empty) 0).run.result = .ok prompt ∧
      (shared "Sampler").LastWins true .empty prompt "1" (bare "1" "Sampler") ∧
      ∃ entry, prompt.get? "1" = some entry ∧ entry.classType = "Sampler" := by
  rcases compile_lastWins_iff (shared "Sampler") {} (fun _ => .ok .empty) 0 _ rfl "1"
    (bare "1" "Sampler") rfl with ⟨catalog, hfetch, hiff, -⟩
  cases hfetch
  have hlast := hiff.mpr fun hexcluded => absurd hexcluded (by decide)
  exact ⟨_, rfl, hlast, _, rfl, rfl⟩

/-- A note as the last node leaves the loader in the prompt, although the id now stands
    for the note. -/
theorem shared_note_not_lastWins :
    ∃ prompt, ((shared "Note").compile {} (fun _ => .ok .empty) 0).run.result = .ok prompt ∧
      (shared "Note").node? "1" = some (bare "1" "Note") ∧
      ¬(shared "Note").LastWins true .empty prompt "1" (bare "1" "Note") ∧
      ∃ entry, prompt.get? "1" = some entry ∧ entry.classType = "Loader" := by
  refine ⟨_, rfl, rfl, fun hlast => ?_, _, rfl, rfl⟩
  -- Nothing should be there, but the entry of the loader is.
  cases hlast

end WorkflowGraph

end PromptGraph
