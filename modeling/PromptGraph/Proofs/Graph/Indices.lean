import Mathlib.Data.List.Induction
import PromptGraph.Compile.Graph
import PromptGraph.Proofs.Tables

/-!
# The Indices of a Compile

A compile looks for links and nodes in two indices, which it makes of the workflow beforehand.
What it finds there is what it would find by going through the workflow from the end.

The index of links has a node and a slot for its key, as a pair. So only links to this slot of this
node count, whatever characters the id of the node is written with, and of these the last one does.
A slot to which several links lead takes one place in the index, so its size is the number of slots
that links lead to, each counted once.

The index of nodes has the id for its key, and is otherwise the same.

## Theorems

* `LinkIndex.source?_eq_some_iff`, `LinkIndex.source?_eq_none_iff`: Which link feeds a slot.
* `LinkIndex.mem_sources_iff`: The slots that the index has.
* `LinkIndex.size_ofLinks`: How many they are.
* `WorkflowGraph.indices_eq_scans`: The indices give what searches from the end give.
* `WorkflowGraph.crossed_slots`: A slot that two links lead to, and one that no link leads to.
-/

namespace PromptGraph

namespace LinkIndex

variable (links : List Link) (target source : Endpoint)

/-- A slot is fed by a link that leads to it and has no such link behind it. -/
theorem source?_eq_some_iff :
    (ofLinks links).source? target = some source ↔
      ∃ before link after, links = before ++ link :: after ∧ link.target = target ∧
        link.source = source ∧ ∀ later ∈ after, later.target ≠ target := by
  rw [source?_ofLinks, sourceByScan?, Option.map_eq_some_iff]
  simp only [find?_reverse_eq_some_iff, decide_eq_true_eq, decide_eq_false_iff_not]
  constructor
  · rintro ⟨link, ⟨before, after, hsplit, htarget, hlater⟩, hsource⟩
    exact ⟨before, link, after, hsplit, htarget, hsource, hlater⟩
  · rintro ⟨before, link, after, hsplit, htarget, hsource, hlater⟩
    exact ⟨link, ⟨before, after, hsplit, htarget, hlater⟩, hsource⟩

theorem source?_eq_none_iff :
    (ofLinks links).source? target = none ↔ ∀ link ∈ links, link.target ≠ target := by
  rw [source?_ofLinks, sourceByScan?, Option.map_eq_none_iff, List.find?_eq_none]
  simp only [List.mem_reverse, decide_eq_true_eq, ne_eq]

/-- The index has the slots that links lead to. -/
theorem mem_sources_iff :
    target ∈ (ofLinks links).sources ↔ ∃ link ∈ links, link.target = target := by
  have hnone : (ofLinks links).sources[target]? = none ↔ ∀ link ∈ links, link.target ≠ target :=
    source?_eq_none_iff links target
  rw [Std.HashMap.mem_iff_isSome_getElem?, Option.isSome_iff_ne_none, Ne, hnone]
  simp only [ne_eq, not_forall, not_not, exists_prop]

theorem sources_snoc (link : Link) :
    (ofLinks (links ++ [link])).sources =
      (ofLinks links).sources.insert link.target link.source := by
  unfold ofLinks
  rw [List.foldl_append]
  rfl

/-- The size of the index is the number of slots that links lead to, without repetitions. -/
theorem size_ofLinks : (ofLinks links).size = (links.map Link.target).eraseDups.length := by
  induction links using List.reverseRecOn with
  | nil => rfl
  | append_singleton links link ih =>
      unfold size at ih ⊢
      rw [sources_snoc, Std.HashMap.size_insert, List.map_append, List.map_singleton,
        eraseDups_snoc, ih]
      -- The last link adds a slot unless another link led there before.
      by_cases hmem : ∃ earlier ∈ links, earlier.target = link.target
      · rw [if_pos ((mem_sources_iff links link.target).mpr hmem), if_pos (List.mem_map.mpr hmem)]
      · rw [if_neg (mt (mem_sources_iff links link.target).mp hmem),
          if_neg (mt List.mem_map.mp hmem), List.length_append, List.length_singleton]

end LinkIndex

namespace WorkflowGraph

/-- The index of any links gives for a slot of a node the source of the last link that leads there,
    and nothing if no link does, as a search through the links from the end. It has one entry for
    each slot that links lead to. And the index of nodes that a compile makes of a workflow gives
    for any id the node that the workflow has under it. -/
theorem indices_eq_scans :
    (∀ links id slot,
      (∀ source, (LinkIndex.ofLinks links).source? ⟨id, slot⟩ = some source ↔
        ∃ before link after, links = before ++ link :: after ∧ link.target = ⟨id, slot⟩ ∧
          link.source = source ∧ ∀ later ∈ after, later.target ≠ ⟨id, slot⟩) ∧
      ((LinkIndex.ofLinks links).source? ⟨id, slot⟩ = none ↔
        ∀ link ∈ links, link.target ≠ ⟨id, slot⟩) ∧
      (LinkIndex.ofLinks links).source? ⟨id, slot⟩ = sourceByScan? links ⟨id, slot⟩) ∧
    (∀ links, (LinkIndex.ofLinks links).size = (links.map Link.target).eraseDups.length) ∧
    ∀ (graph : WorkflowGraph) strict id,
      (graph.surroundings strict).nodes.node? id = graph.node? id := by
  refine ⟨fun links id slot => ⟨fun source => ?_, ?_, ?_⟩, LinkIndex.size_ofLinks,
    fun graph strict id => NodeIndex.node?_ofNodes graph.nodes id⟩
  · exact LinkIndex.source?_eq_some_iff links ⟨id, slot⟩ source
  · exact LinkIndex.source?_eq_none_iff links ⟨id, slot⟩
  · exact LinkIndex.source?_ofLinks links ⟨id, slot⟩

/-- Two links to one slot of a node whose id has a colon, and one to a slot of another node. -/
def crossed : List Link := [
  { src := "1", srcSlot := 0, dst := "a:1", dstSlot := 0 },
  { src := "2", srcSlot := 3, dst := "a:1", dstSlot := 0 },
  { src := "3", srcSlot := 1, dst := "a", dstSlot := 10 }]

/-- The second of the two links counts, and the other node has nothing on the slot that the id with
    the colon might be taken for. -/
theorem crossed_slots :
    (LinkIndex.ofLinks crossed).source? ⟨"a:1", 0⟩ = some ⟨"2", 3⟩ ∧
    (LinkIndex.ofLinks crossed).source? ⟨"a", 1⟩ = none ∧
    (LinkIndex.ofLinks crossed).size = 2 := by
  rcases indices_eq_scans with ⟨hlinks, hsize, -⟩
  refine ⟨?_, ?_, ?_⟩
  · refine ((hlinks crossed "a:1" 0).1 ⟨"2", 3⟩).mpr ?_
    exact ⟨[⟨none, "1", 0, "a:1", 0⟩], ⟨none, "2", 3, "a:1", 0⟩, [⟨none, "3", 1, "a", 10⟩], rfl,
      rfl, rfl, by decide⟩
  · exact (hlinks crossed "a" 1).2.1.mpr (by decide)
  · rw [hsize]
    decide

end WorkflowGraph

end PromptGraph
