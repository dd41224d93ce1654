import Mathlib.Data.List.Nodup
import PromptGraph.Proofs.Graph.Dangling
import PromptGraph.Proofs.Node.References

/-!
# The References of a Prompt

The references of a prompt are the links of its workflow, less those that start
at primitive nodes.

A linked socket looks up two tables. The first leads from its slot to the source
of the last link that leads there, the second from the id of that source to the
last node that has it. If that node is not primitive, the input is a reference;
otherwise it is a value. Nothing else in a compile makes references or touches
them, so they are independent of buffers, schemas and options.

A reference leads to a node of the workflow, which need not be in the prompt. Of
the excluded classes only the primitive one is taken out of the references: a
link that starts at a note becomes a reference to it, and the note is left out.

## Main definitions

* `WorkflowGraph.FedBy`: The node and slot that feed a slot.
* `WorkflowGraph.Refers`, `WorkflowGraph.FedByPrimitive`: What a linked socket
  leads to.
* `CompiledPrompt.Closed`: Every reference leads to a node of the prompt.

## Theorems

* `WorkflowGraph.compile_references`: The references of a prompt are exactly the
  links that do not start at primitive nodes.
* `WorkflowGraph.compile_reference_target`: Where a reference leads, and when that
  is in the prompt.
* `WorkflowGraph.not_closed_of_note`: A prompt need not be closed.
-/

namespace PromptGraph

/-- Every reference of a prompt leads to a node of the prompt. -/
def CompiledPrompt.Closed (prompt : CompiledPrompt) : Prop :=
  ∀ id entry, prompt.get? id = some entry → ∀ name src srcSlot,
    entry.inputs.get? name = some (.reference src srcSlot) → (prompt.get? src).isSome = true

namespace WorkflowGraph

/-- The last link to a slot of a node starts at a slot of the origin, and the
    origin is the last node with its id. -/
def FedBy (graph : WorkflowGraph) (node : GraphNode) (slot : Slot) (origin : GraphNode)
    (originSlot : Slot) : Prop :=
  sourceByScan? graph.links ⟨node.id, slot⟩ = some ⟨origin.id, originSlot⟩ ∧
    graph.node? origin.id = some origin

/-- A linked socket of a node leads to an output of a node that is not primitive. -/
def Refers (graph : WorkflowGraph) (node : GraphNode) (s : Slot × InputSocket) (src : NodeId)
    (srcSlot : Slot) : Prop :=
  s.2.isLinkBound = true ∧ ∃ origin, graph.FedBy node s.1 origin srcSlot ∧ origin.id = src ∧
    origin.classType ≠ primitiveClass

/-- A linked socket of a node leads to a primitive node. -/
def FedByPrimitive (graph : WorkflowGraph) (node : GraphNode) (s : Slot × InputSocket) : Prop :=
  s.2.isLinkBound = true ∧ ∃ origin originSlot, graph.FedBy node s.1 origin originSlot ∧
    origin.classType = primitiveClass

variable (graph : WorkflowGraph)

theorem id_of_node? (id : NodeId) (origin : GraphNode) (h : graph.node? id = some origin) :
    origin.id = id := by
  simpa using List.find?_some h

theorem source?_siteIn_iff (strict : Bool) (catalog : Catalog) (node : GraphNode) (slot : Slot)
    (origin : GraphNode) (originSlot : Slot) :
    ((graph.surroundings strict).siteIn catalog node).source? slot = some (origin, originSlot) ↔
      graph.FedBy node slot origin originSlot := by
  rw [source?_siteIn, Option.bind_eq_some_iff]
  simp only [Option.map_eq_some_iff, Prod.mk.injEq]
  constructor
  · -- The node found under an id has that id.
    rintro ⟨⟨src, srcSlot⟩, hscan, found, hfound, rfl, rfl⟩
    have hid := graph.id_of_node? src found hfound
    exact ⟨hid ▸ hscan, hid.symm ▸ hfound⟩
  · rintro ⟨hscan, hnode⟩
    exact ⟨⟨origin.id, originSlot⟩, hscan, origin, hnode, rfl, rfl⟩

theorem refers_siteIn (strict : Bool) (catalog : Catalog) (node : GraphNode)
    (s : Slot × InputSocket) (src : NodeId) (srcSlot : Slot) :
    ((graph.surroundings strict).siteIn catalog node).Refers s (.reference src srcSlot) ↔
      graph.Refers node s src srcSlot := by
  unfold Site.Refers Refers
  simp only [source?_siteIn_iff, ResolvedInput.reference.injEq]
  refine and_congr_right fun _ => ⟨?_, ?_⟩
  · rintro ⟨origin, originSlot, hfed, hclass, rfl, rfl⟩
    exact ⟨origin, hfed, rfl, hclass⟩
  · rintro ⟨origin, hfed, rfl, hclass⟩
    exact ⟨origin, srcSlot, hfed, hclass, rfl, rfl⟩

/-- What feeds a slot is determined, so no socket leads both to a primitive node
    and to another. -/
theorem not_refers_of_fedByPrimitive (node : GraphNode) (s : Slot × InputSocket)
    (hprimitive : graph.FedByPrimitive node s) (src : NodeId) (srcSlot : Slot) :
    ¬graph.Refers node s src srcSlot := by
  rcases hprimitive with ⟨-, origin, originSlot, ⟨hscan, hnode⟩, hclass⟩
  rintro ⟨-, other, ⟨hscan', hnode'⟩, -, hclass'⟩
  -- Both origins are read off the last link, so they are the same node.
  have hid : origin.id = other.id := by
    rw [hscan] at hscan'
    injection hscan' with hscan'
    injection hscan'
  rw [hid, hnode', Option.some.injEq] at hnode
  exact hclass' (hnode ▸ hclass)

/-- The step for a linked socket that leads to a primitive node makes no reference:
    those there are after it were there before. -/
theorem resolveSocket_of_fedByPrimitive (strict : Bool) (catalog : Catalog) (node : GraphNode)
    (s : Slot × InputSocket) (hprimitive : graph.FedByPrimitive node s) (r r' : Resolution)
    (h : (((graph.surroundings strict).siteIn catalog node).resolveSocket r s.1 s.2).result =
      .ok r') (name : String) (src : NodeId) (srcSlot : Slot)
    (hget : r'.inputs.get? name = some (.reference src srcSlot)) :
    r.inputs.get? name = some (.reference src srcSlot) := by
  rcases (Site.resolveSocket_sets _ s h).get?_eq_some name _ hget with
    hbefore | ⟨-, hvalue | hrefers⟩
  · exact hbefore
  · exact absurd hvalue (ResolvedInput.not_isValue_reference src srcSlot)
  · exact absurd ((graph.refers_siteIn strict catalog node s src srcSlot).mp hrefers)
      (graph.not_refers_of_fedByPrimitive node s hprimitive src srcSlot)

/-- Every reference of an entry is that of a linked socket of the name, of the node
    that the entry comes from. -/
theorem refers_of_reference (options : CompileOptions) (source : Source) (fetches : Nat)
    (prompt : CompiledPrompt)
    (h : (graph.compile options source fetches).run.result = .ok prompt) (id : NodeId)
    (entry : CompiledNode) (hentry : prompt.get? id = some entry) (name : String) (src : NodeId)
    (srcSlot : Slot) (hget : entry.inputs.get? name = some (.reference src srcSlot)) :
    ∃ node, graph.entryNode? id = some node ∧
      ∃ s ∈ node.slots, s.2.name = name ∧ graph.Refers node s src srcSlot := by
  rcases graph.compile_ok options source fetches prompt h with ⟨catalog, -, hfilled⟩
  rcases hfilled.get?_eq_some id entry hentry with ⟨node, hnode, hcompiled⟩
  rcases Site.compile_reference _ entry hcompiled name src srcSlot hget with
    ⟨s, hs, hname, hrefers⟩
  exact ⟨node, hnode, s, hs, hname, (graph.refers_siteIn _ catalog node s src srcSlot).mp hrefers⟩

/-- In an entry of a node whose sockets have distinct names, every linked socket
    that leads to a node that is not primitive has its reference. -/
theorem reference_of_refers (options : CompileOptions) (source : Source) (fetches : Nat)
    (prompt : CompiledPrompt)
    (h : (graph.compile options source fetches).run.result = .ok prompt) (id : NodeId)
    (node : GraphNode) (hnode : graph.entryNode? id = some node)
    (hdistinct : (node.inputs.map InputSocket.name).Nodup) (s : Slot × InputSocket)
    (hs : s ∈ node.slots) (src : NodeId) (srcSlot : Slot)
    (hrefers : graph.Refers node s src srcSlot) :
    ∃ entry, prompt.get? id = some entry ∧
      entry.inputs.get? s.2.name = some (.reference src srcSlot) := by
  rcases graph.compile_ok options source fetches prompt h with ⟨catalog, -, hfilled⟩
  rcases hfilled.exists_entry id node hnode with ⟨entry, hentry, hcompiled⟩
  have hsite := (graph.refers_siteIn options.strictTypes catalog node s src srcSlot).mpr hrefers
  exact ⟨entry, hentry,
    Site.compile_refers _ entry hcompiled (node.nodup_boundNames hdistinct) s hs _ hsite⟩

/-- The references of a prompt are exactly the links that do not start at primitive
    nodes. Each of them is that of a linked socket of its name; with distinct names
    each linked socket has its own; and a socket that leads to a primitive node
    makes none, whatever has been resolved before it. -/
theorem compile_references (options : CompileOptions) (source : Source) (fetches : Nat)
    (prompt : CompiledPrompt)
    (h : (graph.compile options source fetches).run.result = .ok prompt) (id : NodeId)
    (entry : CompiledNode) (hentry : prompt.get? id = some entry) :
    ∃ node, graph.entryNode? id = some node ∧
      (∀ name src srcSlot, entry.inputs.get? name = some (.reference src srcSlot) →
        ∃ s ∈ node.slots, s.2.name = name ∧ graph.Refers node s src srcSlot) ∧
      ((node.inputs.map InputSocket.name).Nodup → ∀ s ∈ node.slots, ∀ src srcSlot,
        graph.Refers node s src srcSlot →
          entry.inputs.get? s.2.name = some (.reference src srcSlot)) ∧
      ∀ s ∈ node.slots, graph.FedByPrimitive node s →
        (∀ catalog r r', (((graph.surroundings options.strictTypes).siteIn catalog
            node).resolveSocket r s.1 s.2).result = .ok r' → ∀ name src srcSlot,
          r'.inputs.get? name = some (.reference src srcSlot) →
            r.inputs.get? name = some (.reference src srcSlot)) ∧
        ((node.inputs.map InputSocket.name).Nodup → ∀ src srcSlot,
          entry.inputs.get? s.2.name ≠ some (.reference src srcSlot)) := by
  rcases graph.compile_ok options source fetches prompt h with ⟨catalog, -, hfilled⟩
  rcases hfilled.get?_eq_some id entry hentry with ⟨node, hnode, -⟩
  -- The node that a reference comes from is the one of the entry.
  have hsound : ∀ name src srcSlot, entry.inputs.get? name = some (.reference src srcSlot) →
      ∃ s ∈ node.slots, s.2.name = name ∧ graph.Refers node s src srcSlot := by
    intro name src srcSlot hget
    rcases graph.refers_of_reference options source fetches prompt h id entry hentry name src
      srcSlot hget with ⟨node', hnode', hsocket⟩
    cases hnode.symm.trans hnode'
    exact hsocket
  refine ⟨node, hnode, hsound, fun hdistinct s hs src srcSlot hrefers => ?_,
    fun s hs hprimitive => ⟨?_, fun hdistinct src srcSlot hget => ?_⟩⟩
  · rcases graph.reference_of_refers options source fetches prompt h id node hnode hdistinct s hs
      src srcSlot hrefers with ⟨entry', hentry', hget⟩
    cases hentry.symm.trans hentry'
    exact hget
  · intro catalog r r' hstep name src srcSlot
    exact graph.resolveSocket_of_fedByPrimitive _ catalog node s hprimitive r r' hstep name src
      srcSlot
  · -- The socket that the reference would come from is this one.
    rcases hsound s.2.name src srcSlot hget with ⟨t, ht, hname, hrefers⟩
    rw [← GraphNode.map_name_slots] at hdistinct
    have hsame : t = s := List.inj_on_of_nodup_map hdistinct ht hs hname
    exact graph.not_refers_of_fedByPrimitive node s hprimitive src srcSlot (hsame ▸ hrefers)

/-- A sampler that is fed by a loader, by a primitive node and by a note. -/
def annotatedSampler : GraphNode :=
  ⟨"4", "KSampler", [.linked "model" 1, .linked "seed" 2, .linked "text" 3], [], .empty⟩

/-- The workflow of the sampler and its sources. -/
def annotated : WorkflowGraph :=
  { nodes := [⟨"1", "Loader", [], [], .empty⟩, ⟨"2", primitiveClass, [], [], .empty⟩,
      ⟨"3", "Note", [], [], .empty⟩, annotatedSampler]
    links := [⟨some 1, "1", 0, "4", 0⟩, ⟨some 2, "2", 0, "4", 1⟩, ⟨some 3, "3", 0, "4", 2⟩] }

/-- It compiles, with an entry for the sampler in which the link from the note is a
    reference. -/
theorem annotated_entry :
    ∃ prompt entry,
      (annotated.compile { strictTypes := false } (fun _ => .ok .empty) 0).run.result =
        .ok prompt ∧
      prompt.get? "4" = some entry ∧ entry.inputs.get? "text" = some (.reference "3" 0) := by
  rcases annotated.compile_of_resolves { strictTypes := false } (fun _ => .ok .empty) 0 .empty
    (by decide) rfl rfl (by decide) with ⟨prompt, hprompt⟩
  have hrefers : annotated.Refers annotatedSampler (2, .linked "text" 3) "3" 0 :=
    ⟨rfl, ⟨"3", "Note", [], [], .empty⟩, ⟨rfl, rfl⟩, rfl, by decide⟩
  rcases annotated.reference_of_refers _ _ _ prompt hprompt "4" annotatedSampler rfl (by decide)
    _ (by decide) "3" 0 hrefers with ⟨entry, hentry, hget⟩
  exact ⟨prompt, entry, hprompt, hentry, hget⟩

/-- Its sampler refers to the loader, and not to the primitive node. -/
theorem annotated_references :
    ∃ prompt entry,
      (annotated.compile { strictTypes := false } (fun _ => .ok .empty) 0).run.result =
        .ok prompt ∧ prompt.get? "4" = some entry ∧
      entry.inputs.get? "model" = some (.reference "1" 0) ∧
      ∀ src srcSlot, entry.inputs.get? "seed" ≠ some (.reference src srcSlot) := by
  rcases annotated_entry with ⟨prompt, entry, hprompt, hentry, -⟩
  rcases annotated.compile_references _ _ _ prompt hprompt "4" entry hentry with
    ⟨node, hnode, -, hcomplete, hprimitive⟩
  have hnode' : annotatedSampler = node := Option.some.inj hnode
  subst hnode'
  have hmodel := hcomplete (by decide) (0, .linked "model" 1) (by decide) "1" 0
    ⟨rfl, ⟨"1", "Loader", [], [], .empty⟩, ⟨rfl, rfl⟩, rfl, by decide⟩
  have hseed := (hprimitive (1, .linked "seed" 2) (by decide)
    ⟨rfl, ⟨"2", primitiveClass, [], [], .empty⟩, 0, ⟨rfl, rfl⟩, rfl⟩).2 (by decide)
  exact ⟨prompt, entry, hprompt, hentry, hmodel, hseed⟩

/-- A reference leads to a node of the workflow, the last with its id, which is not
    primitive. Its id is in the prompt exactly when some node with it is not left
    out; if it is not there, the reference leads to a note. -/
theorem compile_reference_target (options : CompileOptions) (source : Source) (fetches : Nat)
    (prompt : CompiledPrompt)
    (h : (graph.compile options source fetches).run.result = .ok prompt) (id : NodeId)
    (entry : CompiledNode) (hentry : prompt.get? id = some entry) (name : String) (src : NodeId)
    (srcSlot : Slot) (hget : entry.inputs.get? name = some (.reference src srcSlot)) :
    ∃ origin, graph.node? src = some origin ∧ origin.classType ≠ primitiveClass ∧
      ((prompt.get? src).isSome = true ↔
        ∃ node ∈ graph.nodes, node.id = src ∧ isExcluded node.classType = false) ∧
      (prompt.get? src = none →
        origin.classType = "Note" ∨ origin.classType = "MarkdownNote") := by
  rcases graph.refers_of_reference options source fetches prompt h id entry hentry name src srcSlot
    hget with ⟨node, -, s, -, -, -, origin, ⟨-, hnode⟩, rfl, hclass⟩
  rcases graph.compile_ok options source fetches prompt h with ⟨catalog, -, hfilled⟩
  refine ⟨origin, hnode, hclass, hfilled.isSome_get?_iff origin.id, fun hnone => ?_⟩
  have hmem : origin ∈ graph.nodes := List.mem_reverse.mp (List.mem_of_find?_eq_some hnode)
  -- If the origin were kept, its id would be in the prompt.
  have hexcluded : isExcluded origin.classType = true := by
    cases hkept : isExcluded origin.classType with
    | true => rfl
    | false =>
        have hsome := (hfilled.isSome_get?_iff origin.id).mpr ⟨origin, hmem, rfl, hkept⟩
        rw [hnone] at hsome
        cases hsome
  rw [isExcluded, excludedClasses, List.contains_iff_mem] at hexcluded
  simpa only [List.mem_cons, hclass, false_or, List.not_mem_nil, or_false] using hexcluded

/-- The reference of the sampler to the note leads to a node of the workflow. -/
theorem annotated_reference_target :
    ∃ prompt,
      (annotated.compile { strictTypes := false } (fun _ => .ok .empty) 0).run.result =
        .ok prompt ∧
      ∃ origin, annotated.node? "3" = some origin ∧ origin.classType ≠ primitiveClass ∧
        ((prompt.get? "3").isSome = true ↔
          ∃ node ∈ annotated.nodes, node.id = "3" ∧ isExcluded node.classType = false) ∧
        (prompt.get? "3" = none →
          origin.classType = "Note" ∨ origin.classType = "MarkdownNote") := by
  rcases annotated_entry with ⟨prompt, entry, hprompt, hentry, hget⟩
  exact ⟨prompt, hprompt, annotated.compile_reference_target _ _ _ prompt hprompt "4" entry hentry
    "text" "3" 0 hget⟩

/-- Not every prompt is closed: the note that the sampler refers to is left out. -/
theorem not_closed_of_note :
    ¬∀ (graph : WorkflowGraph) (options : CompileOptions) (source : Source) (fetches : Nat)
      (prompt : CompiledPrompt),
      (graph.compile options source fetches).run.result = .ok prompt → prompt.Closed := by
  intro hclosed
  rcases annotated_entry with ⟨prompt, entry, hprompt, hentry, hget⟩
  -- The reference of the sampler would have to lead into the prompt.
  have hin := hclosed annotated _ _ _ prompt hprompt "4" entry hentry "text" "3" 0 hget
  rcases annotated.compile_ok _ _ _ prompt hprompt with ⟨catalog, -, hfilled⟩
  have hkept := (hfilled.isSome_get?_iff "3").mp hin
  exact absurd hkept (by decide)

end WorkflowGraph

end PromptGraph
