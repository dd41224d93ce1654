import PromptGraph.Proofs.Graph.Isolation
import PromptGraph.Proofs.Graph.References
import PromptGraph.Proofs.Node.Conversion

/-!
# Converting a Socket to a Link

What becomes of a prompt if a socket of one node that took a stored value is fed
by a link instead.

The links of the workflow are not changed by this: a link to the slot of the
socket is there already, and setting the link of the socket turns it on. If it
leads to a node, and not to a primitive node without a value, and the input is a
declared scalar, then the compile succeeds as before, the prompt has the same ids
in the same order, and all that may differ is this one input.

Other nodes do not notice. They are compiled among nodes of which one has another
socket, but what a link brings depends only on the id, the class and the values
of the node that it starts at.

## Main definitions

* `WorkflowGraph.Conversion`: A socket of a workflow and a link to feed it.
* `WorkflowGraph.Conversion.result`: The workflow with the socket fed by the link.
* `WorkflowGraph.Conversion.replacement`: The conversion of a socket as the replacement of
  its node.
* `WorkflowGraph.Conversion.Decides`: The entry under an id is that of the node.

## Theorems

* `WorkflowGraph.Conversion.map_offer_node?`: Looking up nodes in both workflows.
* `WorkflowGraph.Conversion.compile_other`,
  `WorkflowGraph.Conversion.compile_converted`: What their nodes compile to.
* `WorkflowGraph.Conversion.lastKept?_result`: Which nodes their entries are of.
* `WorkflowGraph.compile_conversion`: A conversion disturbs nothing else.
-/

namespace PromptGraph

namespace WorkflowGraph

/-- A socket of a workflow that takes a stored value, and a link to feed it instead. -/
structure Conversion (graph : WorkflowGraph) where
  before : List GraphNode
  node : GraphNode
  after : List GraphNode
  front : List InputSocket
  socket : InputSocket
  back : List InputSocket
  link : LinkId
  nodes_eq : graph.nodes = before ++ node :: after
  inputs_eq : node.inputs = front ++ socket :: back
  isValueBound : socket.isValueBound = true

namespace Conversion

variable {graph : WorkflowGraph} (conversion : graph.Conversion)

/-- The slot of the socket. -/
def slot : Slot := conversion.socket.slotIndex.getD (UInt32.ofNat conversion.front.length)

/-- The sockets of the node, with this one fed by the link. -/
def inputs : List InputSocket :=
  conversion.front ++ conversion.socket.fedBy conversion.link :: conversion.back

/-- The node with the socket fed by the link. -/
def converted : GraphNode := { conversion.node with inputs := conversion.inputs }

@[simp] theorem id_converted : conversion.converted.id = conversion.node.id := rfl

@[simp] theorem classType_converted :
    conversion.converted.classType = conversion.node.classType := rfl

/-- The workflow with the socket fed by the link. -/
def result : WorkflowGraph :=
  { graph with nodes := conversion.before ++ conversion.converted :: conversion.after }

/-- The entry of a prompt under an id is that of the node: the node has the id and is kept,
    and no later node with the id is. -/
def Decides (id : NodeId) : Prop :=
  conversion.node.id = id ∧ isExcluded conversion.node.classType = false ∧
    ∀ later ∈ conversion.after, later.id = id → isExcluded later.classType = true

/-- The converted node takes the place of the node. -/
def replacement : graph.Replacement where
  before := conversion.before
  node := conversion.node
  after := conversion.after
  other := conversion.converted
  nodes_eq := conversion.nodes_eq
  id_eq := rfl
  classType_eq := rfl
  first_eq := fun _ => rfl

/-- The nodes found under an id in the two workflows offer the same. -/
theorem map_offer_node? (id : NodeId) :
    (conversion.result.node? id).map GraphNode.offer =
      (graph.node? id).map GraphNode.offer := by
  refine map_node?_eq conversion.result graph GraphNode.offer (fun _ => rfl) ?_ id
  rw [conversion.nodes_eq]
  unfold result
  rw [List.map_append, List.map_append, List.map_cons, List.map_cons]
  rfl

/-- A slot of a node is fed the same in both workflows. -/
theorem feed?_result (strict : Bool) (catalog : Catalog) (node : GraphNode) (slot : Slot) :
    ((conversion.result.surroundings strict).siteIn catalog node).feed? slot =
      ((graph.surroundings strict).siteIn catalog node).feed? slot := by
  have hlinks : conversion.result.links = graph.links := rfl
  unfold Site.feed?
  rw [map_source?_siteIn, map_source?_siteIn, hlinks]
  simp only [conversion.map_offer_node?]

/-- Another node compiles to the same in both workflows. -/
theorem compile_other (strict : Bool) (catalog : Catalog) (node : GraphNode) :
    ((conversion.result.surroundings strict).siteIn catalog node).compile.result =
      ((graph.surroundings strict).siteIn catalog node).compile.result :=
  Site.compile_withNodes ((graph.surroundings strict).siteIn catalog node)
    (.ofNodes conversion.result.nodes) (conversion.feed?_result strict catalog node)

/-- The converted node compiles if the node does, and to the same but for the one input. -/
theorem compile_converted (strict : Bool) (catalog : Catalog)
    (hscalar : (catalog.schemaOf conversion.node.classType).isScalar conversion.socket.name = true)
    (origin : GraphNode) (originSlot : Slot)
    (hfed : graph.FedBy conversion.node conversion.slot origin originSlot)
    (hvalue : origin.classType = primitiveClass → 0 < origin.values.size)
    (compiled : CompiledNode)
    (h : ((graph.surroundings strict).siteIn catalog conversion.node).compile.result =
      .ok compiled) :
    ∃ compiled', ((conversion.result.surroundings strict).siteIn catalog
        conversion.converted).compile.result = .ok compiled' ∧
      compiled.AgreeExcept conversion.socket.name compiled' := by
  have hsource := (graph.source?_siteIn_iff strict catalog conversion.node conversion.slot origin
    originSlot).mpr hfed
  rcases Site.compile_converted _ conversion.front conversion.back conversion.socket
    conversion.link conversion.inputs_eq conversion.isValueBound hscalar origin originSlot hsource
    hvalue compiled h with ⟨compiled', hcompiled', hagree⟩
  refine ⟨compiled', ?_, hagree⟩
  rw [← hcompiled']
  -- The slots of the converted node are those of the node.
  exact Site.compile_withNodes (((graph.surroundings strict).siteIn catalog
    conversion.node).withInputs conversion.inputs) (.ofNodes conversion.result.nodes)
    (conversion.feed?_result strict catalog conversion.node)

/-- If the nodes of the workflow compile and the converted node does, all nodes of the
    converted workflow compile. -/
theorem exists_compiled (strict : Bool) (catalog : Catalog)
    (hnodes : ∀ node ∈ graph.nodes, ∃ compiled,
      ((graph.surroundings strict).siteIn catalog node).compile.result = .ok compiled)
    (hconverted : ∃ compiled, ((conversion.result.surroundings strict).siteIn catalog
      conversion.converted).compile.result = .ok compiled) :
    ∀ node ∈ conversion.result.nodes, ∃ compiled,
      ((conversion.result.surroundings strict).siteIn catalog node).compile.result =
        .ok compiled := by
  intro node hnode
  have hother : node ∈ graph.nodes → ∃ compiled,
      ((conversion.result.surroundings strict).siteIn catalog node).compile.result =
        .ok compiled := by
    intro hmem
    rw [conversion.compile_other]
    exact hnodes node hmem
  rw [conversion.nodes_eq] at hother
  rcases List.mem_append.mp hnode with hbefore | hrest
  · exact hother (List.mem_append_left _ hbefore)
  · rcases List.mem_cons.mp hrest with rfl | hafter
    · exact hconverted
    · exact hother (List.mem_append_right _ (List.mem_cons_of_mem _ hafter))

/-- The kept ids of both workflows are the same. -/
theorem keptIds_result : keptIds conversion.result.nodes = keptIds graph.nodes :=
  conversion.replacement.keptIds_result

/-- The last node kept with an id is another node, and the same in both workflows, or it is the
    node, and then the converted one. -/
theorem lastKept?_result (id : NodeId) :
    lastKept? conversion.result.nodes id = lastKept? graph.nodes id ∨
      conversion.Decides id ∧ lastKept? graph.nodes id = some conversion.node ∧
        lastKept? conversion.result.nodes id = some conversion.converted :=
  conversion.replacement.lastKept?_result id

end Conversion

/-- A compile that succeeds does so too if a socket that takes the stored value of a declared
    scalar is fed by a link instead, as long as the link brings something. The prompt has
    the same ids in the same order, and its entries are the same, but for the one input in
    the entry of the node. -/
theorem compile_conversion (graph : WorkflowGraph) (options : CompileOptions) (source : Source)
    (fetches : Nat) (prompt : CompiledPrompt)
    (h : (graph.compile options source fetches).run.result = .ok prompt) (catalog : Catalog)
    (hfetch : source fetches = .ok catalog) (conversion : graph.Conversion)
    (hscalar : (catalog.schemaOf conversion.node.classType).isScalar conversion.socket.name = true)
    (origin : GraphNode) (originSlot : Slot)
    (hfed : graph.FedBy conversion.node conversion.slot origin originSlot)
    (hvalue : origin.classType = primitiveClass → 0 < origin.values.size) :
    ∃ prompt', (conversion.result.compile options source fetches).run.result = .ok prompt' ∧
      prompt'.nodes.keys = prompt.nodes.keys ∧
      ∀ id entry, prompt.get? id = some entry → ∃ entry', prompt'.get? id = some entry' ∧
        (entry' = entry ∨
          conversion.Decides id ∧ entry.AgreeExcept conversion.socket.name entry') := by
  rcases graph.compile_run options source fetches prompt h with ⟨hvalid, -⟩
  rcases graph.compile_ok options source fetches prompt h with ⟨served, hserved, hfilled⟩
  have hmem : conversion.node ∈ graph.nodes := by
    rw [conversion.nodes_eq]
    exact List.mem_append_right _ (List.mem_cons_self ..)
  cases hfetch.symm.trans (hserved (List.ne_nil_of_mem hmem))
  rcases hfilled.1 conversion.node hmem with ⟨compiled, hcompiled⟩
  rcases conversion.compile_converted options.strictTypes catalog hscalar origin originSlot hfed
    hvalue compiled hcompiled with ⟨compiled', hcompiled', hagree⟩
  have hnodes := conversion.exists_compiled options.strictTypes catalog hfilled.1
    ⟨compiled', hcompiled'⟩
  -- So the compile of the converted workflow succeeds, against the same catalog.
  rcases conversion.result.compile_of_nodes options source fetches catalog hvalid hfetch hnodes
    with ⟨prompt', h'⟩
  rcases conversion.result.compile_ok options source fetches prompt' h' with
    ⟨served, hserved, hfilled'⟩
  have hmem' : conversion.converted ∈ conversion.result.nodes :=
    List.mem_append_right _ (List.mem_cons_self ..)
  cases hfetch.symm.trans (hserved (List.ne_nil_of_mem hmem'))
  refine ⟨prompt', h', ?_, fun id entry hentry => ?_⟩
  · rw [conversion.result.compile_keys options source fetches prompt' h',
      graph.compile_keys options source fetches prompt h, conversion.keptIds_result]
  · rcases hfilled.get?_eq_some id entry hentry with ⟨node, hnode, hentry⟩
    rw [hfilled'.2]
    rcases conversion.lastKept?_result id with hsame | ⟨hdecides, hold, hnew⟩
    · -- The entry is that of another node.
      refine ⟨entry, ?_, Or.inl rfl⟩
      rw [hsame, hnode, Option.bind_some, conversion.compile_other, hentry]
      rfl
    · -- It is that of the node.
      refine ⟨compiled', ?_, Or.inr ⟨hdecides, ?_⟩⟩
      · rw [hnew, Option.bind_some, hcompiled']
        rfl
      · cases hnode.symm.trans hold
        cases hentry.symm.trans hcompiled
        exact hagree

/-- A catalog with a class that requires a seed and a number of steps. -/
def samplerCatalog : Catalog :=
  Catalog.empty.insert "Sampler" ((ClassSchema.empty.withRequired "seed"
    (.ofName "INT")).withRequired "steps" (.ofName "INT"))

/-- A sampler with values for both, and a counter from which a link leads to its seed. -/
def seeded : WorkflowGraph where
  nodes := [⟨"1", "Counter", [], [], .empty⟩,
    ⟨"2", "Sampler", [.bound "seed", .bound "steps"], [],
      .sequence [jsonOfUInt64 5, jsonOfUInt64 30]⟩]
  links := [⟨some 7, "1", 0, "2", 0⟩]

/-- The seed is fed by that link. -/
def seededConversion : seeded.Conversion where
  before := [⟨"1", "Counter", [], [], .empty⟩]
  node := ⟨"2", "Sampler", [.bound "seed", .bound "steps"], [],
    .sequence [jsonOfUInt64 5, jsonOfUInt64 30]⟩
  after := []
  front := []
  socket := .bound "seed"
  back := [.bound "steps"]
  link := 7
  nodes_eq := rfl
  inputs_eq := rfl
  isValueBound := rfl

/-- The number of steps stays what it was. -/
theorem seeded_steps_kept :
    ∃ prompt prompt' entry entry',
      (seeded.compile {} (fun _ => .ok samplerCatalog) 0).run.result = .ok prompt ∧
      (seededConversion.result.compile {} (fun _ => .ok samplerCatalog) 0).run.result =
        .ok prompt' ∧
      prompt.get? "2" = some entry ∧ prompt'.get? "2" = some entry' ∧
      entry.inputs.get? "steps" = some (.value (jsonOfUInt64 30)) ∧
      entry'.inputs.get? "steps" = some (.value (jsonOfUInt64 30)) := by
  rcases seeded.compile_conversion {} (fun _ => .ok samplerCatalog) 0 _ rfl samplerCatalog rfl
    seededConversion rfl ⟨"1", "Counter", [], [], .empty⟩ 0 ⟨rfl, rfl⟩ (by decide) with
    ⟨prompt', h', -, hentries⟩
  rcases hentries "2" _ rfl with ⟨entry', hentry', rfl | ⟨-, hagree⟩⟩
  · exact ⟨_, prompt', _, _, rfl, h', rfl, hentry', rfl, rfl⟩
  · refine ⟨_, prompt', _, entry', rfl, h', rfl, hentry', rfl, ?_⟩
    rw [← hagree.get? "steps" (by decide)]
    rfl

end WorkflowGraph

end PromptGraph
