import Mathlib.Logic.Relation
import PromptGraph.Proofs.Graph.References
import PromptGraph.Proofs.Graph.Supply
import PromptGraph.Proofs.Node.Conversion

/-!
# What Does Not Matter

Two workflows that are wired in the same way compile alike.

They have the same nodes, one by one, but for output sockets and the numbers of
links. And each slot with a socket that awaits a link is fed by the same output, if
by any: of all links to such a slot only the last counts, and links to other slots
do not count at all. The catalogs have to agree on the classes that occur, where it
makes no difference whether a class is unknown or has no inputs. The options have to
agree about strictness.

Nothing else matters. The runs take the same steps, with the same prompt after each,
and where one fails the other does, with the same error but for the number of a
link that it may repeat.

What may be changed without a difference is listed as `Retouch`, one change after
the other.

## Main definitions

* `WorkflowGraph.Awaits`: A slot with a socket that is fed by a link.
* `WorkflowGraph.SameWiring`: Two workflows are wired in the same way.
* `WorkflowGraph.Retouch`: Changes that keep the wiring.

## Theorems

* `sourceByScan?_cons`, `sourceByScan?_append`: Which link of a list feeds a slot.
* `WorkflowGraph.sameWiring_of_retouch`: A single change keeps the wiring.
* `WorkflowGraph.sameWiring_of_eqvGen`: So does any number of them.
* `WorkflowGraph.SameWiring.compile_endAlike`: Nodes in the same place compile alike.
* `WorkflowGraph.SameWiring.run_endAlike`: So do the runs over all nodes.
* `WorkflowGraph.compile_sameWiring`: Workflows with the same wiring compile alike.
-/

namespace PromptGraph

/-- A slot is fed by the first link of a list only if no other link leads to it. -/
theorem sourceByScan?_cons (link : Link) (rest : List Link) (target : Endpoint) :
    sourceByScan? (link :: rest) target =
      (sourceByScan? rest target).or
        (if link.target = target then some link.source else none) := by
  unfold sourceByScan?
  rw [List.reverse_cons, List.find?_append, Option.map_or, List.find?_singleton,
    apply_ite (Option.map Link.source)]
  simp only [decide_eq_true_eq, Option.map_some, Option.map_none]

theorem sourceByScan?_append (before after : List Link) (target : Endpoint) :
    sourceByScan? (before ++ after) target =
      (sourceByScan? after target).or (sourceByScan? before target) := by
  unfold sourceByScan?
  rw [List.reverse_append, List.find?_append, Option.map_or]

/-- A slot that a link leads to is fed. -/
theorem isSome_sourceByScan? (links : List Link) (link : Link) (h : link ∈ links) :
    (sourceByScan? links link.target).isSome = true := by
  unfold sourceByScan?
  rw [Option.isSome_map, List.find?_isSome]
  exact ⟨link, List.mem_reverse.mpr h, decide_eq_true rfl⟩

namespace WorkflowGraph

/-- The workflow with other links, and the same nodes. -/
def withLinks (graph : WorkflowGraph) (links : List Link) : WorkflowGraph :=
  { graph with links }

/-- Some node has a socket on the slot that is fed by a link. -/
def Awaits (graph : WorkflowGraph) (target : Endpoint) : Prop :=
  ∃ node ∈ graph.nodes, ∃ s ∈ node.slots, s.2.isLinkBound = true ∧ target = ⟨node.id, s.1⟩

/-- Two workflows are wired in the same way: their nodes look the same, one by one, and each
    slot that awaits a link is fed by the same output. -/
structure SameWiring (graph graph' : WorkflowGraph) : Prop where
  faces : graph.nodes.map GraphNode.face = graph'.nodes.map GraphNode.face
  fed : ∀ target, graph.Awaits target →
    sourceByScan? graph.links target = sourceByScan? graph'.links target

/-- A change that keeps the wiring of a workflow. -/
inductive Retouch : WorkflowGraph → WorkflowGraph → Prop where
  | version (graph : WorkflowGraph) (version : Option Binary64) :
    Retouch graph { graph with version }
  | outputs (graph : WorkflowGraph) (before after : List GraphNode) (node : GraphNode)
    (outputs : List OutputSocket) :
    Retouch (graph.withNodes (before ++ node :: after))
      (graph.withNodes (before ++ { node with outputs } :: after))
  | socketLink (graph : WorkflowGraph) (before after : List GraphNode) (node : GraphNode)
    (front back : List InputSocket) (socket : InputSocket) (number number' : LinkId) :
    Retouch
      (graph.withNodes (before ++
        { node with inputs := front ++ socket.fedBy number :: back } :: after))
      (graph.withNodes (before ++
        { node with inputs := front ++ socket.fedBy number' :: back } :: after))
  | linkId (graph : WorkflowGraph) (before after : List Link) (link : Link)
    (id : Option LinkId) :
    Retouch (graph.withLinks (before ++ link :: after))
      (graph.withLinks (before ++ { link with id } :: after))
  | unused (graph : WorkflowGraph) (before after : List Link) (link : Link)
    (unused : ¬graph.Awaits link.target) :
    Retouch (graph.withLinks (before ++ link :: after)) (graph.withLinks (before ++ after))
  | shadowed (graph : WorkflowGraph) (before after : List Link) (link later : Link)
    (behind : later ∈ after) (same : later.target = link.target) :
    Retouch (graph.withLinks (before ++ link :: after)) (graph.withLinks (before ++ after))
  | swapped (graph : WorkflowGraph) (before after : List Link) (first second : Link)
    (apart : first.target ≠ second.target) :
    Retouch (graph.withLinks (before ++ first :: second :: after))
      (graph.withLinks (before ++ second :: first :: after))

/-- Which slots await a link can be seen of the nodes. -/
theorem awaits_iff (graph : WorkflowGraph) (target : Endpoint) :
    graph.Awaits target ↔ ∃ face ∈ graph.nodes.map GraphNode.face, ∃ socket ∈ face.sockets,
      socket.isLinkBound = true ∧ target = ⟨face.id, socket.slot⟩ := by
  simp only [Awaits, List.mem_map, exists_exists_and_eq_and, GraphNode.face, socketFace]

namespace SameWiring

variable {graph graph' graph'' : WorkflowGraph}

theorem refl (graph : WorkflowGraph) : graph.SameWiring graph := ⟨rfl, fun _ _ => rfl⟩

theorem awaits_iff (h : graph.SameWiring graph') (target : Endpoint) :
    graph.Awaits target ↔ graph'.Awaits target := by
  rw [WorkflowGraph.awaits_iff, WorkflowGraph.awaits_iff, h.faces]

theorem symm (h : graph.SameWiring graph') : graph'.SameWiring graph :=
  ⟨h.faces.symm, fun target hawaits =>
    (h.fed target ((h.awaits_iff target).mpr hawaits)).symm⟩

theorem trans (h : graph.SameWiring graph') (h' : graph'.SameWiring graph'') :
    graph.SameWiring graph'' :=
  ⟨h.faces.trans h'.faces, fun target hawaits =>
    (h.fed target hawaits).trans (h'.fed target ((h.awaits_iff target).mp hawaits))⟩

/-- With a node that looks the same in the place of one a workflow is wired in the same way. -/
theorem of_face (graph : WorkflowGraph) (before after : List GraphNode) (node node' : GraphNode)
    (h : node.face = node'.face) :
    (graph.withNodes (before ++ node :: after)).SameWiring
      (graph.withNodes (before ++ node' :: after)) := by
  refine ⟨?_, fun _ _ => rfl⟩
  unfold withNodes
  rw [List.map_append, List.map_append, List.map_cons, List.map_cons, h]

/-- With other links that feed the awaited slots alike a workflow is wired in the same way. -/
theorem of_fed (graph : WorkflowGraph) (links links' : List Link)
    (h : ∀ target, graph.Awaits target → sourceByScan? links target = sourceByScan? links' target) :
    (graph.withLinks links).SameWiring (graph.withLinks links') :=
  ⟨rfl, h⟩

end SameWiring

/-- A single change keeps the wiring. -/
theorem sameWiring_of_retouch (graph graph' : WorkflowGraph) (h : Retouch graph graph') :
    graph.SameWiring graph' := by
  cases h with
  | version => exact ⟨rfl, fun _ _ => rfl⟩
  | outputs graph before after node outputs => exact .of_face graph before after _ _ rfl
  | socketLink graph before after node front back socket number number' =>
      refine .of_face graph before after _ _ ?_
      unfold GraphNode.face GraphNode.slots
      rw [GraphNode.slotsFrom_middle, GraphNode.slotsFrom_middle, List.map_append,
        List.map_append]
      rfl
  | linkId graph before after link id =>
      refine .of_fed graph _ _ fun target _ => ?_
      rw [sourceByScan?_append, sourceByScan?_append, sourceByScan?_cons, sourceByScan?_cons]
      rfl
  | unused graph before after link unused =>
      refine .of_fed graph _ _ fun target hawaits => ?_
      have hother : link.target ≠ target := fun h => unused (h ▸ hawaits)
      rw [sourceByScan?_append, sourceByScan?_append, sourceByScan?_cons, if_neg hother,
        Option.or_none]
  | shadowed graph before after link later behind same =>
      refine .of_fed graph _ _ fun target _ => ?_
      rw [sourceByScan?_append, sourceByScan?_append, sourceByScan?_cons]
      by_cases htarget : link.target = target
      · -- The later link is met first.
        have hfed := isSome_sourceByScan? after later behind
        rw [same, htarget] at hfed
        rw [Option.or_of_isSome hfed]
      · rw [if_neg htarget, Option.or_none]
  | swapped graph before after first second apart =>
      refine .of_fed graph _ _ fun target _ => ?_
      rw [sourceByScan?_append, sourceByScan?_append, sourceByScan?_cons, sourceByScan?_cons,
        sourceByScan?_cons, sourceByScan?_cons]
      -- At most one of the links leads to the slot.
      by_cases hfirst : first.target = target
      · have hsecond : second.target ≠ target := fun h => apart (hfirst.trans h.symm)
        rw [if_neg hsecond, Option.or_none, Option.or_none]
      · rw [if_neg hfirst, Option.or_none, Option.or_none]

/-- The wiring stays as it is through any number of changes, made or undone. -/
theorem sameWiring_of_eqvGen (graph graph' : WorkflowGraph)
    (h : Relation.EqvGen Retouch graph graph') : graph.SameWiring graph' := by
  induction h with
  | rel graph graph' h => exact sameWiring_of_retouch graph graph' h
  | refl graph => exact .refl graph
  | symm graph graph' _ ih => exact ih.symm
  | trans graph graph' graph'' _ _ ih ih' => exact ih.trans ih'

section Compile

variable {graph graph' : WorkflowGraph}

/-- Nodes in the same place of workflows with the same wiring compile alike, against catalogs
    that have the same schema for their class. -/
theorem SameWiring.compile_endAlike (h : graph.SameWiring graph') (strict : Bool)
    (catalog catalog' : Catalog) (node node' : GraphNode) (hnode : node ∈ graph.nodes)
    (hface : node.face = node'.face)
    (hschema : catalog.schemaOf node.classType = catalog'.schemaOf node.classType) :
    EndAlike CompileError.SameButLink Eq
      ((graph.surroundings strict).siteIn catalog node).compile.result
      ((graph'.surroundings strict).siteIn catalog' node').compile.result := by
  refine Site.compile_seesAlike (siteIn_seesAlike strict catalog catalog' node node' hface hschema
    (fun s hs hlink => h.fed _ ⟨node, hnode, s, hs, hlink, rfl⟩)
    (map_node?_eq graph graph' GraphNode.supply (fun _ => rfl) ?_))
  -- What a node supplies can be seen of it.
  have hpaired := forall₂_of_map_eq GraphNode.face _ _ h.faces
  rw [← List.forall₂_eq_eq_eq, List.forall₂_map_left_iff, List.forall₂_map_right_iff]
  exact hpaired.imp fun _ _ => GraphNode.supply_eq_of_face

/-- A step of the one compile ends like that of the other, with the same prompt. -/
theorem SameWiring.compileNode_endAlike (h : graph.SameWiring graph') (strict : Bool)
    (catalog catalog' : Catalog) (node node' : GraphNode) (hnode : node ∈ graph.nodes)
    (hface : node.face = node'.face)
    (hschema : catalog.schemaOf node.classType = catalog'.schemaOf node.classType)
    (progress progress' : Progress) (hprompt : progress.prompt = progress'.prompt) :
    EndAlike CompileError.SameButLink (fun next next' => next.prompt = next'.prompt)
      (compileNode (graph.surroundings strict) progress node
        (catalog.get? node.classType)).result
      (compileNode (graph'.surroundings strict) progress' node'
        (catalog'.get? node'.classType)).result := by
  rw [result_compileNode, result_compileNode]
  refine (h.compile_endAlike strict catalog catalog' node node' hnode hface hschema).bind
    fun compiled compiled' hcompiled => .ok ?_
  rw [Progress.prompt_add, Progress.prompt_add, Progress.prompt_looked, Progress.prompt_looked,
    hprompt, hcompiled, GraphNode.id_eq_of_face hface, GraphNode.classType_eq_of_face hface]

/-- So do the runs over the nodes. -/
theorem SameWiring.run_endAlike (h : graph.SameWiring graph') (strict : Bool)
    (catalog catalog' : Catalog) (hschema : ∀ node ∈ graph.nodes,
      catalog.schemaOf node.classType = catalog'.schemaOf node.classType) :
    EndAlike CompileError.SameButLink (fun next next' => next.prompt = next'.prompt)
      (graph.nodes.foldlM (fun progress node =>
        (compileNode (graph.surroundings strict) progress node
          (catalog.get? node.classType)).result) {})
      (graph'.nodes.foldlM (fun progress node =>
        (compileNode (graph'.surroundings strict) progress node
          (catalog'.get? node.classType)).result) {}) := by
  have hpaired := forall₂_of_map_eq GraphNode.face _ _ h.faces
  refine EndAlike.foldlM ((List.forall₂_and_left _ _).mpr ⟨fun _ hnode => hnode, hpaired⟩)
    (fun node node' progress progress' hnode hprompt => ?_) _ _ rfl
  exact h.compileNode_endAlike strict catalog catalog' node node' hnode.1 hnode.2
    (hschema node hnode.1) progress progress' hprompt

end Compile

/-- Changes that keep the wiring lead to workflows with the same wiring, and these compile
    alike: to the same prompt, or with the same error but for the number of a link. The
    catalogs have to give the classes of the workflow the same schemas, and the options to
    be equally strict. -/
theorem compile_sameWiring (graph graph' : WorkflowGraph) (options options' : CompileOptions)
    (source source' : Source) (fetches fetches' : Nat) (hvalid : options.valid = true)
    (hvalid' : options'.valid = true) (hstrict : options.strictTypes = options'.strictTypes)
    (hserved : EndAlike Eq (fun catalog catalog' : Catalog => ∀ node ∈ graph.nodes,
      catalog.schemaOf node.classType = catalog'.schemaOf node.classType)
      (source fetches) (source' fetches')) :
    (Relation.EqvGen Retouch graph graph' → graph.SameWiring graph') ∧
    (graph.SameWiring graph' → EndAlike CompileError.SameButLink Eq
      (graph.compile options source fetches).run.result
      (graph'.compile options' source' fetches').run.result) := by
  refine ⟨sameWiring_of_eqvGen graph graph', fun h => ?_⟩
  generalize hoffered : source fetches = offered at hserved
  generalize hoffered' : source' fetches' = offered' at hserved
  cases hserved with
  | @ok catalog catalog' hschema =>
      rw [graph.result_compile_of_fetch options source fetches catalog hvalid hoffered,
        graph'.result_compile_of_fetch options' source' fetches' catalog' hvalid' hoffered',
        ← hstrict]
      exact (h.run_endAlike options.strictTypes catalog catalog' hschema).bind
        fun _ _ hprompt => .ok hprompt
  | @error failure failure' hfailure =>
      have hempty : graph'.nodes = [] ↔ graph.nodes = [] := by
        rw [← List.map_eq_nil_iff (f := GraphNode.face), ← h.faces, List.map_eq_nil_iff]
      rw [graph.result_compile_of_failing options source fetches failure hvalid hoffered,
        graph'.result_compile_of_failing options' source' fetches' failure' hvalid' hoffered',
        hfailure]
      simp only [hempty]
      exact .of_eq CompileError.SameButLink.refl _ _ rfl

/-- The workflow of the annotated sampler, with another link to its model before the one that
    counts. -/
def rerouted : WorkflowGraph :=
  annotated.withLinks (⟨some 9, "2", 0, "4", 0⟩ :: annotated.links)

/-- It compiles to the same prompt, also if defaults are asked for and the class of the sampler
    is known to have no inputs. -/
theorem annotated_rerouted :
    ∃ prompt,
      (annotated.compile { strictTypes := false } (fun _ => .ok .empty) 0).run.result =
        .ok prompt ∧
      (rerouted.compile { strictTypes := false, fillDefaults := true }
        (fun _ => .ok (Catalog.empty.insert "KSampler" .empty)) 0).run.result = .ok prompt := by
  rcases annotated_entry with ⟨prompt, -, h, -⟩
  have hretouch : Relation.EqvGen Retouch annotated rerouted :=
    .symm _ _ (.rel _ _ (Retouch.shadowed annotated [] annotated.links ⟨some 9, "2", 0, "4", 0⟩
      ⟨some 1, "1", 0, "4", 0⟩ (List.mem_cons_self ..) rfl))
  have hschema : ∀ node ∈ annotated.nodes, Catalog.empty.schemaOf node.classType =
      (Catalog.empty.insert "KSampler" .empty).schemaOf node.classType := by
    intro node hnode
    simp only [annotated, List.mem_cons, List.not_mem_nil, or_false] at hnode
    rcases hnode with rfl | rfl | rfl | rfl
    all_goals rfl
  rcases compile_sameWiring annotated rerouted { strictTypes := false }
    { strictTypes := false, fillDefaults := true } (fun _ => .ok .empty)
    (fun _ => .ok (Catalog.empty.insert "KSampler" .empty)) 0 0 (by decide) (by decide) rfl
    (.ok hschema) with ⟨hwiring, halike⟩
  exact ⟨prompt, h, ((halike (hwiring hretouch)).ok_iff prompt).mp h⟩

end WorkflowGraph

end PromptGraph
