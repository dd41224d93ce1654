import PromptGraph.Proofs.Declarations
import PromptGraph.Proofs.Graph.References
import PromptGraph.Proofs.Node.Origins

/-!
# The Literals of a Prompt

How far the literals of a strict compile fit the kinds that their inputs are
declared with.

This depends on the route that a literal has taken. Every value that is read from
the buffer of a node fits. But not every literal is read. A default is copied from
the schema as it stands there, and the value of a primitive node is taken over by
the sockets that are linked to it; what of this does not fit goes into the prompt
unchanged. There is no other route.

## Main definitions

* `CompiledPrompt.Fits`: Every literal fits the declared kind of its input.
* `WorkflowGraph.TakesOver`: A value stands in a primitive node that a socket of
  a name is linked to.

## Theorems

* `WorkflowGraph.route_of_literal`: The route of a literal of a strict node.
* `WorkflowGraph.compile_literal_fits`: The same for the entries of a prompt.
* `WorkflowGraph.not_fits_of_switch`: A prompt with literals that do not fit.
-/

namespace PromptGraph

/-- Every literal of a prompt fits the kind that its input is declared with. -/
def CompiledPrompt.Fits (prompt : CompiledPrompt) (catalog : Catalog) : Prop :=
  ∀ id entry, prompt.get? id = some entry → ∀ name decl value,
    (catalog.schemaOf entry.classType).decl? name = some decl → decl.typeName ∉ linkTypes →
      entry.inputs.get? name = some (.value value) →
        fits (classify decl.typeName).kind? value = true

namespace WorkflowGraph

/-- A value is the one of a primitive node that a socket of a name is linked to. -/
def TakesOver (graph : WorkflowGraph) (node : GraphNode) (name : String) (value : Json) : Prop :=
  ∃ s ∈ node.slots, s.2.name = name ∧ s.2.isLinkBound = true ∧ ∃ origin originSlot,
    graph.FedBy node s.1 origin originSlot ∧ origin.classType = primitiveClass ∧
      origin.values.first? = some value

/-- The route of a literal of a strict node. It was read from what the node stores, and it fits;
    or it was made of the value of a primitive node, and it fits or is that value; or it is the
    default of its input. -/
theorem route_of_literal (graph : WorkflowGraph) (strict : Bool) (hstrict : strict = true)
    (catalog : Catalog) (node : GraphNode) (compiled : CompiledNode)
    (h : ((graph.surroundings strict).siteIn catalog node).compile.result = .ok compiled)
    (name : String) (value : Json) (hget : compiled.inputs.get? name = some (.value value)) :
    (node.Stores (catalog.schemaOf node.classType) name value ∧
        fits ((catalog.schemaOf node.classType).kind? name) value = true) ∨
      (∃ first, graph.TakesOver node name first ∧
        value = inlineValue ((catalog.schemaOf node.classType).kind? name) first ∧
          (fits ((catalog.schemaOf node.classType).kind? name) value = true ∨ value = first)) ∨
      (catalog.schemaOf node.classType).default? name = some value := by
  rcases Site.compile_literal _ compiled h name value hget with
    ⟨hstores, hadmits⟩ |
      ⟨s, hs, rfl, hlink, origin, originSlot, first, hsource, horigin, hfirst, rfl⟩ | hdefault
  · exact Or.inl ⟨hstores, hadmits.fits _ hstrict⟩
  · have hfed := (graph.source?_siteIn_iff _ catalog node s.1 origin originSlot).mp hsource
    exact Or.inr (Or.inl ⟨first, ⟨s, hs, rfl, hlink, origin, originSlot, hfed, horigin, hfirst⟩,
      rfl, inlineValue_fits_or_eq _ first⟩)
  · exact Or.inr (Or.inr hdefault)

/-- A literal in an entry of a strict compile came by one of three routes. It was read from what
    its node stores, and it fits the kind that its input is declared with. Or it was made of the
    value of a primitive node that a socket of its name is linked to, and it fits or is that value
    unchanged. Or it is the default of the input, unchanged. -/
theorem compile_literal_fits (graph : WorkflowGraph) (options : CompileOptions) (source : Source)
    (fetches : Nat) (hstrict : options.strictTypes = true) (prompt : CompiledPrompt)
    (h : (graph.compile options source fetches).run.result = .ok prompt) (id : NodeId)
    (entry : CompiledNode) (hentry : prompt.get? id = some entry) :
    ∃ catalog node, source fetches = .ok catalog ∧ graph.entryNode? id = some node ∧
      ∀ name decl value, (catalog.schemaOf entry.classType).decl? name = some decl →
        entry.inputs.get? name = some (.value value) →
          (node.Stores (catalog.schemaOf entry.classType) name value ∧
              fits (classify decl.typeName).kind? value = true) ∨
            (∃ first, graph.TakesOver node name first ∧
              value = inlineValue (classify decl.typeName).kind? first ∧
                (fits (classify decl.typeName).kind? value = true ∨ value = first)) ∨
            decl.default? = some value := by
  rcases graph.compile_entry options source fetches prompt h id entry hentry with
    ⟨catalog, node, hfetch, hnode, hcompiled⟩
  refine ⟨catalog, node, hfetch, hnode, fun name decl value hdecl hget => ?_⟩
  -- The class of the entry is that of its node, and so is the schema.
  have hclass : entry.classType = node.classType := Site.classType_of_compile _ entry hcompiled
  rw [hclass] at hdecl ⊢
  rw [← ClassSchema.kind?_of_decl? _ name decl hdecl,
    ← ClassSchema.default?_of_decl? _ name decl hdecl]
  exact graph.route_of_literal _ hstrict catalog node entry hcompiled name value hget

/-- A catalog with a class whose default for the number of steps is no number. -/
def switchCatalog : Catalog :=
  Catalog.empty.insert "Switch" (((ClassSchema.empty.withRequired "flag" (.ofName "BOOLEAN")
    ).withRequired "speed" (.ofName "FLOAT")).withRequired "steps"
      ((TypeDecl.ofName "INT").withDefault (.str "many")))

/-- A node of that class, with a flag that is fed by a link. -/
def switchNode : GraphNode :=
  ⟨"1", "Switch", [.linked "flag" 1], [], .sequence [.bool true, jsonOfUInt64 7]⟩

/-- A workflow in which the flag comes from a primitive node whose value is no truth
    value. -/
def switch : WorkflowGraph :=
  { nodes := [⟨"5", primitiveClass, [], [], .sequence [.str "maybe"]⟩, switchNode]
    links := [⟨some 1, "5", 0, "1", 0⟩] }

/-- The node with its class, in a strict compile. -/
def switchSite : Site := (switch.surroundings true).siteIn switchCatalog switchNode

/-- What the node compiles to: the value stored for the flag is dropped, the speed is
    read, and the steps take their default. -/
def switchEntry : CompiledNode :=
  ⟨"Switch", ((OrderedMap.empty.insert "flag" (.value (.str "maybe"))).insert "speed"
    (.value (jsonOfUInt64 7))).insert "steps" (.value (.str "many"))⟩

theorem switchSite_compile : switchSite.compile.result = .ok switchEntry := by
  have hsource : switchSite.source? 0 =
      some (⟨"5", primitiveClass, [], [], .sequence [.str "maybe"]⟩, 0) :=
    (switch.source?_siteIn_iff true switchCatalog switchNode 0 _ 0).mpr ⟨rfl, rfl⟩
  -- The socket takes over the value of the primitive node.
  have hsocket : (switchSite.resolveSocket switchSite.start 0 (.linked "flag" 1)).result =
      .ok ⟨OrderedMap.empty.insert "flag" (.value (.str "maybe")), ⟨switchNode.values, 1⟩⟩ := by
    refine (switchSite.result_resolveLink _ 0 (.linked "flag" 1)).trans ?_
    rw [hsource]
    rfl
  have hsockets : (switchSite.resolveSockets switchSite.start switchSite.node.slots).result =
      .ok ⟨OrderedMap.empty.insert "flag" (.value (.str "maybe")), ⟨switchNode.values, 1⟩⟩ := by
    rw [Site.result_resolveSockets]
    exact congrArg (fun result => result >>= pure) hsocket
  exact (switchSite.compile_ok switchEntry).mpr ⟨_, _, _, hsockets, rfl, rfl, rfl⟩

/-- The workflow compiles strictly, with that entry. -/
theorem switch_entry :
    ∃ prompt,
      (switch.compile { strictTypes := true } (fun _ => .ok switchCatalog) 0).run.result =
        .ok prompt ∧
      prompt.get? "1" = some switchEntry := by
  have hnodes : ∀ node ∈ switch.nodes, ∃ compiled,
      ((switch.surroundings true).siteIn switchCatalog node).compile.result = .ok compiled := by
    intro node hnode
    rcases List.mem_cons.mp hnode with rfl | hnode
    · exact ⟨_, rfl⟩
    · rw [List.mem_singleton.mp hnode]
      exact ⟨switchEntry, switchSite_compile⟩
  rcases switch.compile_of_nodes { strictTypes := true } (fun _ => .ok switchCatalog) 0
    switchCatalog (by decide) rfl hnodes with ⟨prompt, hprompt⟩
  exact ⟨prompt, hprompt, switch.get?_of_entryNode? _ _ _ switchCatalog rfl prompt hprompt "1"
    switchNode rfl switchEntry switchSite_compile⟩

/-- The speed, which is neither linked nor declared with a default, is stored with the node and
    fits. -/
theorem switch_speed_fits :
    ∃ prompt,
      (switch.compile { strictTypes := true } (fun _ => .ok switchCatalog) 0).run.result =
        .ok prompt ∧
      prompt.get? "1" = some switchEntry ∧
      switchEntry.inputs.get? "speed" = some (.value (jsonOfUInt64 7)) ∧
      switchNode.Stores (switchCatalog.schemaOf "Switch") "speed" (jsonOfUInt64 7) ∧
      fits (classify "FLOAT").kind? (jsonOfUInt64 7) = true := by
  rcases switch_entry with ⟨prompt, hprompt, hentry⟩
  rcases compile_literal_fits switch { strictTypes := true } (fun _ => .ok switchCatalog) 0 rfl
    prompt hprompt "1" switchEntry hentry with ⟨catalog, node, hfetch, hnode, hfits⟩
  cases hfetch
  cases hnode
  refine ⟨prompt, hprompt, hentry, rfl, ?_⟩
  rcases hfits "speed" (.ofName "FLOAT") (jsonOfUInt64 7) rfl rfl with
    hread | ⟨first, ⟨s, hs, hname, -⟩, -⟩ | hdefault
  · exact hread
  · -- The only socket of the node is the one of the flag.
    rw [List.mem_singleton.mp hs] at hname
    exact absurd hname (by decide)
  · cases hdefault

/-- The flag and the steps do not fit, although the compile is strict. -/
theorem not_fits_of_switch :
    ∃ prompt,
      (switch.compile { strictTypes := true } (fun _ => .ok switchCatalog) 0).run.result =
        .ok prompt ∧
      ¬prompt.Fits switchCatalog ∧ ∃ entry, prompt.get? "1" = some entry ∧
        entry.inputs.get? "flag" = some (.value (.str "maybe")) ∧
        fits (classify "BOOLEAN").kind? (.str "maybe") = false ∧
        entry.inputs.get? "steps" = some (.value (.str "many")) ∧
        fits (classify "INT").kind? (.str "many") = false := by
  rcases switch_entry with ⟨prompt, hprompt, hentry⟩
  have hflag : fits (classify "BOOLEAN").kind? (.str "maybe") = false := by decide
  have hsteps : fits (classify "INT").kind? (.str "many") = false := by decide
  refine ⟨prompt, hprompt, fun hfits => ?_, switchEntry, hentry, rfl, hflag, rfl, hsteps⟩
  have hflag' := hfits "1" switchEntry hentry "flag" (.ofName "BOOLEAN") (.str "maybe") rfl
    (by decide) rfl
  exact Bool.false_ne_true (hflag.symm.trans hflag')

end WorkflowGraph

end PromptGraph
