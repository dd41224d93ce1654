import PromptGraph.Proofs.Graph.Run
import PromptGraph.Proofs.Node.Rejection

/-!
# Workflows That Store No Values by Name

When a compile rejects a value, although every node of the workflow has its values as a
sequence.

A value that was read from a sequence has been brought to a kind, so one would not expect a
check to reject it. There is one way: the class of the node declares a name twice, as a
required input of an unknown type and as an optional boolean, and a truth value is read for
the latter and checked to be text. A catalog has such a class exactly if there is a workflow of
this sort that a compile with the catalog rejects a value of.

## Main definitions

* `WorkflowGraph.Positional`: All nodes have their values as sequences.
* `Catalog.Rejects`: A compile with a catalog rejects a value of such a workflow.

## Theorems

* `WorkflowGraph.clashes_of_typeMismatch`: What a rejected value tells.
* `Catalog.rejects_iff`: Which catalogs lead to a rejection.
* `WorkflowGraph.compile_positional`: Both, for all compiles with a catalog.
* `WorkflowGraph.toggle_rejected`: A truth value that is rejected.
-/

namespace PromptGraph

namespace WorkflowGraph

/-- Every node of a workflow has its values as a sequence. -/
def Positional (graph : WorkflowGraph) : Prop :=
  ∀ node ∈ graph.nodes, node.values.isSequence = true

variable (graph : WorkflowGraph) (options : CompileOptions) (source : Source) (fetches : Nat)

/-- Where no values are stored by name, a value that is rejected is a truth value that was
    checked to be text, because the class of its node has a clash. -/
theorem clashes_of_typeMismatch (hpositional : graph.Positional) (id : NodeId)
    (classType name : String) (kind : Kind) (value : Json)
    (h : (graph.compile options source fetches).run.result =
      .error (.typeMismatch id classType name kind value)) :
    options.strictTypes = true ∧ kind = .string ∧ (∃ b, value = .bool b) ∧
      ∃ catalog, source fetches = .ok catalog ∧ (catalog.schemaOf classType).Clashes name ∧
        ∃ node ∈ graph.nodes, node.id = id ∧ node.classType = classType := by
  rcases graph.compile_error options source fetches _ h with
    hoptions | ⟨failure, hsource⟩ | ⟨catalog, hfetch, node, hnode, hfault⟩
  · cases hoptions
  · cases hsource
  · -- Only one of the faults of a node is a mismatch.
    cases Site.compile_sequenceFault _ (hpositional node hnode) hfault with
    | unfilled _ s hs hsocket hlacks => cases hlacks.error
    | unset _ name hlink hlacks => cases hlacks.error
    | rejected name b hstrict hclash =>
        exact ⟨hstrict, rfl, ⟨b, rfl⟩, catalog, hfetch, hclash, node, hnode, rfl, rfl⟩

end WorkflowGraph

namespace Catalog

variable (catalog : Catalog)

/-- A compile with the catalog rejects a value of some workflow that stores no values by
    name. -/
def Rejects : Prop :=
  ∃ (graph : WorkflowGraph) (options : CompileOptions) (source : Source) (fetches : Nat)
    (e : CompileError), graph.Positional ∧ source fetches = .ok catalog ∧ e.IsTypeMismatch ∧
      (graph.compile options source fetches).run.result = .error e

theorem rejects_of_clashes (classType name : String)
    (hclash : (catalog.schemaOf classType).Clashes name) : catalog.Rejects := by
  rcases Site.exists_rejected _ name hclash with ⟨values, hvalues⟩
  -- The workflow has a single node, of the class with the clash.
  let node : GraphNode := ⟨"1", classType, [], [], .sequence values⟩
  let graph : WorkflowGraph := { nodes := [node] }
  rcases hvalues "1" classType (.ofLinks []) (.ofNodes [node]) with ⟨e, hmismatch, hfail⟩
  refine ⟨graph, {}, fun _ => .ok catalog, 0, e, fun other hother => ?_, rfl, hmismatch, ?_⟩
  · rw [List.mem_singleton.mp hother]
    rfl
  · have hstep := (compileNode_error (graph.surroundings true) {} node
      (catalog.get? classType) e).mpr hfail
    have hrun : graph.nodes.foldlM (fun progress node =>
        (compileNode (graph.surroundings true) progress node
          (catalog.get? node.classType)).result) {} = .error e :=
      foldlM_error_at (List.foldlM_nil ..) hstep []
    rw [graph.result_compile_of_fetch {} _ 0 catalog (by decide) rfl]
    exact (bind_eq_error _ _ e).mpr (Or.inl hrun)

/-- A catalog leads to a rejection exactly if one of its classes has a clash. -/
theorem rejects_iff :
    catalog.Rejects ↔ ∃ classType name, (catalog.schemaOf classType).Clashes name := by
  constructor
  · rintro ⟨graph, options, source, fetches, e, hpositional, hfetch, hmismatch, h⟩
    cases e with
    | typeMismatch id classType name kind value =>
        rcases graph.clashes_of_typeMismatch options source fetches hpositional id classType name
          kind value h with ⟨-, -, -, served, hserved, hclash, -⟩
        cases hfetch.symm.trans hserved
        exact ⟨classType, name, hclash⟩
    | registryFetch error => cases hmismatch
    | linkDangling node classType input slot link => cases hmismatch
    | missingRequiredInput node classType input => cases hmismatch
    | invalidOptions => cases hmismatch
    | serialization error => cases hmismatch
  · rintro ⟨classType, name, hclash⟩
    exact catalog.rejects_of_clashes classType name hclash

end Catalog

namespace WorkflowGraph

/-- With a catalog, a compile of a workflow that stores no values by name rejects a value only
    if the class of its node has a clash; and there is such a workflow that has a value rejected
    unless no class of the catalog has one. -/
theorem compile_positional (catalog : Catalog) :
    (∀ (graph : WorkflowGraph) (options : CompileOptions) (source : Source) (fetches : Nat),
      graph.Positional → source fetches = .ok catalog → ∀ id classType name kind value,
        (graph.compile options source fetches).run.result =
            .error (.typeMismatch id classType name kind value) →
          options.strictTypes = true ∧ kind = .string ∧ (∃ b, value = .bool b) ∧
            (catalog.schemaOf classType).Clashes name ∧
            ∃ node ∈ graph.nodes, node.id = id ∧ node.classType = classType) ∧
    (¬catalog.Rejects ↔ ∀ classType name, ¬(catalog.schemaOf classType).Clashes name) := by
  constructor
  · intro graph options source fetches hpositional hfetch id classType name kind value h
    rcases graph.clashes_of_typeMismatch options source fetches hpositional id classType name
      kind value h with ⟨hstrict, hkind, hbool, served, hserved, hclash, hnode⟩
    cases hfetch.symm.trans hserved
    exact ⟨hstrict, hkind, hbool, hclash, hnode⟩
  · rw [catalog.rejects_iff]
    simp only [not_exists]

/-- A catalog with a class that declares its flag as required, with some type, and as an
    optional boolean. -/
def toggleCatalog (type : String) : Catalog :=
  Catalog.empty.insert "Toggle" ((ClassSchema.empty.withRequired "flag" (.ofName type)).withOptional
    "flag" (.ofName "BOOLEAN"))

/-- A workflow with a node of that class, which has a truth value stored. -/
def toggle : WorkflowGraph :=
  { nodes := [⟨"1", "Toggle", [], [], .sequence [.bool true]⟩] }

theorem toggle_positional : toggle.Positional := by
  intro node hnode
  rw [List.mem_singleton.mp hnode]
  rfl

/-- With a type that is unknown to the registry, the truth value is rejected. -/
theorem toggle_rejected :
    toggle.Positional ∧
      (toggle.compile {} (fun _ => .ok (toggleCatalog "SWITCH")) 0).run.result =
        .error (.typeMismatch "1" "Toggle" "flag" .string (.bool true)) :=
  ⟨toggle_positional, rfl⟩

/-- The rejection has its cause in the class; and if the required flag is a boolean too, no
    workflow leads to one. -/
theorem toggle_causes :
    ((toggleCatalog "SWITCH").schemaOf "Toggle").Clashes "flag" ∧
      ¬(toggleCatalog "BOOLEAN").Rejects := by
  have hresult : (toggle.compile {} (fun _ => .ok (toggleCatalog "SWITCH")) 0).run.result =
      .error (.typeMismatch "1" "Toggle" "flag" .string (.bool true)) := rfl
  rcases (compile_positional (toggleCatalog "SWITCH")).1 toggle {} _ 0 toggle_positional rfl
    _ _ _ _ _ hresult with ⟨-, -, -, hclash, -⟩
  refine ⟨hclash, (compile_positional (toggleCatalog "BOOLEAN")).2.mpr ?_⟩
  rintro classType name ⟨required, optional, hrequired, -, hunknown, -⟩
  have hschema : (toggleCatalog "BOOLEAN").schemaOf classType = .empty ∨
      (toggleCatalog "BOOLEAN").schemaOf classType =
        (ClassSchema.empty.withRequired "flag" (.ofName "BOOLEAN")).withOptional "flag"
          (.ofName "BOOLEAN") := by
    unfold Catalog.schemaOf Catalog.get? toggleCatalog Catalog.insert
    rw [OrderedMap.get?_insert]
    split
    · exact Or.inr rfl
    · exact Or.inl rfl
  rcases hschema with hempty | htoggle
  · rw [hempty] at hrequired
    cases hrequired
  · -- The required flag is of a known type.
    rw [htoggle] at hrequired
    have hname := OrderedMap.mem_of_get? _ name required hrequired
    cases List.mem_singleton.mp hname
    exact absurd hunknown (by decide)

end WorkflowGraph

end PromptGraph
