import PromptGraph.Proofs.Graph.Run
import PromptGraph.Proofs.Node.Leniency
import PromptGraph.Proofs.Node.Required

/-!
# Strict Compiles

What a strict compile of a workflow promises, and what it costs.

It promises that no required input is missing. Each entry of its prompt has all
the inputs that its class requires, those with link types aside, and the error
about a missing input is not raised without a cause: some node of the workflow
requires that input, and the class has no default for it.

It costs nothing else. Being strict never changes an input or a place in a
buffer. A strict compile gives the very prompt or error of the lenient one, or
it ends in an error that only strict compiles have.

## Main definitions

* `Surroundings.lenient`: The surroundings of a lenient compile.

## Theorems

* `WorkflowGraph.compile_required_inputs`: The entries of a strict compile have
  their required inputs, and a missing input has a cause.
* `WorkflowGraph.compile_strict_sameUnless`: A strict compile only rejects.
-/

namespace PromptGraph

namespace WorkflowGraph

variable (graph : WorkflowGraph) (options : CompileOptions) (source : Source) (fetches : Nat)

/-- Every entry of a strict compile has all inputs that its class requires and whose
    types are not passed by reference. A missing input is an error of strict compiles
    only, about a node whose class requires the input without a default. -/
theorem compile_required_inputs :
    (options.strictTypes = true → ∀ prompt,
      (graph.compile options source fetches).run.result = .ok prompt → ∀ id entry,
        prompt.get? id = some entry → ∃ catalog, source fetches = .ok catalog ∧
          ∀ name decl, (catalog.schemaOf entry.classType).required.get? name = some decl →
            decl.typeName ∉ linkTypes → (entry.inputs.get? name).isSome = true) ∧
    ∀ id classType input,
      (graph.compile options source fetches).run.result =
        .error (.missingRequiredInput id classType input) →
      options.strictTypes = true ∧ ∃ catalog, source fetches = .ok catalog ∧
        ∃ node ∈ graph.nodes, node.id = id ∧ node.classType = classType ∧
          ∃ decl, (catalog.schemaOf classType).required.get? input = some decl ∧
            decl.default? = none := by
  constructor
  · intro hstrict prompt h id entry hentry
    rcases graph.compile_entry options source fetches prompt h id entry hentry with
      ⟨catalog, node, hfetch, -, hcompiled⟩
    refine ⟨catalog, hfetch, fun name decl hdecl hlink => ?_⟩
    -- The class of the entry is that of its node, and so is the schema.
    have hclass : entry.classType = node.classType := Site.classType_of_compile _ entry hcompiled
    rw [hclass] at hdecl
    exact Site.compile_required _ hstrict entry hcompiled name decl hdecl hlink
  · intro id classType input h
    -- A missing input is no fault of options or source, so it is one of a node.
    rcases graph.compile_error options source fetches _ h with
      hoptions | ⟨failure, hsource⟩ | ⟨catalog, hfetch, node, hnode, hfault⟩
    · cases hoptions
    · cases hsource
    · rcases Site.required_of_missing _ id classType input hfault with
        ⟨hstrict, rfl, rfl, decl, hdecl, hdefault⟩
      exact ⟨hstrict, catalog, hfetch, node, hnode, rfl, rfl, decl, hdecl, hdefault⟩

/-- A catalog with a class that requires the name of a file. -/
def loaderCatalog : Catalog :=
  Catalog.empty.insert "Loader" (ClassSchema.empty.withRequired "file" (.ofName "STRING"))

/-- A workflow with a node of that class. -/
def loader (values : List Json) : WorkflowGraph :=
  { nodes := [⟨"1", "Loader", [], [], .sequence values⟩] }

/-- With a name among its values the node has its input; without one the strict compile
    fails, and the error has its cause. -/
theorem loader_required_inputs :
    (∃ prompt entry,
      ((loader [.str "base"]).compile {} (fun _ => .ok loaderCatalog) 0).run.result =
        .ok prompt ∧ prompt.get? "1" = some entry ∧
      (entry.inputs.get? "file").isSome = true) ∧
    ((loader []).compile {} (fun _ => .ok loaderCatalog) 0).run.result =
      .error (.missingRequiredInput "1" "Loader" "file") ∧
    ∃ node ∈ (loader []).nodes, node.id = "1" ∧ node.classType = "Loader" := by
  have hsupplied := (compile_required_inputs (loader [.str "base"]) {}
    (fun _ => .ok loaderCatalog) 0).1 rfl _ rfl "1" _ rfl
  rcases hsupplied with ⟨catalog, hfetch, hinputs⟩
  cases hfetch
  have hmissing : ((loader []).compile {} (fun _ => .ok loaderCatalog) 0).run.result =
      .error (.missingRequiredInput "1" "Loader" "file") := rfl
  rcases (compile_required_inputs (loader []) {} (fun _ => .ok loaderCatalog) 0).2 _ _ _ hmissing
    with ⟨-, -, -, node, hnode, hid, hclass, -⟩
  exact ⟨⟨_, _, rfl, rfl, hinputs "file" (.ofName "STRING") rfl (by decide)⟩, hmissing, node,
    hnode, hid, hclass⟩

end WorkflowGraph

namespace Surroundings

/-- The surroundings in which nothing is asked of values and required inputs. -/
def lenient (around : Surroundings) : Surroundings := { around with strict := false }

theorem compileNode_sameUnless (around : Surroundings) (progress : Progress) (node : GraphNode)
    (schema : Option ClassSchema) :
    SameUnless CompileError.OfStrictness (compileNode around progress node schema).result
      (compileNode around.lenient progress node schema).result := by
  rw [result_compileNode, result_compileNode]
  exact (around.site node (schema.getD .empty)).compile_sameUnless.bind fun compiled => Or.inl rfl

end Surroundings

namespace WorkflowGraph

variable (graph : WorkflowGraph) (options : CompileOptions) (source : Source) (fetches : Nat)

/-- A strict compile gives what the lenient one gives, the same prompt or the same
    error, unless it ends in an error of strictness. The lenient one never does. -/
theorem compile_strict_sameUnless :
    SameUnless CompileError.OfStrictness
      (graph.compile { options with strictTypes := true } source fetches).run.result
      (graph.compile { options with strictTypes := false } source fetches).run.result ∧
    ¬∃ e, (graph.compile { options with strictTypes := false } source fetches).run.result =
      .error e ∧ e.OfStrictness := by
  constructor
  · by_cases hvalid : options.valid = true
    · -- Whether options are valid does not depend on strictness.
      have hstrict : CompileOptions.valid { options with strictTypes := true } = true := hvalid
      have hlenient : CompileOptions.valid { options with strictTypes := false } = true := hvalid
      cases hfetch : source fetches with
      | ok catalog =>
          -- Both runs are folds over the same nodes with the same schemas.
          rw [graph.result_compile_of_fetch _ source fetches catalog hstrict hfetch,
            graph.result_compile_of_fetch _ source fetches catalog hlenient hfetch]
          refine SameUnless.bind (SameUnless.foldlM _ (fun progress node => ?_) _)
            fun progress => Or.inl rfl
          exact (graph.surroundings true).compileNode_sameUnless progress node _
      | error failure =>
          refine Or.inl ?_
          rw [result_compile _ _ _ _ hstrict, result_compile _ _ _ _ hlenient]
          -- The first node asks for the catalog, whatever the options are.
          cases graph.nodes with
          | nil => rfl
          | cons node rest =>
              rw [compileNodes_of_failing _ _ _ node rest failure rfl hfetch,
                compileNodes_of_failing _ _ _ node rest failure rfl hfetch]
    · have hinvalid : ∀ strict, CompileOptions.valid { options with strictTypes := strict } =
          false := fun _ => eq_false_of_ne_true hvalid
      refine Or.inl ?_
      unfold WorkflowGraph.compile
      simp only [hinvalid, Bool.not_false, if_true]
  · rintro ⟨e, h, hsort⟩
    rcases graph.compile_error _ source fetches e h with
      rfl | ⟨failure, rfl⟩ | ⟨catalog, -, node, -, hfault⟩
    · exact hsort
    · exact hsort
    · exact Site.not_ofStrictness_of_lenient _ rfl e hfault hsort

end WorkflowGraph

end PromptGraph
