import PromptGraph.Compile.Node
import PromptGraph.Schema.Registry

/-!
# Compiling a Workflow

Each node is compiled against the schema of its class, in the order of the
workflow. Nodes of excluded classes are compiled too, for the errors that they
may have, and then left out. The first error ends the compile.

Every compile has a registry of its own, so its catalog is fetched when the first
node is reached and is the same for all nodes.

## Main definitions

* `Surroundings`: What all nodes of a workflow are compiled with.
* `Progress`: The prompt so far, and what was counted.
* `compileNodes`: Compiling nodes one after the other.
* `Compilation`: The outcome of a compile and the fetches made.
* `compile`: Compiling a workflow.
-/

namespace PromptGraph

/-- What all nodes of a workflow are compiled with. -/
structure Surroundings where
  links : LinkIndex
  nodes : NodeIndex
  /-- Whether values have to fit and required inputs have to be resolved. -/
  strict : Bool

namespace Surroundings

/-- A node with the schema of its class. -/
def site (around : Surroundings) (node : GraphNode) (schema : ClassSchema) : Site :=
  ⟨node, schema, around.links, around.nodes, around.strict⟩

end Surroundings

/-- How far the compile of a workflow has come. -/
structure Progress where
  prompt : CompiledPrompt := .empty
  /-- The unknown classes that were reported. -/
  reported : List String := []
  /-- The number of nodes that were left out. -/
  excluded : Nat := 0

namespace Progress

/-- Whether a class that the registry does not know has to be reported: once for
    each class, and not for excluded ones. -/
def reports (progress : Progress) (classType : String) : Bool :=
  !isExcluded classType && !progress.reported.contains classType

/-- The schema to compile a node with; the class may be unknown. -/
def settle (progress : Progress) (classType : String) (schema : Option ClassSchema) :
    Traced CompileError (Progress × ClassSchema) :=
  match schema with
  | some schema => pure (progress, schema)
  | none =>
    if progress.reports classType then do
      Traced.emit (.classUnknown classType)
      pure ({ progress with reported := classType :: progress.reported }, .empty)
    else pure (progress, .empty)

/-- Add a compiled node, or count it if it is left out. -/
def add (progress : Progress) (node : GraphNode) (compiled : CompiledNode) : Progress :=
  if isExcluded node.classType then { progress with excluded := progress.excluded + 1 }
  else { progress with prompt := progress.prompt.insert node.id compiled }

end Progress

/-- Compile a node whose class has been looked up. -/
def compileNode (around : Surroundings) (progress : Progress) (node : GraphNode)
    (schema : Option ClassSchema) : Traced CompileError Progress := do
  let (progress, schema) ← progress.settle node.classType schema
  let compiled ← (around.site node schema).compile
  pure (progress.add node compiled)

/-- Compile nodes one after the other; also the registry after that. -/
def compileNodes (around : Surroundings) (registry : Registry) (progress : Progress) :
    List GraphNode → Registry × Traced CompileError Progress
  | [] => (registry, pure progress)
  | node :: rest =>
    let (registry, schema) := registry.schema? node.classType
    let step : Traced CompileError Progress := do
      let schema ← schema.mapError .registryFetch
      compileNode around progress node schema
    match step.result with
    | .error error => (registry, ⟨step.events, .error error⟩)
    | .ok progress =>
      let (registry, more) := compileNodes around registry progress rest
      (registry, ⟨step.events ++ more.events, more.result⟩)

/-- The outcome of a compile. -/
structure Compilation where
  /-- The prompt or the error, with what was reported. -/
  run : Traced CompileError CompiledPrompt
  /-- The number of fetches that the source has served after it. -/
  fetches : Nat

namespace WorkflowGraph

def surroundings (graph : WorkflowGraph) (strict : Bool) : Surroundings :=
  ⟨.ofLinks graph.links, .ofNodes graph.nodes, strict⟩

/-- Compile a workflow with a source that has served some fetches before. -/
def compile (graph : WorkflowGraph) (options : CompileOptions) (source : Source)
    (fetches : Nat) : Compilation :=
  if !options.valid then ⟨.ofExcept (.error .invalidOptions), fetches⟩
  else
    let (registry, nodes) :=
      compileNodes (graph.surroundings options.strictTypes) { source, fetches } {} graph.nodes
    let run : Traced CompileError CompiledPrompt := do
      Traced.emit (.compiling graph.nodes.length graph.links.length options.strictTypes)
      let progress ← nodes
      Traced.emit (.compiled progress.prompt.size progress.excluded)
      pure progress.prompt
    ⟨run, registry.fetches⟩

end WorkflowGraph

end PromptGraph
