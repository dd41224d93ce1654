import PromptGraph.Workflow.Node

/-!
# Workflow Graphs

A workflow as an editor saves it: nodes and links in the order in which they
were made.

## Main definitions

* `WorkflowGraph`: A workflow.
* `WorkflowGraph.node?`: The node with an id, the last one if there are several.
* `WorkflowGraph.decoder`, `WorkflowGraph.toJson`: Reading and writing a workflow.
-/

namespace PromptGraph

/-- A workflow. -/
structure WorkflowGraph where
  /-- The version of the format it was saved in. -/
  version : Option Binary64 := none
  nodes : List GraphNode := []
  links : List Link := []

namespace WorkflowGraph

/-- The last node with an id. -/
def node? (graph : WorkflowGraph) (id : NodeId) : Option GraphNode :=
  graph.nodes.reverse.find? (·.id = id)

/-- A workflow as far as it has been read. -/
structure Draft where
  version : Option (Option Binary64) := none
  nodes : Option (List GraphNode) := none
  links : Option (List Link) := none

def record : Record Draft WorkflowGraph where
  name := "WorkflowGraph"
  fields := [
    .defaulted "version" (Doc.nullable Doc.binary64) (·.version)
      fun s a => { s with version := some a },
    .defaulted "nodes" (Doc.list GraphNode.decoder) (·.nodes)
      fun s a => { s with nodes := some a },
    .defaulted "links" (Doc.list Link.decoder) (·.links)
      fun s a => { s with links := some a }]
  blank := {}
  complete := fun s => .ok ⟨s.version.getD none, s.nodes.getD [], s.links.getD []⟩

def decoder : Decoder WorkflowGraph := record.decode

/-- The workflow that a value writes. -/
def ofJson (j : Json) : Except DecodeError WorkflowGraph := decoder.ofJson j

def toJson (graph : WorkflowGraph) : Json :=
  .obj (Json.optionalMember "version" (graph.version.map fun x => .num (.double x))
    ++ [("nodes", .arr (graph.nodes.map GraphNode.toJson)),
      ("links", .arr (graph.links.map Link.toJson))])

end WorkflowGraph

end PromptGraph
