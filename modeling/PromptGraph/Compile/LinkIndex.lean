import PromptGraph.Workflow.Graph
import Std.Data.HashMap

/-!
# Link Indices

Which output feeds an input slot. If several links lead to one slot, the last of
them counts; and if several nodes have one id, so does the last of these.

## Main definitions

* `Endpoint`: A slot of a node.
* `LinkIndex`: The source of each destination.
* `LinkIndex.source?`: The source of one destination.
* `NodeIndex`: The node of each id.
* `sourceByScan?`: The source found by looking through the links from the end.
-/

namespace PromptGraph

/-- A slot of a node. -/
structure Endpoint where
  node : NodeId
  slot : Slot
  deriving DecidableEq, Hashable

namespace Link

/-- Where a link starts. -/
def source (link : Link) : Endpoint := ⟨link.src, link.srcSlot⟩

/-- Where a link ends. -/
def target (link : Link) : Endpoint := ⟨link.dst, link.dstSlot⟩

end Link

/-- The source of each destination that a link leads to. -/
structure LinkIndex where
  sources : Std.HashMap Endpoint Endpoint

namespace LinkIndex

def ofLinks (links : List Link) : LinkIndex :=
  ⟨links.foldl (fun table link => table.insert link.target link.source) ∅⟩

def source? (index : LinkIndex) (target : Endpoint) : Option Endpoint := index.sources[target]?

def size (index : LinkIndex) : Nat := index.sources.size

def isEmpty (index : LinkIndex) : Bool := index.sources.isEmpty

end LinkIndex

/-- The source of the last link that leads to a slot. -/
def sourceByScan? (links : List Link) (target : Endpoint) : Option Endpoint :=
  (links.reverse.find? (·.target = target)).map Link.source

/-- The node of each id. -/
structure NodeIndex where
  nodes : Std.HashMap NodeId GraphNode

namespace NodeIndex

def ofNodes (nodes : List GraphNode) : NodeIndex :=
  ⟨nodes.foldl (fun table node => table.insert node.id node) ∅⟩

def node? (index : NodeIndex) (id : NodeId) : Option GraphNode := index.nodes[id]?

end NodeIndex

end PromptGraph
