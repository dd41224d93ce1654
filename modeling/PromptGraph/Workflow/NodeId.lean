import PromptGraph.Json.Decode

/-!
# Identifiers

Nodes are named by text. An integer in place of an id is read as its decimal
text, so `3` and `"3"` name the same node. Links are numbered, and sockets are
found by slot numbers.

## Main definitions

* `NodeId`, `LinkId`, `Slot`: The types of names and numbers.
* `NodeId.ofValue?`, `NodeId.decoder`: Reading a node id.
-/

namespace PromptGraph

/-- The name of a node. -/
abbrev NodeId := String

/-- The number of a link. -/
abbrev LinkId := UInt64

/-- The number of an input or output slot of a node. -/
abbrev Slot := UInt32

namespace NodeId

/-- The id of a node named by an integer. -/
def ofInt (i : Int) : NodeId := integerText i

/-- The id that a value writes: text, or an integer of 64 bits with a sign. -/
def ofValue? : Json → Option NodeId
  | .str s => some s
  | .num (.int i _) => if i < 0x8000000000000000 then some (ofInt i) else none
  | _ => none

/-- Decode a node id; the whole value is read before it is looked at. -/
def decoder : Decoder NodeId := fun d => do
  let j ← d.value
  match ofValue? j with
  | some id => .ok id
  | none => .error (.data (.noVariant "RawNodeId"))

end NodeId

/-- An unsigned integer of 64 bits as a value. -/
def jsonOfUInt64 (n : UInt64) : Json := .num (.ofUInt64 n)

/-- An unsigned integer of 32 bits as a value. -/
def jsonOfUInt32 (n : UInt32) : Json := .num (.ofUInt64 n.toUInt64)

end PromptGraph
