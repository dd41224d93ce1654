import PromptGraph.Workflow.NodeId

/-!
# Compiled Prompts

The flat form of a workflow that an execution host takes: nodes by id, each with
its class and its inputs, an input being a value or a reference to an output of
another node.

A reference is written as a list of a node id and a slot number. When a prompt
is read, an input of just that form is a reference and anything else a value.

## Main definitions

* `ResolvedInput`: A value or a reference.
* `CompiledNode`, `CompiledPrompt`: A node and a whole prompt.
* `CompiledPrompt.decoder`, `CompiledPrompt.toJson`: Reading and writing.
-/

namespace PromptGraph

/-- What an input of a compiled node is. -/
inductive ResolvedInput where
  /-- An output of another node. -/
  | reference (node : NodeId) (slot : Slot)
  | value (value : Json)

namespace ResolvedInput

/-- The written form of an input. -/
def toJson : ResolvedInput → Json
  | .reference node slot => .arr [.str node, jsonOfUInt32 slot]
  | .value j => j

/-- The slot number that a value writes. -/
def slotOfValue? : Json → Option Slot
  | .num (.int i _) => if 0 ≤ i ∧ i < 0x100000000 then some (UInt32.ofNat i.toNat) else none
  | _ => none

/-- The input that a value writes. -/
def ofValue : Json → ResolvedInput
  | .arr [node, slot] =>
    match NodeId.ofValue? node, slotOfValue? slot with
    | some id, some n => .reference id n
    | _, _ => .value (.arr [node, slot])
  | j => .value j

/-- Decode an input; the whole value is read before it is looked at. -/
def decoder : Decoder ResolvedInput := fun d => do
  let j ← d.value
  .ok (ofValue j)

end ResolvedInput

/-- A node of a prompt. -/
structure CompiledNode where
  classType : String
  inputs : OrderedMap ResolvedInput := .empty

namespace CompiledNode

def toJson (node : CompiledNode) : Json :=
  .obj [("class_type", .str node.classType),
    ("inputs", .obj (node.inputs.map ResolvedInput.toJson).entries)]

/-- A node as far as it has been read. -/
structure Draft where
  classType : Option String := none
  inputs : Option (OrderedMap ResolvedInput) := none

def record : Record Draft CompiledNode where
  name := "CompiledNode"
  fields := [
    .required "class_type" Doc.string (·.classType) fun s a => { s with classType := some a },
    .required "inputs" (Doc.map ResolvedInput.decoder) (·.inputs)
      fun s a => { s with inputs := some a }]
  blank := {}
  complete := fun s => do
    let classType ← Record.need "class_type" s.classType
    let inputs ← Record.need "inputs" s.inputs
    .ok ⟨classType, inputs⟩

def decoder : Decoder CompiledNode := record.decode

end CompiledNode

/-- A compiled prompt: nodes by id. -/
structure CompiledPrompt where
  nodes : OrderedMap CompiledNode := .empty

namespace CompiledPrompt

def empty : CompiledPrompt := {}

def get? (prompt : CompiledPrompt) (id : NodeId) : Option CompiledNode := prompt.nodes.get? id

def insert (prompt : CompiledPrompt) (id : NodeId) (node : CompiledNode) : CompiledPrompt :=
  ⟨prompt.nodes.insert id node⟩

def size (prompt : CompiledPrompt) : Nat := prompt.nodes.size

def toJson (prompt : CompiledPrompt) : Json :=
  .obj (prompt.nodes.map CompiledNode.toJson).entries

def decoder : Decoder CompiledPrompt := fun d => (Doc.map CompiledNode.decoder d).map .mk

/-- The prompt that a value writes. -/
def ofJson (j : Json) : Except DecodeError CompiledPrompt := decoder.ofJson j

end CompiledPrompt

end PromptGraph
