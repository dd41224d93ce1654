import PromptGraph.Workflow.Link
import PromptGraph.Workflow.ValueBuffer

/-!
# Graph Nodes

A node of a workflow: its class, its sockets and the values stored with it.

An input socket is fed by a link, or bound to a stored value, or left open. A
socket with both is fed by the link. Its slot is the one it names, or else its
position among the input sockets.

## Main definitions

* `InputSocket`, `OutputSocket`: The sockets of a node.
* `GraphNode`: A node.
* `GraphNode.slots`: The input sockets with their slots.
* `GraphNode.decoder`, `GraphNode.toJson`: Reading and writing a node.
-/

namespace PromptGraph

/-- An input socket of a node. -/
structure InputSocket where
  name : String
  link : Option LinkId := none
  /-- Its slot, if that is not its position. -/
  slotIndex : Option Slot := none
  /-- The name of the stored value that it is bound to. -/
  widget : Option String := none
  deriving DecidableEq

namespace InputSocket

/-- Whether the socket is fed by a link. -/
def isLinkBound (socket : InputSocket) : Bool := socket.link.isSome

/-- Whether the socket takes a stored value. -/
def isValueBound (socket : InputSocket) : Bool := !socket.isLinkBound && socket.widget.isSome

/-- A socket fed by a link. -/
def linked (name : String) (link : LinkId) : InputSocket := { name, link := some link }

/-- A socket bound to the stored value of its own name. -/
def bound (name : String) : InputSocket := { name, widget := some name }

/-- A binding as far as it has been read. -/
structure BindingDraft where
  name : Option String := none

/-- The binding of a socket as a record. -/
def bindingRecord : Record BindingDraft String where
  name := "WidgetBinding"
  fields := [.required "name" Doc.string (·.name) fun s a => { s with name := some a }]
  blank := {}
  complete := fun s => Record.need "name" s.name

/-- A socket as far as it has been read. -/
structure Draft where
  name : Option String := none
  link : Option (Option LinkId) := none
  slotIndex : Option (Option Slot) := none
  widget : Option (Option String) := none

def record : Record Draft InputSocket where
  name := "InputSocket"
  fields := [
    .required "name" Doc.string (·.name) fun s a => { s with name := some a },
    .defaulted "link" (Doc.nullable Doc.u64) (·.link) fun s a => { s with link := some a },
    .defaulted "slot_index" (Doc.nullable Doc.u32) (·.slotIndex)
      fun s a => { s with slotIndex := some a },
    .defaulted "widget" (Doc.nullable bindingRecord.decode) (·.widget)
      fun s a => { s with widget := some a }]
  blank := {}
  complete := fun s => do
    let name ← Record.need "name" s.name
    .ok ⟨name, s.link.getD none, s.slotIndex.getD none, s.widget.getD none⟩

def toJson (socket : InputSocket) : Json :=
  .obj ([("name", .str socket.name), ("link", (socket.link.map jsonOfUInt64).getD .null)]
    ++ Json.optionalMember "slot_index" (socket.slotIndex.map jsonOfUInt32)
    ++ Json.optionalMember "widget" (socket.widget.map fun name => .obj [("name", .str name)]))

end InputSocket

/-- An output socket of a node. -/
structure OutputSocket where
  name : String
  /-- Its slot, if it names one. -/
  slotIndex : Option Slot := none
  deriving DecidableEq

namespace OutputSocket

/-- A socket as far as it has been read. -/
structure Draft where
  name : Option String := none
  slotIndex : Option (Option Slot) := none

def record : Record Draft OutputSocket where
  name := "OutputSocket"
  fields := [
    .required "name" Doc.string (·.name) fun s a => { s with name := some a },
    .defaulted "slot_index" (Doc.nullable Doc.u32) (·.slotIndex)
      fun s a => { s with slotIndex := some a }]
  blank := {}
  complete := fun s => do
    let name ← Record.need "name" s.name
    .ok ⟨name, s.slotIndex.getD none⟩

def toJson (socket : OutputSocket) : Json :=
  .obj (("name", .str socket.name)
    :: Json.optionalMember "slot_index" (socket.slotIndex.map jsonOfUInt32))

end OutputSocket

/-- A node of a workflow. -/
structure GraphNode where
  id : NodeId
  classType : String
  inputs : List InputSocket := []
  outputs : List OutputSocket := []
  values : ValueBuffer := .empty

namespace GraphNode

/-- Sockets from a position on, with their slots. -/
def slotsFrom (position : Nat) : List InputSocket → List (Slot × InputSocket)
  | [] => []
  | socket :: rest =>
    (socket.slotIndex.getD (UInt32.ofNat position), socket) :: slotsFrom (position + 1) rest

def slots (node : GraphNode) : List (Slot × InputSocket) := slotsFrom 0 node.inputs

/-- A node as far as it has been read. -/
structure Draft where
  id : Option NodeId := none
  classType : Option String := none
  inputs : Option (List InputSocket) := none
  outputs : Option (List OutputSocket) := none
  values : Option ValueBuffer := none

def record : Record Draft GraphNode where
  name := "GraphNode"
  fields := [
    .required "id" NodeId.decoder (·.id) fun s a => { s with id := some a },
    .make "type" ["class_type"] false Doc.string (·.classType)
      fun s a => { s with classType := some a },
    .defaulted "inputs" (Doc.list InputSocket.record.decode) (·.inputs)
      fun s a => { s with inputs := some a },
    .defaulted "outputs" (Doc.list OutputSocket.record.decode) (·.outputs)
      fun s a => { s with outputs := some a },
    .defaulted "widgets_values" ValueBuffer.decoder (·.values)
      fun s a => { s with values := some a }]
  blank := {}
  complete := fun s => do
    let id ← Record.need "id" s.id
    let classType ← Record.need "type" s.classType
    .ok ⟨id, classType, s.inputs.getD [], s.outputs.getD [], s.values.getD .empty⟩

def decoder : Decoder GraphNode := record.decode

def toJson (node : GraphNode) : Json :=
  .obj [("id", .str node.id), ("type", .str node.classType),
    ("inputs", .arr (node.inputs.map InputSocket.toJson)),
    ("outputs", .arr (node.outputs.map OutputSocket.toJson)),
    ("widgets_values", node.values.toJson)]

end GraphNode

end PromptGraph
