import PromptGraph.Proofs.Wire.Codecs
import PromptGraph.Workflow.Graph

/-!
# Reading Workflows Back

A workflow that is written as a value is read back as it was.

Workflows are read in more ways than they are written: names may stand in for each other, members
may be absent or null, ids may be numbers, links may be lists, and buffers may be null. What is
written uses one of these ways for each part, which the reader takes for that part again. So what
a workflow was read from may be written differently, but only once: what is written again is
read and written as it stands.

## Theorems

* `InputSocket.undoes_record`, `OutputSocket.undoes_record`, `ValueBuffer.undoes_decoder`,
  `GraphNode.undoes_decoder`, `Link.undoes_decoder`: The parts of a workflow.
* `WorkflowGraph.undoes_decoder`: A workflow.
* `WorkflowGraph.ofJson_written`: What is written is read back, and written the same again.
-/

namespace PromptGraph

theorem jsonOfUInt64_ne_null (n : UInt64) : jsonOfUInt64 n ≠ .null := by
  intro h
  cases h

theorem jsonOfUInt32_ne_null (n : UInt32) : jsonOfUInt32 n ≠ .null := by
  intro h
  cases h

namespace InputSocket

/-- A binding is written as a record of its name. -/
theorem undoes_bindingRecord :
    bindingRecord.decode.Undoes fun name => .obj [("name", .str name)] := fun _ => rfl

/-- A socket is read back, whichever of its members are left out. -/
theorem undoes_record : record.decode.Undoes toJson := by
  intro socket
  have hname := record.readMembers_named "name" rfl _ socket.name (Doc.undoes_string socket.name)
    record.blank rfl
  have hlink := record.readMembers_named "link" rfl _ socket.link
    (Doc.undoes_nullable Doc.undoes_u64 jsonOfUInt64_ne_null socket.link)
  have hslot := record.readMembers_optional "slot_index" rfl Doc.undoes_u32 jsonOfUInt32_ne_null
    socket.slotIndex
  have hwidget := record.readMembers_optional "widget" rfl undoes_bindingRecord
    (fun _ h => (by cases h)) socket.widget
  unfold toJson
  rw [Record.ofJson_obj, List.append_assoc, List.cons_append, hname, List.cons_append,
    List.nil_append, hlink _ rfl, hslot _ rfl,
    ← List.append_nil (Json.optionalMember "widget" _), hwidget]
  · cases socket with
    | mk name link slotIndex widget => cases slotIndex <;> cases widget <;> rfl
  · cases socket.slotIndex <;> rfl

end InputSocket

namespace OutputSocket

theorem undoes_record : record.decode.Undoes toJson := by
  intro socket
  have hname := record.readMembers_named "name" rfl _ socket.name (Doc.undoes_string socket.name)
    record.blank rfl
  have hslot := record.readMembers_optional "slot_index" rfl Doc.undoes_u32 jsonOfUInt32_ne_null
    socket.slotIndex
  unfold toJson
  rw [Record.ofJson_obj, hname, ← List.append_nil (Json.optionalMember "slot_index" _),
    hslot _ rfl]
  cases socket with
  | mk name slotIndex => cases slotIndex <;> rfl

end OutputSocket

/-- A buffer is read back, with its named values in their order. -/
theorem ValueBuffer.undoes_decoder : decoder.Undoes toJson := by
  intro buffer
  have hread : ∀ j, decoder.ofJson j = (ofValue j).mapError .data := by
    intro j
    unfold Decoder.ofJson decoder
    rw [Doc.value_ofJson]
    rfl
  rw [hread]
  cases buffer with
  | sequence values => rfl
  | keyed values =>
      have hsame : OrderedMap.ofList values.entries = values :=
        OrderedMap.ext (OrderedMap.entries_ofList values.entries values.distinct)
      rw [toJson, ofValue, hsame]
      rfl

theorem GraphNode.undoes_decoder : decoder.Undoes toJson := by
  intro node
  have hid := record.readMembers_named "id" rfl (.str node.id) node.id
    (NodeId.undoes_decoder node.id) record.blank rfl
  have hclass := record.readMembers_named "type" rfl _ node.classType
    (Doc.undoes_string node.classType)
  have hinputs := record.readMembers_named "inputs" rfl _ node.inputs
    (Doc.undoes_list InputSocket.undoes_record node.inputs)
  have houtputs := record.readMembers_named "outputs" rfl _ node.outputs
    (Doc.undoes_list OutputSocket.undoes_record node.outputs)
  have hvalues := record.readMembers_named "widgets_values" rfl _ node.values
    (ValueBuffer.undoes_decoder node.values)
  unfold decoder toJson
  rw [Record.ofJson_obj, hid, hclass _ rfl, hinputs _ rfl, houtputs _ rfl, hvalues _ rfl]
  rfl

namespace Link

theorem undoes_record : record.decode.Undoes toJson := by
  intro link
  have hid := record.readMembers_optional "id" rfl Doc.undoes_u64 jsonOfUInt64_ne_null link.id
    record.blank rfl
  have hsrc := record.readMembers_named "origin_id" rfl (.str link.src) link.src
    (NodeId.undoes_decoder link.src)
  have hsrcSlot := record.readMembers_named "origin_slot" rfl _ link.srcSlot
    (Doc.undoes_u32 link.srcSlot)
  have hdst := record.readMembers_named "target_id" rfl (.str link.dst) link.dst
    (NodeId.undoes_decoder link.dst)
  have hdstSlot := record.readMembers_named "target_slot" rfl _ link.dstSlot
    (Doc.undoes_u32 link.dstSlot)
  unfold toJson
  rw [Record.ofJson_obj, hid]
  -- With a number or without one, the other members find their fields free.
  cases link with
  | mk id src srcSlot dst dstSlot =>
      cases id <;> rw [hsrc _ rfl, hsrcSlot _ rfl, hdst _ rfl, hdstSlot _ rfl] <;> rfl

/-- A link is written as a record, and read as one. -/
theorem undoes_decoder : decoder.Undoes toJson := by
  intro link
  have hread : ∀ members, decoder.ofJson (.obj members) =
      ((record.decode.ofJson (.obj members)).map .current).map LinkRecord.link := by
    intro members
    unfold Decoder.ofJson decoder LinkRecord.decoder
    rw [Doc.value_ofJson]
    rfl
  have hrecord := undoes_record link
  unfold toJson at hrecord ⊢
  rw [hread, hrecord]
  rfl

end Link

namespace WorkflowGraph

theorem undoes_decoder : decoder.Undoes toJson := by
  intro graph
  have hversion := record.readMembers_optional "version" rfl Doc.undoes_binary64
    (fun _ h => (by cases h)) graph.version record.blank rfl
  have hnodes := record.readMembers_named "nodes" rfl _ graph.nodes
    (Doc.undoes_list GraphNode.undoes_decoder graph.nodes)
  have hlinks := record.readMembers_named "links" rfl _ graph.links
    (Doc.undoes_list Link.undoes_decoder graph.links)
  unfold decoder toJson
  rw [Record.ofJson_obj, hversion]
  cases graph with
  | mk version nodes links =>
      cases version <;> rw [hnodes _ rfl, hlinks _ rfl] <;> rfl

/-- Every workflow that is written is read back as it was. So what was read and is written again
    is read and written the same from then on. -/
theorem ofJson_written :
    (∀ graph : WorkflowGraph, ofJson graph.toJson = .ok graph) ∧
      ∀ j k, (ofJson j).map toJson = .ok k → (ofJson k).map toJson = .ok k := by
  refine ⟨undoes_decoder, fun j k h => ?_⟩
  cases hj : ofJson j with
  | error e =>
      rw [hj] at h
      cases h
  | ok graph =>
      rw [hj] at h
      cases h
      have hagain : ofJson graph.toJson = .ok graph := undoes_decoder graph
      rw [hagain]
      rfl

/-- A workflow with a sampler that has a socket of each sort and named values, and a link without
    a number. -/
def dressed : WorkflowGraph :=
  { version := some default
    nodes := [⟨"4", "KSampler", [⟨"model", some 1, some 2, none⟩, .bound "seed"],
      [⟨"latent", some 0⟩],
      .keyed ((OrderedMap.empty.insert "steps" (jsonOfUInt64 20)).insert "seed" (.str "7"))⟩]
    links := [⟨none, "3", 0, "4", 2⟩] }

/-- A node as some editors write it, with another name for its class and without buffer. -/
def undressedJson : Json :=
  .obj [("nodes", .arr [.obj [("class_type", .str "Loader"), ("id", jsonOfUInt64 3)]])]

/-- The node as it is written in the end. -/
def redressedJson : Json :=
  toJson { nodes := [⟨"3", "Loader", [], [], .empty⟩] }

/-- The sampler is read back; and the node of the other editor is written differently, but not
    any more after that. -/
theorem dressed_written :
    ofJson dressed.toJson = .ok dressed ∧ (ofJson undressedJson).map toJson = .ok redressedJson ∧
      (ofJson redressedJson).map toJson = .ok redressedJson := by
  have hredressed : (ofJson undressedJson).map toJson = .ok redressedJson := rfl
  exact ⟨ofJson_written.1 dressed, hredressed, ofJson_written.2 undressedJson _ hredressed⟩

end WorkflowGraph

end PromptGraph
