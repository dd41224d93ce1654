import PromptGraph.Workflow.NodeId

/-!
# Links

A link leads from an output slot of one node to an input slot of another.

Links are written in two ways: as a record with named members, or in the legacy
way as a list of the link's number, source, source slot, destination and
destination slot, with anything after these ignored. Only a record may lack the
number. Links are always written as records.

## Main definitions

* `Link`: A link.
* `LinkRecord`: A link with the way in which it was written.
* `Link.decoder`, `Link.toJson`: Reading and writing a link.
-/

namespace PromptGraph

/-- A link from an output slot to an input slot. -/
structure Link where
  id : Option LinkId := none
  src : NodeId
  srcSlot : Slot
  dst : NodeId
  dstSlot : Slot
  deriving DecidableEq

/-- A link with the way in which it was written. -/
inductive LinkRecord where
  /-- Written as a list. -/
  | legacy (link : Link)
  /-- Written as a record. -/
  | current (link : Link)

namespace Link

def toJson (link : Link) : Json :=
  .obj (Json.optionalMember "id" (link.id.map jsonOfUInt64)
    ++ [("origin_id", .str link.src), ("origin_slot", jsonOfUInt32 link.srcSlot),
      ("target_id", .str link.dst), ("target_slot", jsonOfUInt32 link.dstSlot)])

/-- A link record as far as it has been read. -/
structure Draft where
  id : Option (Option LinkId) := none
  src : Option NodeId := none
  srcSlot : Option Slot := none
  dst : Option NodeId := none
  dstSlot : Option Slot := none

def record : Record Draft Link where
  name := "CurrentLink"
  fields := [
    .defaulted "id" (Doc.nullable Doc.u64) (·.id) fun s a => { s with id := some a },
    .required "origin_id" NodeId.decoder (·.src) fun s a => { s with src := some a },
    .required "origin_slot" Doc.u32 (·.srcSlot) fun s a => { s with srcSlot := some a },
    .required "target_id" NodeId.decoder (·.dst) fun s a => { s with dst := some a },
    .required "target_slot" Doc.u32 (·.dstSlot) fun s a => { s with dstSlot := some a }]
  blank := {}
  complete := fun s => do
    let src ← Record.need "origin_id" s.src
    let srcSlot ← Record.need "origin_slot" s.srcSlot
    let dst ← Record.need "target_id" s.dst
    let dstSlot ← Record.need "target_slot" s.dstSlot
    .ok ⟨s.id.getD none, src, srcSlot, dst, dstSlot⟩

/-- Decode one element of a link written as a list. -/
def part {α : Type} (name : String) (decoder : Decoder α) (j : Json) : Except DecodeError α :=
  match decoder.ofJson j with
  | .ok a => .ok a
  | .error (.data cause) => .error (.data (.invalidPart "link" name cause))
  | .error (.text fault) => .error (.text fault)

/-- The link that a list writes. -/
def ofItems : List Json → Except DecodeError Link
  | id :: src :: srcSlot :: dst :: dstSlot :: _ => do
    let id ← part "id" Doc.u64 id
    let src ← part "origin_id" NodeId.decoder src
    let srcSlot ← part "origin_slot" Doc.u32 srcSlot
    let dst ← part "target_id" NodeId.decoder dst
    let dstSlot ← part "target_slot" Doc.u32 dstSlot
    .ok ⟨some id, src, srcSlot, dst, dstSlot⟩
  | items => .error (.data (.tooFew "legacy link" 5 items.length))

end Link

namespace LinkRecord

/-- The link, however it was written. -/
def link : LinkRecord → Link
  | .legacy link => link
  | .current link => link

/-- The link that a value writes. -/
def ofValue : Json → Except DecodeError LinkRecord
  | .arr items => (Link.ofItems items).map .legacy
  | .obj members => (Link.record.decode.ofJson (.obj members)).map .current
  | other => .error (.data (.notContainer "link" other))

/-- Decode a link; the whole value is read before it is looked at. -/
def decoder : Decoder LinkRecord := fun d => do
  let j ← d.value
  ofValue j

end LinkRecord

/-- Decode a link, however it is written. -/
def Link.decoder : Decoder Link := fun d => (LinkRecord.decoder d).map LinkRecord.link

end PromptGraph
