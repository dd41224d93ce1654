import PromptGraph.Json.Decode

/-!
# Value Buffers

The values that an editor stores with a node: a sequence, read by position, or
named values, read by name. An absent buffer is the empty sequence.

## Main definitions

* `ValueBuffer`: A buffer.
* `ValueBuffer.first?`: The value that a primitive node stands for.
* `ValueBuffer.decoder`, `ValueBuffer.toJson`: Reading and writing a buffer.
-/

namespace PromptGraph

/-- The values stored with a node. -/
inductive ValueBuffer where
  /-- Values read by position. -/
  | sequence (values : List Json)
  /-- Values read by name. -/
  | keyed (values : OrderedMap Json)

namespace ValueBuffer

def empty : ValueBuffer := .sequence []

instance : Inhabited ValueBuffer := ⟨empty⟩

def isSequence : ValueBuffer → Bool
  | .sequence _ => true
  | .keyed _ => false

def size : ValueBuffer → Nat
  | .sequence values => values.length
  | .keyed values => values.size

/-- The value that a primitive node stands for: the first of a sequence; of named
    values that called `value`, else the first. -/
def first? : ValueBuffer → Option Json
  | .sequence values => values.head?
  | .keyed values => (values.get? "value").or (values.entries.head?.map Prod.snd)

def toJson : ValueBuffer → Json
  | .sequence values => .arr values
  | .keyed values => .obj values.entries

/-- The buffer that a value writes. -/
def ofValue : Json → Except DataError ValueBuffer
  | .arr values => .ok (.sequence values)
  | .obj members => .ok (.keyed (.ofList members))
  | .null => .ok empty
  | other => .error (.notContainer "value buffer" other)

/-- Decode a buffer; the whole value is read before it is looked at. -/
def decoder : Decoder ValueBuffer := fun d => do
  let j ← d.value
  (ofValue j).mapError .data

end ValueBuffer

end PromptGraph
