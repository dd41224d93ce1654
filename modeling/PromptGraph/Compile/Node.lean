import PromptGraph.Compile.Cursor
import PromptGraph.Compile.Error
import PromptGraph.Compile.LinkIndex
import PromptGraph.Prompt
import PromptGraph.Schema.ClassSchema
import PromptGraph.Trace

/-!
# Compiling a Node

Resolving each input of a node to a value or a reference.

There are three passes. The sockets are resolved in the order in which they were
made: one fed by a link gives a reference, or the value of a primitive node; one
bound to a value reads the node's value buffer. Then the scalar inputs that are
still unset are read from the buffer in the order declared, for the editor stores
a value for each of them, with or without a socket. At last the required inputs
that are still unset take their defaults.

The editor also keeps a value for a scalar whose socket is fed by a link. One
value is read and dropped for it, so that the values after it stay in step.

## Main definitions

* `Site`: A node in its surroundings.
* `Resolution`: The inputs resolved so far and the place in the buffer.
* `Site.resolveSocket`, `Site.backfill`, `Site.fillDefault`: One step of each pass.
* `Site.resolve`: The three passes.
* `Site.compile`: The compiled node.
-/

namespace PromptGraph

/-- The class of nodes that stand for a value. -/
def primitiveClass : String := "PrimitiveNode"

/-- The classes of nodes that are left out of prompts. -/
def excludedClasses : List String := [primitiveClass, "Note", "MarkdownNote"]

/-- Whether nodes of a class are left out of prompts. -/
def isExcluded (classType : String) : Bool := excludedClasses.contains classType

/-- A node in its surroundings. -/
structure Site where
  node : GraphNode
  /-- The schema of its class. -/
  schema : ClassSchema
  links : LinkIndex
  nodes : NodeIndex
  /-- Whether values have to fit and required inputs have to be resolved. -/
  strict : Bool

/-- The inputs of a node resolved so far, and the place in its buffer. -/
structure Resolution where
  inputs : OrderedMap ResolvedInput := .empty
  cursor : Cursor

namespace Resolution

def isSet (resolution : Resolution) (name : String) : Bool := resolution.inputs.contains name

def set (resolution : Resolution) (name : String) (input : ResolvedInput) : Resolution :=
  { resolution with inputs := resolution.inputs.insert name input }

def moveTo (resolution : Resolution) (cursor : Cursor) : Resolution :=
  { resolution with cursor }

end Resolution

/-- The events of a read: what it passed over. -/
def Read.events (read : Read) (expected : Option Kind) : List Event :=
  read.skipped.map fun e => .valueSkipped e.1 expected e.2

/-- The value of a primitive node as an input of a kind takes it: brought to the
    kind if that is numeric and the value fits, else as it is. -/
def inlineValue (expected : Option Kind) (value : Json) : Json :=
  match expected with
  | some kind => if kind.isNumeric then (coerceTo kind value).getD value else value
  | none => value

namespace Site

/-- Record a value that was read, which has to fit if the site is strict. -/
def accept (site : Site) (resolution : Resolution) (name : String) (value : Json) :
    Except CompileError Resolution :=
  match site.schema.kind? name with
  | some kind =>
    if site.strict && !fits (some kind) value then
      .error (.typeMismatch site.node.id site.node.classType name kind value)
    else .ok (resolution.set name (.value value))
  | none => .ok (resolution.set name (.value value))

/-- Give an input its default. Without one it stays unset, which a required input
    may not if the site is strict. -/
def fallback (site : Site) (resolution : Resolution) (name : String) :
    Except CompileError Resolution :=
  match site.schema.default? name with
  | some value => .ok (resolution.set name (.value value))
  | none =>
    if site.strict && site.schema.isRequired name then
      .error (.missingRequiredInput site.node.id site.node.classType name)
    else .ok resolution

/-- The node and slot that feed a slot of the site's node. -/
def source? (site : Site) (slot : Slot) : Option (GraphNode × Slot) := do
  let source ← site.links.source? ⟨site.node.id, slot⟩
  let node ← site.nodes.node? source.node
  some (node, source.slot)

/-- Resolve a socket that is fed by a link. -/
def resolveLink (site : Site) (resolution : Resolution) (slot : Slot) (socket : InputSocket) :
    Traced CompileError Resolution :=
  match site.source? slot with
  | none =>
    .ofExcept (.error
      (.linkDangling site.node.id site.node.classType socket.name slot socket.link))
  | some (source, sourceSlot) => do
    let expected := site.schema.kind? socket.name
    -- the value stored for a linked scalar is read and dropped
    let dropped := resolution.cursor.pop expected
    let scalar := site.schema.isScalar socket.name
    Traced.emitAll (if scalar then dropped.events expected else [])
    let resolution := if scalar then resolution.moveTo dropped.cursor else resolution
    if source.classType ≠ primitiveClass then
      pure (resolution.set socket.name (.reference source.id sourceSlot))
    else
      match source.values.first? with
      | some value =>
        Traced.emit (.inlined site.node.id source.id socket.name)
        pure (resolution.set socket.name (.value (inlineValue expected value)))
      | none => .ofExcept (site.fallback resolution socket.name)

/-- Resolve a socket that is bound to a stored value. -/
def resolveBinding (site : Site) (resolution : Resolution) (name binding : String) :
    Traced CompileError Resolution := do
  let expected := site.schema.kind? name
  let read := resolution.cursor.take binding expected
  Traced.emitAll (read.events expected)
  let resolution := resolution.moveTo read.cursor
  match read.value with
  | some value => .ofExcept (site.accept resolution name value)
  | none => .ofExcept (site.fallback resolution name)

/-- Resolve a socket; one without a link or a binding is left alone. -/
def resolveSocket (site : Site) (resolution : Resolution) (slot : Slot) (socket : InputSocket) :
    Traced CompileError Resolution :=
  if socket.isLinkBound then site.resolveLink resolution slot socket
  else
    match socket.widget with
    | some binding => site.resolveBinding resolution socket.name binding
    | none => pure resolution

/-- Read a declared scalar that is still unset from the buffer. -/
def backfill (site : Site) (resolution : Resolution) (name : String) (decl : TypeDecl) :
    Traced CompileError Resolution :=
  if resolution.isSet name || !isScalarType decl.typeName then pure resolution
  else do
    let expected := (classify decl.typeName).kind?
    let read := resolution.cursor.take name expected
    Traced.emitAll (read.events expected)
    let resolution := resolution.moveTo read.cursor
    match read.value with
    | some value => .ofExcept (site.accept resolution name value)
    | none => pure resolution

/-- Give a required input that is still unset its default, unless only a link can
    feed it. -/
def fillDefault (site : Site) (resolution : Resolution) (name : String) :
    Traced CompileError Resolution :=
  if resolution.isSet name || site.schema.isLinkTyped name then pure resolution
  else .ofExcept (site.fallback resolution name)

/-- The first pass, over sockets with their slots. -/
def resolveSockets (site : Site) (resolution : Resolution) :
    List (Slot × InputSocket) → Traced CompileError Resolution
  | [] => pure resolution
  | (slot, socket) :: rest => do
    let resolution ← site.resolveSocket resolution slot socket
    resolveSockets site resolution rest

/-- The second pass, over declared inputs. -/
def backfillAll (site : Site) (resolution : Resolution) :
    Entries TypeDecl → Traced CompileError Resolution
  | [] => pure resolution
  | (name, decl) :: rest => do
    let resolution ← site.backfill resolution name decl
    backfillAll site resolution rest

/-- The third pass, over required names. -/
def fillDefaults (site : Site) (resolution : Resolution) :
    List String → Traced CompileError Resolution
  | [] => pure resolution
  | name :: rest => do
    let resolution ← site.fillDefault resolution name
    fillDefaults site resolution rest

/-- Where every node starts: nothing is resolved or read. -/
def start (site : Site) : Resolution := { cursor := { buffer := site.node.values } }

/-- The three passes. -/
def resolve (site : Site) : Traced CompileError Resolution := do
  let resolution ← site.resolveSockets site.start site.node.slots
  let resolution ← site.backfillAll resolution site.schema.inputs
  site.fillDefaults resolution site.schema.required.keys

def compile (site : Site) : Traced CompileError CompiledNode := do
  let resolution ← site.resolve
  Traced.emit (.nodeCompiled site.node.id site.node.classType resolution.inputs.size
    resolution.cursor.consumed resolution.cursor.remaining)
  pure ⟨site.node.classType, resolution.inputs⟩

end Site

end PromptGraph
