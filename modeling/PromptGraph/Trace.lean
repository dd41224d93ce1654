import PromptGraph.Json.Decode
import PromptGraph.Schema.Kind
import PromptGraph.Workflow.NodeId

/-!
# Traces

What a run reports while it goes on, and computations that report.

A traced computation is a list of events together with a result, which may be an
error: what was reported before an error stays reported. The result alone is
that of the same computation without reports, and the simp lemmas say so for
each operation.

## Main definitions

* `Event`: Something that is reported, with its level, target, message and fields.
* `Traced`: Events and a result.

## Theorems

* `Traced.result_bind`, `Traced.events_bind`: The parts of a sequence.
-/

namespace PromptGraph

/-- Something that happened in a run. -/
inductive Event where
  /-- An entry of a registry payload does not decode. -/
  | entrySkipped (classType : String) (error : DecodeError)
  | fetching
  | fetched (classes : Nat)
  | compiling (nodes links : Nat) (strict : Bool)
  | classUnknown (classType : String)
  /-- A stored value does not fit and is passed over. -/
  | valueSkipped (position : Nat) (expected : Option Kind) (value : Json)
  /-- The value of a primitive node takes the place of a link to it. -/
  | inlined (node primitive : NodeId) (input : String)
  | nodeCompiled (node : NodeId) (classType : String) (inputs consumed unread : Nat)
  | compiled (nodes excluded : Nat)

/-- How important an event is. -/
inductive Level where
  | trace
  | debug
  | info
  | warn

namespace Level

def name : Level → String
  | .trace => "TRACE"
  | .debug => "DEBUG"
  | .info => "INFO"
  | .warn => "WARN"

end Level

namespace Event

def level : Event → Level
  | .entrySkipped _ _ | .classUnknown _ => .warn
  | .compiling _ _ _ | .compiled _ _ => .info
  | .valueSkipped _ _ _ => .trace
  | _ => .debug

/-- The part of the program that an event comes from. -/
def target : Event → String
  | .entrySkipped _ _ | .fetching | .fetched _ => "promptc_schema"
  | _ => "promptc_compiler"

def message : Event → String
  | .entrySkipped _ _ => "Skipping malformed registry entry"
  | .fetching => "Fetching schema registry"
  | .fetched _ => "Schema registry fetched"
  | .compiling _ _ _ => "Compiling workflow"
  | .classUnknown _ => "Node class not found in schema registry"
  | .valueSkipped _ _ _ => "Skipping mismatched buffer value"
  | .inlined _ _ _ => "Inlining primitive value"
  | .nodeCompiled _ _ _ _ _ => "Node compiled"
  | .compiled _ _ => "Workflow compiled"

def fields : Event → List (String × Json)
  | .entrySkipped classType error =>
    [("class_type", .str classType), ("error", .str error.message)]
  | .fetching => []
  | .fetched classes => [("classes", .nat classes)]
  | .compiling nodes links strict =>
    [("nodes", .nat nodes), ("links", .nat links), ("strict_types", .bool strict)]
  | .classUnknown classType => [("class_type", .str classType)]
  | .valueSkipped position expected value =>
    ("position", .nat position)
      :: Json.optionalMember "expected" (expected.map fun kind => .str kind.tag)
      ++ [("value", .str value.compact)]
  | .inlined node primitive input =>
    [("node_id", .str node), ("primitive_id", .str primitive), ("input", .str input)]
  | .nodeCompiled node classType inputs consumed unread =>
    [("node_id", .str node), ("class_type", .str classType), ("inputs", .nat inputs),
      ("consumed", .nat consumed), ("unread", .nat unread)]
  | .compiled nodes excluded => [("compiled", .nat nodes), ("excluded", .nat excluded)]

end Event

/-- Events, and the result or error that they led to. -/
structure Traced (ε α : Type) where
  events : List Event
  result : Except ε α

namespace Traced

variable {ε ε' α β : Type}

/-- A result without events. -/
def ofExcept (r : Except ε α) : Traced ε α := ⟨[], r⟩

def emit (event : Event) : Traced ε Unit := ⟨[event], .ok ()⟩

def emitAll (events : List Event) : Traced ε Unit := ⟨events, .ok ()⟩

/-- One computation after another. -/
def andThen (x : Traced ε α) (f : α → Traced ε β) : Traced ε β :=
  match x.result with
  | .ok a => ⟨x.events ++ (f a).events, (f a).result⟩
  | .error e => ⟨x.events, .error e⟩

instance : Monad (Traced ε) where
  pure a := ⟨[], .ok a⟩
  bind := andThen

/-- The computation with another type of errors. -/
def mapError (f : ε → ε') (x : Traced ε α) : Traced ε' α := ⟨x.events, x.result.mapError f⟩

@[simp] theorem result_pure (a : α) : (pure a : Traced ε α).result = .ok a := rfl

@[simp] theorem events_pure (a : α) : (pure a : Traced ε α).events = [] := rfl

@[simp] theorem result_ofExcept (r : Except ε α) : (ofExcept r).result = r := rfl

@[simp] theorem events_ofExcept (r : Except ε α) : (ofExcept r).events = [] := rfl

@[simp] theorem result_emit (event : Event) : (emit event : Traced ε Unit).result = .ok () := rfl

@[simp] theorem result_emitAll (events : List Event) :
    (emitAll events : Traced ε Unit).result = .ok () := rfl

theorem result_bind (x : Traced ε α) (f : α → Traced ε β) :
    (x >>= f).result = x.result >>= fun a => (f a).result := by
  cases h : x.result <;> simp [bind, andThen, h, Except.bind]

theorem events_bind (x : Traced ε α) (f : α → Traced ε β) :
    (x >>= f).events =
      x.events ++ match x.result with
        | .ok a => (f a).events
        | .error _ => [] := by
  cases h : x.result <;> simp [bind, andThen, h]

end Traced

end PromptGraph
