import PromptGraph.Compile.Options
import PromptGraph.Schema.Error
import PromptGraph.Schema.Kind
import PromptGraph.Workflow.NodeId

/-!
# Compile Errors

Why a workflow has no prompt, with the messages that are shown.

## Main definitions

* `CompileError`: The causes.
* `CompileError.message`: The message of an error.
* `CompileError.node?`: The node that an error is about.
* `CompileError.causes`: The messages of an error and of what lies under it.
-/

namespace PromptGraph

/-- Why a workflow has no prompt. -/
inductive CompileError where
  | registryFetch (error : RegistryError)
  /-- A socket is fed by a link that leads from nowhere. -/
  | linkDangling (node : NodeId) (classType input : String) (slot : Slot) (link : Option LinkId)
  /-- A required input has neither a value nor a default. -/
  | missingRequiredInput (node : NodeId) (classType input : String)
  /-- A value does not fit the declared kind of its input. -/
  | typeMismatch (node : NodeId) (classType input : String) (expected : Kind) (value : Json)
  /-- The address of the registry is blank. -/
  | invalidOptions
  | serialization (error : DecodeError)

namespace CompileError

def message : CompileError → String
  | .registryFetch error => "failed to fetch schema registry: " ++ error.message
  | .linkDangling node classType input slot _ =>
    "node " ++ node ++ " (" ++ classType ++ "): input '" ++ input ++ "' on slot "
      ++ integerText slot.toNat ++ " has a dangling link"
  | .missingRequiredInput node classType input =>
    "node " ++ node ++ " (" ++ classType ++ "): required input '" ++ input ++ "' has no value"
  | .typeMismatch node classType input expected value =>
    "node " ++ node ++ " (" ++ classType ++ "): input '" ++ input ++ "' expected "
      ++ expected.tag ++ ", got " ++ value.typeName ++ " " ++ value.compact
  | .invalidOptions => "invalid compile options: " ++ CompileOptions.blankMessage
  | .serialization error => "serialization error: " ++ error.message

def node? : CompileError → Option NodeId
  | .linkDangling node _ _ _ _ | .missingRequiredInput node _ _ | .typeMismatch node _ _ _ _ =>
    some node
  | _ => none

/-- The messages of an error and of what lies under it, outermost first. -/
def causes (error : CompileError) : List String :=
  error.message :: match error with
    | .registryFetch inner => inner.causes
    | .serialization inner => [inner.message]
    | _ => []

end CompileError

end PromptGraph
