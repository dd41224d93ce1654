import PromptGraph.Schema.Error
import PromptGraph.Url.Basic

/-!
# Registry Endpoints

Where a registry is asked for its catalog: the entry `object_info` of the place
that the address of the backend names.

## Main definitions

* `registryEndpoint`: The endpoint of a backend.
-/

namespace PromptGraph

/-- The name of the entry that serves the catalog. -/
def registryEntry : String := "object_info"

/-- The endpoint of the backend at an address. -/
def registryEndpoint (baseUrl : String) : Except RegistryError Url :=
  match Url.parse baseUrl with
  | .error error => .error (.invalidUrl baseUrl (.url error))
  | .ok url =>
    match url.childOfDirectory registryEntry with
    | some endpoint => .ok endpoint
    | none => .error (.invalidUrl baseUrl .opaquePath)

end PromptGraph
