import PromptGraph.Schema.ClientConfig
import PromptGraph.Schema.Endpoint
import PromptGraph.Schema.Registry

/-!
# Registry Clients

A client asks the registry of a backend over HTTP. It is made from the address
of the backend, which has to be one of a registry, and from a configuration,
whose name for the client has to fit in a header. Making a client asks nothing.

## Main definitions

* `RegistryClient`: A client.
* `RegistryClient.make`: The client for a backend.
* `RegistryClient.source`: What the client fetches where no backend is reached.
-/

namespace PromptGraph

/-- A client that asks a registry over HTTP. -/
structure RegistryClient where
  endpoint : Url
  config : ClientConfig

namespace RegistryClient

/-- The client for the backend at an address. A wrong address is found before a
    wrong name. -/
def make (baseUrl : String) (config : ClientConfig) : Except RegistryError RegistryClient := do
  let endpoint ← registryEndpoint baseUrl
  if config.hasValidUserAgent then .ok ⟨endpoint, config⟩
  else .error (.request endpoint.text .clientName)

/-- Why a client gets no answer where no backend is reached. -/
def fault (client : RegistryClient) : RequestFault :=
  if client.endpoint.scheme = "http" ∨ client.endpoint.scheme = "https" then .unreachable
  else .scheme

/-- What a client fetches where no backend is reached: every time the same error. -/
def source (client : RegistryClient) : Source :=
  fun _ => .error (.request client.endpoint.text client.fault)

end RegistryClient

end PromptGraph
