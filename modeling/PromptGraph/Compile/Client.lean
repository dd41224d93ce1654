import PromptGraph.Compile.Error
import PromptGraph.Schema.Client

/-!
# Clients of Compile Options

Compile options name the backend whose registry is asked. The options are
checked before the client is made.

## Main definitions

* `CompileOptions.client`: The registry client that options ask for.
-/

namespace PromptGraph

/-- The registry client that options ask for. -/
def CompileOptions.client (options : CompileOptions) (config : ClientConfig) :
    Except CompileError RegistryClient :=
  if options.valid then (RegistryClient.make options.baseUrl config).mapError .registryFetch
  else .error .invalidOptions

end PromptGraph
