import PromptGraph.Json.Decode
import PromptGraph.Url.Error

/-!
# Registry Errors

Why no registry catalog could be had, with the messages that are shown.

## Main definitions

* `AddressError`: Why an address is not that of a registry.
* `RequestFault`: Why a request had no answer.
* `RegistryError`: Why there is no catalog.
* `RegistryError.message`: The message of an error.
* `RegistryError.causes`: The messages of an error and of what lies under it.
-/

namespace PromptGraph

/-- Why an address is not that of a registry. -/
inductive AddressError where
  /-- It is not a URL. -/
  | url (error : UrlError)
  /-- It has no path that could be extended. -/
  | opaquePath
  deriving DecidableEq, Repr

def AddressError.message : AddressError → String
  | .url error => error.message
  | .opaquePath => "not a base url"

/-- Why a request had no answer. -/
inductive RequestFault where
  /-- The name that the client gives cannot stand in a header. -/
  | clientName
  /-- The scheme of the address is not one that can be asked. -/
  | scheme
  | unreachable
  deriving DecidableEq, Repr

/-- The messages of a request to a URL that had no answer, outermost first. -/
def RequestFault.causes (url : String) : RequestFault → List String
  | .clientName => ["builder error", "failed to parse header value"]
  | .scheme => ["builder error for url (" ++ url ++ ")", "URL scheme is not allowed"]
  | .unreachable =>
    ["error sending request for url (" ++ url ++ ")", "client error (Connect)",
      "tcp connect error", "Connection refused (os error 111)"]

/-- Why there is no catalog. -/
inductive RegistryError where
  /-- The request had no answer. -/
  | request (url : String) (fault : RequestFault)
  /-- The registry answered with a status that is not one of success. -/
  | status (url : String) (code : Nat)
  | decode (error : DecodeError)
  | notObject
  /-- A stored payload could not be read. -/
  | unreadable (path : String) (reason : String)
  /-- The address is not that of a registry. -/
  | invalidUrl (url : String) (reason : AddressError)

namespace RegistryError

def message : RegistryError → String
  | .request url fault =>
    "registry request to " ++ url ++ " failed: " ++ (fault.causes url).headD ""
  | .status url code => "registry at " ++ url ++ " returned HTTP " ++ integerText code
  | .decode error => "failed to decode registry payload: " ++ error.message
  | .notObject => "malformed registry payload: registry payload must be a JSON object"
  | .unreadable path reason =>
    "failed to read registry snapshot " ++ path ++ ": " ++ reason
  | .invalidUrl url reason => "invalid registry url " ++ url ++ ": " ++ reason.message

/-- The messages of an error and of what lies under it, outermost first. -/
def causes (error : RegistryError) : List String :=
  error.message :: match error with
    | .request url fault => fault.causes url
    | .decode inner => [inner.message]
    | .unreadable _ reason => [reason]
    | _ => []

end RegistryError

end PromptGraph
