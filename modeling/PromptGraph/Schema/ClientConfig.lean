import PromptGraph.Json.Decode
import PromptGraph.Workflow.NodeId

/-!
# Client Configuration

How the registry is asked over HTTP: how long an answer may take and what name
the client gives. A time limit of zero is taken for the default.

## Main definitions

* `ClientConfig`: The configuration.
* `ClientConfig.effectiveTimeout`, `ClientConfig.effectiveUserAgent`: What is used.
* `ClientConfig.hasValidUserAgent`: Whether the name can be given in a header.
* `ClientConfig.decoder`, `ClientConfig.toJson`: Reading and writing.
-/

namespace PromptGraph

/-- The time limit, in seconds, unless another is chosen. -/
def defaultTimeout : UInt64 := 30

/-- The name of the client unless another is chosen. -/
def defaultUserAgent : String := "promptc/0.1.0"

/-- How the registry is asked. -/
structure ClientConfig where
  httpTimeout : UInt64 := defaultTimeout
  userAgent : Option String := none
  deriving DecidableEq

namespace ClientConfig

def effectiveTimeout (config : ClientConfig) : UInt64 :=
  if config.httpTimeout = 0 then defaultTimeout else config.httpTimeout

def effectiveUserAgent (config : ClientConfig) : String :=
  config.userAgent.getD defaultUserAgent

/-- Whether a text can be the value of a header: no control characters but tabs. -/
def isHeaderValue (text : String) : Bool :=
  text.toList.all fun c => (32 ≤ c.toNat && c.toNat != 127) || c == '\t'

/-- Whether the name of the client can be given. -/
def hasValidUserAgent (config : ClientConfig) : Bool := isHeaderValue config.effectiveUserAgent

/-- A configuration as far as it has been read. -/
structure Draft where
  httpTimeout : Option UInt64 := none
  userAgent : Option (Option String) := none

def record : Record Draft ClientConfig where
  name := "RegistryConfig"
  fields := [
    .defaulted "http_timeout" Doc.u64 (·.httpTimeout) fun s a => { s with httpTimeout := some a },
    .defaulted "user_agent" (Doc.nullable Doc.string) (·.userAgent)
      fun s a => { s with userAgent := some a }]
  blank := {}
  complete := fun s => .ok ⟨s.httpTimeout.getD defaultTimeout, s.userAgent.getD none⟩

def decoder : Decoder ClientConfig := record.decode

def toJson (config : ClientConfig) : Json :=
  .obj [("http_timeout", jsonOfUInt64 config.httpTimeout),
    ("user_agent", (config.userAgent.map Json.str).getD .null)]

end ClientConfig

end PromptGraph
