import PromptGraph.Command.Arguments
import PromptGraph.Command.Host
import PromptGraph.Compile.Client
import PromptGraph.Compile.Graph

/-!
# Runs

A run reads the workflow, compiles it, and writes the prompt. Its catalog comes
from a saved payload if one is chosen, and else from the registry of the backend,
which is asked when the first node is compiled.

What is wrong is reported in this order: the places, the options, the workflow,
the saved payload or the address of the registry, the compile, and the writing.
Nothing is written unless all before it went well.

## Main definitions

* `Outcome`: How a run ends.
* `Settings.check`: What is wrong with settings before anything is read.
* `Settings.run`: The run that settings ask for.
* `runProgram`: The run that arguments and an environment ask for.
-/

namespace PromptGraph

/-- What went wrong, the last thing attempted first and its causes after it. -/
abbrev Chain := List String

/-- How a run ends. -/
inductive Outcome where
  | done
  | failed (chain : Chain)
  /-- The arguments or the environment are wrong. -/
  | misused
  deriving DecidableEq, Repr

namespace Outcome

def exitCode : Outcome → UInt32
  | done => 0
  | failed _ => 1
  | misused => 2

def errorText : Outcome → String
  | done => ""
  | failed chain => "Error: " ++ String.intercalate ": " chain ++ "\n"
  | misused => usageText

end Outcome

/-- A result, with what was attempted put before its causes. -/
def attempting {ε α : Type} (attempt : String) (causes : ε → Chain) (result : Except ε α) :
    Except Chain α :=
  result.mapError fun error => attempt :: causes error

namespace Place

/-- What reading a workflow at a place is called. -/
def readingWorkflow : Place → String
  | standard => "failed to read workflow from stdin"
  | file path => "failed to read workflow " ++ path.text

/-- What writing a prompt at a place is called. -/
def writingPrompt : Place → String
  | standard => "failed to write prompt to stdout"
  | file path => "failed to write prompt " ++ path.text

end Place

namespace Settings

/-- What is wrong with the places of settings. -/
def placeFault? (settings : Settings) : Option String :=
  if settings.schemaFile = some standardPath then some "schema file cannot be read from stdin"
  else match settings.workflow, settings.output with
    | .file workflow, .file output =>
      if workflow.same output then
        some ("output " ++ output.text ++ " would overwrite the workflow")
      else none
    | _, _ => none

/-- Check settings before anything is read. -/
def check (settings : Settings) : Except Chain Unit :=
  match settings.placeFault? with
  | some fault => .error ["invalid I/O configuration", fault]
  | none =>
    if settings.options.valid then .ok ()
    else .error ("invalid compile options" :: CompileError.invalidOptions.causes)

/-- A prompt as it is written out. -/
def render (settings : Settings) (prompt : CompiledPrompt) : Bytes :=
  utf8Bytes ((if settings.pretty then prompt.toJson.pretty else prompt.toJson.compact) ++ "\n")

variable {m : Type → Type} [Monad m]

def readWorkflow (settings : Settings) (host : Host m) : ExceptT Chain m WorkflowGraph := do
  let read ← host.read settings.workflow
  let text ← attempting settings.workflow.readingWorkflow (fun fault => [fault.message]) read
  attempting "failed to parse workflow" (fun error => (CompileError.serialization error).causes)
    (WorkflowGraph.decoder.ofBytes text)

/-- The source of the catalog: a saved payload, or the backend. -/
def source (settings : Settings) (host : Host m) : ExceptT Chain m Source :=
  match settings.schemaFile with
  | some path => do
    let read ← host.readFile path
    let payload := do
      let text ← read.mapError fun fault => RegistryError.unreadable path.text fault.message
      (Catalog.ofBytes text).result
    let catalog ←
      attempting ("failed to load schema file " ++ path.text) RegistryError.causes payload
    pure fun _ => .ok catalog
  | none => do
    let client ← attempting "failed to create registry client" CompileError.causes
      (settings.options.client settings.client)
    pure client.source

/-- The run that settings ask for. -/
def run (settings : Settings) (host : Host m) : ExceptT Chain m Unit := do
  settings.check
  let graph ← settings.readWorkflow host
  let source ← settings.source host
  let prompt ← attempting "failed to compile workflow" CompileError.causes
    (graph.compile settings.options source 0).run.result
  let written ← host.write settings.output (settings.render prompt)
  attempting settings.output.writingPrompt (fun fault => [fault.message]) written

end Settings

/-- The run that arguments and an environment ask for. -/
def runProgram {m : Type → Type} [Monad m] (host : Host m) (arguments : List String)
    (environment : String → Option String) : m Outcome :=
  match readSettings arguments environment with
  | .ok settings => do
    match ← (settings.run host).run with
    | .ok () => pure .done
    | .error chain => pure (.failed chain)
  | .error .misuse => pure .misused
  | .error .version => do
    let _ ← host.writeOutput (utf8Bytes versionText)
    pure .done
  | .error .help => do
    let _ ← host.writeOutput (utf8Bytes helpText)
    pure .done

end PromptGraph
