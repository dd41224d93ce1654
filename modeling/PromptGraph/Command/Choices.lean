import PromptGraph.Command.FilePath
import PromptGraph.Command.Setting
import PromptGraph.Compile.Options
import PromptGraph.Schema.ClientConfig
import PromptGraph.Text.Numeral

/-!
# Choices

The settings that a user has chosen so far. Each setting is chosen at most once,
by a text that has to be of its kind: a path is not empty, a flag is `true` or
`false`, and a number of seconds fits 64 bits.

What is not chosen on the command line is taken from the environment, and
defaults take the place of the rest.

## Main definitions

* `Choices`: The chosen settings.
* `Choices.choose?`: Choosing a setting.
* `Choices.addEnvironment?`: Choosing the rest from the environment.
* `Settings`: The settings of a run.
* `Choices.settle`: The choices over the defaults.
-/

namespace PromptGraph

/-- The settings that were chosen. -/
structure Choices where
  workflow : Option FilePath := none
  schemaFile : Option FilePath := none
  output : Option FilePath := none
  pretty : Option Bool := none
  options : CompileOptions.Choices := {}
  httpTimeout : Option UInt64 := none
  userAgent : Option String := none

namespace Choices

def flagOfText? : String → Option Bool
  | "true" => some true
  | "false" => some false
  | _ => none

def pathOfText? (text : String) : Option FilePath :=
  if text.isEmpty then none else some ⟨text⟩

/-- The number of seconds that a text writes: digits, perhaps after a plus. -/
def secondsOfText? (text : String) : Option UInt64 :=
  let digits := match text.toList with
    | '+' :: rest => rest
    | whole => whole
  if digits.isEmpty then none
  else (digitsOf 0 digits).bind fun n =>
    if n < UInt64.size then some (UInt64.ofNat n) else none

def isChosen (choices : Choices) : Setting → Bool
  | .workflow => choices.workflow.isSome
  | .schemaFile => choices.schemaFile.isSome
  | .output => choices.output.isSome
  | .pretty => choices.pretty.isSome
  | .baseUrl => choices.options.baseUrl.isSome
  | .strictTypes => choices.options.strictTypes.isSome
  | .fillDefaults => choices.options.fillDefaults.isSome
  | .httpTimeout => choices.httpTimeout.isSome
  | .httpUserAgent => choices.userAgent.isSome

/-- Set what a text writes for a setting, if it writes anything of that kind. -/
def set? (choices : Choices) (setting : Setting) (text : String) : Option Choices :=
  let options := choices.options
  match setting with
  | .workflow => (pathOfText? text).map fun p => { choices with workflow := some p }
  | .schemaFile => (pathOfText? text).map fun p => { choices with schemaFile := some p }
  | .output => (pathOfText? text).map fun p => { choices with output := some p }
  | .pretty => (flagOfText? text).map fun b => { choices with pretty := some b }
  | .baseUrl => some { choices with options := { options with baseUrl := some text } }
  | .strictTypes =>
    (flagOfText? text).map fun b =>
      { choices with options := { options with strictTypes := some b } }
  | .fillDefaults =>
    (flagOfText? text).map fun b =>
      { choices with options := { options with fillDefaults := some b } }
  | .httpTimeout => (secondsOfText? text).map fun n => { choices with httpTimeout := some n }
  | .httpUserAgent => some { choices with userAgent := some text }

/-- Choose a setting that was not chosen before. -/
def choose? (choices : Choices) (setting : Setting) (text : String) : Option Choices :=
  if choices.isChosen setting then none else choices.set? setting text

/-- Choose the settings that have a variable and were not chosen before. -/
def addEnvironment? (choices : Choices) (environment : String → Option String) :
    Option Choices :=
  Setting.all.foldlM (fun choices setting =>
    if choices.isChosen setting then some choices
    else match setting.variableName?.bind environment with
      | none => some choices
      | some text => choices.set? setting text) choices

end Choices

/-- The settings of a run. -/
structure Settings where
  workflow : Place
  /-- The saved payload that takes the place of the registry. -/
  schemaFile : Option FilePath
  output : Place
  pretty : Bool
  options : CompileOptions
  client : ClientConfig

/-- The choices over the defaults. -/
def Choices.settle (choices : Choices) : Settings where
  workflow := (choices.workflow.map Place.ofPath).getD .standard
  schemaFile := choices.schemaFile
  output := (choices.output.map Place.ofPath).getD .standard
  pretty := choices.pretty.getD false
  options := choices.options.settle
  client := ⟨choices.httpTimeout.getD defaultTimeout, choices.userAgent⟩

end PromptGraph
