import PromptGraph.Command.Run

/-!
# The Command Line

The program itself: a run on the machine.
-/

namespace PromptGraph

/-- The fault with a number as the machine reports it, which may be its negation in
    32 bits. -/
def faultOfNumber (number : UInt32) (reason : String) : FileFault :=
  .ofCode (if number < 0x80000000 then number else -number).toNat reason

/-- The fault that an error of the machine is. -/
def faultOfError : IO.Error → FileFault
  | .noFileOrDirectory _ number reason | .inappropriateType _ number reason
  | .permissionDenied _ number reason | .resourceExhausted _ number reason
  | .invalidArgument _ number reason | .alreadyExists _ number reason
  | .noSuchThing _ number reason | .otherError number reason | .resourceBusy number reason
  | .resourceVanished number reason | .unsupportedOperation number reason
  | .hardwareFault number reason | .unsatisfiedConstraints number reason
  | .illegalOperation number reason | .protocolError number reason
  | .timeExpired number reason => faultOfNumber number reason
  | error => ⟨toString error, 0⟩

/-- The result of an action, or the fault that it met. -/
def attempt {α : Type} (action : IO α) : IO (Except FileFault α) := do
  match ← action.toBaseIO with
  | .ok value => pure (.ok value)
  | .error error => pure (.error (faultOfError error))

/-- The machine that the program runs on. -/
def machine : Host IO where
  readInput := attempt do
    let content ← (← IO.getStdin).readBinToEnd
    pure content.toList
  readFile path := attempt do
    let content ← IO.FS.readBinFile path.text
    pure content.toList
  writeOutput content := attempt do
    let output ← IO.getStdout
    output.write (ByteArray.mk content.toArray)
    output.flush
  writeFile path content := attempt (IO.FS.writeBinFile path.text (ByteArray.mk content.toArray))

/-- The environment, as far as settings are taken from it. -/
def settingVariables : IO (List (String × String)) := do
  let names := Setting.all.filterMap Setting.variableName?
  names.filterMapM fun name => do
    let value ← IO.getEnv name
    pure (value.map fun text => (name, text))

end PromptGraph

def main (arguments : List String) : IO UInt32 := do
  let environment ← PromptGraph.settingVariables
  let outcome ← PromptGraph.runProgram PromptGraph.machine arguments (environment.lookup ·)
  IO.eprint outcome.errorText
  pure outcome.exitCode
