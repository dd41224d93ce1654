import PromptGraph.Command.Choices

/-!
# Arguments

Reading the arguments of the program. Each argument is an option by name, with
its value after an equals sign or in the next argument; an option by letter, with
its value right after it, after an equals sign, or in the next argument; or two
dashes, after which no argument may follow. There are no arguments of other
forms, so an argument that is no option is only good as the value of the one
before it.

Arguments are read from left to right up to the first that ends the reading: a
wrong one, or one that asks for the version or for help.

## Main definitions

* `Word`: The form of an argument.
* `Halt`: Why the reading ended early.
* `readArguments`: The choices that arguments make.
* `readSettings`: The settings of arguments and environment.
-/

namespace PromptGraph

/-- The form of an argument. -/
inductive Word where
  | separator
  | named (name : String) (value : Option String)
  | lettered (letter : Char) (value : Option String)
  /-- Anything else; a dash alone is no option. -/
  | plain (text : String)
  deriving DecidableEq, Repr

/-- The form of an argument. -/
def Word.ofText (text : String) : Word :=
  match text.toList with
  | ['-', '-'] => .separator
  | '-' :: '-' :: rest =>
    .named (String.ofList (rest.takeWhile (· ≠ '='))) (match rest.dropWhile (· ≠ '=') with
      | [] => none
      | _ :: value => some (String.ofList value))
  | '-' :: letter :: rest =>
    .lettered letter (match rest with
      | [] => none
      | '=' :: value => some (String.ofList value)
      | value => some (String.ofList value))
  | _ => .plain text

/-- Why the reading of arguments ended early. -/
inductive Halt where
  | version
  | help
  | misuse
  deriving DecidableEq, Repr

/-- What an argument asks for by itself. -/
inductive Demand where
  | choose (setting : Setting) (text : String)
  /-- To choose a setting by the next argument. -/
  | chooseByNext (setting : Setting)
  | halt (reason : Halt)
  | close
  deriving DecidableEq, Repr

namespace Demand

/-- What an option asks for. -/
def ofOption (setting : Setting) (value : Option String) : Demand :=
  match setting.isSwitch, value with
  | true, none => .choose setting "true"
  | true, some _ => .halt .misuse
  | false, some text => .choose setting text
  | false, none => .chooseByNext setting

/-- What an argument asks for. A letter that asks for the version or for help does
    so whatever follows it. -/
def ofWord : Word → Demand
  | .separator => .close
  | .named name value =>
    match Setting.ofOptionName? name, name, value with
    | some setting, _, _ => ofOption setting value
    | none, "version", none => .halt .version
    | none, "help", none => .halt .help
    | none, _, _ => .halt .misuse
  | .lettered letter value =>
    match Setting.ofLetter? letter, letter with
    | some setting, _ => ofOption setting value
    | none, 'V' => .halt .version
    | none, 'h' => .halt .help
    | none, _ => .halt .misuse
  | .plain _ => .halt .misuse

end Demand

/-- The value that an argument is for the option before it. -/
def valueOfArgument? (argument : String) : Option String :=
  match Word.ofText argument with
  | .plain text => some text
  | _ => none

/-- The choices that arguments make, after others. -/
def readArguments (choices : Choices) : List String → Except Halt Choices
  | [] => .ok choices
  | argument :: rest =>
    match Demand.ofWord (.ofText argument), rest with
    | .halt reason, _ => .error reason
    | .close, [] => .ok choices
    | .close, _ :: _ => .error .misuse
    | .choose setting text, rest =>
      match choices.choose? setting text with
      | some choices => readArguments choices rest
      | none => .error .misuse
    | .chooseByNext _, [] => .error .misuse
    | .chooseByNext setting, next :: rest =>
      match (valueOfArgument? next).bind (choices.choose? setting) with
      | some choices => readArguments choices rest
      | none => .error .misuse

/-- The settings of arguments and of an environment. -/
def readSettings (arguments : List String) (environment : String → Option String) :
    Except Halt Settings := do
  let choices ← readArguments {} arguments
  match choices.addEnvironment? environment with
  | some choices => .ok choices.settle
  | none => .error .misuse

end PromptGraph
