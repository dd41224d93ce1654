/-!
# Settings

What can be set for a run of the compiler. A setting is given by an option on the
command line, most of them also by a variable of the environment. Two settings
are switches, whose options stand alone; the options of all others take a value.

## Main definitions

* `Setting`: The settings.
* `Setting.optionName`, `Setting.letter?`: How a setting is called on the command line.
* `Setting.variableName?`: How it is called in the environment.
* `Setting.isSwitch`: Whether its option stands alone.
* `Setting.help`: The settings as they are shown to a user.
-/

namespace PromptGraph

/-- What can be set for a run. -/
inductive Setting where
  | workflow
  | schemaFile
  | output
  | pretty
  | baseUrl
  | strictTypes
  | fillDefaults
  | httpTimeout
  | httpUserAgent
  deriving DecidableEq, Repr

namespace Setting

/-- The settings, in the order in which they are looked up. -/
def all : List Setting :=
  [workflow, schemaFile, output, pretty, baseUrl, strictTypes, fillDefaults, httpTimeout,
    httpUserAgent]

/-- The name of an option, without the dashes before it. -/
def optionName : Setting → String
  | workflow => "workflow"
  | schemaFile => "schema-file"
  | output => "output"
  | pretty => "pretty"
  | baseUrl => "base-url"
  | strictTypes => "strict-types"
  | fillDefaults => "fill-defaults"
  | httpTimeout => "http-timeout"
  | httpUserAgent => "http-user-agent"

/-- The letter that stands for an option. -/
def letter? : Setting → Option Char
  | workflow => some 'w'
  | schemaFile => some 's'
  | output => some 'o'
  | _ => none

/-- The variable that a setting is taken from when its option is absent. -/
def variableName? : Setting → Option String
  | workflow => some "PROMPTC_WORKFLOW"
  | schemaFile => some "PROMPTC_SCHEMA_FILE"
  | output => some "PROMPTC_OUTPUT"
  | pretty => none
  | baseUrl => some "PROMPTC_BASE_URL"
  | strictTypes => some "PROMPTC_STRICT_TYPES"
  | fillDefaults => some "PROMPTC_FILL_DEFAULTS"
  | httpTimeout => some "HTTP_TIMEOUT"
  | httpUserAgent => some "HTTP_USER_AGENT"

/-- Whether an option stands alone and takes no value. -/
def isSwitch : Setting → Bool
  | pretty | fillDefaults => true
  | _ => false

def ofOptionName? (name : String) : Option Setting := all.find? (·.optionName == name)

def ofLetter? (letter : Char) : Option Setting := all.find? (·.letter? == some letter)

/-- What a setting is for, in a line. -/
def purpose : Setting → String
  | workflow => "Workflow graph to compile, - for standard input"
  | schemaFile => "Saved registry payload, used instead of the backend"
  | output => "File the compiled prompt is written to, - for standard output"
  | pretty => "Pretty-print the compiled prompt"
  | baseUrl => "Base URL of the backend serving the schema registry"
  | strictTypes => "Validate resolved values and reject missing required inputs (true or false)"
  | fillDefaults => "Reserved, without effect"
  | httpTimeout => "Registry request timeout in seconds"
  | httpUserAgent => "User-Agent header to send with registry requests"

/-- A setting as it is shown to a user. -/
def help (setting : Setting) : String :=
  let letter := match setting.letter? with
    | some c => "  -" ++ String.singleton c ++ ", --"
    | none => "      --"
  let source := match setting.variableName? with
    | some name => " [env: " ++ name ++ "]"
    | none => ""
  letter ++ setting.optionName ++ (if setting.isSwitch then "" else " <VALUE>") ++ "\n          "
    ++ setting.purpose ++ source ++ "\n"

end Setting

def programName : String := "promptc"

/-- What is shown of the version. -/
def versionText : String := programName ++ " 0.1.0\n"

/-- How the program is called. -/
def usageText : String := "Usage: " ++ programName ++ " [OPTIONS]\n"

def helpText : String :=
  "Compiles editor workflow graphs into execution-ready prompts\n\n" ++ usageText
    ++ "\nOptions:\n" ++ String.join (Setting.all.map Setting.help)
    ++ "  -h, --help\n          Print help\n  -V, --version\n          Print version\n"

end PromptGraph
