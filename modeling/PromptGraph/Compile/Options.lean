import PromptGraph.Json.Decode
import PromptGraph.Text.Blank

/-!
# Compile Options

What a user chooses for a compile: where the registry is, whether values have to
fit their declared types, and whether defaults are filled in. The address must
not be blank, which is checked before anything is compiled.

## Main definitions

* `CompileOptions`: The options.
* `CompileOptions.valid`: Whether the address is not blank.
* `CompileOptions.Choices`: The options that were chosen, over the defaults.
* `CompileOptions.decoder`, `CompileOptions.toJson`: Reading and writing options.
-/

namespace PromptGraph

/-- What a user chooses for a compile. -/
structure CompileOptions where
  baseUrl : String := "http://127.0.0.1:8188"
  /-- Whether values have to fit and required inputs have to be resolved. -/
  strictTypes : Bool := true
  /-- Whether defaults are filled in; kept, but without effect on a compile. -/
  fillDefaults : Bool := false
  deriving DecidableEq

namespace CompileOptions

/-- Whether the options can be compiled with. -/
def valid (options : CompileOptions) : Bool := !isBlankText options.baseUrl

/-- What is wrong with options that are not valid. -/
def blankMessage : String := "base_url must not be empty"

/-- The options that were chosen. -/
structure Choices where
  baseUrl : Option String := none
  strictTypes : Option Bool := none
  fillDefaults : Option Bool := none

namespace Choices

/-- The choices over the defaults. -/
def settle (choices : Choices) : CompileOptions :=
  let defaults : CompileOptions := {}
  ⟨choices.baseUrl.getD defaults.baseUrl, choices.strictTypes.getD defaults.strictTypes,
    choices.fillDefaults.getD defaults.fillDefaults⟩

/-- The options of choices; an address that was chosen must not be blank. -/
def build? (choices : Choices) : Option CompileOptions :=
  if choices.baseUrl.any isBlankText then none else some choices.settle

end Choices

def record : Record Choices CompileOptions where
  name := "CompileOptions"
  fields := [
    .make "baseUrl" ["base_url"] true Doc.string (·.baseUrl)
      fun s a => { s with baseUrl := some a },
    .make "strictTypes" ["strict_types"] true Doc.boolean (·.strictTypes)
      fun s a => { s with strictTypes := some a },
    .make "fillDefaults" ["fill_defaults"] true Doc.boolean (·.fillDefaults)
      fun s a => { s with fillDefaults := some a }]
  blank := {}
  complete := fun s => .ok s.settle

def decoder : Decoder CompileOptions := record.decode

def toJson (options : CompileOptions) : Json :=
  .obj [("baseUrl", .str options.baseUrl), ("strictTypes", .bool options.strictTypes),
    ("fillDefaults", .bool options.fillDefaults)]

end CompileOptions

end PromptGraph
