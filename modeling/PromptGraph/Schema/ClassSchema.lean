import PromptGraph.Schema.TypeDecl

/-!
# Class Schemas

The inputs that a node class declares: those it requires, those it may be given,
and hidden ones that the execution host supplies.

The order within each section is that in which the editor stores a node's
values, so it is kept. An input declared in several sections is looked up in the
first of them.

## Main definitions

* `ClassSchema`: The declared inputs of a class.
* `ClassSchema.inputs`: The required inputs and then the optional ones.
* `ClassSchema.decl?`: The declaration of an input.
* `ClassSchema.decoder`, `ClassSchema.toJson`: Reading and writing a schema.
-/

namespace PromptGraph

/-- The declared inputs of a node class. -/
structure ClassSchema where
  /-- Inputs that have to be resolved. -/
  required : OrderedMap TypeDecl := .empty
  /-- Inputs that may be left unset. -/
  optional : OrderedMap TypeDecl := .empty
  /-- Inputs that the execution host supplies. -/
  hidden : OrderedMap TypeDecl := .empty

namespace ClassSchema

def empty : ClassSchema := {}

instance : Inhabited ClassSchema := ⟨empty⟩

def withRequired (schema : ClassSchema) (name : String) (decl : TypeDecl) : ClassSchema :=
  { schema with required := schema.required.insert name decl }

def withOptional (schema : ClassSchema) (name : String) (decl : TypeDecl) : ClassSchema :=
  { schema with optional := schema.optional.insert name decl }

def withHidden (schema : ClassSchema) (name : String) (decl : TypeDecl) : ClassSchema :=
  { schema with hidden := schema.hidden.insert name decl }

/-- The required inputs and then the optional ones, in the order declared. -/
def inputs (schema : ClassSchema) : Entries TypeDecl :=
  schema.required.entries ++ schema.optional.entries

/-- The declaration of an input: as required, else as optional, else as hidden. -/
def decl? (schema : ClassSchema) (name : String) : Option TypeDecl :=
  (schema.required.get? name).or ((schema.optional.get? name).or (schema.hidden.get? name))

def typeName? (schema : ClassSchema) (name : String) : Option String :=
  (schema.decl? name).map TypeDecl.typeName

def default? (schema : ClassSchema) (name : String) : Option Json :=
  (schema.decl? name).bind TypeDecl.default?

def isRequired (schema : ClassSchema) (name : String) : Bool := schema.required.contains name

/-- The kind of value that an input takes; none if any value will do. -/
def kind? (schema : ClassSchema) (name : String) : Option Kind :=
  (schema.typeName? name).bind fun type => (classify type).kind?

/-- Whether an input is declared as a scalar. -/
def isScalar (schema : ClassSchema) (name : String) : Bool :=
  (schema.typeName? name).any isScalarType

/-- Whether an input is declared with a link type. -/
def isLinkTyped (schema : ClassSchema) (name : String) : Bool :=
  (schema.typeName? name).any fun type => (classify type).isLink

/-- A section as a member, unless it is empty. -/
def sectionJson (name : String) (inputs : OrderedMap TypeDecl) : List (String × Json) :=
  if inputs.isEmpty then []
  else [(name, .obj (inputs.map TypeDecl.toJson).entries)]

def toJson (schema : ClassSchema) : Json :=
  .obj (sectionJson "required" schema.required
    ++ sectionJson "optional" schema.optional
    ++ sectionJson "hidden" schema.hidden)

/-- The sections of a schema as far as they have been read. -/
structure Draft where
  required : Option (OrderedMap TypeDecl) := none
  optional : Option (OrderedMap TypeDecl) := none
  hidden : Option (OrderedMap TypeDecl) := none

def record : Record Draft ClassSchema where
  name := "ClassSchema"
  fields := [
    .defaulted "required" (Doc.map TypeDecl.decoder) (·.required)
      fun s a => { s with required := some a },
    .defaulted "optional" (Doc.map TypeDecl.decoder) (·.optional)
      fun s a => { s with optional := some a },
    .defaulted "hidden" (Doc.map TypeDecl.decoder) (·.hidden)
      fun s a => { s with hidden := some a }]
  blank := {}
  complete := fun s =>
    .ok ⟨s.required.getD .empty, s.optional.getD .empty, s.hidden.getD .empty⟩

def decoder : Decoder ClassSchema := record.decode

end ClassSchema

/-- A registry's record of a node class, of which only the inputs matter. -/
structure ClassRecord where
  input : ClassSchema := .empty

namespace ClassRecord

/-- A class record as far as it has been read. -/
structure Draft where
  input : Option ClassSchema := none

def record : Record Draft ClassRecord where
  name := "ClassRecord"
  fields := [.defaulted "input" ClassSchema.decoder (·.input)
    fun s a => { s with input := some a }]
  blank := {}
  complete := fun s => .ok ⟨s.input.getD .empty⟩

def decoder : Decoder ClassRecord := record.decode

end ClassRecord

end PromptGraph
