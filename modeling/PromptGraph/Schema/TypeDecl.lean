import PromptGraph.Json.Decode
import PromptGraph.Schema.Kind

/-!
# Type Declarations

How a class declares one input: by a type name or by an inline list of choices,
with metadata such as the default value.

A declaration is written as a list of the type name or the choices and, if there
is any, the metadata. A bare type name is read too. Choices are written in place
of the type name, so an input that is declared by choices has to have the type
name of combos, or the name would be lost. A declaration carries the proof of it.

## Main definitions

* `TypeDecl`: A declaration.
* `TypeDecl.ofName`, `TypeDecl.combo`, `TypeDecl.withMetadata`: Making one.
* `TypeDecl.ofValue`, `TypeDecl.toJson`: Reading and writing a declaration.
-/

namespace PromptGraph

/-- The declaration of an input. -/
structure TypeDecl where
  typeName : String
  /-- The literal choices, if the input is declared by a list of them. -/
  choices? : Option (List Json)
  /-- What else is known of the input. -/
  metadata : OrderedMap Json
  /-- An input that is declared by choices is a combo. -/
  combo_of_choices : choices?.isSome = true → typeName = Kind.combo.tag

namespace TypeDecl

/-- A declaration by a type name, without metadata. -/
def ofName (name : String) : TypeDecl where
  typeName := name
  choices? := none
  metadata := .empty
  combo_of_choices := fun h => (by cases h)

/-- A declaration by a list of choices, without metadata. -/
def combo (choices : List Json) : TypeDecl where
  typeName := Kind.combo.tag
  choices? := some choices
  metadata := .empty
  combo_of_choices := fun _ => rfl

/-- The declaration with an entry of its metadata set. -/
def withMetadata (decl : TypeDecl) (key : String) (value : Json) : TypeDecl :=
  { decl with metadata := decl.metadata.insert key value }

/-- The declaration with its default value set. -/
def withDefault (decl : TypeDecl) (value : Json) : TypeDecl := decl.withMetadata "default" value

def default? (decl : TypeDecl) : Option Json := decl.metadata.get? "default"

/-- The declared type as it is written. -/
def typeJson (decl : TypeDecl) : Json :=
  match decl.choices? with
  | some choices => .arr choices
  | none => .str decl.typeName

def toJson (decl : TypeDecl) : Json :=
  if decl.metadata.isEmpty then .arr [decl.typeJson]
  else .arr [decl.typeJson, .obj decl.metadata.entries]

/-- The declaration without metadata that the first element of a list writes. -/
def ofTypeValue : Json → Except DataError TypeDecl
  | .str name => .ok (ofName name)
  | .arr choices => .ok (combo choices)
  | other => .error (.unsupported "type name" other)

/-- The metadata in the elements after the type; more than one are ignored. -/
def metadataOfValues : List Json → Except DataError (OrderedMap Json)
  | [] => .ok .empty
  | .null :: _ => .ok .empty
  | .obj members :: _ => .ok (.ofList members)
  | other :: _ => .error (.unsupported "declaration metadata" other)

/-- The declaration that a value writes. -/
def ofValue : Json → Except DataError TypeDecl
  | .str name => .ok (ofName name)
  | .arr [] => .error (.empty "type declaration")
  | .arr (first :: rest) => do
    let decl ← ofTypeValue first
    let metadata ← metadataOfValues rest
    .ok { decl with metadata }
  | other => .error (.unsupported "type declaration" other)

/-- Decode a declaration; the whole value is read before it is looked at. -/
def decoder : Decoder TypeDecl := fun d => do
  let j ← d.value
  (ofValue j).mapError .data

end TypeDecl

end PromptGraph
