/-!
# Kinds of Inputs

Declared type names form an open vocabulary. A name is a scalar tag, in any case
of its letters, or an inline enumeration, which is any name with a comma; or one
of a fixed set of link types, letter for letter; or unknown. A scalar is carried
by value, a link type by reference, and an unknown type is taken for text.

## Main definitions

* `Kind`: The kinds of scalars.
* `linkTypes`: The type names passed by reference.
* `TypeClass`: What a type name is.
* `classify`: The class of a type name.
* `normalize`: A type name brought to a known one.
-/

namespace PromptGraph

/-- The kinds of values carried by value. -/
inductive Kind where
  | int
  | float
  | string
  | combo
  | boolean
  | file
  | enum
  deriving DecidableEq, Repr

namespace Kind

def all : List Kind := [.int, .float, .string, .combo, .boolean, .file, .enum]

def tag : Kind → String
  | .int => "INT"
  | .float => "FLOAT"
  | .string => "STRING"
  | .combo => "COMBO"
  | .boolean => "BOOLEAN"
  | .file => "FILE"
  | .enum => "ENUM"

def isNumeric : Kind → Bool
  | .int | .float => true
  | _ => false

def isTextual : Kind → Bool
  | .string | .combo | .file | .enum => true
  | _ => false

/-- Whether two names are equal up to the case of ASCII letters. -/
def sameLetters (s t : String) : Bool :=
  s.toList.map Char.toUpper == t.toList.map Char.toUpper

/-- The kind with a tag, in any case of its letters. -/
def ofTag? (name : String) : Option Kind := all.find? (sameLetters name ·.tag)

end Kind

/-- The type names passed by reference between nodes. -/
def linkTypes : List String := [
  "MODEL", "CLIP", "VAE", "CONDITIONING", "LATENT", "IMAGE", "MASK", "CONTROL_NET",
  "CLIP_VISION", "CLIP_VISION_OUTPUT", "STYLE_MODEL", "GLIGEN", "UPSCALE_MODEL", "SAMPLER",
  "SIGMAS", "NOISE", "GUIDER", "AUDIO", "VIDEO", "PHOTOMAKER", "INPAINT_PATCH"]

/-- What a declared type name is. -/
inductive TypeClass where
  /-- Carried by value. -/
  | scalar (kind : Kind)
  /-- Passed by reference. -/
  | link
  /-- Neither a scalar tag nor a link type. -/
  | unknown
  deriving DecidableEq, Repr

namespace TypeClass

def isScalar : TypeClass → Bool
  | .scalar _ => true
  | _ => false

def isLink : TypeClass → Bool
  | .link => true
  | _ => false

/-- The kind of value that an input of the type carries: text if the type is
    unknown, none if it is passed by reference. -/
def kind? : TypeClass → Option Kind
  | .scalar kind => some kind
  | .unknown => some .string
  | .link => none

end TypeClass

def classify (name : String) : TypeClass :=
  match Kind.ofTag? name with
  | some kind => .scalar kind
  | none =>
    if ',' ∈ name.toList then .scalar .enum
    else if name ∈ linkTypes then .link
    else .unknown

/-- Whether inputs of the type are carried by value. -/
def isScalarType (name : String) : Bool := (classify name).isScalar

/-- A type name brought to a known one: an inline enumeration to the tag of
    enumerations, an unknown name to the tag of text. -/
def normalize (name : String) : String :=
  match classify name with
  | .scalar .enum => if ',' ∈ name.toList then Kind.enum.tag else name
  | .scalar _ | .link => name
  | .unknown => Kind.string.tag

end PromptGraph
