import PromptGraph.Json.Document
import PromptGraph.Json.Printer
import PromptGraph.Json.Reader
import PromptGraph.Text.Quoted

/-!
# Decoding

From documents to values of the library's types.

A decoder walks a document in the order of its text and stops at the first thing
that is wrong, a fault of the text or a value that does not fit. Records are
decoded from an object of named members, unknown names being skipped, or from a
list of their fields in order.

## Main definitions

* `DataError`: Why a value does not fit, with its message.
* `DecodeError`: A fault of the text or a value that does not fit.
* `Decoder`: A function that decodes a document.
* `Record`: The fields of a record and how a draft of it is completed.
* `Record.decode`: Decoding a record.
* `Decoder.ofBytes`, `Decoder.ofJson`: Running a decoder on a text or a value.
-/

namespace PromptGraph

/-- What a decoder found instead of what it expected. -/
inductive Found where
  | null
  | bool (value : Bool)
  | num (value : Number)
  | str (value : String)
  | sequence
  | map

namespace Found

def describe : Found → String
  | .null => "null"
  | .bool b => "boolean `" ++ (if b then "true" else "false") ++ "`"
  | .num (.int i _) => "integer `" ++ integerText i ++ "`"
  | .num (.double x) => "floating point `" ++ x.text ++ "`"
  | .str s => "string " ++ quoted s
  | .sequence => "sequence"
  | .map => "map"

end Found

/-- Why a value does not fit. -/
inductive DataError where
  | invalidType (found : Found) (expected : String)
  | invalidValue (found : Found) (expected : String)
  /-- A list that is too short or too long. -/
  | invalidLength (length : Nat) (expected : String)
  | missingField (name : String)
  | duplicateField (name : String)
  /-- None of several forms fits. -/
  | noVariant (name : String)
  /-- Neither a list nor an object. -/
  | notContainer (what : String) (found : Json)
  /-- A value whose form is not known. -/
  | unsupported (what : String) (found : Json)
  /-- A list without the element that has to be there. -/
  | empty (what : String)
  /-- A list with fewer elements than needed. -/
  | tooFew (what : String) (least found : Nat)
  /-- An element of a whole does not fit. -/
  | invalidPart (whole part : String) (cause : DataError)

namespace DataError

def message : DataError → String
  | .invalidType found expected =>
    "invalid type: " ++ found.describe ++ ", expected " ++ expected
  | .invalidValue found expected =>
    "invalid value: " ++ found.describe ++ ", expected " ++ expected
  | .invalidLength length expected =>
    "invalid length " ++ integerText length ++ ", expected " ++ expected
  | .missingField name => "missing field `" ++ name ++ "`"
  | .duplicateField name => "duplicate field `" ++ name ++ "`"
  | .noVariant name => "data did not match any variant of untagged enum " ++ name
  | .notContainer what found =>
    what ++ " must be an array or an object, found " ++ found.compact
  | .unsupported what found => "unsupported " ++ what ++ ": " ++ found.compact
  | .empty what => "empty " ++ what
  | .tooFew what least found =>
    what ++ " needs at least " ++ integerText least ++ " elements, found "
      ++ integerText found
  | .invalidPart whole part cause =>
    "invalid " ++ whole ++ " " ++ part ++ ": " ++ cause.message

end DataError

/-- Why decoding stopped. -/
inductive DecodeError where
  | text (fault : Fault)
  | data (error : DataError)

def DecodeError.message : DecodeError → String
  | .text .ended => "unexpected end of text"
  | .text .malformed => "malformed text"
  | .data error => error.message

/-- A function that decodes a document. -/
abbrev Decoder (α : Type) := Doc → Except DecodeError α

namespace Doc

/-- The whole document as a value. -/
def value : Decoder Json := fun d => d.toJson.mapError .text

/-- Pass over a document that nobody asks for. -/
def skip : Decoder Unit := fun d =>
  match d.skipFault with
  | some fault => .error (.text fault)
  | none => .ok ()

/-- The error of a document that is not what was expected. Lists and objects are
    refused at their opening bracket, all else after it was read. -/
def mismatch (d : Doc) (expected : String) : DecodeError :=
  match d with
  | .null => .data (.invalidType .null expected)
  | .bool b => .data (.invalidType (.bool b) expected)
  | .num n => .data (.invalidType (.num n) expected)
  | .str s => .data (.invalidType (.str s) expected)
  | .arr _ _ => .data (.invalidType .sequence expected)
  | .obj _ _ => .data (.invalidType .map expected)
  | .broken read _ => .text read

def string : Decoder String
  | .str s => .ok s
  | d => .error (d.mismatch "a string")

def boolean : Decoder Bool
  | .bool b => .ok b
  | d => .error (d.mismatch "a boolean")

/-- An unsigned integer below `bound`, a type called `name`. -/
def natural (name : String) (bound : Nat) : Decoder Nat
  | .num (.int i fits) =>
    if 0 ≤ i ∧ i < bound then .ok i.toNat
    else .error (.data (.invalidValue (.num (.int i fits)) name))
  | d => .error (d.mismatch name)

def u32 : Decoder UInt32 := fun d => (natural "u32" 0x100000000 d).map UInt32.ofNat

def u64 : Decoder UInt64 := fun d => (natural "u64" 0x10000000000000000 d).map UInt64.ofNat

/-- A number, rounded to a double. -/
def binary64 : Decoder Binary64
  | .num n => .ok n.toBinary64
  | d => .error (d.mismatch "f64")

/-- Null, or what `inner` decodes. -/
def nullable {α : Type} (inner : Decoder α) : Decoder (Option α)
  | .null => .ok none
  | d => (inner d).map some

/-- The fault after the last part of a list or object. -/
def finish (ending : Ending) : Except DecodeError Unit :=
  match ending.fault? with
  | some fault => .error (.text fault)
  | none => .ok ()

/-- The items of a list. -/
def items {α : Type} (item : Decoder α) : List Doc → Except DecodeError (List α)
  | [] => .ok []
  | d :: rest => do
    let a ← item d
    let more ← items item rest
    .ok (a :: more)

def list {α : Type} (item : Decoder α) : Decoder (List α)
  | .arr docs ending => do
    let values ← items item docs
    finish ending
    .ok values
  | d => .error (d.mismatch "a sequence")

/-- The name of a member. -/
def name (key : Except Fault String) : Except DecodeError String := key.mapError .text

/-- The members of an object, set one after the other. -/
def entries {α : Type} (item : Decoder α) (m : OrderedMap α) :
    List (Except Fault String × Doc) → Except DecodeError (OrderedMap α)
  | [] => .ok m
  | (key, d) :: rest => do
    let key ← name key
    let a ← item d
    entries item (m.insert key a) rest

/-- An object with arbitrary names. -/
def map {α : Type} (item : Decoder α) : Decoder (OrderedMap α)
  | .obj members ending => do
    let m ← entries item .empty members
    finish ending
    .ok m
  | d => .error (d.mismatch "a map")

end Doc

/-- A field of a record, for drafts of type `σ`. -/
structure Field (σ : Type) where
  name : String
  /-- Other names that its member may have. -/
  aliases : List String
  optional : Bool
  /-- Whether a draft has it. -/
  filled : σ → Bool
  /-- Decode it into a draft. -/
  read : Doc → σ → Except DecodeError σ

namespace Field

variable {σ α : Type}

/-- A field kept in a draft by `get` and `set`. -/
def make (name : String) (aliases : List String) (optional : Bool) (decoder : Decoder α)
    (get : σ → Option α) (set : σ → α → σ) : Field σ :=
  ⟨name, aliases, optional, fun s => (get s).isSome, fun d s => (decoder d).map (set s)⟩

/-- A field that must be there. -/
def required (name : String) (decoder : Decoder α) (get : σ → Option α) (set : σ → α → σ) :
    Field σ :=
  make name [] false decoder get set

/-- A field that may be absent. -/
def defaulted (name : String) (decoder : Decoder α) (get : σ → Option α) (set : σ → α → σ) :
    Field σ :=
  make name [] true decoder get set

/-- Whether a member's name is that of the field. -/
def isNamed (f : Field σ) (key : String) : Bool := f.name == key || f.aliases.contains key

end Field

/-- A record of type `α`: its fields and how it is made of a draft. -/
structure Record (σ α : Type) where
  name : String
  fields : List (Field σ)
  /-- The draft without any field. -/
  blank : σ
  /-- The record of a draft, unless a required field is absent. -/
  complete : σ → Except DecodeError α

namespace Record

variable {σ α : Type}

/-- A member of an object: a field of the record, or skipped. -/
def readMember (r : Record σ α) (key : String) (d : Doc) (s : σ) : Except DecodeError σ :=
  match r.fields.find? (·.isNamed key) with
  | none => do
    d.skip
    .ok s
  | some f =>
    if f.filled s then .error (.data (.duplicateField f.name)) else f.read d s

def readMembers (r : Record σ α) (s : σ) :
    List (Except Fault String × Doc) → Except DecodeError σ
  | [] => .ok s
  | (key, d) :: rest => do
    let key ← Doc.name key
    let s ← r.readMember key d s
    readMembers r s rest

/-- What a list of fields should have been. -/
def expectedLength (r : Record σ α) : String :=
  let count := r.fields.length
  "struct " ++ r.name ++ " with " ++ integerText count
    ++ (if count = 1 then " element" else " elements")

/-- The fields of a list, in order: `index` of them have been read, and a list at
    hand has `total` elements. -/
def readItems (r : Record σ α) (total : Nat) (ending : Ending) (index : Nat) (s : σ) :
    List (Field σ) → List Doc → Except DecodeError σ
  | [], [] => do
    Doc.finish ending
    .ok s
  | [], _ :: _ =>
    match ending with
    | .counted => .error (.data (.invalidLength total "fewer elements in array"))
    | _ => .error (.text .malformed)
  | f :: fields, [] => do
    Doc.finish ending
    if f.optional then readItems r total ending (index + 1) s fields []
    else .error (.data (.invalidLength index r.expectedLength))
  | f :: fields, d :: rest => do
    let s ← f.read d s
    readItems r total ending (index + 1) s fields rest

/-- Decode a record from an object of members or a list of fields. -/
def decode (r : Record σ α) : Decoder α
  | .obj members ending => do
    let s ← r.readMembers r.blank members
    Doc.finish ending
    r.complete s
  | .arr docs ending => do
    let s ← r.readItems docs.length ending 0 r.blank r.fields docs
    r.complete s
  | d => .error (d.mismatch ("struct " ++ r.name))

/-- A field that a draft must have. -/
def need (name : String) : Option α → Except DecodeError α
  | some a => .ok a
  | none => .error (.data (.missingField name))

end Record

namespace Decoder

variable {α : Type}

/-- Decode a value at hand. -/
def ofJson (decoder : Decoder α) (j : Json) : Except DecodeError α := decoder (.ofJson j)

/-- Decode a text. What follows the value is looked at last. -/
def ofBytes (decoder : Decoder α) (text : Bytes) : Except DecodeError α := do
  let reading := Doc.scan text
  let a ← decoder reading.doc
  match reading.rest with
  | some rest => if Doc.atEnd rest then .ok a else .error (.text .malformed)
  | none => .error (.text .malformed)

end Decoder

end PromptGraph
