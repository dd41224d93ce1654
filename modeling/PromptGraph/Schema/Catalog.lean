import PromptGraph.Schema.ClassSchema
import PromptGraph.Schema.Error
import PromptGraph.Trace

/-!
# Schema Catalogs

The schemas of all node classes that a registry knows.

A registry's payload is an object with an entry for each class; some transports
wrap it as the member `nodes` of another object. A member `nodes` that is itself
the record of a class, having an `input`, is no wrapper. Entries that do not
decode are skipped and reported.

## Main definitions

* `Catalog`: The schemas by class.
* `Catalog.unwrap`: The class entries of a payload.
* `Catalog.ofJson`, `Catalog.ofBytes`: Reading a payload.
-/

namespace PromptGraph

/-- The schemas of the known classes. -/
structure Catalog where
  classes : OrderedMap ClassSchema := .empty

namespace Catalog

def empty : Catalog := {}

def get? (catalog : Catalog) (classType : String) : Option ClassSchema :=
  catalog.classes.get? classType

def contains (catalog : Catalog) (classType : String) : Bool :=
  catalog.classes.contains classType

def insert (catalog : Catalog) (classType : String) (schema : ClassSchema) : Catalog :=
  ⟨catalog.classes.insert classType schema⟩

def size (catalog : Catalog) : Nat := catalog.classes.size

/-- The class entries of a payload: those of its member `nodes` if that is a map of
    classes, else its own members. -/
def unwrap (members : List (String × Json)) : List (String × Json) :=
  match members.lookup "nodes" with
  | some (.obj inner) => if (inner.lookup "input").isSome then members else inner
  | _ => members

/-- The schema that an entry of a payload writes. -/
def schemaOfEntry (entry : Json) : Except DecodeError ClassSchema :=
  (ClassRecord.decoder.ofJson entry).map ClassRecord.input

/-- Add the entries of a payload, skipping those that do not decode. -/
def addEntries (catalog : Catalog) : List (String × Json) → Catalog × List Event
  | [] => (catalog, [])
  | (classType, entry) :: rest =>
    match schemaOfEntry entry with
    | .ok schema => addEntries (catalog.insert classType schema) rest
    | .error error =>
      let (catalog, events) := addEntries catalog rest
      (catalog, .entrySkipped classType error :: events)

/-- The catalog of a payload. -/
def ofJson : Json → Traced RegistryError Catalog
  | .obj members =>
    let (catalog, events) := addEntries empty (unwrap members)
    ⟨events, .ok catalog⟩
  | _ => ⟨[], .error .notObject⟩

/-- The catalog of a payload given as text. -/
def ofBytes (text : Bytes) : Traced RegistryError Catalog :=
  match Decoder.ofBytes Doc.value text with
  | .ok j => ofJson j
  | .error error => ⟨[], .error (.decode error)⟩

end Catalog

end PromptGraph
