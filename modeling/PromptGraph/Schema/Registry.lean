import PromptGraph.OnceCell
import PromptGraph.Schema.Catalog

/-!
# Registries

A registry fetches its catalog on the first look-up and answers every later one
from memory. The catalog is in a cell that the fetch fills. A failed fetch is
returned and fills nothing, so the next look-up tries again.

A source is known by the outcomes of its fetches, numbered from the first. A
registry carries the number of fetches made so far, so that sources may be
shared by several registries one after the other.

## Main definitions

* `Source`: The outcomes of successive fetches.
* `Source.fetch`: A fetch.
* `Registry`: A source, the number of its fetches, and the catalog once fetched.
* `Registry.catalog`: The catalog, fetched if need be.
* `Registry.ask`: A look-up in the catalog.
-/

namespace PromptGraph

/-- The outcome of each fetch from a source, counted from zero. -/
abbrev Source := Nat → Except RegistryError Catalog

/-- The source that fails `failures` times, with the given error, and then always
    serves a catalog. -/
def Source.failing (failures : Nat) (error : RegistryError) (catalog : Catalog) : Source :=
  fun n => if n < failures then .error error else .ok catalog

/-- A fetch from a source that has served some before; also their number after it. -/
def Source.fetch (source : Source) (fetches : Nat) : Nat × Traced RegistryError Catalog :=
  let outcome : Traced RegistryError Catalog := do
    Traced.emit .fetching
    let catalog ← Traced.ofExcept (source fetches)
    Traced.emit (.fetched catalog.size)
    pure catalog
  (fetches + 1, outcome)

/-- A registry over a source. -/
structure Registry where
  source : Source
  /-- The number of fetches that the source has served. -/
  fetches : Nat := 0
  /-- The catalog, once it has been fetched. -/
  loaded : OnceCell Catalog := .empty

namespace Registry

def isLoaded (registry : Registry) : Bool := registry.loaded.isFilled

/-- The catalog, fetched unless it is at hand. -/
def catalog (registry : Registry) : Registry × Traced RegistryError Catalog :=
  let (loaded, fetches, answer) :=
    registry.loaded.getOrTryInit registry.fetches registry.source.fetch
  ({ registry with fetches, loaded }, answer)

/-- A look-up in the catalog. -/
def ask {α : Type} (registry : Registry) (question : Catalog → α) :
    Registry × Traced RegistryError α :=
  let (registry, answer) := registry.catalog
  (registry, ⟨answer.events, answer.result.map question⟩)

def schema? (registry : Registry) (classType : String) :
    Registry × Traced RegistryError (Option ClassSchema) :=
  registry.ask (·.get? classType)

/-- The inputs of a class with their type names, required and then optional. -/
def inputs (registry : Registry) (classType : String) :
    Registry × Traced RegistryError (List (String × String)) :=
  registry.ask fun catalog =>
    ((catalog.get? classType).map fun schema =>
      schema.inputs.map fun e => (e.1, e.2.typeName)).getD []

def typeName? (registry : Registry) (classType input : String) :
    Registry × Traced RegistryError (Option String) :=
  registry.ask fun catalog => (catalog.get? classType).bind (·.typeName? input)

def decl? (registry : Registry) (classType input : String) :
    Registry × Traced RegistryError (Option TypeDecl) :=
  registry.ask fun catalog => (catalog.get? classType).bind (·.decl? input)

/-- What is shown of a registry. -/
def describe (registry : Registry) : String :=
  "SchemaRegistry \x7b loaded: " ++ (if registry.isLoaded then "true" else "false") ++ ", .. \x7d"

end Registry

end PromptGraph
