import PromptGraph.Schema.Registry

/-!
# Look-Ups in a Registry

A registry as a machine that look-ups go through one after the other.

The machine has two kinds of states. Before a fetch has succeeded, the registry knows nothing
but how often it has fetched, and each look-up fetches once. If that fails the error is the
result, and the registry is as it was but for the count. The first fetch that succeeds decides
about all that follows: the registry keeps the catalog, no look-up fetches again, and every
answer is computed from it. What the source would give after that is never asked for.

The look-ups differ in their answers only. To a registry each of them is a question about the
catalog, so the steps of the machine are the same for all. There are three, one for each case of the
cell that has the catalog: it is filled, or this fetch fills it, or this fetch fails.

## Main definitions

* `Lookup`: A look-up, with all that it is made for.
* `Lookup.answer`: The answer that a catalog gives.
* `Lookup.run`: What a registry makes of a look-up.
* `Source.Fails`: A fetch from a source fails.
* `Registry.after`: The registry after several look-ups.

## Theorems

* `Source.fetch_ok`, `Source.fetch_error`: What a fetch gives and reports.
* `Registry.ask_of_loaded`, `Registry.ask_of_served`, `Registry.ask_of_failing`: The steps.
* `Lookup.run_eq_ask`: Each look-up is a question about the catalog.
* `Registry.after_of_failing`, `Registry.after_of_served`: The states that look-ups lead to.
* `Registry.lookup_after`: What any look-up does in them.
-/

namespace PromptGraph

/-- A look-up in a registry. -/
inductive Lookup where
  /-- The whole catalog. -/
  | whole
  | schemaOf (classType : String)
  /-- The inputs of a class with their type names. -/
  | inputsOf (classType : String)
  | typeNameOf (classType input : String)
  | declOf (classType input : String)

namespace Lookup

/-- What is asked for by a look-up. -/
def Answer : Lookup → Type
  | .whole => Catalog
  | .schemaOf _ => Option ClassSchema
  | .inputsOf _ => List (String × String)
  | .typeNameOf _ _ => Option String
  | .declOf _ _ => Option TypeDecl

/-- The answer that a catalog gives. Of a class that it does not know there is nothing to list
    or to find. -/
def answer : (lookup : Lookup) → Catalog → lookup.Answer
  | .whole, catalog => catalog
  | .schemaOf classType, catalog => catalog.get? classType
  | .inputsOf classType, catalog =>
    match catalog.get? classType with
    | some schema => schema.inputs.map fun e => (e.1, e.2.typeName)
    | none => []
  | .typeNameOf classType input, catalog => (catalog.get? classType).bind (·.typeName? input)
  | .declOf classType input, catalog => (catalog.get? classType).bind (·.decl? input)

/-- What a registry makes of a look-up. -/
def run (registry : Registry) : (lookup : Lookup) →
    Registry × Traced RegistryError lookup.Answer
  | .whole => registry.catalog
  | .schemaOf classType => registry.schema? classType
  | .inputsOf classType => registry.inputs classType
  | .typeNameOf classType input => registry.typeName? classType input
  | .declOf classType input => registry.decl? classType input

/-- To a registry each look-up is a question about the catalog. -/
theorem run_eq_ask (lookup : Lookup) (registry : Registry) :
    lookup.run registry = registry.ask lookup.answer := by
  cases lookup with
  | whole =>
      -- The question is the catalog itself, so the result is passed on as it is.
      unfold run Registry.ask
      rcases registry.catalog with ⟨next, events, result⟩
      cases result <;> rfl
  | inputsOf classType =>
      unfold run Registry.inputs
      refine congrArg registry.ask (funext fun catalog => ?_)
      simp only [answer]
      cases catalog.get? classType <;> rfl
  | schemaOf classType | typeNameOf classType input | declOf classType input => rfl

end Lookup

namespace Source

variable (source : Source) (n : Nat)

/-- A fetch from a source fails. -/
def Fails : Prop := ∃ failure, source n = .error failure

theorem fetch_ok (catalog : Catalog) (h : source n = .ok catalog) :
    source.fetch n = (n + 1, ⟨[.fetching, .fetched catalog.size], .ok catalog⟩) := by
  unfold fetch
  rw [h]
  rfl

theorem fetch_error (failure : RegistryError) (h : source n = .error failure) :
    source.fetch n = (n + 1, ⟨[.fetching], .error failure⟩) := by
  unfold fetch
  rw [h]
  rfl

end Source

namespace Registry

section Steps

variable {α : Type} (question : Catalog → α) (source : Source) (fetches : Nat)

/-- With the catalog at hand a question is answered from it, and nothing is fetched. -/
theorem ask_of_loaded (registry : Registry) (catalog : Catalog)
    (h : registry.loaded = .filled catalog) :
    registry.ask question = (registry, ⟨[], .ok (question catalog)⟩) := by
  unfold ask Registry.catalog
  rw [h, OnceCell.getOrTryInit_filled]
  rcases registry with ⟨source, fetches, loaded⟩
  obtain rfl : loaded = .filled catalog := h
  rfl

/-- Without it a fetch is made, and if that succeeds the catalog is kept. -/
theorem ask_of_served (catalog : Catalog) (h : source fetches = .ok catalog) :
    ask ⟨source, fetches, .empty⟩ question =
      (⟨source, fetches + 1, .filled catalog⟩,
        ⟨[.fetching, .fetched catalog.size], .ok (question catalog)⟩) := by
  have hfetch := source.fetch_ok fetches catalog h
  have hkept := OnceCell.getOrTryInit_ok fetches source.fetch catalog (by rw [hfetch])
  unfold ask Registry.catalog
  simp only [hkept, hfetch]
  rfl

/-- If the fetch fails nothing is kept. -/
theorem ask_of_failing (failure : RegistryError) (h : source fetches = .error failure) :
    ask ⟨source, fetches, .empty⟩ question =
      (⟨source, fetches + 1, .empty⟩, ⟨[.fetching], .error failure⟩) := by
  have hfetch := source.fetch_error fetches failure h
  have hempty := OnceCell.getOrTryInit_error fetches source.fetch failure (by rw [hfetch])
  unfold ask Registry.catalog
  simp only [hempty, hfetch]
  rfl

end Steps

/-- The registry after look-ups that are made one after the other. -/
def after (registry : Registry) (lookups : List Lookup) : Registry :=
  lookups.foldl (fun registry lookup => (lookup.run registry).1) registry

theorem after_append (registry : Registry) (front back : List Lookup) :
    registry.after (front ++ back) = (registry.after front).after back :=
  List.foldl_append

theorem after_cons (registry : Registry) (lookup : Lookup) (rest : List Lookup) :
    registry.after (lookup :: rest) = (lookup.run registry).1.after rest := rfl

/-- With the catalog at hand look-ups leave the registry as it is. -/
theorem after_of_loaded (registry : Registry) (catalog : Catalog)
    (h : registry.loaded = .filled catalog) (lookups : List Lookup) :
    registry.after lookups = registry := by
  induction lookups with
  | nil => rfl
  | cons lookup rest ih =>
      rw [after_cons, lookup.run_eq_ask, ask_of_loaded _ registry catalog h]
      exact ih

variable (source : Source)

/-- While fetches fail, look-ups are counted and leave nothing else. -/
theorem after_of_failing (fetches : Nat) (lookups : List Lookup)
    (h : ∀ i < lookups.length, source.Fails (fetches + i)) :
    after ⟨source, fetches, .empty⟩ lookups = ⟨source, fetches + lookups.length, .empty⟩ := by
  induction lookups generalizing fetches with
  | nil => rfl
  | cons lookup rest ih =>
      rcases h 0 (Nat.zero_lt_succ _) with ⟨failure, hfailure⟩
      have hrest : ∀ i < rest.length, source.Fails (fetches + 1 + i) := by
        intro i hi
        rw [Nat.add_assoc, Nat.add_comm 1 i]
        exact h (i + 1) (Nat.succ_lt_succ hi)
      rw [after_cons, lookup.run_eq_ask, ask_of_failing _ source fetches failure hfailure,
        ih (fetches + 1) hrest, List.length_cons, Nat.add_assoc, Nat.add_comm 1]

/-- Once a fetch has succeeded, the registry has the catalog of the first one that did. -/
theorem after_of_served (fetches : Nat) (lookups : List Lookup) (k : Nat)
    (hk : k < lookups.length) (catalog : Catalog) (hfailing : ∀ i < k, source.Fails (fetches + i))
    (hserved : source (fetches + k) = .ok catalog) :
    after ⟨source, fetches, .empty⟩ lookups = ⟨source, fetches + k + 1, .filled catalog⟩ := by
  -- The look-ups are those that fail, the one that makes the fetch, and those after it.
  have hlength : (lookups.take k).length = k := List.length_take_of_le (Nat.le_of_lt hk)
  rw [← List.take_append_drop k lookups, List.drop_eq_getElem_cons hk, after_append,
    after_of_failing source fetches _ (by rwa [hlength]), hlength, after_cons, Lookup.run_eq_ask,
    ask_of_served _ source _ catalog hserved]
  exact after_of_loaded _ catalog rfl _

/-- Look-ups in a new registry, whatever they are made for and whatever the source gives.

    As long as no fetch has succeeded, each look-up fetches exactly once. If the fetch fails, its
    error is the result and the registry is without a catalog as before; if it succeeds, the
    answer is that of the catalog, which is kept. After the first fetch that has succeeded no
    look-up fetches or changes the registry, and every answer is that of the first catalog,
    whatever the source would give later. -/
theorem lookup_after (fetches : Nat) (before : List Lookup) (lookup : Lookup) :
    ((∀ i < before.length, source.Fails (fetches + i)) →
      after ⟨source, fetches, .empty⟩ before = ⟨source, fetches + before.length, .empty⟩ ∧
      (∀ failure, source (fetches + before.length) = .error failure →
        lookup.run (after ⟨source, fetches, .empty⟩ before) =
          (⟨source, fetches + before.length + 1, .empty⟩, ⟨[.fetching], .error failure⟩)) ∧
      ∀ catalog, source (fetches + before.length) = .ok catalog →
        lookup.run (after ⟨source, fetches, .empty⟩ before) =
          (⟨source, fetches + before.length + 1, .filled catalog⟩,
            ⟨[.fetching, .fetched catalog.size], .ok (lookup.answer catalog)⟩)) ∧
    ∀ k < before.length, ∀ catalog, (∀ i < k, source.Fails (fetches + i)) →
      source (fetches + k) = .ok catalog →
        (after ⟨source, fetches, .empty⟩ before).isLoaded = true ∧
        (after ⟨source, fetches, .empty⟩ before).fetches = fetches + k + 1 ∧
        lookup.run (after ⟨source, fetches, .empty⟩ before) =
          (after ⟨source, fetches, .empty⟩ before, ⟨[], .ok (lookup.answer catalog)⟩) := by
  refine ⟨fun hfailing => ?_, fun k hk catalog hfailing hserved => ?_⟩
  · rw [after_of_failing source fetches before hfailing, lookup.run_eq_ask]
    exact ⟨rfl, ask_of_failing lookup.answer source _, ask_of_served lookup.answer source _⟩
  · rw [after_of_served source fetches before k hk catalog hfailing hserved, lookup.run_eq_ask]
    exact ⟨rfl, rfl, ask_of_loaded lookup.answer _ catalog rfl⟩

/-- A source that fails, then serves a catalog with a loader, and then fails again. -/
def flaky : Source := fun n =>
  if n = 1 then .ok (Catalog.empty.insert "Loader" (ClassSchema.empty.withRequired "path"
    (.ofName "STRING")))
  else .error .notObject

/-- The first look-up fails, the second loads the catalog, and the third is answered from it
    without a fetch. -/
theorem flaky_lookups :
    (Lookup.whole.run ⟨flaky, 0, .empty⟩).2.result = .error .notObject ∧
    (after ⟨flaky, 0, .empty⟩ [.whole]).isLoaded = false ∧
    ((Lookup.schemaOf "Loader").run (after ⟨flaky, 0, .empty⟩ [.whole])).1.fetches = 2 ∧
    (after ⟨flaky, 0, .empty⟩ [.whole, .schemaOf "Loader"]).isLoaded = true ∧
    (Lookup.run (after ⟨flaky, 0, .empty⟩ [.whole, .schemaOf "Loader"])
      (.typeNameOf "Loader" "path")).2.result = .ok (some "STRING") ∧
    (Lookup.run (after ⟨flaky, 0, .empty⟩ [.whole, .schemaOf "Loader"])
      (.typeNameOf "Loader" "path")).1.fetches = 2 := by
  have hfails : ∀ i < 1, flaky.Fails (0 + i) := fun i hi => by
    rw [Nat.lt_one_iff.mp hi]
    exact ⟨_, rfl⟩
  rcases (lookup_after flaky 0 [] .whole).1 (fun i hi => absurd hi (Nat.not_lt_zero i)) with
    ⟨-, hfirst, -⟩
  rcases (lookup_after flaky 0 [.whole] (.schemaOf "Loader")).1 hfails with ⟨hstate, -, hsecond⟩
  rcases (lookup_after flaky 0 [.whole, .schemaOf "Loader"] (.typeNameOf "Loader" "path")).2 1
    (by decide) _ hfails rfl with ⟨hloaded, hfetches, hthird⟩
  refine ⟨?_, ?_, ?_, hloaded, ?_, ?_⟩
  · exact congrArg (fun outcome => outcome.2.result) (hfirst _ rfl)
  · rw [hstate]
    rfl
  · rw [hsecond _ rfl]
    rfl
  · rw [hthird]
    rfl
  · rw [hthird]
    exact hfetches

end Registry

end PromptGraph
