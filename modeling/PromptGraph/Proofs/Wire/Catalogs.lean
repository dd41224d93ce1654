import PromptGraph.Proofs.Wire.Maps
import PromptGraph.Proofs.Wire.Schemas

/-!
# Reading Catalogs

What is read from the payload of a registry.

A payload has an entry for each class, and each entry is read on its own: it gives its class the
schema that it writes, or it is skipped and reported. So the classes that are read and the reports
are the entries, sorted into two lists that keep their order.

The payload may be wrapped as the member `nodes` of another object. An object is taken for a
wrapper by that member alone, which has to be an object without an `input`. Then all other members
are passed over. So an entry does not touch other classes, unless it is named `nodes` and looks
like a map of classes: it hides all of them.

## Main definitions

* `Catalog.IsClassMap`, `Catalog.IsWrapped`: When a payload is taken for a wrapper.
* `Catalog.Sorts`: Entries are sorted into classes and reports.
* `Catalog.LeavesOthers`: An entry that is added leaves other classes as they are.

## Theorems

* `Catalog.unwrap_of_isWrapped`, `Catalog.unwrap_of_not_isWrapped`: What a payload is unwrapped to.
* `Catalog.addEntries_sorts`: The entries of a payload are sorted.
* `Catalog.without_addEntries`: The entries of a name bear on the class of that name only.
* `Catalog.ofJson_wrapped`: A wrapped payload is read as its map of classes is.
* `Catalog.ofJson_leavesOthers`: An entry that is added leaves other classes as they are.
-/

namespace PromptGraph

theorem Entries.lookup_eq_none_iff {α : Type u} (entries : Entries α) (name : String) :
    entries.lookup name = none ↔ name ∉ keys entries := by
  rw [List.lookup_eq_none_iff]
  unfold keys
  simp only [bne_iff_ne, ne_eq, List.mem_map, not_exists, not_and]
  exact ⟨fun h e he heq => h e he heq.symm, fun h e he heq => h e he heq.symm⟩

namespace Catalog

/-- A value is a map of classes, and no class record, if it is the member `nodes` of a payload. -/
def IsClassMap (j : Json) : Prop := ∃ members, j = .obj members ∧ "input" ∉ Entries.keys members

/-- A payload is wrapped: its member `nodes` is a map of classes. -/
def IsWrapped (members : List (String × Json)) : Prop :=
  ∃ j, members.lookup "nodes" = some j ∧ IsClassMap j

section Unwrap

variable (members : List (String × Json))

theorem unwrap_of_isWrapped (inner : List (String × Json))
    (hnodes : members.lookup "nodes" = some (.obj inner)) (hinput : "input" ∉ Entries.keys inner) :
    unwrap members = inner := by
  unfold unwrap
  rw [hnodes]
  simp only [(Entries.lookup_eq_none_iff inner "input").mpr hinput, Option.isSome_none,
    Bool.false_eq_true, if_false]

theorem unwrap_of_not_isWrapped (h : ¬IsWrapped members) : unwrap members = members := by
  unfold unwrap
  split
  · next inner hnodes =>
      refine if_pos (Option.isSome_iff_ne_none.mpr fun hnone => h ?_)
      exact ⟨.obj inner, hnodes, inner, rfl, (Entries.lookup_eq_none_iff inner "input").mp hnone⟩
  · rfl

end Unwrap

/-- Entries are sorted: those that write class records into classes, with their schemas, and the
    others into reports. -/
inductive Sorts : List (String × Json) → Entries ClassSchema → List Event → Prop where
  | nil : Sorts [] [] []
  | kept (name : String) (j : Json) (schema : ClassSchema) {rest classes events}
      (hwrites : ClassRecord.Writes j schema) (hrest : Sorts rest classes events) :
      Sorts ((name, j) :: rest) ((name, schema) :: classes) events
  | skipped (name : String) (j : Json) (error : DecodeError) {rest classes events}
      (hmalformed : ∀ schema, ¬ClassRecord.Writes j schema)
      (herror : schemaOfEntry j = .error error) (hrest : Sorts rest classes events) :
      Sorts ((name, j) :: rest) classes (.entrySkipped name error :: events)

theorem addEntries_kept (catalog : Catalog) (name : String) (j : Json) (schema : ClassSchema)
    (rest : List (String × Json)) (h : schemaOfEntry j = .ok schema) :
    catalog.addEntries ((name, j) :: rest) = (catalog.insert name schema).addEntries rest := by
  rw [addEntries, h]

theorem addEntries_skipped (catalog : Catalog) (name : String) (j : Json) (error : DecodeError)
    (rest : List (String × Json)) (h : schemaOfEntry j = .error error) :
    catalog.addEntries ((name, j) :: rest) =
      ((catalog.addEntries rest).1, .entrySkipped name error :: (catalog.addEntries rest).2) := by
  rw [addEntries, h]

/-- Entries with new and distinct names are sorted, and their classes come after those that are
    there. -/
theorem addEntries_sorts (catalog : Catalog) (members : List (String × Json))
    (hdistinct : (catalog.classes.keys ++ Entries.keys members).Nodup) :
    ∃ classes, Sorts members classes (catalog.addEntries members).2 ∧
      (catalog.addEntries members).1.classes.entries = catalog.classes.entries ++ classes := by
  induction members generalizing catalog with
  | nil => exact ⟨[], .nil, (List.append_nil _).symm⟩
  | cons m rest ih =>
      rcases m with ⟨name, j⟩
      cases hentry : schemaOfEntry j with
      | ok schema =>
          rcases catalog.classes.insert_new name schema (Entries.keys rest) hdistinct with
            ⟨hinsert, hlater⟩
          rcases ih (catalog.insert name schema) hlater with ⟨classes, hsorts, hentries⟩
          rw [catalog.addEntries_kept name j schema rest hentry]
          refine ⟨(name, schema) :: classes,
            .kept name j schema ((schemaOfEntry_iff j schema).mp hentry) hsorts, ?_⟩
          have hclasses : (catalog.insert name schema).classes.entries =
              catalog.classes.entries ++ [(name, schema)] := hinsert
          rw [hentries, hclasses, List.append_assoc]
          rfl
      | error error =>
          have hlater : (catalog.classes.keys ++ Entries.keys rest).Nodup :=
            hdistinct.sublist ((List.sublist_cons_self _ _).append_left _)
          rcases ih catalog hlater with ⟨classes, hsorts, hentries⟩
          rw [catalog.addEntries_skipped name j error rest hentry]
          refine ⟨classes, .skipped name j error (fun schema hwrites => ?_) hentry hsorts, hentries⟩
          cases hentry.symm.trans ((schemaOfEntry_iff j schema).mpr hwrites)

/-- A payload whose member `nodes` is a map of classes, and not itself wrapped, is read as that map
    is: its entries, whose names are distinct, are sorted into classes and reports. -/
theorem ofJson_wrapped (members inner : List (String × Json))
    (hnodes : members.lookup "nodes" = some (.obj inner)) (hinput : "input" ∉ Entries.keys inner)
    (hunwrapped : ¬IsWrapped inner) (hdistinct : (Entries.keys inner).Nodup) :
    ∃ catalog events, ofJson (.obj members) = ⟨events, .ok catalog⟩ ∧
      ofJson (.obj inner) = ⟨events, .ok catalog⟩ ∧
        Sorts inner catalog.classes.entries events := by
  rcases addEntries_sorts empty inner hdistinct with ⟨classes, hsorts, hentries⟩
  refine ⟨(empty.addEntries inner).1, (empty.addEntries inner).2, ?_, ?_, ?_⟩
  · rw [ofJson, unwrap_of_isWrapped members inner hnodes hinput]
  · rw [ofJson, unwrap_of_not_isWrapped inner hunwrapped]
  · rw [hentries]
    exact hsorts

/-- What a registry may send: three classes, of which the second is malformed. -/
def relayed : List (String × Json) :=
  [("Loader", .obj [("input", .obj [("required", .obj [("file", .arr [.str "STRING"])])])]),
    ("Broken", .obj [("input", .obj [("required", .obj [("x", .bool true)])])]),
    ("Note", .obj [])]

/-- In a wrapper with a version these are read as they are without it; the malformed one is
    skipped. -/
theorem ofJson_relayed :
    "input" ∉ Entries.keys relayed ∧ ¬IsWrapped relayed ∧ (Entries.keys relayed).Nodup ∧
      ∃ catalog events, ofJson (.obj [("version", .str "1"), ("nodes", .obj relayed)]) =
        ⟨events, .ok catalog⟩ ∧ ofJson (.obj relayed) = ⟨events, .ok catalog⟩ ∧
          Sorts relayed catalog.classes.entries events ∧
            catalog.classes.keys = ["Loader", "Note"] ∧ events.length = 1 := by
  have hinput : "input" ∉ Entries.keys relayed := by decide
  have hunwrapped : ¬IsWrapped relayed := by
    rintro ⟨j, hnodes, -⟩
    cases hnodes
  rcases ofJson_wrapped [("version", .str "1"), ("nodes", .obj relayed)] relayed rfl hinput
    hunwrapped (by decide) with ⟨catalog, events, hwrapped, hinner, hsorts⟩
  refine ⟨hinput, hunwrapped, by decide, catalog, events, hwrapped, hinner, hsorts, ?_⟩
  cases hinner
  exact ⟨rfl, rfl⟩

/-- The entries of a name bear on the class of that name only. -/
theorem without_addEntries (name : String) (catalog catalog' : Catalog)
    (members : List (String × Json))
    (h : Entries.without name catalog'.classes.entries = catalog.classes.entries) :
    Entries.without name (catalog'.addEntries members).1.classes.entries =
      (catalog.addEntries (Entries.without name members)).1.classes.entries := by
  induction members generalizing catalog catalog' with
  | nil => exact h
  | cons m rest ih =>
      rcases m with ⟨key, j⟩
      by_cases hkey : key = name
      · -- The entry is left out on the one side, and its class on the other.
        subst hkey
        rw [Entries.without_cons_self]
        cases hentry : schemaOfEntry j with
        | ok schema =>
            rw [catalog'.addEntries_kept key j schema rest hentry]
            refine ih catalog (catalog'.insert key schema) ?_
            exact (Entries.without_insert_self key schema _).trans h
        | error error =>
            rw [catalog'.addEntries_skipped key j error rest hentry]
            exact ih catalog catalog' h
      · rw [Entries.without_cons_of_ne name key hkey]
        cases hentry : schemaOfEntry j with
        | ok schema =>
            rw [catalog'.addEntries_kept key j schema rest hentry,
              catalog.addEntries_kept key j schema _ hentry]
            refine ih (catalog.insert key schema) (catalog'.insert key schema) ?_
            exact (Entries.without_insert_of_ne name key hkey schema _).trans
              (congrArg (Entries.insert key schema) h)
        | error error =>
            rw [catalog'.addEntries_skipped key j error rest hentry,
              catalog.addEntries_skipped key j error _ hentry]
            exact ih catalog catalog' h

/-- An entry that is added to a payload leaves the other classes as they are: both payloads are
    read, and but for the class of the entry they have the same classes with the same schemas in
    the same order. -/
def LeavesOthers (front back : List (String × Json)) (name : String) (entry : Json) : Prop :=
  ∃ catalog catalog', (ofJson (.obj (front ++ back))).result = .ok catalog ∧
    (ofJson (.obj (front ++ (name, entry) :: back))).result = .ok catalog' ∧
      Entries.without name catalog'.classes.entries = catalog.classes.entries ∧
        ∀ other, other ≠ name → catalog'.get? other = catalog.get? other

section Added

variable (front back : List (String × Json)) (name : String) (entry : Json)
  (hnew : name ∉ Entries.keys (front ++ back))
include hnew

theorem without_added :
    Entries.without name (front ++ (name, entry) :: back) = front ++ back := by
  have hsplit := Entries.without_of_not_mem name (front ++ back) hnew
  unfold Entries.without at hsplit ⊢
  rw [List.filter_append] at hsplit ⊢
  rw [List.filter_cons_of_neg (by simp), hsplit]

/-- A payload does not become a wrapper by an entry that is added, unless the entry is named
    `nodes` and is a map of classes. -/
theorem not_isWrapped_added (hunwrapped : ¬IsWrapped (front ++ back))
    (hother : ¬(name = "nodes" ∧ IsClassMap entry)) :
    ¬IsWrapped (front ++ (name, entry) :: back) := by
  rintro ⟨j, hnodes, hmap⟩
  by_cases hname : name = "nodes"
  · subst hname
    have hfront : front.lookup "nodes" = none := by
      refine (Entries.lookup_eq_none_iff front "nodes").mpr fun hmem => hnew ?_
      rw [Entries.keys_append]
      exact List.mem_append_left _ hmem
    rw [List.lookup_append, hfront, Option.none_or, List.lookup_cons_self] at hnodes
    exact hother ⟨rfl, Option.some.inj hnodes ▸ hmap⟩
  · refine hunwrapped ⟨j, ?_, hmap⟩
    rw [← without_added front back name entry hnew,
      Entries.lookup_without name "nodes" (Ne.symm hname)]
    exact hnodes

end Added

/-- An entry with a new name that is added to a payload leaves the other classes as they are,
    unless it is named `nodes` and is a map of classes. -/
theorem ofJson_leavesOthers (front back : List (String × Json)) (name : String) (entry : Json)
    (hunwrapped : ¬IsWrapped (front ++ back)) (hnew : name ∉ Entries.keys (front ++ back))
    (hother : ¬(name = "nodes" ∧ IsClassMap entry)) : LeavesOthers front back name entry := by
  have hadded := not_isWrapped_added front back name entry hnew hunwrapped hother
  have hclasses := without_addEntries name empty empty (front ++ (name, entry) :: back) rfl
  rw [without_added front back name entry hnew] at hclasses
  refine ⟨(empty.addEntries (front ++ back)).1,
    (empty.addEntries (front ++ (name, entry) :: back)).1, ?_, ?_, hclasses, fun other hne => ?_⟩
  · rw [ofJson, unwrap_of_not_isWrapped _ hunwrapped]
  · rw [ofJson, unwrap_of_not_isWrapped _ hadded]
  · unfold get? OrderedMap.get?
    rw [← hclasses, Entries.lookup_without name other hne]

/-- A class record by the name of the wrapper leaves the loader as it is. -/
theorem nodes_record_leavesOthers :
    ¬IsWrapped [("Loader", .obj [])] ∧ "nodes" ∉ Entries.keys [("Loader", Json.obj [])] ∧
      ¬("nodes" = "nodes" ∧ IsClassMap (.obj [("input", .obj [])])) ∧
        LeavesOthers [("Loader", .obj [])] [] "nodes" (.obj [("input", .obj [])]) := by
  have hunwrapped : ¬IsWrapped [("Loader", .obj [])] := by
    rintro ⟨j, hnodes, -⟩
    cases hnodes
  have hrecord : ¬("nodes" = "nodes" ∧ IsClassMap (.obj [("input", .obj [])])) := by
    rintro ⟨-, members, hobj, hinput⟩
    cases hobj
    exact hinput (List.mem_singleton_self "input")
  exact ⟨hunwrapped, by decide, hrecord,
    ofJson_leavesOthers [("Loader", .obj [])] [] "nodes" _ hunwrapped (by decide) hrecord⟩

/-- A map of classes by that name hides the loader. -/
theorem nodes_map_hides :
    ¬IsWrapped [("Loader", .obj [("input", .obj [])])] ∧
      "nodes" ∉ Entries.keys [("Loader", Json.obj [("input", .obj [])])] ∧
        ¬LeavesOthers [("Loader", .obj [("input", .obj [])])] [] "nodes"
          (.obj [("Sampler", .obj [("input", .obj [])])]) := by
  refine ⟨?_, by decide, ?_⟩
  · rintro ⟨j, hnodes, -⟩
    cases hnodes
  · rintro ⟨catalog, catalog', hcatalog, hcatalog', -, hothers⟩
    -- The one catalog has the loader, and the other does not.
    have hloader := hothers "Loader" (by decide)
    cases hcatalog
    cases hcatalog'
    cases hloader

end Catalog

end PromptGraph
