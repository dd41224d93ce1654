/-!
# Ordered Maps

Maps from names to values that remember the order in which names first
appeared. Objects, class schemas, catalogs and prompts are all of this kind: a
name set a second time takes the new value and keeps its old place.

The operations are first defined on plain lists of pairs, where the JSON value
type needs them, and then on `OrderedMap`, whose type records that no name
occurs twice.

## Main definitions

* `Entries.insert`: Setting a name in a list of pairs.
* `OrderedMap`: A list of pairs with distinct names.
* `OrderedMap.insert`, `OrderedMap.get?`, `OrderedMap.ofList`: The operations.

## Theorems

* `Entries.keys_insert`: Setting a name adds it at the end or nowhere.
* `Entries.lookup_insert`: What a look-up finds after a name was set.
* `Entries.nodup_keys_insert`: Setting a name keeps names distinct.
-/

namespace PromptGraph

/-- Pairs of a name and a value, in order. -/
abbrev Entries (α : Type u) := List (String × α)

namespace Entries

variable {α : Type u}

def keys (entries : Entries α) : List String :=
  entries.map Prod.fst

/-- Set `key` to `value`: in place if the name is there, else at the end. -/
def insert (key : String) (value : α) : Entries α → Entries α
  | [] => [(key, value)]
  | (k, v) :: rest => if k = key then (k, value) :: rest else (k, v) :: insert key value rest

theorem keys_insert (key : String) (value : α) (entries : Entries α) :
    keys (insert key value entries) =
      if key ∈ keys entries then keys entries else keys entries ++ [key] := by
  induction entries with
  | nil => simp [insert, keys]
  | cons entry rest ih =>
    obtain ⟨k, v⟩ := entry
    by_cases h : k = key
    · simp [insert, keys, h]
    · have h' : ¬key = k := fun e => h e.symm
      simp only [insert, h, if_false]
      simp only [keys, List.map_cons] at ih ⊢
      rw [ih]
      by_cases hk : key ∈ rest.map Prod.fst <;> simp [hk, h']

theorem nodup_keys_insert (key : String) (value : α) (entries : Entries α)
    (h : (keys entries).Nodup) : (keys (insert key value entries)).Nodup := by
  rw [keys_insert]
  split
  · exact h
  · rename_i hk
    rw [List.nodup_append]
    refine ⟨h, by simp, fun a ha b hb => ?_⟩
    simp only [List.mem_singleton] at hb
    exact fun e => hk (hb ▸ e ▸ ha)

theorem lookup_insert (key name : String) (value : α) (entries : Entries α) :
    (insert key value entries).lookup name =
      if name = key then some value else entries.lookup name := by
  induction entries with
  | nil =>
    by_cases h : name = key
    · simp [insert, h]
    · have h' : (name == key) = false := by simpa using h
      simp [insert, List.lookup_cons, h, h']
  | cons entry rest ih =>
    obtain ⟨k, v⟩ := entry
    by_cases hk : k = key
    · by_cases hn : name = key
      · simp [insert, hk, hn]
      · have hn' : (name == key) = false := by simpa using hn
        simp [insert, List.lookup_cons, hk, hn, hn']
    · by_cases hn : name = k
      · have : ¬name = key := fun e => hk (hn ▸ e)
        simp [insert, hk, hn]
      · have hn' : (name == k) = false := by simpa using hn
        simp [insert, List.lookup_cons, hk, hn', ih]

end Entries

/-- A map from names to values in the order of the names' first appearance. -/
structure OrderedMap (α : Type u) where
  entries : Entries α := []
  distinct : (Entries.keys entries).Nodup := by simp [Entries.keys]

namespace OrderedMap

variable {α : Type u} {β : Type v}

theorem ext {m n : OrderedMap α} (h : m.entries = n.entries) : m = n := by
  cases m
  cases n
  cases h
  rfl

def empty : OrderedMap α := {}

instance : Inhabited (OrderedMap α) := ⟨empty⟩

def keys (m : OrderedMap α) : List String := Entries.keys m.entries

def get? (m : OrderedMap α) (key : String) : Option α := m.entries.lookup key

def contains (m : OrderedMap α) (key : String) : Bool := (m.get? key).isSome

def size (m : OrderedMap α) : Nat := m.entries.length

def isEmpty (m : OrderedMap α) : Bool := m.entries.isEmpty

/-- Set `key` to `value`: in place if the name is there, else at the end. -/
def insert (m : OrderedMap α) (key : String) (value : α) : OrderedMap α :=
  ⟨Entries.insert key value m.entries, Entries.nodup_keys_insert key value m.entries m.distinct⟩

/-- Set the names of a list one after the other. -/
def ofList (entries : Entries α) : OrderedMap α :=
  entries.foldl (fun m e => m.insert e.1 e.2) empty

@[simp] theorem entries_empty : (empty : OrderedMap α).entries = [] := rfl

@[simp] theorem entries_insert (m : OrderedMap α) (key : String) (value : α) :
    (m.insert key value).entries = Entries.insert key value m.entries := rfl

theorem get?_insert (m : OrderedMap α) (key name : String) (value : α) :
    (m.insert key value).get? name = if name = key then some value else m.get? name :=
  Entries.lookup_insert key name value m.entries

/-- The same names, with `f` applied to each value. -/
def map (f : α → β) (m : OrderedMap α) : OrderedMap β :=
  ⟨m.entries.map fun e => (e.1, f e.2), by
    have h : Entries.keys (m.entries.map fun e => (e.1, f e.2)) = Entries.keys m.entries := by
      simp [Entries.keys, Function.comp_def]
    rw [h]
    exact m.distinct⟩

end OrderedMap

end PromptGraph
