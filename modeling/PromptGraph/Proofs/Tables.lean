import PromptGraph.Compile.LinkIndex
import PromptGraph.Prompt

/-!
# What the Tables Hold

Links, nodes and compiled nodes are put into tables one after the other, and a
later entry takes the place of an earlier one under the same key. Reading such a
table is therefore searching the list it was made from, starting at the end.

The tables differ in how they are stored, as hash maps or as ordered maps, but
not in this. `lookup_foldl` is the one induction: all it asks of a table is that
a look-up after an insertion gives what was inserted if the key is met and is
otherwise unchanged.

## Main definitions

* `Entries.without`: All entries but those of a name.

## Theorems

* `find?_reverse_snoc`, `find?_reverse_split`, `find?_reverse_eq_some_iff`: A search from the
  end of a list.
* `eraseDups_snoc`: A list without repetitions goes on with what is new.
* `lookup_foldl`: A look-up in a table filled from a list finds the last entry
  that meets the key.
* `LinkIndex.source?_ofLinks`: The link index agrees with the scan of the links.
* `NodeIndex.node?_ofNodes`: The node index agrees with the scan of the nodes.
* `OrderedMap.contains_eq_isSome`, `OrderedMap.contains_insert`,
  `OrderedMap.mem_keys_iff`: Which names an ordered map has.
* `Entries.without_of_not_mem`, `Entries.without_insert_self`,
  `Entries.without_insert_of_ne`, `Entries.lookup_without`: The entries with other names.
-/

namespace PromptGraph

/-- A search from the end of a list meets what was added last. -/
theorem find?_reverse_snoc {α : Type u} (p : α → Bool) (items : List α) (a : α) :
    (items ++ [a]).reverse.find? p = if p a then some a else items.reverse.find? p := by
  rw [List.reverse_append, List.reverse_singleton, List.singleton_append, List.find?_cons]
  cases p a with
  | true => rfl
  | false => rfl

/-- A list without its repetitions goes on with an item if that is new. -/
theorem eraseDups_snoc {α : Type u} [DecidableEq α] (items : List α) (a : α) :
    (items ++ [a]).eraseDups =
      if a ∈ items then items.eraseDups else items.eraseDups ++ [a] := by
  rw [List.eraseDups_append]
  by_cases hmem : a ∈ items
  · simp [hmem, List.removeAll]
  · simp [hmem, List.removeAll, List.eraseDups_cons]

/-- A search from the end of a list meets what comes after an item, the item, and what comes
    before it. -/
theorem find?_reverse_split {α : Type u} (p : α → Bool) (before after : List α) (a : α) :
    (before ++ a :: after).reverse.find? p =
      (after.reverse.find? p).or (if p a then some a else before.reverse.find? p) := by
  rw [List.append_cons before a after, List.reverse_append, List.find?_append,
    find?_reverse_snoc]

/-- A search from the end of a list finds an item that meets the condition and has none
    behind it that does. -/
theorem find?_reverse_eq_some_iff {α : Type u} (p : α → Bool) (items : List α) (a : α) :
    items.reverse.find? p = some a ↔
      ∃ before after, items = before ++ a :: after ∧ p a = true ∧ ∀ b ∈ after, p b = false := by
  rw [List.find?_eq_some_iff_append]
  constructor
  · -- What the search has passed over comes after what it finds.
    rintro ⟨ha, after, before, hsplit, hafter⟩
    refine ⟨before.reverse, after.reverse, ?_, ha, fun b hb => ?_⟩
    · rw [← List.reverse_reverse items, hsplit, List.reverse_append, List.reverse_cons,
        List.append_assoc, List.singleton_append]
    · simpa using hafter b (List.mem_reverse.mp hb)
  · rintro ⟨before, after, rfl, ha, hafter⟩
    refine ⟨ha, after.reverse, before.reverse, ?_, fun b hb => ?_⟩
    · rw [List.reverse_append, List.reverse_cons, List.append_assoc, List.singleton_append]
    · simpa using hafter b (List.mem_reverse.mp hb)

/-- A look-up in a table that was filled from a list finds the last entry of the
    list that meets the key, or else what the table held before. -/
theorem lookup_foldl {τ : Type u} {α : Type v} {β : Type w} (get : τ → Option β)
    (add : τ → α → τ) (hit : α → Bool) (value : α → β)
    (hadd : ∀ table a, get (add table a) = if hit a then some (value a) else get table)
    (items : List α) (table : τ) :
    get (items.foldl add table) = ((items.reverse.find? hit).map value).or (get table) := by
  induction items generalizing table with
  | nil => rfl
  | cons a rest ih =>
      -- An entry further on in the list counts before this one.
      rw [List.foldl_cons, ih, hadd, List.reverse_cons, List.find?_append]
      cases hrest : rest.reverse.find? hit with
      | some last => rfl
      | none =>
          rw [List.find?_singleton]
          by_cases ha : hit a = true
          · rw [if_pos ha, if_pos ha]
            rfl
          · rw [if_neg ha, if_neg ha]
            rfl

namespace LinkIndex

theorem source?_ofLinks (links : List Link) (target : Endpoint) :
    (ofLinks links).source? target = sourceByScan? links target := by
  have hadd : ∀ (table : Std.HashMap Endpoint Endpoint) (link : Link),
      (table.insert link.target link.source)[target]? =
        if decide (link.target = target) then some link.source else table[target]? := by
    intro table link
    rw [Std.HashMap.getElem?_insert]
    by_cases h : link.target = target <;> simp [h]
  have h := lookup_foldl (fun table : Std.HashMap Endpoint Endpoint => table[target]?)
    (fun table link => table.insert link.target link.source) (fun link => link.target = target)
    Link.source hadd links ∅
  simpa [source?, ofLinks, sourceByScan?] using h

end LinkIndex

namespace NodeIndex

theorem node?_ofNodes (nodes : List GraphNode) (id : NodeId) :
    (ofNodes nodes).node? id = nodes.reverse.find? (·.id = id) := by
  have hadd : ∀ (table : Std.HashMap NodeId GraphNode) (node : GraphNode),
      (table.insert node.id node)[id]? =
        if decide (node.id = id) then some node else table[id]? := by
    intro table node
    rw [Std.HashMap.getElem?_insert]
    by_cases h : node.id = id <;> simp [h]
  have h := lookup_foldl (fun table : Std.HashMap NodeId GraphNode => table[id]?)
    (fun table node => table.insert node.id node) (fun node => node.id = id)
    (fun node => node) hadd nodes ∅
  simpa [node?, ofNodes] using h

end NodeIndex

namespace OrderedMap

variable {α : Type u}

theorem contains_eq_isSome (m : OrderedMap α) (name : String) :
    m.contains name = (m.get? name).isSome := rfl

theorem contains_insert (m : OrderedMap α) (key name : String) (value : α) :
    (m.insert key value).contains name = (name = key || m.contains name) := by
  rw [contains_eq_isSome, get?_insert]
  by_cases h : name = key <;> simp [h, contains]

theorem mem_keys_iff (m : OrderedMap α) (name : String) :
    name ∈ m.keys ↔ m.contains name = true := by
  unfold keys Entries.keys contains get?
  rw [List.lookup_isSome_iff, List.mem_map]
  refine exists_congr fun entry => and_congr_right fun _ => ?_
  rw [beq_iff_eq]
  exact eq_comm

@[simp] theorem get?_empty (name : String) : (empty : OrderedMap α).get? name = none := rfl

end OrderedMap

namespace Entries

variable {α : Type u}

/-- All entries but those of a name. -/
def without (name : String) (entries : Entries α) : Entries α :=
  entries.filter fun e => e.1 ≠ name

theorem without_cons_self (name : String) (value : α) (rest : Entries α) :
    without name ((name, value) :: rest) = without name rest :=
  List.filter_cons_of_neg (by simp)

theorem without_cons_of_ne (name key : String) (h : key ≠ name) (value : α) (rest : Entries α) :
    without name ((key, value) :: rest) = (key, value) :: without name rest :=
  List.filter_cons_of_pos (by simp [h])

theorem without_of_not_mem (name : String) (entries : Entries α) (h : name ∉ keys entries) :
    without name entries = entries := by
  refine List.filter_eq_self.mpr fun e he => decide_eq_true fun heq => h ?_
  rw [← heq]
  exact List.mem_map_of_mem he

theorem without_insert_self (name : String) (value : α) (entries : Entries α) :
    without name (insert name value entries) = without name entries := by
  induction entries with
  | nil => exact without_cons_self name value []
  | cons entry rest ih =>
      rcases entry with ⟨k, v⟩
      by_cases hk : k = name
      · subst hk
        rw [insert, if_pos rfl, without_cons_self, without_cons_self]
      · rw [insert, if_neg hk, without_cons_of_ne name k hk, without_cons_of_ne name k hk, ih]

theorem without_insert_of_ne (name key : String) (h : key ≠ name) (value : α)
    (entries : Entries α) :
    without name (insert key value entries) = insert key value (without name entries) := by
  induction entries with
  | nil => exact without_cons_of_ne name key h value []
  | cons entry rest ih =>
      rcases entry with ⟨k, v⟩
      by_cases hk : k = key
      · subst hk
        rw [insert, if_pos rfl, without_cons_of_ne name k h, without_cons_of_ne name k h, insert,
          if_pos rfl]
      · rw [insert, if_neg hk]
        by_cases hn : k = name
        · subst hn
          rw [without_cons_self, without_cons_self, ih]
        · rw [without_cons_of_ne name k hn, without_cons_of_ne name k hn, insert, if_neg hk, ih]

theorem lookup_without (name key : String) (h : key ≠ name) (entries : Entries α) :
    (without name entries).lookup key = entries.lookup key := by
  induction entries with
  | nil => rfl
  | cons entry rest ih =>
      rcases entry with ⟨k, v⟩
      by_cases hk : k = name
      · subst hk
        rw [without_cons_self, List.lookup_cons, beq_false_of_ne h]
        exact ih
      · rw [without_cons_of_ne name k hk, List.lookup_cons, List.lookup_cons, ih]

end Entries

end PromptGraph
