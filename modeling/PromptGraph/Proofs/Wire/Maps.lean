import Mathlib.Data.List.Forall2
import PromptGraph.Json.Decode
import PromptGraph.Proofs.Declarations
import PromptGraph.Proofs.Tables

/-!
# Reading Maps Back

Maps that are written as objects and read again.

The reader sets the members one after the other, as it would if names could be
repeated. The names of a map are distinct, so each member goes to the end, and
the map that is read has the names that were written, in their order. What
becomes of a value depends on how the values are written and read.

## Main definitions

* `OrderedMap.Related`: Two maps with the same names in the same order and with
  related values.

## Theorems

* `Entries.insert_of_not_mem`, `OrderedMap.insert_new`: A new name goes to the end.
* `OrderedMap.entries_ofList`: A map that is made from distinct names.
* `OrderedMap.related_map`, `OrderedMap.related_self_iff`: Maps that are related.
* `OrderedMap.Related.eq`: Related maps that are the same.
* `Doc.map_ofJson`: Reading a map that was written value by value.
-/

namespace PromptGraph

namespace Entries

variable {α : Type u}

theorem insert_of_not_mem (key : String) (value : α) (entries : Entries α)
    (h : key ∉ keys entries) : insert key value entries = entries ++ [(key, value)] := by
  induction entries with
  | nil => rfl
  | cons entry rest ih =>
      obtain ⟨k, v⟩ := entry
      simp only [keys, List.map_cons, List.mem_cons, not_or] at h
      rw [insert, if_neg fun heq => h.1 heq.symm, ih h.2, List.cons_append]

theorem keys_append (front back : Entries α) : keys (front ++ back) = keys front ++ keys back :=
  List.map_append

theorem mem_of_lookup (entries : Entries α) (name : String) (value : α)
    (h : entries.lookup name = some value) : (name, value) ∈ entries := by
  rcases List.lookup_eq_some_iff.mp h with ⟨front, back, rfl, -⟩
  exact List.mem_append_right front (List.mem_cons_self ..)

end Entries

namespace OrderedMap

variable {α : Type u} {β : Type v}

/-- Two maps have the same names in the same order, with related values. -/
def Related (R : α → β → Prop) (m : OrderedMap α) (n : OrderedMap β) : Prop :=
  List.Forall₂ (fun e f => e.1 = f.1 ∧ R e.2 f.2) m.entries n.entries

theorem related_map (R : α → β → Prop) (f : α → β) (m : OrderedMap α)
    (h : ∀ e ∈ m.entries, R e.2 (f e.2)) : m.Related R (m.map f) := by
  unfold Related map
  rw [List.forall₂_map_right_iff, List.forall₂_same]
  exact fun e he => ⟨rfl, h e he⟩

theorem related_self_iff (R : α → α → Prop) (m : OrderedMap α) :
    m.Related R m ↔ ∀ e ∈ m.entries, R e.2 e.2 := by
  unfold Related
  simp only [List.forall₂_same, true_and]

/-- A new name that is set is added at the end, and the names to come are still new. -/
theorem insert_new (m : OrderedMap α) (name : String) (value : α) (later : List String)
    (hdistinct : (m.keys ++ name :: later).Nodup) :
    (m.insert name value).entries = m.entries ++ [(name, value)] ∧
      ((m.insert name value).keys ++ later).Nodup := by
  have hnew : name ∉ Entries.keys m.entries := by
    intro hmem
    exact (List.nodup_append.mp hdistinct).2.2 name hmem name (List.mem_cons_self ..) rfl
  have hinsert : (m.insert name value).entries = m.entries ++ [(name, value)] :=
    Entries.insert_of_not_mem name value m.entries hnew
  refine ⟨hinsert, ?_⟩
  -- The names that are set and those to come are the same as before.
  unfold keys
  rw [hinsert, Entries.keys_append, List.append_assoc]
  exact hdistinct

/-- A map that is made from distinct names has them in their order. -/
theorem entries_foldl_insert (es : Entries α) (m : OrderedMap α)
    (hdistinct : (m.keys ++ Entries.keys es).Nodup) :
    (es.foldl (fun m e => m.insert e.1 e.2) m).entries = m.entries ++ es := by
  induction es generalizing m with
  | nil => exact (List.append_nil _).symm
  | cons e rest ih =>
      rcases m.insert_new e.1 e.2 (Entries.keys rest) hdistinct with ⟨hinsert, hlater⟩
      rw [List.foldl_cons, ih (m.insert e.1 e.2) hlater, hinsert, List.append_assoc]
      rfl

theorem entries_ofList (es : Entries α) (h : (Entries.keys es).Nodup) : (ofList es).entries = es :=
  entries_foldl_insert es .empty h

theorem get?_of_mem (m : OrderedMap α) (e : String × α) (he : e ∈ m.entries) :
    m.get? e.1 = some e.2 :=
  Entries.lookup_of_mem m.entries m.distinct e he

theorem mem_of_get? (m : OrderedMap α) (name : String) (a : α) (h : m.get? name = some a) :
    (name, a) ∈ m.entries :=
  Entries.mem_of_lookup m.entries name a h

/-- Related maps are the same if nothing in the first is related to anything else. -/
theorem Related.eq {R : α → α → Prop} {m n : OrderedMap α} (h : m.Related R n)
    (hsame : ∀ e ∈ m.entries, ∀ b, R e.2 b → e.2 = b) : m = n := by
  refine OrderedMap.ext ?_
  unfold Related at h
  generalize m.entries = es at h hsame
  generalize n.entries = fs at h
  induction h with
  | nil => rfl
  | @cons e f es fs hef _ ih =>
      rw [ih fun e' he' => hsame e' (List.mem_cons_of_mem e he')]
      exact congrArg (· :: fs) (Prod.ext hef.1 (hsame e (List.mem_cons_self ..) f.2 hef.2))

end OrderedMap

namespace Doc

variable {α β : Type} (item : Decoder β) (write : α → Json) (read : α → β)

/-- Members with new and distinct names are added at the end, in their order. -/
theorem entries_ofMembers (es : Entries α)
    (hread : ∀ e ∈ es, item.ofJson (write e.2) = .ok (read e.2)) (m : OrderedMap β)
    (hdistinct : (m.keys ++ Entries.keys es).Nodup) :
    ∃ n, entries item m (ofMembers (es.map fun e => (e.1, write e.2))) = .ok n ∧
      n.entries = m.entries ++ es.map fun e => (e.1, read e.2) := by
  induction es generalizing m with
  | nil => exact ⟨m, rfl, (List.append_nil _).symm⟩
  | cons e rest ih =>
      rcases m.insert_new e.1 (read e.2) (Entries.keys rest) hdistinct with ⟨hinsert, hlater⟩
      rcases ih (fun f hf => hread f (List.mem_cons_of_mem e hf)) (m.insert e.1 (read e.2))
        hlater with ⟨n, hn, hentries⟩
      refine ⟨n, ?_, ?_⟩
      · have hitem : item (ofJson (write e.2)) = .ok (read e.2) :=
          hread e (List.mem_cons_self ..)
        rw [List.map_cons, ofMembers, entries, hitem]
        exact hn
      · rw [hentries, hinsert, List.append_assoc]
        rfl

/-- A map that is written value by value is read with the same names in the same order. -/
theorem map_ofJson (m : OrderedMap α)
    (hread : ∀ e ∈ m.entries, item.ofJson (write e.2) = .ok (read e.2)) :
    (map item).ofJson (.obj (m.map write).entries) = .ok (m.map read) := by
  have hdistinct : ((OrderedMap.empty : OrderedMap β).keys ++ Entries.keys m.entries).Nodup :=
    m.distinct
  rcases entries_ofMembers item write read m.entries hread .empty hdistinct with
    ⟨n, hn, hentries⟩
  have hsame : n = m.map read := OrderedMap.ext hentries
  have hrun : (map item).ofJson (.obj (m.map write).entries) =
      entries item .empty (ofMembers (m.entries.map fun e => (e.1, write e.2))) >>= fun n =>
        .ok n := rfl
  rw [hrun, hn, hsame]
  rfl

end Doc

end PromptGraph
