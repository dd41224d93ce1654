import PromptGraph.Proofs.Cursor
import PromptGraph.Proofs.Declarations
import PromptGraph.Proofs.Wire.Maps

/-!
# Values by Name

A buffer may hold the values of scalars as a sequence or by name. These are read in
different ways: a read from a sequence takes the next value that fits, and what it has
taken is gone, while a value by its name may be looked up at any time.

What makes them the same is that values are asked for in the order in which they were
stored. If the values of a sequence come in the order of the names that are left, then a
read for the first of these names gives what is stored under it, and what is ahead
after it comes in the order of the others. Where the sequence ends, the names that are
left have nothing stored.

## Main definitions

* `Follows`: A sequence of values goes along with named values.
* `ClassSchema.AuthoredInPart`: Values as an editor stores them for the first scalars.
* `ClassSchema.named`: The same values by name.

## Theorems

* `Follows.take`: A read from the sequence gives what is stored by name.
* `Follows.of_stored`: Values that are stored under the first of several names.
* `ClassSchema.entries_named`, `ClassSchema.follows_named`: Values of the first scalars
  by name.
-/

namespace PromptGraph

/-- Values come in the order of entries under whose names they are stored, each as its kind
    has it. Where they end, nothing more is stored. -/
inductive Follows (named : OrderedMap Json) : Entries TypeDecl → List Json → Prop where
  | ended (left : Entries TypeDecl) (absent : ∀ e ∈ left, named.get? e.1 = none) :
    Follows named left []
  | next (e : String × TypeDecl) (left : Entries TypeDecl) (v : Json) (rest : List Json)
    (fits : coerce (classify e.2.typeName).kind? v = some v) (stored : named.get? e.1 = some v)
    (later : Follows named left rest) : Follows named (e :: left) (v :: rest)

namespace Follows

variable {named : OrderedMap Json} {left : Entries TypeDecl} {ahead : List Json}

theorem absent (h : Follows named left []) : ∀ e ∈ left, named.get? e.1 = none := by
  cases h with
  | ended _ absent => exact absent

theorem ahead_of_absent {e : String × TypeDecl} (h : Follows named (e :: left) ahead)
    (habsent : named.get? e.1 = none) : ahead = [] := by
  cases h with
  | ended => rfl
  | next _ _ v _ _ stored _ =>
      rw [habsent] at stored
      cases stored

/-- Values that are stored under the first of several names follow them. -/
theorem of_stored (front back : Entries TypeDecl) (values : List Json)
    (hstored : List.Forall₂ (fun e v => coerce (classify e.2.typeName).kind? v = some v ∧
      named.get? e.1 = some v) front values)
    (habsent : ∀ e ∈ back, named.get? e.1 = none) : Follows named (front ++ back) values := by
  induction hstored with
  | nil => exact .ended back habsent
  | @cons e v front values hv _ ih => exact .next e (front ++ back) v values hv.1 hv.2 ih

/-- A read from the sequence for the next name gives what is stored under it, and what is left
    follows the other names. -/
theorem take {e : String × TypeDecl} (cursor : Cursor)
    (h : Follows named (e :: left) cursor.unread) (hsequence : cursor.buffer.isSequence = true)
    (name : String) :
    (cursor.take name (classify e.2.typeName).kind?).value = named.get? e.1 ∧
      Follows named left (cursor.take name (classify e.2.typeName).kind?).cursor.unread := by
  generalize hunread : cursor.unread = ahead at h
  cases h with
  | ended _ absent =>
      have hnone : (cursor.take name (classify e.2.typeName).kind?).value = none := by
        rw [Cursor.take_eq_pop _ cursor hsequence]
        unfold Cursor.pop
        rw [hunread]
        rfl
      rw [hnone, absent e (List.mem_cons_self ..),
        Cursor.cursor_take_of_unread _ cursor name hunread, hunread]
      exact ⟨rfl, .ended left fun other hother => absent other (List.mem_cons_of_mem e hother)⟩
  | next _ _ v rest fits stored later =>
      rw [Cursor.take_eq_pop _ cursor hsequence]
      rcases Cursor.pop_of_fits _ cursor v v rest hunread fits with ⟨hvalue, hrest⟩
      rw [hvalue, hrest]
      exact ⟨stored.symm, later⟩

end Follows

namespace ClassSchema

variable (schema : ClassSchema) (values : List Json)

/-- Values as an editor stores them for the first scalars: one for each, in the order declared,
    each as its kind has it. -/
def AuthoredInPart : Prop :=
  List.Forall₂ (fun e v => coerce (classify e.2.typeName).kind? v = some v)
    (schema.scalars.take values.length) values

/-- The values of the first scalars by name. -/
def named : OrderedMap Json := .ofList ((Entries.keys schema.scalars).zip values)

variable {schema values} (hdisjoint : schema.required.keys.Disjoint schema.optional.keys)
  (h : schema.AuthoredInPart values)
include hdisjoint h

theorem entries_named :
    (schema.named values).entries =
      (Entries.keys (schema.scalars.take values.length)).zip values := by
  have hlength := h.length_eq
  rw [List.length_take] at hlength
  have hzip : (Entries.keys schema.scalars).zip values =
      (Entries.keys (schema.scalars.take values.length)).zip values := by
    unfold Entries.keys
    rw [List.zip_eq_zip_take_min, List.length_map, Nat.min_comm, hlength, List.take_length,
      List.map_take]
  have hkeys : Entries.keys ((Entries.keys (schema.scalars.take values.length)).zip values) =
      Entries.keys (schema.scalars.take values.length) := by
    refine List.map_fst_zip ?_
    unfold Entries.keys
    rw [List.length_map]
    exact Nat.le_of_eq h.length_eq
  unfold named
  rw [hzip]
  refine OrderedMap.entries_ofList _ ?_
  rw [hkeys]
  exact (schema.nodup_keys_scalars hdisjoint).sublist ((List.take_sublist _ _).map Prod.fst)

/-- Values of the first scalars follow the scalars. -/
theorem follows_named : Follows (schema.named values) schema.scalars values := by
  have hentries := entries_named hdisjoint h
  have hsplit := List.take_append_drop values.length schema.scalars
  have hdistinct := schema.nodup_keys_scalars hdisjoint
  rw [← hsplit, Entries.keys_append] at hdistinct
  rw [← hsplit]
  refine Follows.of_stored _ _ values ?_ fun e he => ?_
  · refine List.forall₂_iff_zip.mpr ⟨h.length_eq, fun {e v} hmem => ?_⟩
    refine ⟨List.forall₂_zip h hmem, OrderedMap.get?_of_mem _ (e.1, v) ?_⟩
    rw [hentries]
    unfold Entries.keys
    rw [List.zip_map_left]
    exact List.mem_map_of_mem hmem
  · -- What is stored has the name of one of the first scalars.
    cases hget : (schema.named values).get? e.1 with
    | none => rfl
    | some v =>
        have hmem := OrderedMap.mem_of_get? _ e.1 v hget
        rw [hentries] at hmem
        exact absurd rfl ((List.nodup_append.mp hdistinct).2.2 e.1 (List.of_mem_zip hmem).1 e.1
          (List.mem_map_of_mem he))

end ClassSchema

end PromptGraph
