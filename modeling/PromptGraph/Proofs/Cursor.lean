import Mathlib.Data.List.Forall2
import PromptGraph.Compile.Cursor
import PromptGraph.Proofs.Coercion

/-!
# Reading from the Front

What reads from a sequence have in common, whatever they look for.

A read uses up the values before the first that fits and that one too. So it
uses up at least one value while there are any, and exactly one if the next
value fits. How many it uses up depends on which kinds the values fit and on
nothing else, so a value may be exchanged for another that fits the same kinds
without moving any later read. And what a read gives depends on the values that
are ahead, not on those that were read before.

## Main definitions

* `Cursor.dropAll`: The place after several reads.
* `Cursor.Ahead`: Two cursors have the same values ahead.
* `Cursor.ReadAlike`: Related cursors read alike.

## Theorems

* `firstFit_of_fits`: A value that fits is the first that fits.
* `firstFit_rest`: What is left is what comes after the values used up.
* `Cursor.unread_of_take_none`, `Cursor.cursor_take_of_unread`: A read that finds
  nothing leaves nothing, and after that no read moves the cursor.
* `Cursor.dropAll_of_fits`: Reads that all fit use up one value each.
* `Cursor.le_position_dropAll`: Each read uses up a value while there are any.
* `Cursor.position_dropAll_congr`: Reads move alike over values that fit alike.
* `Cursor.readAlike_eq`, `Cursor.readAlike_ahead`: Equal cursors read alike, and so
  do cursors with the same values ahead.
* `Cursor.dropAll_ahead`: A value that has been passed may be exchanged.
-/

namespace PromptGraph

variable (expected : Option Kind)

theorem firstFit_of_fits (v value : Json) (rest : List Json) (h : coerce expected v = some value) :
    firstFit expected (v :: rest) = ⟨some value, [], rest⟩ := by
  simp only [firstFit, h]

theorem firstFit_of_not_fits (v : Json) (rest : List Json) (h : coerce expected v = none) :
    firstFit expected (v :: rest) =
      ⟨(firstFit expected rest).value, v :: (firstFit expected rest).skipped,
        (firstFit expected rest).rest⟩ := by
  simp only [firstFit, h]

theorem consumed_of_fits (v value : Json) (rest : List Json) (h : coerce expected v = some value) :
    (firstFit expected (v :: rest)).consumed = 1 := by
  rw [firstFit_of_fits expected v value rest h]
  rfl

theorem consumed_of_not_fits (v : Json) (rest : List Json) (h : coerce expected v = none) :
    (firstFit expected (v :: rest)).consumed = (firstFit expected rest).consumed + 1 := by
  rw [firstFit_of_not_fits expected v rest h]
  unfold Fit.consumed
  simp only [List.length_cons]
  omega

theorem firstFit_rest (values : List Json) :
    (firstFit expected values).rest = values.drop (firstFit expected values).consumed := by
  induction values with
  | nil => rfl
  | cons v rest ih =>
      -- Either the search ends here or it passes the value over.
      cases h : coerce expected v with
      | some value =>
          rw [consumed_of_fits expected v value rest h, firstFit_of_fits expected v value rest h]
          rfl
      | none =>
          rw [consumed_of_not_fits expected v rest h, firstFit_of_not_fits expected v rest h,
            List.drop_succ_cons]
          exact ih

/-- A search that finds nothing leaves nothing. -/
theorem firstFit_rest_of_none (values : List Json)
    (h : (firstFit expected values).value = none) : (firstFit expected values).rest = [] := by
  induction values with
  | nil => rfl
  | cons v rest ih =>
      cases hfit : coerce expected v with
      | some value =>
          rw [firstFit_of_fits expected v value rest hfit] at h
          cases h
      | none =>
          rw [firstFit_of_not_fits expected v rest hfit] at h ⊢
          exact ih h

theorem consumed_pos (values : List Json) (h : values ≠ []) :
    0 < (firstFit expected values).consumed := by
  cases values with
  | nil => exact absurd rfl h
  | cons v rest =>
      cases hfit : coerce expected v with
      | some value =>
          rw [consumed_of_fits expected v value rest hfit]
          exact Nat.one_pos
      | none =>
          rw [consumed_of_not_fits expected v rest hfit]
          exact Nat.succ_pos _

/-- How many values are used up depends only on which kinds they fit. -/
theorem consumed_congr (vs ws : List Json) (h : List.Forall₂ SameFits vs ws) :
    (firstFit expected vs).consumed = (firstFit expected ws).consumed := by
  induction h with
  | nil => rfl
  | @cons v w vs ws hvw _ ih =>
      have hfits := hvw expected
      unfold fits at hfits
      cases hv : coerce expected v with
      | some value =>
          rw [hv, Option.isSome_some, eq_comm, Option.isSome_iff_exists] at hfits
          rcases hfits with ⟨value', hw⟩
          rw [consumed_of_fits expected v value vs hv, consumed_of_fits expected w value' ws hw]
      | none =>
          rw [hv, Option.isSome_none, eq_comm, Option.isSome_eq_false_iff,
            Option.isNone_iff_eq_none] at hfits
          rw [consumed_of_not_fits expected v vs hv, consumed_of_not_fits expected w ws hfits, ih]

namespace Cursor

theorem unread_pop (cursor : Cursor) :
    (cursor.pop expected).cursor.unread = (firstFit expected cursor.unread).rest := by
  rcases cursor with ⟨buffer, position⟩
  cases buffer with
  | keyed entries => rfl
  | sequence values =>
      rw [firstFit_rest]
      unfold pop unread
      exact List.drop_drop.symm

/-- A read whose kind fits the next value takes that one and no other. -/
theorem pop_of_fits (cursor : Cursor) (v value : Json) (rest : List Json)
    (hunread : cursor.unread = v :: rest) (hfits : coerce expected v = some value) :
    (cursor.pop expected).value = some value ∧ (cursor.pop expected).cursor.unread = rest := by
  rw [unread_pop]
  unfold pop
  simp only [hunread, firstFit_of_fits expected v value rest hfits, and_self]

theorem take_eq_pop (cursor : Cursor) (h : cursor.buffer.isSequence = true) (name : String) :
    cursor.take name expected = cursor.pop expected := by
  rcases cursor with ⟨buffer, position⟩
  cases buffer with
  | sequence values => rfl
  | keyed entries => cases h

/-- A read that takes an input by name moves no further than one that does not. -/
theorem cursor_take (cursor : Cursor) (name : String) :
    (cursor.take name expected).cursor = (cursor.pop expected).cursor := by
  rcases cursor with ⟨buffer, position⟩
  cases buffer <;> rfl

theorem buffer_take (cursor : Cursor) (name : String) :
    (cursor.take name expected).cursor.buffer = cursor.buffer := by
  rw [cursor_take]
  rfl

/-- From named values a read takes the one of its name, and stays where it is. -/
theorem take_of_keyed (cursor : Cursor) (named : OrderedMap Json)
    (h : cursor.buffer = .keyed named) (name : String) :
    cursor.take name expected = ⟨named.get? name, [], cursor⟩ := by
  rcases cursor with ⟨buffer, position⟩
  cases h
  rfl

/-- A read that finds nothing leaves nothing. -/
theorem unread_of_take_none (cursor : Cursor) (name : String)
    (h : (cursor.take name expected).value = none) :
    (cursor.take name expected).cursor.unread = [] := by
  rcases cursor with ⟨buffer, position⟩
  cases buffer with
  | sequence values =>
      rw [take_eq_pop expected _ rfl] at h ⊢
      rw [unread_pop]
      exact firstFit_rest_of_none expected _ h
  | keyed entries => rfl

/-- Where nothing is left to read the cursor stays. -/
theorem cursor_take_of_unread (cursor : Cursor) (name : String) (h : cursor.unread = []) :
    (cursor.take name expected).cursor = cursor := by
  rw [cursor_take]
  unfold pop
  rw [h]
  rfl

/-- The place after reads for several kinds, one after the other. -/
def dropAll (cursor : Cursor) (kinds : List (Option Kind)) : Cursor :=
  kinds.foldl (fun cursor expected => (cursor.pop expected).cursor) cursor

theorem dropAll_cons (cursor : Cursor) (kinds : List (Option Kind)) :
    cursor.dropAll (expected :: kinds) = (cursor.pop expected).cursor.dropAll kinds := rfl

theorem buffer_dropAll (cursor : Cursor) (kinds : List (Option Kind)) :
    (cursor.dropAll kinds).buffer = cursor.buffer := by
  induction kinds generalizing cursor with
  | nil => rfl
  | cons expected rest ih =>
      rw [dropAll_cons, ih]
      rfl

theorem dropAll_of_fits (cursor : Cursor) (kinds : List (Option Kind)) (front back : List Json)
    (hunread : cursor.unread = front ++ back)
    (h : List.Forall₂ (fun expected v => fits expected v = true) kinds front) :
    (cursor.dropAll kinds).unread = back := by
  induction h generalizing cursor with
  | nil => exact hunread
  | @cons expected v kinds front hv _ ih =>
      rcases Option.isSome_iff_exists.mp hv with ⟨value, hvalue⟩
      rw [dropAll_cons]
      exact ih _ (pop_of_fits expected cursor v value (front ++ back) hunread hvalue).2

/-- Each read uses up a value, until none is left. -/
theorem le_position_dropAll (values : List Json) (position : Nat) (kinds : List (Option Kind)) :
    min values.length (position + kinds.length) ≤
      (dropAll ⟨.sequence values, position⟩ kinds).position := by
  induction kinds generalizing position with
  | nil => exact Nat.min_le_right _ _
  | cons expected rest ih =>
      have hrest := ih (position + (firstFit expected (values.drop position)).consumed)
      -- With values left, the first read uses one up.
      have hread : position < values.length →
          0 < (firstFit expected (values.drop position)).consumed := by
        intro hlt
        refine consumed_pos expected _ fun hnil => ?_
        have hle := List.drop_eq_nil_iff.mp hnil
        omega
      rw [dropAll_cons]
      refine Nat.le_trans ?_ hrest
      rw [List.length_cons]
      omega

theorem position_dropAll_congr (vs ws : List Json) (position : Nat) (kinds : List (Option Kind))
    (h : List.Forall₂ SameFits vs ws) :
    (dropAll ⟨.sequence vs, position⟩ kinds).position =
      (dropAll ⟨.sequence ws, position⟩ kinds).position := by
  induction kinds generalizing position with
  | nil => rfl
  | cons expected rest ih =>
      -- What is ahead fits alike too, so the first read moves as far in both.
      have hconsumed := consumed_congr expected _ _ (List.forall₂_drop position h)
      have hpop := ih (position + (firstFit expected (vs.drop position)).consumed)
      rw [dropAll_cons, dropAll_cons]
      refine hpop.trans ?_
      rw [hconsumed]
      rfl

/-- Two cursors over sequences have the same values ahead. -/
def Ahead (cursor cursor' : Cursor) : Prop :=
  cursor.buffer.isSequence = true ∧ cursor'.buffer.isSequence = true ∧
    cursor.unread = cursor'.unread

/-- Related cursors read alike: a read gives the same value from both and leaves them
    related. -/
structure ReadAlike (R : Cursor → Cursor → Prop) : Prop where
  value : ∀ cursor cursor', R cursor cursor' → ∀ name expected,
    (cursor.take name expected).value = (cursor'.take name expected).value
  cursor : ∀ cursor cursor', R cursor cursor' → ∀ name expected,
    R (cursor.take name expected).cursor (cursor'.take name expected).cursor

theorem readAlike_eq : ReadAlike Eq where
  value := fun cursor cursor' h name expected => by rw [h]
  cursor := fun cursor cursor' h name expected => by rw [h]

/-- Reads with the same values ahead give the same value and leave the same values
    ahead. -/
theorem take_ahead (cursor cursor' : Cursor) (h : Ahead cursor cursor') (name : String) :
    (cursor.take name expected).value = (cursor'.take name expected).value ∧
      Ahead (cursor.take name expected).cursor (cursor'.take name expected).cursor := by
  rcases h with ⟨hseq, hseq', hunread⟩
  rw [take_eq_pop expected cursor hseq, take_eq_pop expected cursor' hseq']
  refine ⟨congrArg (fun ahead => (firstFit expected ahead).value) hunread, hseq, hseq', ?_⟩
  rw [unread_pop, unread_pop, hunread]

theorem readAlike_ahead : ReadAlike Ahead where
  value := fun cursor cursor' h name expected => (take_ahead expected cursor cursor' h name).1
  cursor := fun cursor cursor' h name expected => (take_ahead expected cursor cursor' h name).2

theorem unread_dropAll (values : List Json) (kinds : List (Option Kind)) :
    (dropAll ⟨.sequence values, 0⟩ kinds).unread =
      values.drop (dropAll ⟨.sequence values, 0⟩ kinds).position := by
  unfold unread
  rw [buffer_dropAll]

/-- Once enough has been read, a value at the front may be exchanged for another that
    fits alike. -/
theorem dropAll_ahead (front back : List Json) (v w : Json) (kinds : List (Option Kind))
    (hsame : SameFits v w) (hread : front.length < kinds.length) :
    Ahead (dropAll ⟨.sequence (front ++ v :: back), 0⟩ kinds)
      (dropAll ⟨.sequence (front ++ w :: back), 0⟩ kinds) := by
  have hfits : List.Forall₂ SameFits (front ++ v :: back) (front ++ w :: back) :=
    List.rel_append (List.forall₂_same.mpr fun a _ => SameFits.refl a)
      (.cons hsame (List.forall₂_same.mpr fun a _ => SameFits.refl a))
  -- The reads end at the same place in both.
  have hposition := position_dropAll_congr _ _ 0 kinds hfits
  have hle := le_position_dropAll (front ++ v :: back) 0 kinds
  rw [List.length_append, List.length_cons, Nat.zero_add] at hle
  -- There are more reads than values before the exchanged one, so it is passed.
  have hpassed : front.length < (dropAll ⟨.sequence (front ++ v :: back), 0⟩ kinds).position := by
    omega
  refine ⟨by rw [buffer_dropAll]; rfl, by rw [buffer_dropAll]; rfl, ?_⟩
  rw [unread_dropAll, unread_dropAll, ← hposition, List.drop_append, List.drop_append,
    List.drop_cons (Nat.sub_pos_of_lt hpassed), List.drop_cons (Nat.sub_pos_of_lt hpassed)]

end Cursor

end PromptGraph
