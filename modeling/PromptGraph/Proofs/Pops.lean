import PromptGraph.Proofs.Takes

/-!
# Reads in Turn

What several reads give, one after the other, and when it is the same from another sequence.

Values may be added at the end of a sequence. As long as reads find something, they do not get
that far, and they give the same as before. Only a read that has looked through the whole sequence
without success comes to the values that were added, and it may find one of them.

A value may also be put in further ahead, at some place. Reads that find something before the place
do not get there. The first that does get there has to pass over the new value, so it must not fit
the kind that the read looks for. Then the new value is behind, and all later reads have the same
values ahead as they had without it.

## Main definitions

* `Attempt`: A read, with the place that it is made from.
* `Attempt.reaches`: A read gets as far as a position.
* `Cursor.attempts`, `Cursor.popAll`: Reads for several kinds, and what they give.
* `LooksPast`: Reads look past a value that is put in at a position.
* `Cursor.Extends`: A cursor has more values at the end.
* `Cursor.Inserts`: A cursor has one more value ahead.

## Theorems

* `firstFit_append_of_found`, `firstFit_append_of_missed`: Searching a list of two parts.
* `Cursor.popAll_ahead`: Reads see what is ahead and nothing else.
* `Cursor.popAll_extends`: Values at the end do not matter to reads that find something.
* `Cursor.found_of_unread`: Reads that leave something have all found something.
* `Cursor.popAll_inserts`: A value that is looked past does not matter.
-/

namespace PromptGraph

section Parts

variable (expected : Option Kind)

/-- A search that finds something in the first part does not get to the second. -/
theorem firstFit_append_of_found (front back : List Json) (value : Json)
    (h : (firstFit expected front).value = some value) :
    firstFit expected (front ++ back) =
      ⟨some value, (firstFit expected front).skipped, (firstFit expected front).rest ++ back⟩ := by
  induction front with
  | nil => cases h
  | cons v rest ih =>
      rw [List.cons_append]
      cases hfit : coerce expected v with
      | some found =>
          rw [firstFit_of_fits expected v found _ hfit] at h ⊢
          rw [firstFit_of_fits expected v found _ hfit, ← h]
      | none =>
          rw [firstFit_of_not_fits expected v _ hfit] at h ⊢
          rw [firstFit_of_not_fits expected v _ hfit, ih h]

/-- A search that finds nothing in the first part goes on in the second. -/
theorem firstFit_append_of_missed (front back : List Json)
    (h : (firstFit expected front).value = none) :
    firstFit expected (front ++ back) =
      ⟨(firstFit expected back).value, front ++ (firstFit expected back).skipped,
        (firstFit expected back).rest⟩ := by
  induction front with
  | nil => rfl
  | cons v rest ih =>
      rw [List.cons_append]
      cases hfit : coerce expected v with
      | some found =>
          rw [firstFit_of_fits expected v found _ hfit] at h
          cases h
      | none =>
          rw [firstFit_of_not_fits expected v _ hfit] at h ⊢
          rw [ih h]
          rfl

end Parts

/-- A read for a value of a kind, made from a place in a buffer. -/
structure Attempt where
  expected : Option Kind
  /-- The place before the read. -/
  cursor : Cursor

namespace Attempt

variable (attempt : Attempt)

def read : Read := attempt.cursor.pop attempt.expected

/-- A read gets as far as a position if it finds nothing before it. -/
def reaches (position : Nat) : Bool :=
  attempt.read.value.isNone ||
    decide (position ≤ attempt.cursor.position + attempt.read.skipped.length)

end Attempt

/-- Reads look past a value that is put in at a position: the first read that gets that far, if
    there is any, is for a kind that the value does not fit. -/
def LooksPast (position : Nat) (value : Json) (attempts : List Attempt) : Prop :=
  ∀ attempt, attempts.find? (·.reaches position) = some attempt →
    fits attempt.expected value = false

namespace Cursor

/-- The reads for several kinds, one after the other. -/
def attempts (cursor : Cursor) : List (Option Kind) → List Attempt
  | [] => []
  | expected :: rest => ⟨expected, cursor⟩ :: (cursor.pop expected).cursor.attempts rest

/-- What reads for several kinds give, one after the other. -/
def popAll (cursor : Cursor) (kinds : List (Option Kind)) : List (Option Json) :=
  (cursor.attempts kinds).map fun attempt => attempt.read.value

theorem popAll_cons (cursor : Cursor) (expected : Option Kind) (kinds : List (Option Kind)) :
    cursor.popAll (expected :: kinds) =
      (cursor.pop expected).value :: (cursor.pop expected).cursor.popAll kinds := rfl

/-- Reads see what is ahead and nothing else. -/
theorem popAll_ahead (cursor cursor' : Cursor) (h : Ahead cursor cursor')
    (kinds : List (Option Kind)) : cursor.popAll kinds = cursor'.popAll kinds := by
  induction kinds generalizing cursor cursor' with
  | nil => rfl
  | cons expected rest ih =>
      rcases take_ahead expected cursor cursor' h "" with ⟨hvalue, hnext⟩
      rw [take_eq_pop expected cursor h.1, take_eq_pop expected cursor' h.2.1] at hvalue hnext
      rw [popAll_cons, popAll_cons, hvalue, ih _ _ hnext]

section Extends

/-- A cursor over a sequence has more values at the end than another. -/
def Extends (more : List Json) (cursor cursor' : Cursor) : Prop :=
  cursor.buffer.isSequence = true ∧ cursor'.buffer.isSequence = true ∧
    cursor'.unread = cursor.unread ++ more

variable {more : List Json} {cursor cursor' : Cursor}

theorem extends_start (values more : List Json) :
    Extends more ⟨.sequence values, 0⟩ ⟨.sequence (values ++ more), 0⟩ := ⟨rfl, rfl, rfl⟩

/-- A read that finds something finds the same with more values at the end. -/
theorem Extends.pop (h : Extends more cursor cursor') (expected : Option Kind) (value : Json)
    (hfound : (cursor.pop expected).value = some value) :
    (cursor'.pop expected).value = some value ∧
      Extends more (cursor.pop expected).cursor (cursor'.pop expected).cursor := by
  rcases h with ⟨hseq, hseq', hunread⟩
  have hsearch := firstFit_append_of_found expected cursor.unread more value hfound
  rw [← hunread] at hsearch
  refine ⟨congrArg Fit.value hsearch, hseq, hseq', ?_⟩
  rw [unread_pop, unread_pop, hsearch]

/-- Reads that find something give the same with more values at the end. -/
theorem popAll_extends (h : Extends more cursor cursor') (kinds : List (Option Kind))
    (hfound : ∀ value? ∈ cursor.popAll kinds, value?.isSome = true) :
    cursor'.popAll kinds = cursor.popAll kinds := by
  induction kinds generalizing cursor cursor' with
  | nil => rfl
  | cons expected rest ih =>
      rw [popAll_cons, List.forall_mem_cons] at hfound
      rcases Option.isSome_iff_exists.mp hfound.1 with ⟨value, hvalue⟩
      rcases h.pop expected value hvalue with ⟨hvalue', hnext⟩
      rw [popAll_cons, popAll_cons, hvalue, hvalue', ih hnext hfound.2]

end Extends

theorem pop_of_unread (cursor : Cursor) (expected : Option Kind) (h : cursor.unread = []) :
    (cursor.pop expected).value = none ∧ (cursor.pop expected).cursor = cursor := by
  unfold pop
  rw [h]
  exact ⟨rfl, rfl⟩

/-- A read that finds nothing leaves nothing. -/
theorem unread_of_pop_none (cursor : Cursor) (expected : Option Kind)
    (h : (cursor.pop expected).value = none) : (cursor.pop expected).cursor.unread = [] := by
  rw [unread_pop]
  exact firstFit_rest_of_none expected _ h

theorem dropAll_of_unread (cursor : Cursor) (kinds : List (Option Kind))
    (h : cursor.unread = []) : cursor.dropAll kinds = cursor := by
  induction kinds with
  | nil => rfl
  | cons expected rest ih => rw [dropAll_cons, (pop_of_unread cursor expected h).2, ih]

/-- If reads leave something, all of them have found something. -/
theorem found_of_unread (cursor : Cursor) (kinds : List (Option Kind))
    (h : (cursor.dropAll kinds).unread ≠ []) :
    ∀ value? ∈ cursor.popAll kinds, value?.isSome = true := by
  induction kinds generalizing cursor with
  | nil => exact fun value? hmem => (by cases hmem)
  | cons expected rest ih =>
      rw [dropAll_cons] at h
      rw [popAll_cons, List.forall_mem_cons]
      refine ⟨Option.isSome_iff_ne_none.mpr fun hnone => h ?_, ih _ h⟩
      have hunread := unread_of_pop_none cursor expected hnone
      rw [dropAll_of_unread _ rest hunread]
      exact hunread

section Inserts

/-- Of two cursors over sequences, one has the values up to a position and those from there on
    ahead, and the other has one more value in between. -/
def Inserts (position : Nat) (value : Json) (back : List Json) (cursor cursor' : Cursor) : Prop :=
  cursor.buffer.isSequence = true ∧ cursor'.buffer.isSequence = true ∧
    ∃ front, cursor.unread = front ++ back ∧ cursor'.unread = front ++ value :: back ∧
      cursor.position + front.length = position

variable {position : Nat} {value : Json} {back : List Json} {cursor cursor' : Cursor}

theorem inserts_start (front back : List Json) (value : Json) :
    Inserts front.length value back ⟨.sequence (front ++ back), 0⟩
      ⟨.sequence (front ++ value :: back), 0⟩ :=
  ⟨rfl, rfl, front, rfl, rfl, Nat.zero_add _⟩

/-- A read gets as far as the position if there is nothing for it before. -/
theorem reaches_eq (expected : Option Kind) (front : List Json)
    (hunread : cursor.unread = front ++ back)
    (hposition : cursor.position + front.length = position) :
    Attempt.reaches ⟨expected, cursor⟩ position = (firstFit expected front).value.isNone := by
  have hread : Attempt.reaches ⟨expected, cursor⟩ position =
      ((firstFit expected (front ++ back)).value.isNone || decide (position ≤
        cursor.position + (firstFit expected (front ++ back)).skipped.length)) := by
    unfold Attempt.reaches Attempt.read pop
    simp only [length_numbered, hunread]
  rw [hread]
  cases hvalue : (firstFit expected front).value with
  | some found =>
      -- What was found is before the position.
      have hlength := firstFit_length expected front
      unfold Fit.consumed at hlength
      rw [hvalue, Option.isSome_some, if_pos rfl] at hlength
      rw [firstFit_append_of_found expected front back found hvalue]
      exact decide_eq_false (by simp only []; omega)
  | none =>
      rw [firstFit_append_of_missed expected front back hvalue, Option.isNone_none,
        Bool.or_eq_true, decide_eq_true_eq, List.length_append]
      exact Or.inr (by omega)

/-- A read that does not get as far as the new value gives the same and leaves it ahead. -/
theorem Inserts.pop (h : Inserts position value back cursor cursor') (expected : Option Kind)
    (hbefore : Attempt.reaches ⟨expected, cursor⟩ position = false) :
    (cursor.pop expected).value = (cursor'.pop expected).value ∧
      Inserts position value back (cursor.pop expected).cursor (cursor'.pop expected).cursor := by
  rcases h with ⟨hseq, hseq', front, hunread, hunread', hposition⟩
  rw [reaches_eq expected front hunread hposition, Option.isNone_eq_false_iff,
    Option.isSome_iff_exists] at hbefore
  rcases hbefore with ⟨found, hfound⟩
  have hsearch := firstFit_append_of_found expected front back found hfound
  have hsearch' := firstFit_append_of_found expected front (value :: back) found hfound
  rw [← hunread] at hsearch
  rw [← hunread'] at hsearch'
  refine ⟨?_, hseq, hseq', (firstFit expected front).rest, ?_, ?_, ?_⟩
  · exact (congrArg Fit.value hsearch).trans (congrArg Fit.value hsearch').symm
  · rw [unread_pop, hsearch]
  · rw [unread_pop, hsearch']
  · -- What was read came from before the position.
    have hlength := firstFit_length expected front
    have hconsumed : (firstFit expected cursor.unread).consumed =
        (firstFit expected front).consumed := by
      unfold Fit.consumed
      rw [hsearch, hfound]
    have hmoved : (cursor.pop expected).cursor.position =
        cursor.position + (firstFit expected cursor.unread).consumed := rfl
    omega

/-- A read that gets as far as the new value, and for which it does not fit, gives the same and
    leaves the same ahead. -/
theorem Inserts.pop_past (h : Inserts position value back cursor cursor')
    (expected : Option Kind) (hreaches : Attempt.reaches ⟨expected, cursor⟩ position = true)
    (hfits : fits expected value = false) :
    (cursor.pop expected).value = (cursor'.pop expected).value ∧
      Ahead (cursor.pop expected).cursor (cursor'.pop expected).cursor := by
  rcases h with ⟨hseq, hseq', front, hunread, hunread', hposition⟩
  rw [reaches_eq expected front hunread hposition, Option.isNone_iff_eq_none] at hreaches
  have hnone : coerce expected value = none :=
    Option.isNone_iff_eq_none.mp (Option.isSome_eq_false_iff.mp hfits)
  have hsearch := firstFit_append_of_missed expected front back hreaches
  have hsearch' := firstFit_append_of_missed expected front (value :: back) hreaches
  rw [← hunread] at hsearch
  rw [← hunread', firstFit_of_not_fits expected value back hnone] at hsearch'
  refine ⟨?_, hseq, hseq', ?_⟩
  · exact (congrArg Fit.value hsearch).trans (congrArg Fit.value hsearch').symm
  · rw [unread_pop, unread_pop, hsearch, hsearch']

/-- Reads that look past a value give the same as without it. -/
theorem popAll_inserts (h : Inserts position value back cursor cursor')
    (kinds : List (Option Kind)) (hpast : LooksPast position value (cursor.attempts kinds)) :
    cursor'.popAll kinds = cursor.popAll kinds := by
  induction kinds generalizing cursor cursor' with
  | nil => rfl
  | cons expected rest ih =>
      unfold LooksPast at hpast
      rw [attempts, List.find?_cons] at hpast
      cases hreaches : Attempt.reaches ⟨expected, cursor⟩ position with
      | true =>
          -- This read passes the new value, and those after it see the same in both.
          rw [hreaches] at hpast
          rcases h.pop_past expected hreaches (hpast _ rfl) with ⟨hvalue, hahead⟩
          rw [popAll_cons, popAll_cons, hvalue, popAll_ahead _ _ hahead]
      | false =>
          -- The new value is still ahead, and a later read is the first to get there.
          rw [hreaches] at hpast
          rcases h.pop expected hreaches with ⟨hvalue, hnext⟩
          rw [popAll_cons, popAll_cons, hvalue, ih hnext hpast]

end Inserts

end Cursor

end PromptGraph
