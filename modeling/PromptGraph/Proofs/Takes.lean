import Mathlib.Data.List.Nodup
import PromptGraph.Proofs.Cursor

/-!
# What a Cursor Has Given

The values that reads have taken from a sequence, one after the other.

A read that finds a value takes it from one position, and the next read looks
only at what comes after that. So the positions of a log of takes increase, and
no value is taken twice. The values in between were passed over because the read
that passed them could not use them. A read that finds nothing has looked through
all that was left, and nothing can be taken after it.

`Spent` says of a cursor that it stands where the reads of a log have left it. It
is what each read preserves, with its take at the end of the log.

## Main definitions

* `Request`: What a read is made for.
* `Take`: A value that was read, and where.
* `Request.take?`: The take of a read, if it finds a value.
* `InOrder`: A log of takes from the front of a sequence to its end.
* `Spent`: A cursor has made the reads of a log.

## Theorems

* `firstFit_found`, `firstFit_missed`: What a search has looked at.
* `InOrder.snoc`: A log goes on with a take further on.
* `InOrder.eq_of_position`: A value is taken once.
* `Spent.pop`: A read adds its take to the log.
-/

namespace PromptGraph

/-- A search that finds a value has found it right after the values it passed over, and
    none of these fits. -/
theorem firstFit_found (expected : Option Kind) (values : List Json) (value : Json)
    (h : (firstFit expected values).value = some value) :
    (∃ v, values[(firstFit expected values).skipped.length]? = some v ∧
        coerce expected v = some value) ∧
      ∀ i v, i < (firstFit expected values).skipped.length → values[i]? = some v →
        coerce expected v = none := by
  induction values with
  | nil => cases h
  | cons j rest ih =>
      cases hfit : coerce expected j with
      | some found =>
          rw [firstFit_of_fits expected j found rest hfit] at h ⊢
          cases h
          exact ⟨⟨j, rfl, hfit⟩, fun i v hi => absurd hi (Nat.not_lt_zero i)⟩
      | none =>
          rw [firstFit_of_not_fits expected j rest hfit] at h ⊢
          rcases ih h with ⟨⟨v, hget, hv⟩, hskipped⟩
          refine ⟨⟨v, hget, hv⟩, fun i u hi hu => ?_⟩
          -- The values passed over are this one and those of the rest of the search.
          cases i with
          | zero =>
              cases hu
              exact hfit
          | succ i =>
              have hi' : i < (firstFit expected rest).skipped.length := by
                simp only [List.length_cons] at hi
                omega
              exact hskipped i u hi' hu

/-- A search that finds nothing has used up all values. -/
theorem firstFit_missed (expected : Option Kind) (values : List Json)
    (h : (firstFit expected values).value = none) :
    (firstFit expected values).consumed = values.length := by
  induction values with
  | nil => rfl
  | cons j rest ih =>
      cases hfit : coerce expected j with
      | some found =>
          rw [firstFit_of_fits expected j found rest hfit] at h
          cases h
      | none =>
          rw [firstFit_of_not_fits expected j rest hfit] at h
          rw [consumed_of_not_fits expected j rest hfit, ih h, List.length_cons]

/-- What a read is made for. -/
structure Request where
  /-- The input that a value is read for. -/
  input : String
  /-- The kind that the value is brought to. -/
  expected : Option Kind
  /-- Whether the value is dropped again. -/
  dropped : Bool

/-- A value that was read. -/
structure Take where
  request : Request
  /-- Where the value stood. -/
  position : Nat
  /-- The value, brought to the kind that was asked for. -/
  value : Json

/-- The take of a read: the value that it finds, after those that it passes over. -/
def Request.take? (request : Request) (cursor : Cursor) : Option Take :=
  let read := cursor.pop request.expected
  read.value.map fun value => ⟨request, cursor.position + read.skipped.length, value⟩

namespace Request

variable (request : Request) (cursor : Cursor)

theorem take?_of_missed (h : (cursor.pop request.expected).value = none) :
    request.take? cursor = none := by
  unfold take?
  simp only [h, Option.map_none]

theorem take?_of_found (value : Json) (h : (cursor.pop request.expected).value = some value) :
    request.take? cursor =
      some ⟨request, cursor.position + (cursor.pop request.expected).skipped.length, value⟩ := by
  unfold take?
  simp only [h, Option.map_some]

theorem request_of_take? (t : Take) (h : request.take? cursor = some t) : t.request = request := by
  unfold take? at h
  rcases Option.map_eq_some_iff.mp h with ⟨value, -, rfl⟩
  rfl

end Request

/-- A log of reads from a sequence, from its front to its end. -/
structure InOrder (values : List Json) (log : List Take) : Prop where
  /-- Each read is further on than those before it. -/
  increasing : log.Pairwise fun t u => t.position < u.position
  /-- It gives the value at its position, brought to the kind that it asks for. -/
  found : ∀ t ∈ log, ∃ v, values[t.position]? = some v ∧
    coerce t.request.expected v = some t.value
  /-- It could not use any of the values since the read before. -/
  passed : ∀ front t back, log = front ++ t :: back → ∀ p v, (∀ u ∈ front, u.position < p) →
    p < t.position → values[p]? = some v → coerce t.request.expected v = none

namespace InOrder

variable {values : List Json} {log : List Take}

theorem nil (values : List Json) : InOrder values [] where
  increasing := .nil
  found := fun t ht => (by cases ht)
  passed := fun front t back hsplit => (by cases front <;> cases hsplit)

theorem snoc (h : InOrder values log) (t : Take) (hlater : ∀ u ∈ log, u.position < t.position)
    (hfound : ∃ v, values[t.position]? = some v ∧ coerce t.request.expected v = some t.value)
    (hpassed : ∀ p v, (∀ u ∈ log, u.position < p) → p < t.position → values[p]? = some v →
      coerce t.request.expected v = none) : InOrder values (log ++ [t]) where
  increasing := by
    rw [List.pairwise_append]
    refine ⟨h.increasing, List.pairwise_singleton _ t, fun u hu w hw => ?_⟩
    rw [List.mem_singleton.mp hw]
    exact hlater u hu
  found := by
    intro u hu
    rcases List.mem_append.mp hu with hold | hnew
    · exact h.found u hold
    · rw [List.mem_singleton.mp hnew]
      exact hfound
  passed := by
    intro front u back hsplit
    -- The take that is looked at is the new one or one of those before.
    rcases List.eq_nil_or_concat back with rfl | ⟨between, w, rfl⟩
    · rcases List.append_inj' hsplit rfl with ⟨rfl, hlast⟩
      cases hlast
      exact hpassed
    · rw [List.concat_eq_append, ← List.cons_append, ← List.append_assoc] at hsplit
      rcases List.append_inj' hsplit rfl with ⟨hlog, -⟩
      exact h.passed front u between hlog

/-- The value at a position is taken once. -/
theorem eq_of_position (h : InOrder values log) (t u : Take) (ht : t ∈ log) (hu : u ∈ log)
    (hposition : t.position = u.position) : t = u := by
  have hdistinct : (log.map Take.position).Nodup :=
    List.pairwise_map.mpr (h.increasing.imp fun hlt => Nat.ne_of_lt hlt)
  exact List.inj_on_of_nodup_map hdistinct ht hu hposition

end InOrder

/-- A cursor over a sequence has made the reads of a log. It is past what they took, and
    what is before it was taken or passed over, unless a read went through to the end
    without finding anything. -/
structure Spent (values : List Json) (log : List Take) (cursor : Cursor) : Prop where
  buffer : cursor.buffer = .sequence values
  inOrder : InOrder values log
  past : ∀ t ∈ log, t.position < cursor.position
  bounded : cursor.position ≤ values.length
  reached : cursor.position = values.length ∨
    ∀ p, p < cursor.position → ∃ t ∈ log, p ≤ t.position

namespace Cursor

theorem length_numbered (position : Nat) (values : List Json) :
    (numbered position values).length = values.length := by
  induction values generalizing position with
  | nil => rfl
  | cons j rest ih => rw [numbered, List.length_cons, List.length_cons, ih]

end Cursor

namespace Spent

variable {values : List Json} {log : List Take} {cursor : Cursor}

theorem start (values : List Json) : Spent values [] ⟨.sequence values, 0⟩ where
  buffer := rfl
  inOrder := .nil values
  past := fun t ht => (by cases ht)
  bounded := Nat.zero_le _
  reached := Or.inr fun p hp => absurd hp (Nat.not_lt_zero p)

theorem unread_eq (h : Spent values log cursor) : cursor.unread = values.drop cursor.position := by
  unfold Cursor.unread
  rw [h.buffer]

/-- A read that finds nothing ends at the end of the sequence. -/
theorem position_of_missed (h : Spent values log cursor) (expected : Option Kind)
    (hmissed : (cursor.pop expected).value = none) :
    (cursor.pop expected).cursor.position = values.length := by
  have hconsumed := firstFit_missed expected cursor.unread hmissed
  rw [h.unread_eq, List.length_drop] at hconsumed
  have hbounded := h.bounded
  unfold Cursor.pop
  simp only [h.unread_eq, hconsumed]
  omega

/-- A read takes the first value that fits from the cursor on, and ends right after it. -/
theorem found_of_pop (h : Spent values log cursor) (expected : Option Kind) (value : Json)
    (hfound : (cursor.pop expected).value = some value) :
    (cursor.pop expected).cursor.position =
        cursor.position + (cursor.pop expected).skipped.length + 1 ∧
      (∃ v, values[cursor.position + (cursor.pop expected).skipped.length]? = some v ∧
        coerce expected v = some value) ∧
      ∀ p v, cursor.position ≤ p → p < cursor.position + (cursor.pop expected).skipped.length →
        values[p]? = some v → coerce expected v = none := by
  have hlength : (cursor.pop expected).skipped.length =
      (firstFit expected cursor.unread).skipped.length := Cursor.length_numbered _ _
  rcases firstFit_found expected cursor.unread value hfound with ⟨⟨v, hget, hv⟩, hskipped⟩
  rw [← hlength] at hget hskipped
  simp only [h.unread_eq, List.getElem?_drop] at hget hskipped
  refine ⟨?_, ⟨v, hget, hv⟩, fun p u hle hlt hu => ?_⟩
  · have hvalue : (firstFit expected cursor.unread).value = some value := hfound
    rw [hlength]
    unfold Cursor.pop Fit.consumed
    simp only [hvalue, Option.isSome_some, if_true]
    omega
  · refine hskipped (p - cursor.position) u (by omega) ?_
    rw [Nat.add_sub_cancel' hle]
    exact hu

/-- A read keeps the account of a cursor, with its take at the end of the log. -/
theorem pop (h : Spent values log cursor) (request : Request) :
    Spent values (log ++ (request.take? cursor).toList) (cursor.pop request.expected).cursor := by
  cases hvalue : (cursor.pop request.expected).value with
  | none =>
      have hend := h.position_of_missed request.expected hvalue
      rw [request.take?_of_missed cursor hvalue, Option.toList_none, List.append_nil]
      refine ⟨h.buffer, h.inOrder, fun t ht => ?_, Nat.le_of_eq hend, Or.inl hend⟩
      -- All takes are from before the end.
      have hpast := h.past t ht
      have hbounded := h.bounded
      omega
  | some value =>
      rcases h.found_of_pop request.expected value hvalue with ⟨hend, ⟨v, hget, hv⟩, hskipped⟩
      have hlt := (List.getElem?_eq_some_iff.mp hget).1
      rw [request.take?_of_found cursor value hvalue, Option.toList_some]
      have hlater : ∀ t ∈ log, t.position <
          cursor.position + (cursor.pop request.expected).skipped.length := by
        intro t ht
        have hpast := h.past t ht
        omega
      refine ⟨h.buffer, h.inOrder.snoc _ hlater ⟨v, hget, hv⟩ fun p u hbefore hp hu => ?_,
        fun t ht => ?_, ?_, Or.inr fun p hp => ?_⟩
      · by_cases hle : cursor.position ≤ p
        · exact hskipped p u hle hp hu
        · -- Before the cursor nothing comes after all takes, for it has not run to the end.
          rcases h.reached with hall | hreached
          · omega
          · rcases hreached p (by omega) with ⟨t, ht, hpt⟩
            have hafter := hbefore t ht
            omega
      · rcases List.mem_append.mp ht with hold | hnew
        · have hbefore := hlater t hold
          omega
        · rw [List.mem_singleton.mp hnew, hend]
          exact Nat.lt_succ_self _
      · omega
      · exact ⟨_, List.mem_append_right log (List.mem_singleton_self _), by simp only []; omega⟩

end Spent

end PromptGraph
