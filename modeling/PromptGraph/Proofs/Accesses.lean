import PromptGraph.Proofs.Pops

/-!
# Accesses to a Buffer

A cursor as a machine that accesses go through one after the other.

Over a sequence the state of the machine is a position, and a pop is a search for the first value
from there on that fits. `FirstMatch` says what such a search has to find, without saying how: a
value fits, none of those that it passes over does, and it ends right behind what it has found, or
at the end. What is found this way is determined, so a pop does this and nothing else. A position
never goes back, and once a pop has found nothing the position is the end, where no access finds
anything.

Over named values the machine has one state. Nothing is used up there, so what an access gives does
not depend on those before it, and kinds are not looked at.

## Main definitions

* `Access`: What a cursor is asked for.
* `Access.run`: What it gives, and the cursor afterwards.
* `Cursor.after`: The cursor after several accesses.
* `FirstMatch`: What a search from a position finds, and where it ends.
* `Cursor.ReadsInOrder`, `Cursor.ReadsByName`: The rules of the machine for either kind of buffer.

## Theorems

* `firstFit_value`: A search gives the first value that can be brought to the kind.
* `FirstMatch.unique`: What is found, and where a search ends, is determined.
* `Spent.run`, `Spent.after`: Accesses to a sequence are reads from its front to its end.
* `Cursor.after_obeys`: A cursor keeps to the rules after any accesses.
* `Cursor.seeded_pops`: A pop passes over a word, and one that finds nothing leaves nothing.
-/

namespace PromptGraph

/-- An access to a buffer by way of a cursor. -/
inductive Access where
  /-- Read the next value that fits a kind. -/
  | pop (expected : Option Kind)
  /-- Read the value of an input. -/
  | take (name : String) (expected : Option Kind)
  /-- Look up a value by its name. -/
  | get (name : String)

namespace Access

/-- What a cursor gives for an access, and the cursor after it. -/
def run (cursor : Cursor) : Access → Option Json × Cursor
  | .pop expected => ((cursor.pop expected).value, (cursor.pop expected).cursor)
  | .take name expected => ((cursor.take name expected).value, (cursor.take name expected).cursor)
  | .get name => (cursor.get? name, cursor)

theorem run_pop (cursor : Cursor) (expected : Option Kind) :
    (pop expected).run cursor = ((cursor.pop expected).value, (cursor.pop expected).cursor) := rfl

/-- From a sequence the value of an input is read as any other. -/
theorem run_take_of_sequence (cursor : Cursor) (h : cursor.buffer.isSequence = true)
    (name : String) (expected : Option Kind) :
    (take name expected).run cursor = (pop expected).run cursor := by
  have htake := cursor.take_eq_pop expected h name
  exact congrArg (fun read : Read => (read.value, read.cursor)) htake

/-- A sequence has no names to look up. -/
theorem run_get_of_sequence (cursor : Cursor) (h : cursor.buffer.isSequence = true)
    (name : String) : (get name).run cursor = (none, cursor) := by
  rcases cursor with ⟨buffer, position⟩
  cases buffer with
  | sequence values => rfl
  | keyed named => cases h

end Access

/-- The cursor after accesses that are made one after the other. -/
def Cursor.after (cursor : Cursor) (accesses : List Access) : Cursor :=
  accesses.foldl (fun cursor access => (access.run cursor).2) cursor

theorem Cursor.after_cons (cursor : Cursor) (access : Access) (rest : List Access) :
    cursor.after (access :: rest) = (access.run cursor).2.after rest := rfl

/-- What a search for a value of a kind finds from a position of a sequence on, and the position
    where it ends. -/
inductive FirstMatch (values : List Json) (start : Nat) (expected : Option Kind) :
    Option Json → Nat → Prop where
  /-- A value that fits, brought to the kind, after values that do not fit. -/
  | found (i : Nat) (v value : Json) (ahead : start ≤ i) (stands : values[i]? = some v)
      (fits : coerce expected v = some value)
      (passed : ∀ p u, start ≤ p → p < i → values[p]? = some u → coerce expected u = none) :
      FirstMatch values start expected (some value) (i + 1)
  /-- Nothing, as no value fits. -/
  | missed (passed : ∀ p u, start ≤ p → values[p]? = some u → coerce expected u = none) :
      FirstMatch values start expected none values.length

namespace FirstMatch

variable {values : List Json} {start : Nat} {expected : Option Kind}

/-- What is found, and where the search ends, is determined. -/
theorem unique {value value' : Option Json} {position position' : Nat}
    (h : FirstMatch values start expected value position)
    (h' : FirstMatch values start expected value' position') :
    value = value' ∧ position = position' := by
  -- A value that fits is not among those that were passed over.
  have hclash : ∀ v value, coerce expected v = some value → coerce expected v ≠ none := by
    intro v value hfits hnone
    rw [hfits] at hnone
    cases hnone
  cases h with
  | found i v value ahead stands fits passed =>
      cases h' with
      | found i' v' value' ahead' stands' fits' passed' =>
          rcases Nat.lt_trichotomy i i' with hlt | rfl | hlt
          · exact absurd (passed' i v ahead hlt stands) (hclash v value fits)
          · cases stands.symm.trans stands'
            cases fits.symm.trans fits'
            exact ⟨rfl, rfl⟩
          · exact absurd (passed i' v' ahead' hlt stands') (hclash v' value' fits')
      | missed passed' => exact absurd (passed' i v ahead stands) (hclash v value fits)
  | missed passed =>
      cases h' with
      | found i' v' value' ahead' stands' fits' passed' =>
          exact absurd (passed i' v' ahead' stands') (hclash v' value' fits')
      | missed passed' => exact ⟨rfl, rfl⟩

end FirstMatch

/-- A search gives the first value of a list that can be brought to the kind. -/
theorem firstFit_value (expected : Option Kind) (values : List Json) :
    (firstFit expected values).value = values.findSome? (coerce expected) := by
  induction values with
  | nil => rfl
  | cons v rest ih =>
      rw [List.findSome?_cons]
      cases hfit : coerce expected v with
      | some found => rw [firstFit_of_fits expected v found rest hfit]
      | none =>
          rw [firstFit_of_not_fits expected v rest hfit]
          exact ih

namespace Spent

variable {values : List Json} {log : List Take} {cursor : Cursor}

theorem isSequence (h : Spent values log cursor) : cursor.buffer.isSequence = true := by
  rw [h.buffer]
  rfl

/-- An access to a sequence is a read, or it leaves the cursor where it is. -/
theorem run (h : Spent values log cursor) (access : Access) :
    ∃ log', Spent values log' (access.run cursor).2 := by
  cases access with
  | pop expected => exact ⟨_, h.pop ⟨"", expected, false⟩⟩
  | take name expected =>
      rw [Access.run_take_of_sequence cursor h.isSequence]
      exact ⟨_, h.pop ⟨name, expected, false⟩⟩
  | get name => exact ⟨log, h⟩

theorem after (h : Spent values log cursor) (accesses : List Access) :
    ∃ log', Spent values log' (cursor.after accesses) := by
  induction accesses generalizing log cursor with
  | nil => exact ⟨log, h⟩
  | cons access rest ih =>
      rcases h.run access with ⟨log', hrun⟩
      exact ih hrun

/-- A pop is a search from the position of the cursor on. -/
theorem firstMatch_pop (h : Spent values log cursor) (expected : Option Kind) :
    FirstMatch values cursor.position expected (cursor.pop expected).value
      (cursor.pop expected).cursor.position := by
  cases hvalue : (cursor.pop expected).value with
  | some value =>
      rcases h.found_of_pop expected value hvalue with ⟨hend, ⟨v, hget, hv⟩, hskipped⟩
      rw [hend]
      exact .found _ v value (Nat.le_add_right _ _) hget hv hskipped
  | none =>
      rw [h.position_of_missed expected hvalue]
      have hnone : ∀ u ∈ values.drop cursor.position, coerce expected u = none := by
        rw [← h.unread_eq, ← List.findSome?_eq_none_iff, ← firstFit_value]
        exact hvalue
      refine .missed fun p u hp hu => hnone u (List.mem_of_getElem? (i := p - cursor.position) ?_)
      rw [List.getElem?_drop, Nat.add_sub_cancel' hp]
      exact hu

end Spent

namespace Cursor

/-- The rules for a cursor over a sequence. -/
structure ReadsInOrder (values : List Json) (cursor : Cursor) : Prop where
  /-- What has been read and what has not been make up the sequence. -/
  total : cursor.consumed + cursor.remaining = values.length
  /-- No access goes back. -/
  forward : ∀ access : Access, cursor.consumed ≤ (access.run cursor).2.consumed
  /-- A pop gives what a search from the position on finds, which is determined, and goes to where
      the search ends. -/
  pop : ∀ expected, ∃ value position,
    (Access.pop expected).run cursor = (value, ⟨.sequence values, position⟩) ∧
      ∀ value' position', FirstMatch values cursor.consumed expected value' position' ↔
        value' = value ∧ position' = position
  /-- After a pop that has found nothing, no access ever finds anything or moves. -/
  exhausted : ∀ expected last, (Access.pop expected).run cursor = (none, last) →
    ∀ (later : List Access) (access : Access), access.run (last.after later) = (none, last)
  /-- To take the value of an input is to pop. -/
  take : ∀ name expected,
    (Access.take name expected).run cursor = (Access.pop expected).run cursor
  /-- There are no names to look up. -/
  get : ∀ name, (Access.get name).run cursor = (none, cursor)

/-- The rules for a cursor over named values. -/
structure ReadsByName (named : OrderedMap Json) (cursor : Cursor) : Prop where
  /-- Nothing counts as read. -/
  consumed : cursor.consumed = 0
  /-- Nothing counts as ahead. -/
  remaining : cursor.remaining = 0
  /-- A pop finds nothing. -/
  pop : ∀ expected, (Access.pop expected).run cursor = (none, cursor)
  /-- The value of an input is that of its name, of whatever kind it is. -/
  take : ∀ name expected, (Access.take name expected).run cursor = (named.get? name, cursor)
  /-- A look-up gives the value of the name. -/
  get : ∀ name, (Access.get name).run cursor = (named.get? name, cursor)

/-- Where nothing is left of a sequence, an access finds nothing and does not move. -/
theorem run_of_unread (cursor : Cursor) (hseq : cursor.buffer.isSequence = true)
    (h : cursor.unread = []) (access : Access) : access.run cursor = (none, cursor) := by
  have hpop : ∀ expected, (Access.pop expected).run cursor = (none, cursor) := fun expected =>
    Prod.ext (pop_of_unread cursor expected h).1 (pop_of_unread cursor expected h).2
  cases access with
  | pop expected => exact hpop expected
  | take name expected =>
      rw [Access.run_take_of_sequence cursor hseq]
      exact hpop expected
  | get name => exact Access.run_get_of_sequence cursor hseq name

theorem after_of_unread (cursor : Cursor) (hseq : cursor.buffer.isSequence = true)
    (h : cursor.unread = []) (accesses : List Access) : cursor.after accesses = cursor := by
  induction accesses with
  | nil => rfl
  | cons access rest ih => rw [after_cons, run_of_unread cursor hseq h access, ih]

theorem position_le_run (cursor : Cursor) (access : Access) :
    cursor.position ≤ (access.run cursor).2.position := by
  have hpop : ∀ expected, cursor.position ≤ (cursor.pop expected).cursor.position :=
    fun expected => Nat.le_add_right _ _
  cases access with
  | pop expected => exact hpop expected
  | take name expected =>
      have htake := hpop expected
      rw [← cursor_take expected cursor name] at htake
      exact htake
  | get name => exact Nat.le_refl _

/-- A cursor that has made the reads of a log keeps to the rules. -/
theorem readsInOrder_of_spent (values : List Json) (log : List Take) (cursor : Cursor)
    (h : Spent values log cursor) : cursor.ReadsInOrder values where
  total := by
    have hbounded := h.bounded
    unfold consumed remaining
    rw [h.unread_eq, List.length_drop]
    omega
  forward := cursor.position_le_run
  pop := by
    intro expected
    have hsearch := h.firstMatch_pop expected
    have hbuffer : (cursor.pop expected).cursor.buffer = .sequence values := h.buffer
    refine ⟨(cursor.pop expected).value, (cursor.pop expected).cursor.position, ?_,
      fun value' position' => ⟨fun hmatch => hmatch.unique hsearch, ?_⟩⟩
    · rw [Access.run_pop, ← hbuffer]
    · rintro ⟨rfl, rfl⟩
      exact hsearch
  exhausted := by
    intro expected last hrun later access
    rw [Access.run_pop, Prod.mk.injEq] at hrun
    rcases hrun with ⟨hvalue, rfl⟩
    have hunread := unread_of_pop_none cursor expected hvalue
    have hseq : (cursor.pop expected).cursor.buffer.isSequence = true := h.isSequence
    rw [after_of_unread _ hseq hunread, run_of_unread _ hseq hunread]
  take := Access.run_take_of_sequence cursor h.isSequence
  get := Access.run_get_of_sequence cursor h.isSequence

theorem after_of_keyed (named : OrderedMap Json) (position : Nat) (accesses : List Access) :
    after ⟨.keyed named, position⟩ accesses = ⟨.keyed named, position⟩ := by
  induction accesses with
  | nil => rfl
  | cons access rest ih =>
      rw [after_cons]
      cases access <;> exact ih

theorem readsByName_of_keyed (named : OrderedMap Json) : ReadsByName named ⟨.keyed named, 0⟩ where
  consumed := rfl
  remaining := rfl
  pop := fun _ => rfl
  take := fun _ _ => rfl
  get := fun _ => rfl

/-- After any accesses a cursor keeps to the rules for its buffer.

    In a sequence each pop gives the first value from the position on that fits, brought to the
    kind, and goes right behind it, or gives nothing and goes to the end, where nothing is found any
    more. What has been read and what has not make up the sequence, the number of values read never
    goes down, and look-ups find nothing and change nothing. Named values are found by their names
    and by nothing else, whatever the kind and whatever was accessed before. -/
theorem after_obeys (accesses : List Access) :
    (∀ values, (after ⟨.sequence values, 0⟩ accesses).ReadsInOrder values) ∧
    ∀ named, (after ⟨.keyed named, 0⟩ accesses).ReadsByName named := by
  constructor
  · intro values
    rcases (Spent.start values).after accesses with ⟨log, hspent⟩
    exact readsInOrder_of_spent values log _ hspent
  · intro named
    rw [after_of_keyed]
    exact readsByName_of_keyed named

/-- A word between two numbers, as it is stored with a seed. -/
def seeded : List Json := [.nat 42, .str "randomize", .nat 20, .str "euler"]

/-- The second pop for an integer passes over the word, and after a pop for a truth value has found
    nothing there is nothing left to take. -/
theorem seeded_pops :
    (Access.pop (some .int)).run (after ⟨.sequence seeded, 0⟩ [.pop (some .int)]) =
      (some (Json.nat 20), ⟨.sequence seeded, 3⟩) ∧
    (Access.take "steps" none).run
        (after ⟨.sequence seeded, 4⟩ [.get "steps", .pop (some .int)]) =
      (none, ⟨.sequence seeded, 4⟩) := by
  constructor
  · rcases ((after_obeys [.pop (some .int)]).1 seeded).pop (some .int) with
      ⟨value, position, hrun, hmatch⟩
    have hfound : value = some (Json.nat 20) ∧ position = 3 := by
      refine ((hmatch _ _).mp (.found 2 (Json.nat 20) _ (by decide) rfl rfl ?_)).imp .symm .symm
      intro p u hp hlt hu
      -- Only the word stands in between.
      cases Nat.le_antisymm (Nat.le_of_lt_succ hlt) hp
      cases hu
      rfl
    rw [hrun, hfound.1, hfound.2]
  · exact ((after_obeys [.pop (some .int)]).1 seeded).exhausted (some .boolean) _ rfl
      [.get "steps", .pop (some .int)] (.take "steps" none)

end Cursor

end PromptGraph
