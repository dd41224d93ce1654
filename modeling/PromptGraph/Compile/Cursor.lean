import PromptGraph.Compile.Coercion
import PromptGraph.Workflow.ValueBuffer

/-!
# Value Cursors

A place in a node's value buffer, from which the values of its inputs are read.

A sequence is read front to back: each read looks for the next value that fits
and passes over those that do not, and nothing is read twice. Named values are
looked up, never used up.

## Main definitions

* `Cursor`: A buffer and the number of its values read so far.
* `firstFit`: The first value of a list that fits a kind.
* `Cursor.pop`, `Cursor.take`, `Cursor.get?`: Reading a value.

## Theorems

* `firstFit_length`: What is passed over, taken and left makes up the list.
-/

namespace PromptGraph

/-- What a search for a fitting value found. -/
structure Fit where
  /-- The first fitting value, brought to its kind. -/
  value : Option Json
  /-- The values before it, none of which fits. -/
  skipped : List Json
  rest : List Json

/-- Search a list for the first value that fits a kind. -/
def firstFit (expected : Option Kind) : List Json → Fit
  | [] => ⟨none, [], []⟩
  | j :: rest =>
    match coerce expected j with
    | some value => ⟨some value, [], rest⟩
    | none =>
      let fit := firstFit expected rest
      ⟨fit.value, j :: fit.skipped, fit.rest⟩

namespace Fit

/-- The number of values read: those passed over and the one found. -/
def consumed (fit : Fit) : Nat :=
  fit.skipped.length + (if fit.value.isSome then 1 else 0)

end Fit

theorem firstFit_length (expected : Option Kind) (values : List Json) :
    (firstFit expected values).consumed + (firstFit expected values).rest.length =
      values.length := by
  induction values with
  | nil => rfl
  | cons j rest ih =>
    simp only [firstFit]
    cases coerce expected j with
    | some value =>
      simp [Fit.consumed]
      omega
    | none =>
      simp only [Fit.consumed, List.length_cons] at ih ⊢
      omega

/-- A place in a value buffer. -/
structure Cursor where
  buffer : ValueBuffer
  /-- The number of values read so far. -/
  position : Nat := 0

/-- A read: what it gave, the values it passed over with their positions, and the
    cursor after it. -/
structure Read where
  value : Option Json
  /-- The values passed over. -/
  skipped : List (Nat × Json)
  cursor : Cursor

namespace Cursor

/-- The values from the cursor on. -/
def unread (cursor : Cursor) : List Json :=
  match cursor.buffer with
  | .sequence values => values.drop cursor.position
  | .keyed _ => []

def consumed (cursor : Cursor) : Nat := cursor.position

def remaining (cursor : Cursor) : Nat := cursor.unread.length

/-- Values with their positions. -/
def numbered (position : Nat) : List Json → List (Nat × Json)
  | [] => []
  | j :: rest => (position, j) :: numbered (position + 1) rest

/-- Read the next value of a sequence that fits. -/
def pop (cursor : Cursor) (expected : Option Kind) : Read :=
  let fit := firstFit expected cursor.unread
  ⟨fit.value, numbered cursor.position fit.skipped,
    { cursor with position := cursor.position + fit.consumed }⟩

def get? (cursor : Cursor) (name : String) : Option Json :=
  match cursor.buffer with
  | .sequence _ => none
  | .keyed values => values.get? name

/-- Read the value of an input: the next that fits, or the one of its name. -/
def take (cursor : Cursor) (name : String) (expected : Option Kind) : Read :=
  match cursor.buffer with
  | .sequence _ => cursor.pop expected
  | .keyed _ => ⟨cursor.get? name, [], cursor⟩

end Cursor

end PromptGraph
