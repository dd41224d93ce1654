import PromptGraph.Trace

/-!
# Once Cells

A cell that is filled when its value is first asked for.

What fills a cell may fail, and it acts on a state of its own whether it fails or
not. A failure is passed on and leaves the cell empty, so whoever asks next has it
tried again. A value is kept, and from then on nothing is run.

## Main definitions

* `OnceCell`: A cell.
* `OnceCell.getOrTryInit`: The value of a cell, which is filled if need be.

## Theorems

* `OnceCell.getOrTryInit_filled`: A cell that is filled gives its value.
* `OnceCell.getOrTryInit_ok`, `OnceCell.getOrTryInit_error`: An empty cell keeps
  the value that it is filled with, and it stays empty if there is none.
-/

namespace PromptGraph

/-- A cell for a value. -/
inductive OnceCell (α : Type) where
  | empty
  | filled (value : α)

namespace OnceCell

variable {σ ε α : Type}

def isFilled : OnceCell α → Bool
  | .empty => false
  | .filled _ => true

/-- The value of a cell; if there is none, that of `init`, which is run from a state. Also
    the cell and the state after that. -/
def getOrTryInit (cell : OnceCell α) (state : σ) (init : σ → σ × Traced ε α) :
    OnceCell α × σ × Traced ε α :=
  match cell with
  | .filled value => (.filled value, state, pure value)
  | .empty =>
    let (state, outcome) := init state
    match outcome.result with
    | .ok value => (.filled value, state, outcome)
    | .error _ => (.empty, state, outcome)

variable (state : σ) (init : σ → σ × Traced ε α)

/-- With a value at hand nothing is run. -/
theorem getOrTryInit_filled (value : α) :
    (filled value).getOrTryInit state init = (.filled value, state, pure value) := rfl

/-- A value is kept. -/
theorem getOrTryInit_ok (value : α) (h : (init state).2.result = .ok value) :
    empty.getOrTryInit state init = (.filled value, init state) := by
  unfold getOrTryInit
  simp only [h]

/-- A failure is not. -/
theorem getOrTryInit_error (error : ε) (h : (init state).2.result = .error error) :
    empty.getOrTryInit state init = (.empty, init state) := by
  unfold getOrTryInit
  simp only [h]

end OnceCell

end PromptGraph
