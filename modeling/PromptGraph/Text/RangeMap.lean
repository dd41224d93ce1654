import PromptGraph.Text.RangeSet

/-!
# Maps on Code Points

Maps from code points to short sequences of code points, kept as sorted ranges.

A table is written as text: entries `lo-hi>target` in hexadecimal, in rising
order and separated by blanks. The range may be a single code point, or have
`/2` after it for every second code point. The target is one code point or
several with points between them. In a range the code points after the first go
to those after the target, so a target of several code points stands for a single
code point only.

## Main definitions

* `RangeMap`: A sorted array of entries.
* `RangeMap.ofText`: The map that a table spells.
* `RangeMap.shifted?`, `RangeMap.value?`: The target of a code point.
-/

namespace PromptGraph

/-- A range of code points with a common target. -/
structure RangeMap.Entry where
  /-- The first code point. -/
  lo : Nat
  /-- The last code point. -/
  hi : Nat
  /-- The distance between code points. -/
  step : Nat
  /-- The target of the first code point. -/
  target : List Nat

/-- Entries with sorted, disjoint ranges. -/
structure RangeMap where
  /-- The entries, lowest first. -/
  entries : Array RangeMap.Entry

namespace RangeMap

/-- The entry that a text spells. -/
def entryOfText (text : List Char) : Entry :=
  match splitAtChar '>' text with
  | [keys, target] =>
    let (range, step) := match splitAtChar '/' keys with
      | [range, step] => (range, hexNat step)
      | _ => (keys, 1)
    let (lo, hi) := RangeSet.rangeOfText range
    ⟨lo, hi, step, (splitAtChar '.' target).map hexNat⟩
  | _ => ⟨0, 0, 1, []⟩

/-- The map that the lines of a table spell. -/
def ofText (lines : List String) : RangeMap :=
  ⟨(lines.flatMap fun line => (splitAtChar ' ' line.toList).map entryOfText).toArray⟩

/-- The entry with `n` among those from index `lo` to before `hi`. -/
def search (entries : Array Entry) (n lo hi : Nat) : Nat → Option Entry
  | 0 => none
  | fuel + 1 =>
    if hi ≤ lo then none
    else
      let mid := (lo + hi) / 2
      match entries[mid]? with
      | none => none
      | some entry =>
        if n < entry.lo then search entries n lo mid fuel
        else if entry.hi < n then search entries n (mid + 1) hi fuel
        else if (n - entry.lo) % entry.step = 0 then some entry
        else none

def entry? (m : RangeMap) (n : Nat) : Option Entry :=
  search m.entries n 0 m.entries.size (m.entries.size + 1)

/-- The target of `n`, as far from the first target as `n` is from the first code
    point of its range. -/
def shifted? (m : RangeMap) (n : Nat) : Option (List Nat) :=
  (m.entry? n).map fun entry => entry.target.map (· + (n - entry.lo))

/-- The first number of the target of the range of `n`. -/
def value? (m : RangeMap) (n : Nat) : Option Nat :=
  (m.entry? n).bind fun entry => entry.target.head?

end RangeMap

end PromptGraph
