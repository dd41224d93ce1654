/-!
# Sets of Code Points

Sets of code points kept as sorted ranges, for character properties that have
too many members to list.

A table is written as text: ranges in hexadecimal, `lo-hi` or a single code
point, in rising order and separated by blanks, so that it can be read beside
the standard that it is taken from.

## Main definitions

* `RangeSet`: A sorted array of ranges.
* `RangeSet.ofText`: The set that a table spells.
* `RangeSet.contains`: Membership, by halving.
-/

namespace PromptGraph

/-- The number that hexadecimal digits spell; other characters count as zero. -/
def hexNat (digits : List Char) : Nat :=
  digits.foldl (fun n c => n * 16 +
    if '0' ≤ c ∧ c ≤ '9' then c.toNat - 48
    else if 'a' ≤ c ∧ c ≤ 'f' then c.toNat - 87
    else if 'A' ≤ c ∧ c ≤ 'F' then c.toNat - 55
    else 0) 0

/-- The parts of `text` between the occurrences of `mark`. -/
def splitAtChar (mark : Char) : List Char → List (List Char)
  | [] => [[]]
  | c :: rest =>
    if c = mark then [] :: splitAtChar mark rest
    else
      match splitAtChar mark rest with
      | [] => [[c]]
      | first :: more => (c :: first) :: more

/-- Code points as sorted, disjoint ranges, each with its ends. -/
structure RangeSet where
  /-- The ranges, lowest first. -/
  ranges : Array (Nat × Nat)

namespace RangeSet

/-- The range that `lo-hi` or a single code point spells. -/
def rangeOfText (text : List Char) : Nat × Nat :=
  match splitAtChar '-' text with
  | [lo, hi] => (hexNat lo, hexNat hi)
  | _ => (hexNat text, hexNat text)

/-- The set that the lines of a table spell. -/
def ofText (lines : List String) : RangeSet :=
  ⟨(lines.flatMap fun line => (splitAtChar ' ' line.toList).map rangeOfText).toArray⟩

/-- Whether `n` lies in one of the ranges from index `lo` to before `hi`. -/
def search (ranges : Array (Nat × Nat)) (n lo hi : Nat) : Nat → Bool
  | 0 => false
  | fuel + 1 =>
    if hi ≤ lo then false
    else
      let mid := (lo + hi) / 2
      match ranges[mid]? with
      | none => false
      | some (first, last) =>
        if n < first then search ranges n lo mid fuel
        else if last < n then search ranges n (mid + 1) hi fuel
        else true

/-- Whether the code point `n` is in the set. -/
def contains (s : RangeSet) (n : Nat) : Bool :=
  search s.ranges n 0 s.ranges.size (s.ranges.size + 1)

end RangeSet

end PromptGraph
