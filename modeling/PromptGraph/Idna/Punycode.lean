/-!
# Punycode

Labels of any script written with ASCII letters, digits and hyphens.

The ASCII characters of a label come first, then a hyphen if there are any, then
the other characters from the lowest code point up, each as a number with digits
of varying weight that says how far to go on: so many steps through the places of
the label, for each code point in turn.

## Main definitions

* `Punycode.decode?`: The label that a text writes.
* `Punycode.encode`: The text that writes a label.
-/

namespace PromptGraph.Punycode

/-- The digit of a value below 36: letters first. -/
def digitChar (n : Nat) : Char :=
  if n < 26 then Char.ofNat (97 + n) else Char.ofNat (22 + n)

/-- The value of a digit, in either case. -/
def digitValue? (c : Char) : Option Nat :=
  if 'a' ≤ c ∧ c ≤ 'z' then some (c.toNat - 97)
  else if 'A' ≤ c ∧ c ≤ 'Z' then some (c.toNat - 65)
  else if '0' ≤ c ∧ c ≤ '9' then some (c.toNat - 22)
  else none

/-- The weight of the digit at a place, for a bias: between 1 and 26. -/
def threshold (place bias : Nat) : Nat :=
  if place ≤ bias then 1 else if bias + 26 ≤ place then 26 else place - bias

/-- Halve a difference until it is small, counting the places that it fills. -/
def places (delta count : Nat) : Nat → Nat
  | 0 => count
  | fuel + 1 => if 455 < delta then places (delta / 35) (count + 36) fuel
    else count + 36 * delta / (delta + 38)

/-- The bias after a number was read or written. -/
def adapt (delta length : Nat) (first : Bool) : Nat :=
  let delta := if first then delta / 700 else delta / 2
  places (delta + delta / length) 0 32

/-- The largest number that is computed with. -/
def limit : Nat := 0x100000000

/-- The number at the head of a text, added to `i`, and what follows it. -/
def decodeNumber (i weight place bias : Nat) : List Char → Option (Nat × List Char)
  | [] => none
  | c :: rest => do
    let digit ← digitValue? c
    let i := i + digit * weight
    if limit ≤ i then none
    else
      let t := threshold place bias
      if digit < t then some (i, rest)
      else decodeNumber i (weight * (36 - t)) (place + 36) bias rest

/-- Put the characters that a text tells of into a label. -/
def insertAll (label : List Char) (code i bias : Nat) (text : List Char) :
    Nat → Option (List Char)
  | 0 => none
  | fuel + 1 =>
    if text.isEmpty then some label
    else do
      let (next, rest) ← decodeNumber i 1 36 bias text
      let length := label.length + 1
      let code := code + next / length
      let place := next % length
      if code.isValidChar then
        let bias := adapt (next - i) length (i == 0)
        insertAll (label.take place ++ Char.ofNat code :: label.drop place) code (place + 1)
          bias rest fuel
      else none

/-- The label that a text writes, without the prefix of such texts. -/
def decode? (text : List Char) : Option (List Char) :=
  let tail := text.reverse.takeWhile (· != '-')
  let (basic, digits) :=
    if tail.length = text.length then ([], text)
    else (text.take (text.length - tail.length - 1), tail.reverse)
  if basic.any (128 ≤ ·.toNat) then none
  else insertAll basic 128 0 72 digits (text.length + 1)

/-- The digits of a number. -/
def encodeNumber (n place bias : Nat) : Nat → List Char
  | 0 => []
  | fuel + 1 =>
    let t := threshold place bias
    if n < t then [digitChar n]
    else
      digitChar (t + (n - t) % (36 - t))
        :: encodeNumber ((n - t) / (36 - t)) (place + 36) bias fuel

/-- What has been written of a label. -/
structure Progress where
  /-- The distance gone since the last character. -/
  delta : Nat
  /-- The bias of the next number. -/
  bias : Nat
  written : Nat
  first : Bool
  text : List Char

/-- Write all characters of a code point: one pass through the label. -/
def encodePass (code : Nat) (p : Progress) : List Char → Progress
  | [] => p
  | c :: rest =>
    if c.toNat < code then encodePass code { p with delta := p.delta + 1 } rest
    else if c.toNat = code then
      encodePass code ⟨0, adapt p.delta (p.written + 1) p.first, p.written + 1, false,
        p.text ++ encodeNumber p.delta 36 p.bias 32⟩ rest
    else encodePass code p rest

/-- Write the characters from a code point on. -/
def encodeFrom (label : List Char) (code : Nat) (p : Progress) : Nat → List Char
  | 0 => p.text
  | fuel + 1 =>
    match (label.filter (code ≤ ·.toNat)).map Char.toNat |>.min? with
    | none => p.text
    | some next =>
      let p := { p with delta := p.delta + (next - code) * (p.written + 1) }
      let p := encodePass next p label
      encodeFrom label (next + 1) { p with delta := p.delta + 1 } fuel

/-- The text that writes a label, without the prefix of such texts. -/
def encode (label : List Char) : List Char :=
  let basic := label.filter (·.toNat < 128)
  let start := if basic.isEmpty then [] else basic ++ ['-']
  encodeFrom label 128 ⟨0, 72, basic.length, true, start⟩ (label.length + 1)

end PromptGraph.Punycode
