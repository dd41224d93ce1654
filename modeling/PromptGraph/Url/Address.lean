import PromptGraph.Text.RangeSet
import PromptGraph.Url.Encoding

/-!
# Numeric Hosts

Hosts given by number: addresses of four bytes, in decimal, octal or hexadecimal
and with the last parts run together if need be, and addresses of eight groups of
sixteen bits in brackets.

## Main definitions

* `endsInNumber`: Whether a name has to be an address of four bytes.
* `ipv4?`: The address of four bytes that a name writes.
* `ipv6?`: The groups that a text in brackets writes.
* `ipv4Text`, `ipv6Text`: Addresses as they are written.
-/

namespace PromptGraph.Url

/-- The number that digits write to a base below 17. -/
def numberToBase? (base : Nat) (digits : List Char) : Option Nat :=
  digits.foldlM (fun n c => do
    let d ← hexDigit? c
    if d < base then some (n * base + d) else none) 0

/-- The number of one part: hexadecimal after `0x`, octal after `0`, else decimal. -/
def ipv4Part? : List Char → Option Nat
  | [] => none
  | '0' :: 'x' :: rest | '0' :: 'X' :: rest => numberToBase? 16 rest
  | '0' :: c :: rest => numberToBase? 8 (c :: rest)
  | digits => numberToBase? 10 digits

/-- The parts of a name, without the empty one after a point at its end. -/
def ipv4Parts (name : List Char) : List (List Char) :=
  let parts := splitAtChar '.' name
  if 1 < parts.length && parts.getLast? == some [] then parts.dropLast else parts

/-- Whether a name has to be an address of four bytes. -/
def endsInNumber (name : List Char) : Bool :=
  match (ipv4Parts name).getLast? with
  | some [] | none => false
  | some last => last.all Char.isDigit || (ipv4Part? last).isSome

/-- The address that the numbers of its parts make: the last one fills the bytes
    that the others leave. -/
def ipv4OfNumbers? (numbers : List Nat) : Option Nat :=
  match numbers.reverse with
  | [] => none
  | last :: others =>
    let left := 4 - others.length
    if 3 < others.length || others.any (255 < ·) || 1 <<< (8 * left) ≤ last then none
    else
      some (others.reverse.foldl (fun n byte => n * 256 + byte) 0 <<< (8 * left) + last)

/-- The address of four bytes that a name writes. -/
def ipv4? (name : List Char) : Option Nat := do
  let numbers ← (ipv4Parts name).mapM ipv4Part?
  ipv4OfNumbers? numbers

def decimal (n : Nat) : List Char := Nat.toDigits 10 n

/-- An address of four bytes as it is written. -/
def ipv4Text (address : Nat) : List Char :=
  decimal (address >>> 24 % 256) ++ '.' :: decimal (address >>> 16 % 256)
    ++ '.' :: decimal (address >>> 8 % 256) ++ '.' :: decimal (address % 256)

/-- The groups read so far, and their number when two colons were met. -/
structure Groups where
  groups : List Nat := []
  gap : Option Nat := none

/-- A byte in decimal, without leading zeros. -/
def strictByte? (digits : List Char) : Option Nat :=
  if digits.isEmpty || (1 < digits.length && digits.head? == some '0') then none
  else
    match numberToBase? 10 digits with
    | some n => if n ≤ 255 then some n else none
    | none => none

/-- Two groups written as an address of four bytes. -/
def ipv4Groups? (text : List Char) : Option (List Nat) := do
  let bytes ← (splitAtChar '.' text).mapM strictByte?
  match bytes with
  | [a, b, c, d] => some [a * 256 + b, c * 256 + d]
  | _ => none

/-- The groups of a text, from the start of a group on. -/
def ipv6Groups? (g : Groups) (text : List Char) : Nat → Option Groups
  | 0 => none
  | fuel + 1 =>
    match text with
    | [] => some g
    | c :: rest =>
      if 8 ≤ g.groups.length + (if g.gap.isSome then 1 else 0) then none
      else if c = ':' then
        -- a second colon in a row
        if g.gap.isSome then none
        else ipv6Groups? { g with gap := some g.groups.length } rest fuel
      else
        let digits := (text.take 4).takeWhile fun c => (hexDigit? c).isSome
        let value := hexNat digits
        let more := { g with groups := g.groups ++ [value] }
        match text.drop digits.length with
        | [] => some more
        | '.' :: _ =>
          if digits.isEmpty || 6 < g.groups.length + (if g.gap.isSome then 1 else 0) then none
          else (ipv4Groups? text).map fun two => { g with groups := g.groups ++ two }
        | [':'] => none
        | ':' :: rest => ipv6Groups? more rest fuel
        | _ => none

/-- The eight groups that a text between brackets writes. -/
def ipv6? (text : List Char) : Option (List Nat) := do
  let g ← match text with
    | ':' :: ':' :: rest => ipv6Groups? { gap := some 0 } rest (text.length + 1)
    | ':' :: _ => none
    | [_] => none
    | [] => none
    | text => ipv6Groups? {} text (text.length + 1)
  match g.gap with
  | none => if g.groups.length = 8 then some g.groups else none
  | some n => some (g.groups.take n ++ List.replicate (8 - g.groups.length) 0 ++ g.groups.drop n)

/-- The number of zeros at the head of a list. -/
def leadingZeros (groups : List Nat) : Nat := (groups.takeWhile (· == 0)).length

/-- The place and length of the first of the longest runs of zeros. -/
def longestRun (place : Nat) : List Nat → Nat × Nat
  | [] => (place, 0)
  | group :: rest =>
    let here := leadingZeros (group :: rest)
    let later := longestRun (place + 1) rest
    if later.2 ≤ here then (place, here) else later

/-- Groups in lower-case hexadecimal with colons between them. -/
def groupsText : List Nat → List Char
  | [] => []
  | [group] => Nat.toDigits 16 group
  | group :: rest => Nat.toDigits 16 group ++ ':' :: groupsText rest

/-- An address of eight groups as it is written: the first of the longest runs of
    at least two zeros is left out. -/
def ipv6Text (groups : List Nat) : List Char :=
  let (place, length) := longestRun 0 groups
  let body :=
    if length < 2 then groupsText groups
    else groupsText (groups.take place) ++ [':', ':'] ++ groupsText (groups.drop (place + length))
  '[' :: body ++ [']']

end PromptGraph.Url
