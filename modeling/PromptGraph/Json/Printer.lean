import PromptGraph.Binary64.Shortest
import PromptGraph.Json.Basic

/-!
# JSON Text

Values written as JSON text, compact or indented by two blanks.

A double has the fewest digits that identify it. It is written positionally,
always with a fraction, when the exponent of its leading digit is from `-5` to
`15`, and otherwise with a signed exponent and no more digits than needed.

## Main definitions

* `Number.text`: The text of a number.
* `Json.quote`: A string in quotes, with escapes.
* `Json.compact`, `Json.pretty`: The text of a value.
-/

namespace PromptGraph

/-- A decimal in positional notation, with at least one digit on either side of
    the point. -/
def Decimal.positional (d : Decimal) : List Char :=
  if 0 ≤ d.exponent then
    let whole := d.exponent.toNat + 1
    let digits := d.digits ++ List.replicate (whole + 1 - d.digits.length) '0'
    digits.take whole ++ '.' :: digits.drop whole
  else
    '0' :: '.' :: List.replicate ((-d.exponent).toNat - 1) '0' ++ d.digits

/-- A decimal in scientific notation with a signed exponent. -/
def Decimal.scientific (d : Decimal) : List Char :=
  let mantissa := match d.digits with
    | [] => ['0']
    | [c] => [c]
    | c :: rest => c :: '.' :: rest
  let sign := if d.exponent < 0 then '-' else '+'
  mantissa ++ 'e' :: sign :: Nat.toDigits 10 d.exponent.natAbs

def Binary64.text (x : Binary64) : String :=
  let d := x.shortest
  let magnitude := if -5 ≤ d.exponent ∧ d.exponent ≤ 15 then d.positional else d.scientific
  String.ofList (if x.negative then '-' :: magnitude else magnitude)

def integerText (i : Int) : String :=
  let digits := Nat.toDigits 10 i.natAbs
  String.ofList (if i < 0 then '-' :: digits else digits)

def Number.text : Number → String
  | .int i _ => integerText i
  | .double x => x.text

namespace Json

def hexDigit (n : Nat) : Char :=
  if n < 10 then Char.ofNat (48 + n) else Char.ofNat (87 + n)

/-- A character inside a string: the quote, the backslash and the control
    characters below the blank are escaped. -/
def escapeChar (c : Char) : List Char :=
  if c = '"' then ['\\', '"']
  else if c = '\\' then ['\\', '\\']
  else if c = '\n' then ['\\', 'n']
  else if c = '\r' then ['\\', 'r']
  else if c = '\t' then ['\\', 't']
  else if c.toNat = 8 then ['\\', 'b']
  else if c.toNat = 12 then ['\\', 'f']
  else if c.toNat < 32 then
    ['\\', 'u', '0', '0', hexDigit (c.toNat / 16), hexDigit (c.toNat % 16)]
  else [c]

/-- A string in quotes. -/
def quote (s : String) : String :=
  "\"" ++ String.ofList (s.toList.flatMap escapeChar) ++ "\""

mutual

/-- The text of a value without blanks. -/
def compact : Json → String
  | .null => "null"
  | .bool b => if b then "true" else "false"
  | .num n => n.text
  | .str s => quote s
  | .arr items => "[" ++ ",".intercalate (compactItems items) ++ "]"
  | .obj members => "\x7b" ++ ",".intercalate (compactMembers members) ++ "\x7d"

def compactItems : List Json → List String
  | [] => []
  | j :: rest => compact j :: compactItems rest

def compactMembers : List (String × Json) → List String
  | [] => []
  | (k, j) :: rest => (quote k ++ ":" ++ compact j) :: compactMembers rest

end

/-- A line break followed by two blanks for each level. -/
def lineBreak (level : Nat) : String :=
  "\n" ++ String.ofList (List.replicate (2 * level) ' ')

/-- Parts on lines of their own between brackets; no parts leave no blanks. -/
def block (level : Nat) (opening closing : String) (parts : List String) : String :=
  if parts.isEmpty then opening ++ closing
  else
    opening ++ lineBreak (level + 1)
      ++ ("," ++ lineBreak (level + 1)).intercalate parts
      ++ lineBreak level ++ closing

mutual

/-- The text of a value that stands `level` levels deep, indented. -/
def prettyAt (level : Nat) : Json → String
  | .null => "null"
  | .bool b => if b then "true" else "false"
  | .num n => n.text
  | .str s => quote s
  | .arr items => block level "[" "]" (prettyItems (level + 1) items)
  | .obj members => block level "\x7b" "\x7d" (prettyMembers (level + 1) members)

def prettyItems (level : Nat) : List Json → List String
  | [] => []
  | j :: rest => prettyAt level j :: prettyItems level rest

def prettyMembers (level : Nat) : List (String × Json) → List String
  | [] => []
  | (k, j) :: rest => (quote k ++ ": " ++ prettyAt level j) :: prettyMembers level rest

end

/-- The text of a value, indented by two blanks a level. -/
def pretty (j : Json) : String := prettyAt 0 j

end Json

end PromptGraph
