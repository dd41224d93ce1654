/-!
# Percent Encoding

Bytes of URLs written as a percent sign and two hexadecimal digits. What is
encoded depends on the part of the URL; characters that are not ASCII and
controls always are.

## Main definitions

* `percentEncode`: A text with some of its characters encoded.
* `percentDecode`: The bytes that a text writes.
* `inPath`, `inUserinfo`: The characters that are encoded in these parts.
-/

namespace PromptGraph.Url

/-- An upper-case hexadecimal digit. -/
def upperHex (n : Nat) : Char :=
  if n < 10 then Char.ofNat (48 + n) else Char.ofNat (55 + n)

/-- A byte in encoded form. -/
def encodeByte (b : UInt8) : List Char := ['%', upperHex (b.toNat / 16), upperHex (b.toNat % 16)]

/-- The UTF-8 bytes of a character. -/
def utf8 (c : Char) : List UInt8 := (String.singleton c).toUTF8.toList

/-- Whether a character is encoded everywhere. -/
def alwaysEncoded (c : Char) : Bool := c.toNat < 32 || 127 ≤ c.toNat

/-- Whether a character is encoded in paths. -/
def inPath (c : Char) : Bool := alwaysEncoded c || " \"<>`#?\x7b\x7d".toList.contains c

/-- Whether a character is encoded in names and passwords. -/
def inUserinfo (c : Char) : Bool := inPath c || "/:;=@[\\]^|".toList.contains c

/-- One character, encoded if it has to be. -/
def encodeChar (encoded : Char → Bool) (c : Char) : List Char :=
  if encoded c then (utf8 c).flatMap encodeByte else [c]

/-- A text with some of its characters encoded. -/
def percentEncode (encoded : Char → Bool) (text : List Char) : List Char :=
  text.flatMap (encodeChar encoded)

/-- The value of a hexadecimal digit, in either case. -/
def hexDigit? (c : Char) : Option Nat :=
  if '0' ≤ c ∧ c ≤ '9' then some (c.toNat - 48)
  else if 'a' ≤ c ∧ c ≤ 'f' then some (c.toNat - 87)
  else if 'A' ≤ c ∧ c ≤ 'F' then some (c.toNat - 55)
  else none

/-- The bytes that a text writes; a percent sign without two digits is itself. -/
def percentDecode : List Char → List UInt8
  | [] => []
  | '%' :: a :: b :: rest =>
    match hexDigit? a, hexDigit? b with
    | some a, some b => UInt8.ofNat (a * 16 + b) :: percentDecode rest
    | _, _ => utf8 '%' ++ percentDecode (a :: b :: rest)
  | c :: rest => utf8 c ++ percentDecode rest
termination_by text => text.length

end PromptGraph.Url
