import PromptGraph.Json.Numeral

/-!
# Reading JSON Text

From the bytes of a JSON text to its document.

Reading never fails; what is wrong with the text stands in the document where a
decoder meets it. Strings are read strictly: the bytes are UTF-8, a control
character is refused, and an escaped surrogate needs its other half. Skipping a
string checks only the form of its escapes. A value may be nested 127 levels
deep if it is to be read, and to any depth if it is only skipped.

## Main definitions

* `Doc.scanString`: A string at the head of a text.
* `Doc.scan`: A value at the head of a text.
-/

namespace PromptGraph

namespace Doc

/-- Whether a byte is a blank between tokens. -/
def isBlank (b : UInt8) : Bool := b == 32 || b == 10 || b == 9 || b == 13

def skipBlanks (text : Bytes) : Bytes := text.dropWhile isBlank

/-- The value of a hexadecimal digit. -/
def hexValue (b : UInt8) : Option Nat :=
  if 48 ≤ b && b ≤ 57 then some (b.toNat - 48)
  else if 97 ≤ b && b ≤ 102 then some (b.toNat - 87)
  else if 65 ≤ b && b ≤ 70 then some (b.toNat - 55)
  else none

def hexValue4 (a b c d : UInt8) : Option Nat := do
  let a ← hexValue a
  let b ← hexValue b
  let c ← hexValue c
  let d ← hexValue d
  some (((a * 16 + b) * 16 + c) * 16 + d)

/-- The byte that a one-letter escape stands for. -/
def simpleEscape (b : UInt8) : Option UInt8 :=
  if b = 34 || b = 92 || b = 47 then some b
  else if b = 98 then some 8
  else if b = 102 then some 12
  else if b = 110 then some 10
  else if b = 114 then some 13
  else if b = 116 then some 9
  else none

/-- The UTF-8 bytes of a character, last byte first. -/
def utf8Reversed (n : Nat) : Bytes :=
  (String.singleton (Char.ofNat n)).toUTF8.toList.reverse

/-- The string with the given bytes, last byte first, if they are UTF-8. -/
def ofReversed (bytes : Bytes) : Except Fault String :=
  match String.fromUTF8? ⟨bytes.reverse.toArray⟩ with
  | some s => .ok s
  | none => .error .malformed

/-- What has been read of a string. -/
structure Draft where
  /-- The bytes so far, last byte first. -/
  bytes : Bytes := []
  /-- An escaped high surrogate that waits for its other half. -/
  high : Option Nat := none
  /-- Whether an escaped surrogate was left alone. -/
  alone : Bool := false

namespace Draft

/-- Any token but an escaped code unit: a waiting surrogate is left alone. -/
def push (p : Draft) (bytes : Bytes) : Draft :=
  ⟨bytes ++ p.bytes, none, p.alone || p.high.isSome⟩

/-- An escaped code unit. -/
def unit (p : Draft) (n : Nat) : Draft :=
  match p.high with
  | some high =>
    if 0xDC00 ≤ n ∧ n < 0xE000 then
      ⟨utf8Reversed (0x10000 + (high - 0xD800) * 0x400 + (n - 0xDC00)) ++ p.bytes, none, p.alone⟩
    else ⟨p.bytes, none, true⟩
  | none =>
    if 0xD800 ≤ n ∧ n < 0xDC00 then ⟨p.bytes, some n, p.alone⟩
    else if 0xDC00 ≤ n ∧ n < 0xE000 then ⟨p.bytes, none, true⟩
    else ⟨utf8Reversed n ++ p.bytes, none, p.alone⟩

/-- A fault that stops the string here; a surrogate left alone was met before. -/
def stop (p : Draft) (fault : Fault) : Token String :=
  .fail (if p.alone then .malformed else fault) fault

/-- The string up to its closing quote. -/
def close (p : Draft) (rest : Bytes) : Token String :=
  ⟨if p.alone || p.high.isSome then .error .malformed else ofReversed p.bytes, .ok rest⟩

end Draft

/-- A string after its opening quote. -/
def scanString (p : Draft) : Bytes → Token String
  | [] => p.stop .ended
  | 34 :: rest => p.close rest
  | 92 :: 117 :: a :: b :: c :: d :: rest =>
    match hexValue4 a b c d with
    | some n => scanString (p.unit n) rest
    | none => p.stop .malformed
  | 92 :: 117 :: _ => p.stop .ended
  | 92 :: b :: rest =>
    let p := p.push []
    match simpleEscape b with
    | some c => scanString ⟨c :: p.bytes, none, p.alone⟩ rest
    | none => p.stop .malformed
  | [92] => p.stop .ended
  | b :: rest =>
    let p := p.push []
    if b < 32 then p.stop .malformed
    else scanString ⟨b :: p.bytes, none, p.alone⟩ rest

/-- The fault of a text that should go on with the bytes of a word. -/
def wordFault : Bytes → Bytes → Option Fault
  | [], _ => none
  | _ :: _, [] => some .ended
  | w :: word, b :: text => if w = b then wordFault word text else some .malformed

/-- A document at the head of a text, and where the text goes on unless even
    skipping the document fails. -/
structure Reading where
  doc : Doc
  rest : Option Bytes

/-- A document that can be neither read nor skipped. -/
def Reading.fail (fault : Fault) : Reading := ⟨.broken fault (some fault), none⟩

/-- The reading of a token. -/
def Reading.ofToken {α : Type} (make : α → Doc) (t : Token α) : Reading :=
  match t.read, t.rest with
  | .ok a, .ok rest => ⟨make a, some rest⟩
  | .ok _, .error fault => .fail fault
  | .error read, .ok rest => ⟨.broken read none, some rest⟩
  | .error read, .error skip => ⟨.broken read (some skip), none⟩

/-- A literal word after its first letter. -/
def scanWord (doc : Doc) (word : Bytes) (text : Bytes) : Reading :=
  match wordFault word text with
  | none => ⟨doc, some (text.drop word.length)⟩
  | some fault => .fail fault

/-- The number of levels that a value may be nested. -/
def maxDepth : Nat := 127

/-- A list or object that stands inside `level` others: too deep to be read, it
    can still be skipped. -/
def atLevel (level : Nat) (d : Doc) : Doc :=
  if level < maxDepth then d else .broken .malformed d.skipFault

/-- The parts of a list or object, how they end, and where the text goes on. -/
structure Parts (α : Type) where
  parts : List α := []
  ending : Ending
  rest : Option Bytes := none

/-- No more parts, because of a fault. -/
def Parts.fail {α : Type} (fault : Fault) : Parts α := ⟨[], .cut fault, none⟩

mutual

/-- A value at the head of a text, inside `level` others. Each step of the fuel
    reads at least one byte. -/
def scanValue (level : Nat) : Nat → Bytes → Reading
  | 0, _ => .fail .malformed
  | fuel + 1, text =>
    match skipBlanks text with
    | [] => .fail .ended
    | 110 :: rest => scanWord .null [117, 108, 108] rest
    | 116 :: rest => scanWord (.bool true) [114, 117, 101] rest
    | 102 :: rest => scanWord (.bool false) [97, 108, 115, 101] rest
    | 34 :: rest => .ofToken .str (scanString {} rest)
    | 91 :: rest =>
      let items := scanItems (level + 1) true fuel rest
      ⟨atLevel level (.arr items.parts items.ending), items.rest⟩
    | 123 :: rest =>
      let members := scanMembers (level + 1) true fuel rest
      ⟨atLevel level (.obj members.parts members.ending), members.rest⟩
    | b :: rest =>
      if b == 45 || Numeral.isDigit b then .ofToken .num (Numeral.scan (b :: rest))
      else .fail .malformed

/-- The items of a list, from the opening bracket or from the end of an item. -/
def scanItems (level : Nat) (first : Bool) : Nat → Bytes → Parts Doc
  | 0, _ => .fail .malformed
  | fuel + 1, text =>
    match skipBlanks text with
    | [] => .fail .ended
    | 93 :: rest => ⟨[], .bracket, some rest⟩
    | b :: rest =>
      let start := if first then b :: rest else skipBlanks rest
      if !first && b != 44 then .fail .malformed
      -- after a comma an item is due, and it is this item that is broken
      else if start.isEmpty then ⟨[.broken .ended (some .ended)], .cut .ended, none⟩
      else if start.head? == some 93 then .fail .malformed
      else
        let item := scanValue level fuel start
        match item.rest with
        | none => ⟨[item.doc], .cut .malformed, none⟩
        | some rest =>
          let more := scanItems level false fuel rest
          ⟨item.doc :: more.parts, more.ending, more.rest⟩

/-- The members of an object, from the opening brace or from the end of a
    member. -/
def scanMembers (level : Nat) (first : Bool) :
    Nat → Bytes → Parts (Except Fault String × Doc)
  | 0, _ => .fail .malformed
  | fuel + 1, text =>
    match skipBlanks text with
    | [] => .fail .ended
    | 125 :: rest => ⟨[], .bracket, some rest⟩
    | b :: rest =>
      let start := if first then b :: rest else skipBlanks rest
      if !first && b != 44 then .fail .malformed
      else
        match start with
        | [] => .fail .ended
        | 34 :: rest =>
          let name := scanString {} rest
          let value : Reading := match name.rest with
            | .error fault => .fail fault
            | .ok rest =>
              match skipBlanks rest with
              | [] => .fail .ended
              | 58 :: rest => scanValue level fuel rest
              | _ => .fail .malformed
          match value.rest with
          | none => ⟨[(name.read, value.doc)], .cut .malformed, none⟩
          | some rest =>
            let more := scanMembers level false fuel rest
            ⟨(name.read, value.doc) :: more.parts, more.ending, more.rest⟩
        | _ => .fail .malformed

end

/-- A value at the head of a text. -/
def scan (text : Bytes) : Reading := scanValue 0 (text.length + 1) text

/-- Whether nothing but blanks is left of a text. -/
def atEnd (text : Bytes) : Bool := text.all isBlank

end Doc

def utf8Bytes (s : String) : Bytes := s.toUTF8.toList

end PromptGraph
