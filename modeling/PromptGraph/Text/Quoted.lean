import PromptGraph.Text.Printable

/-!
# Quoted Text

Text as an error message shows it: in quotes, with escapes for the quote, the
backslash and what is not printable. A code point without a short escape is
written in lower-case hexadecimal between braces.

## Main definitions

* `quoteChar`: One character of a quoted text.
* `quoted`: A text in quotes.
-/

namespace PromptGraph

/-- One character of a quoted text. -/
def quoteChar (c : Char) : List Char :=
  if c.toNat = 0 then ['\\', '0']
  else if c = '\t' then ['\\', 't']
  else if c = '\r' then ['\\', 'r']
  else if c = '\n' then ['\\', 'n']
  else if c = '\\' then ['\\', '\\']
  else if c = '"' then ['\\', '"']
  else if isPrintable c then [c]
  else "\\u\x7b".toList ++ Nat.toDigits 16 c.toNat ++ "\x7d".toList

/-- A text in quotes. -/
def quoted (s : String) : String :=
  "\"" ++ String.ofList (s.toList.flatMap quoteChar) ++ "\""

end PromptGraph
