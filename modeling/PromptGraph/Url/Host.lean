import PromptGraph.Idna.Domain
import PromptGraph.Url.Address
import PromptGraph.Url.Error

/-!
# Hosts

The host of a URL: an address in brackets, or for the schemes that know hosts a
domain name or an address of four bytes, and for other schemes any text without
the characters that would end or split it.

## Main definitions

* `domainHost`: The host of a scheme that knows hosts.
* `opaqueHost`: The host of another scheme.
-/

namespace PromptGraph.Url

/-- The text between brackets, if a text begins with one. -/
def bracketed (text : List Char) : Option (Except UrlError (List Char)) :=
  match text with
  | '[' :: rest =>
    match rest.reverse with
    | ']' :: inner =>
      match ipv6? inner.reverse with
      | some groups => some (.ok (ipv6Text groups))
      | none => some (.error .invalidIpv6)
    | _ => some (.error .invalidIpv6)
  | _ => none

/-- The domain name of a text in ASCII. Encoded bytes are decoded first. -/
def domainName (text : List Char) : Except UrlError (List Char) :=
  match (String.fromUTF8? ⟨(percentDecode text).toArray⟩).bind (Idna.toAscii? ·.toList) with
  | none => .error .invalidDomainName
  | some [] => .error .emptyHost
  | some name => .ok name

/-- The host of a scheme that knows hosts. -/
def domainHost (text : List Char) : Except UrlError (List Char) :=
  match bracketed text with
  | some host => host
  | none => do
    let name ← domainName text
    if endsInNumber name then
      match ipv4? name with
      | some address => .ok (ipv4Text address)
      | none => .error .invalidIpv4
    else .ok name

/-- The characters that no host may have. -/
def refusedInHost (c : Char) : Bool :=
  c.toNat = 0 || "\t\n\r #/:<>?@[\\]^|".toList.contains c

/-- The host of a scheme that does not know hosts. -/
def opaqueHost (text : List Char) : Except UrlError (List Char) :=
  match bracketed text with
  | some host => host
  | none =>
    if text.any refusedInHost then .error .invalidDomainCharacter
    else .ok (percentEncode alwaysEncoded text)

end PromptGraph.Url
