import PromptGraph.Url.Host
import PromptGraph.Url.Path

/-!
# URLs

Addresses with a scheme, perhaps an authority, and a path.

Controls and blanks around an address are dropped, and tabs and line breaks also
within it. The schemes `http`, `https`, `ws`, `wss` and `ftp` need a host and take
a backslash for a slash; `file` knows hosts and drive letters and does not need
them. Of other schemes an address may lack the authority, and then also the slash
before the path, which makes the path opaque.

Queries and fragments are left out, because no address that is derived from
another keeps them.

## Main definitions

* `Url`: An address.
* `Url.parse`: The address that a text writes.
* `Url.text`: An address as it is written.
* `Url.childOfDirectory`: The address of an entry of the place that another names.
-/

namespace PromptGraph

open Url

/-- The host of an address with what stands before and after it. -/
structure Authority where
  /-- The user and password, encoded. -/
  userinfo : List Char := []
  host : List Char := []
  /-- The port, unless it is that of the scheme. -/
  port : Option Nat := none
  deriving DecidableEq

/-- An authority as it is written, after two slashes. -/
def Authority.text (a : Authority) : List Char :=
  '/' :: '/' :: a.userinfo ++ a.host
    ++ (match a.port with
      | some port => ':' :: decimal port
      | none => [])

/-- An address. -/
structure Url where
  scheme : String
  /-- The authority, if there are slashes for one. -/
  authority : Option Authority
  /-- The path; none if it is opaque. -/
  path : Option Path
  deriving DecidableEq

namespace Url

/-- What a scheme knows of hosts. -/
inductive SchemeType where
  | file
  | hosted
  | other
  deriving DecidableEq

def defaultPort (scheme : String) : Option Nat :=
  if scheme = "http" ∨ scheme = "ws" then some 80
  else if scheme = "https" ∨ scheme = "wss" then some 443
  else if scheme = "ftp" then some 21
  else none

/-- What a scheme knows of hosts. -/
def schemeType (scheme : String) : SchemeType :=
  if scheme = "file" then .file
  else if (defaultPort scheme).isSome then .hosted
  else .other

/-- Whether a character may stand in a scheme. -/
def inScheme (c : Char) : Bool :=
  c.isAlpha || c.isDigit || c == '+' || c == '-' || c == '.'

/-- The scheme at the head of a text, and what follows its colon. -/
def splitScheme (text : List Char) : Option (String × List Char) :=
  match text, text.dropWhile inScheme with
  | c :: _, ':' :: rest =>
    if c.isAlpha then
      some (String.ofList ((text.takeWhile inScheme).map Char.toLower), rest)
    else none
  | _, _ => none

/-- Whether a character is a slash, or taken for one. -/
def isSlash (special : Bool) (c : Char) : Bool := c == '/' || (special && c == '\\')

/-- Whether a character ends an authority. -/
def endsAuthority (special : Bool) (c : Char) : Bool :=
  isSlash special c || c == '?' || c == '#'

/-- A text without one slash at its head. -/
def dropSlash (special : Bool) : List Char → List Char
  | c :: rest => if isSlash special c then rest else c :: rest
  | [] => []

/-- The segments of a path, encoded. The path ends where a query or a fragment
    begins. -/
def segments (special : Bool) (text : List Char) : List Segment :=
  let path := text.takeWhile fun c => c != '?' && c != '#'
  let path := path.map fun c => if isSlash special c then '/' else c
  (splitAtChar '/' path).map (percentEncode inPath)

/-- The user and password of a text, encoded, with the sign that follows them. -/
def encodeUserinfo (text : List Char) : List Char :=
  let user := text.takeWhile (· != ':')
  let password := (text.dropWhile (· != ':')).drop 1
  if user.isEmpty && password.isEmpty then []
  else
    percentEncode inUserinfo user
      ++ (if password.isEmpty then [] else ':' :: percentEncode inUserinfo password) ++ ['@']

/-- The user and password of an authority, and what follows the last sign after
    them. -/
def splitUserinfo (special : Bool) (text : List Char) :
    Except UrlError (List Char × List Char) :=
  let authority := text.takeWhile fun c => !endsAuthority special c
  if !authority.contains '@' then .ok ([], text)
  else
    let after := authority.reverse.takeWhile (· != '@')
    let before := authority.take (authority.length - after.length - 1)
    let rest := text.drop (before.length + 1)
    if before.isEmpty && rest.head?.any (endsAuthority special) then .error .emptyHost
    else .ok (encodeUserinfo before, rest)

/-- The host at the head of a text, which ends before a colon outside brackets, and
    what follows. -/
def splitHost (special inBrackets : Bool) : List Char → List Char × List Char
  | [] => ([], [])
  | c :: rest =>
    if endsAuthority special c || (c == ':' && !inBrackets) then ([], c :: rest)
    else
      let inBrackets := if c == '[' then true else if c == ']' then false else inBrackets
      let (host, rest) := splitHost special inBrackets rest
      (c :: host, rest)

/-- The digits of a port, and what follows them. -/
def readPort (digits : Option Nat) : List Char → Except UrlError (Option Nat × List Char)
  | [] => .ok (digits, [])
  | c :: rest =>
    if c.isDigit then
      let port := digits.getD 0 * 10 + (c.toNat - 48)
      if 65535 < port then .error .invalidPort else readPort (some port) rest
    else if "/\\?#".toList.contains c then .ok (digits, c :: rest)
    else .error .invalidPort

/-- The port after a host, unless it is that of the scheme. -/
def splitPort (scheme : String) : List Char → Except UrlError (Option Nat × List Char)
  | ':' :: rest => do
    let (port, rest) ← readPort none rest
    .ok (if port = defaultPort scheme then none else port, rest)
  | text => .ok (none, text)

/-- The path after an authority; of a scheme that does not know hosts it may be
    empty. -/
def pathAfterAuthority (special : Bool) (text : List Char) : Path :=
  if !special && (text.isEmpty || text.head? == some '?' || text.head? == some '#') then
    ⟨[], []⟩
  else .ofSegments false (segments special (dropSlash special text))

/-- An address after the slashes of its authority. -/
def parseAuthority (scheme : String) (special : Bool) (text : List Char) :
    Except UrlError Url := do
  let (userinfo, text) ← splitUserinfo special text
  let (hostText, text) := splitHost special false text
  if special && hostText.isEmpty then .error .emptyHost
  else
    let host ← if special then domainHost hostText else opaqueHost hostText
    if host.isEmpty && text.head? == some ':' then .error .emptyHost
    else
      let (port, text) ← splitPort scheme text
      if host.isEmpty && !userinfo.isEmpty then .error .emptyHost
      else
        .ok ⟨scheme, some ⟨userinfo, host, port⟩, some (pathAfterAuthority special text)⟩

/-- The address of a file, after the host, with the segments of its path. A drive
    letter at the head of the path leaves no host. -/
def fileUrl (host : List Char) (segments : List Segment) : Url :=
  let host := if Path.hasDriveAtHead true [[]] segments then [] else host
  ⟨"file", some { host }, some (.ofSegments true segments)⟩

/-- The address of a file after two slashes. -/
def parseFileHost (text : List Char) : Except UrlError Url :=
  let hostText := text.takeWhile fun c => !endsAuthority true c
  let rest := text.drop hostText.length
  if isDrive hostText then .ok (fileUrl [] (segments true text))
  else if hostText.isEmpty then .ok (fileUrl [] (segments true rest))
  else do
    let host ← domainHost hostText
    if host = "localhost".toList then .ok (fileUrl [] (segments true rest))
    else .ok (fileUrl host (segments true (dropSlash true rest)))

/-- The address of a file after its scheme. -/
def parseFile (text : List Char) : Except UrlError Url :=
  match text with
  | a :: b :: rest =>
    if isSlash true a && isSlash true b then parseFileHost rest
    else .ok (fileUrl [] (segments true (dropSlash true text)))
  | _ => .ok (fileUrl [] (segments true (dropSlash true text)))

/-- The address of another scheme, after the scheme. -/
def parseOther (scheme : String) : List Char → Except UrlError Url
  | '/' :: '/' :: rest => parseAuthority scheme false rest
  | '/' :: rest => .ok ⟨scheme, none, some (.ofSegments false (segments false rest))⟩
  | _ => .ok ⟨scheme, none, none⟩

/-- Whether a character is dropped at the ends of an address. -/
def isMargin (c : Char) : Bool := c.toNat ≤ 32

/-- A text without controls and blanks at its ends, and without tabs and line
    breaks. -/
def clean (text : List Char) : List Char :=
  (((text.dropWhile isMargin).reverse.dropWhile isMargin).reverse).filter fun c =>
    c != '\t' && c != '\n' && c != '\r'

/-- The address that a text writes. -/
def parse (text : String) : Except UrlError Url :=
  match splitScheme (clean text.toList) with
  | none => .error .relative
  | some (scheme, rest) =>
    match schemeType scheme with
    | .file => parseFile rest
    | .hosted => parseAuthority scheme true (rest.dropWhile (isSlash true))
    | .other => parseOther scheme rest

/-- A path as it is written after a scheme or an authority. One that begins with
    two slashes is kept apart from an authority. -/
def pathText (hasAuthority : Bool) (path : Path) : List Char :=
  let text := path.text
  if !hasAuthority && ['/', '/'].isPrefixOf text then '/' :: '.' :: text else text

/-- An address as it is written; an opaque path is left out. -/
def text (url : Url) : String :=
  String.ofList (url.scheme.toList ++ ':' :: (url.authority.map Authority.text).getD []
    ++ (url.path.map (pathText url.authority.isSome)).getD [])

/-- The address of an entry of the place that an address names; none if its path
    is opaque. -/
def childOfDirectory (url : Url) (name : String) : Option Url :=
  url.path.map fun path =>
    { url with path := some ((path.asDirectory (schemeType url.scheme == .file)).child name) }

end Url

end PromptGraph
