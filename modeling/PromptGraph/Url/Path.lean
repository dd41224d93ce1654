import PromptGraph.Text.RangeSet
import PromptGraph.Url.Encoding

/-!
# Paths

The path of a URL that has one: segments, each followed by a slash but the last,
and the first empty, because a path begins with a slash.

A segment of one point is left out and one of two points takes the segment before
it away, also where points are percent-encoded. A segment that begins like the
drive letter of a file path, a letter with a colon or a bar, is never taken away.
At the head of a file path a drive letter is written with a colon.

## Main definitions

* `Path`: A path by its segments.
* `Path.add`: A path with further segments resolved against it.
* `Path.ofSegments`: The path of a list of segments.
* `Path.text`: A path as it is written.
-/

namespace PromptGraph.Url

/-- A segment of a path, encoded. -/
abbrev Segment := List Char

/-- A path by its segments. -/
structure Path where
  /-- The segments followed by a slash, last first; the one at the head of the path
      is empty. -/
  closed : List Segment
  /-- The last segment. -/
  last : Segment
  deriving DecidableEq

/-- Whether a text begins like a drive letter that a segment may be: a letter and a
    colon or bar, and then nothing or what can end a segment. -/
def startsWithDrive : List Char → Bool
  | [c, m] => c.isAlpha && (m == ':' || m == '|')
  | c :: m :: e :: _ => c.isAlpha && (m == ':' || m == '|') && "/\\?#".toList.contains e
  | _ => false

/-- Whether a segment is a drive letter. -/
def isDrive (s : Segment) : Bool := s.length == 2 && startsWithDrive s

/-- A segment in lower case with its encoded points decoded. -/
def plainPoints : Segment → Segment
  | '%' :: '2' :: 'e' :: rest | '%' :: '2' :: 'E' :: rest => '.' :: plainPoints rest
  | c :: rest => c :: plainPoints rest
  | [] => []

/-- Whether a segment stands for the place itself. -/
def isHere (s : Segment) : Bool := plainPoints s == ['.']

/-- Whether a segment stands for the place above. -/
def isAbove (s : Segment) : Bool := plainPoints s == ['.', '.']

namespace Path

/-- The segments closed after going up one place: the head of the path and drive
    letters stay. -/
def up : List Segment → List Segment
  | [] => []
  | [head] => [head]
  | s :: rest => if startsWithDrive s then s :: rest else rest

/-- A segment as it is kept: at the head of a file path a drive letter has a colon. -/
def settle (file : Bool) (closed : List Segment) (s : Segment) : Segment :=
  match s with
  | [c, _] => if file && closed == [[]] && isDrive s then [c, ':'] else s
  | _ => s

/-- Close a segment, which a slash follows. -/
def close (file : Bool) (closed : List Segment) (s : Segment) : List Segment :=
  if isAbove s then up closed
  else if isHere s then closed
  else settle file closed s :: closed

/-- End a path with a segment. -/
def finish (file : Bool) (closed : List Segment) (s : Segment) : Path :=
  if isAbove s then ⟨up closed, []⟩
  else if isHere s then ⟨closed, []⟩
  else ⟨closed, settle file closed s⟩

/-- The path of closed segments and further ones, of which a slash follows all but
    the last. -/
def add (file : Bool) (closed : List Segment) : List Segment → Path
  | [] => ⟨closed, []⟩
  | [s] => finish file closed s
  | s :: rest => add file (close file closed s) rest

/-- A path without empty segments at its head. -/
def trimHead (path : Path) : Path :=
  let closed := path.closed.reverse.dropWhile List.isEmpty
  -- an empty path keeps its slash
  ⟨([] :: closed).reverse, path.last⟩

/-- The path of the segments after the slash at its head; a file path has no empty
    segments there. -/
def ofSegments (file : Bool) (segments : List Segment) : Path :=
  let path := add file [[]] segments
  if file then path.trimHead else path

/-- Whether a drive letter is at the head of a file path that segments make. -/
def hasDriveAtHead (file : Bool) (closed : List Segment) : List Segment → Bool
  | [] => false
  | s :: rest =>
    let here := file && closed == [[]] && !isAbove s && !isHere s && isDrive s
    here || (match rest with
      | [] => false
      | _ :: _ => hasDriveAtHead file (close file closed s) rest)

/-- A path as it is written. -/
def text (path : Path) : List Char :=
  path.closed.reverse.flatMap (· ++ ['/']) ++ path.last

/-- The segments of a path after the slash at its head. -/
def segments (path : Path) : List Segment :=
  match path.closed.reverse with
  | [] => []
  | _ :: rest => rest ++ [path.last]

/-- A path that ends with a slash; one that did not is resolved once more. -/
def asDirectory (file : Bool) (path : Path) : Path :=
  if path.last.isEmpty && !path.closed.isEmpty then path
  else ofSegments file (path.segments ++ [[]])

/-- The path of an entry of a directory. -/
def child (path : Path) (name : String) : Path := { path with last := name.toList }

end Path

end PromptGraph.Url
