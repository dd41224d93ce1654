import PromptGraph.Command.Host

/-!
# File Trees

Files and directories as a value, and what a path means in them.

A path is followed name by name from the root or from the current directory. All
names before the last have to be directories; a dot stays, two dots lead to the
directory above, and the root is above itself. A name of more than 255 bytes, or
a path of more than 4095, is too long.

A slash at the end asks for a directory. So a file is not found under such a path
when it is read, and none is made under it when it is written.

## Main definitions

* `Entry`: What a name stands for.
* `FileTree`: Files and directories.
* `FileTree.target`: Where a path leads.
* `FileTree.find`: What is read under a path.
* `FileTree.destination`: What is written under a path.
-/

namespace PromptGraph

/-- The names that lead from the root to a file or directory. -/
abbrev Location := List String

/-- What a name stands for. -/
inductive Entry where
  | directory
  | file (content : Bytes)
  /-- A file that is empty and stays so. -/
  | sink
  | input
  | output
  deriving DecidableEq, Repr

/-- Files and directories. -/
structure FileTree where
  current : Location
  /-- The entries that are no directories, or are empty ones. -/
  entries : List (Location × Entry)

/-- Where a path leads. -/
inductive Target where
  /-- To a directory, named by dots or as the root. -/
  | directory
  /-- To a name in a directory. -/
  | name (directory : Location) (name : String)

namespace FileTree

/-- The number of bytes that a name may have. -/
def nameLimit : Nat := 255

/-- The number of bytes that a path may have. -/
def pathLimit : Nat := 4095

/-- The entry at a location. A location above another is a directory. -/
def entry? (tree : FileTree) (location : Location) : Option Entry :=
  match tree.entries.lookup location with
  | some entry => some entry
  | none =>
    if (tree.current :: tree.entries.map Prod.fst).any (location.isPrefixOf ·) then
      some .directory
    else none

/-- The entry with a name in a directory. -/
def look (tree : FileTree) (directory : Location) (name : String) :
    Except FileFault (Option Entry) :=
  if nameLimit < name.utf8ByteSize then .error .nameTooLong
  else .ok (tree.entry? (directory ++ [name]))

/-- Go from a directory to the one that a name stands for. -/
def enter (tree : FileTree) (directory : Location) (name : String) : Except FileFault Location :=
  if name = "." then .ok directory
  else if name = ".." then .ok directory.dropLast
  else do
    match ← tree.look directory name with
    | some .directory => .ok (directory ++ [name])
    | some _ => .error .notDirectory
    | none => .error .missing

/-- Where a path leads. -/
def target (tree : FileTree) (path : FilePath) : Except FileFault Target :=
  if pathLimit < path.text.utf8ByteSize then .error .nameTooLong
  else do
    let start := if path.isAbsolute then [] else tree.current
    let directory ← path.names.dropLast.foldlM tree.enter start
    match path.names.getLast? with
    | none | some "." | some ".." => .ok .directory
    | some name => .ok (.name directory name)

/-- What is read under a path; never a directory. -/
def find (tree : FileTree) (path : FilePath) : Except FileFault Entry := do
  match ← tree.target path with
  | .directory => .error .isDirectory
  | .name directory name =>
    match ← tree.look directory name with
    | none => .error .missing
    | some .directory => .error .isDirectory
    | some entry => if path.endsInSlash then .error .notDirectory else .ok entry

/-- Where something is written under a path, and what stands there. -/
def destination (tree : FileTree) (path : FilePath) :
    Except FileFault (Location × Option Entry) := do
  match ← tree.target path with
  | .directory => .error .isDirectory
  | .name directory name =>
    if path.endsInSlash then .error .isDirectory
    else
      match ← tree.look directory name with
      | some .directory => .error .isDirectory
      | entry => .ok (directory ++ [name], entry)

/-- The tree with a file set. -/
def put (tree : FileTree) (location : Location) (content : Bytes) : FileTree :=
  { tree with
    entries := (location, .file content) :: tree.entries.filter (·.1 != location) }

end FileTree

end PromptGraph
