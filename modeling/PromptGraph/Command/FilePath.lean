/-!
# File Paths

Paths as a user writes them: names with slashes between them.

Two paths are compared name by name. Repeated slashes, a slash at the end, and
names `.` say nothing and are passed over, except that a relative path may begin
with a dot, which is kept. Nothing is looked up, so `..` stands for itself.

## Main definitions

* `FilePath`: A path.
* `FilePath.names`: The names in a path.
* `FilePath.same`: Whether two paths are the same, as written.
* `Place`: A file, or the standard input or output.
-/

namespace PromptGraph

/-- A path as it was written. -/
structure FilePath where
  text : String
  deriving DecidableEq, Repr

namespace FilePath

def names (path : FilePath) : List String :=
  (path.text.splitOn "/").filter fun name => !name.isEmpty

def isAbsolute (path : FilePath) : Bool := path.text.toList.head? == some '/'

def endsInSlash (path : FilePath) : Bool := path.text.toList.getLast? == some '/'

/-- The names in a path that say something. -/
def steps (path : FilePath) : List String :=
  match path.isAbsolute, path.names with
  | false, "." :: rest => "." :: rest.filter (· != ".")
  | _, names => names.filter (· != ".")

/-- Whether two paths are the same, as written. -/
def same (a b : FilePath) : Bool := a.isAbsolute == b.isAbsolute && a.steps == b.steps

end FilePath

/-- Where something is read from or written to. -/
inductive Place where
  | standard
  | file (path : FilePath)
  deriving DecidableEq, Repr

/-- The path that stands for the standard input or output. -/
def standardPath : FilePath := ⟨"-"⟩

/-- The place that a path names. -/
def Place.ofPath (path : FilePath) : Place :=
  if path = standardPath then .standard else .file path

end PromptGraph
