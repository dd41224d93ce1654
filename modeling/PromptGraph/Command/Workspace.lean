import PromptGraph.Command.FileTree
import PromptGraph.Json.Reader

/-!
# Workspaces

A host that is a plain value: a file tree, what is left of the standard input,
and what was written to the standard output.

## Main definitions

* `Workspace`: The value.
* `Workspace.ofFiles`: A workspace with some files in its current directory.
* `Workspace.host`: Reading and writing in a workspace.
-/

namespace PromptGraph

/-- A file tree with the standard input and output. -/
structure Workspace where
  tree : FileTree
  /-- What is left of the standard input. -/
  input : Bytes := []
  /-- What was written to the standard output. -/
  output : Bytes := []

namespace Workspace

/-- The entries that are there whatever the current directory holds. -/
def standardEntries : List (Location × Entry) :=
  [(["dev", "null"], .sink), (["dev", "stdin"], .input), (["dev", "stdout"], .output),
    (["bin"], .directory), (["etc"], .directory), (["home"], .directory), (["lib"], .directory),
    (["proc"], .directory), (["root"], .directory), (["usr"], .directory), (["var"], .directory)]

def currentDirectory : Location := ["tmp", "workspace"]

/-- A workspace whose current directory holds files, each given by its path from
    there. -/
def ofFiles (files : List (String × Bytes)) (input : Bytes) : Workspace where
  tree := {
    current := currentDirectory
    entries := files.map (fun (path, content) =>
      (currentDirectory ++ FilePath.names ⟨path⟩, .file content)) ++ standardEntries }
  input := input

def readInput (workspace : Workspace) : Except FileFault Bytes × Workspace :=
  (.ok workspace.input, { workspace with input := [] })

def writeOutput (content : Bytes) (workspace : Workspace) : Except FileFault Unit × Workspace :=
  (.ok (), { workspace with output := workspace.output ++ content })

def readFile (path : FilePath) (workspace : Workspace) : Except FileFault Bytes × Workspace :=
  match workspace.tree.find path with
  | .error fault => (.error fault, workspace)
  | .ok .input => workspace.readInput
  | .ok (.file content) => (.ok content, workspace)
  | .ok _ => (.ok [], workspace)

def writeFile (path : FilePath) (content : Bytes) (workspace : Workspace) :
    Except FileFault Unit × Workspace :=
  match workspace.tree.destination path with
  | .error fault => (.error fault, workspace)
  | .ok (_, some .output) => workspace.writeOutput content
  | .ok (_, some .sink) | .ok (_, some .input) => (.ok (), workspace)
  | .ok (location, _) => (.ok (), { workspace with tree := workspace.tree.put location content })

/-- Reading and writing in a workspace. -/
def host : Host (StateM Workspace) where
  readInput := readInput
  readFile := readFile
  writeOutput := writeOutput
  writeFile := writeFile

end Workspace

end PromptGraph
