import PromptGraph.Command.FilePath
import PromptGraph.Json.Numeral

/-!
# Hosts

What a run needs of the machine that it runs on: to read and write files and the
standard input and output. A run is written over any host, so that it can be
followed on one that is a plain value.

## Main definitions

* `FileFault`: Why a file could not be read or written.
* `Host`: Reading and writing.
* `Host.read`, `Host.write`: Reading and writing at a place.
-/

namespace PromptGraph

/-- Why a file could not be read or written. -/
structure FileFault where
  reason : String
  code : Nat
  deriving DecidableEq, Repr

namespace FileFault

def missing : FileFault := ⟨"No such file or directory", 2⟩

def notDirectory : FileFault := ⟨"Not a directory", 20⟩

def isDirectory : FileFault := ⟨"Is a directory", 21⟩

def nameTooLong : FileFault := ⟨"File name too long", 36⟩

def permissionDenied : FileFault := ⟨"Permission denied", 13⟩

/-- The fault with a number, and with the given words if its own are not known. -/
def ofCode (code : Nat) (reason : String) : FileFault :=
  ([missing, permissionDenied, notDirectory, isDirectory, nameTooLong].find?
    (·.code == code)).getD ⟨reason, code⟩

def message (fault : FileFault) : String :=
  fault.reason ++ " (os error " ++ toString fault.code ++ ")"

end FileFault

/-- What a run needs of its machine. -/
structure Host (m : Type → Type) where
  readInput : m (Except FileFault Bytes)
  readFile : FilePath → m (Except FileFault Bytes)
  writeOutput : Bytes → m (Except FileFault Unit)
  /-- Write a file, in place of what it held. -/
  writeFile : FilePath → Bytes → m (Except FileFault Unit)

namespace Host

variable {m : Type → Type}

def read (host : Host m) : Place → m (Except FileFault Bytes)
  | .standard => host.readInput
  | .file path => host.readFile path

def write (host : Host m) : Place → Bytes → m (Except FileFault Unit)
  | .standard => host.writeOutput
  | .file path => host.writeFile path

end Host

end PromptGraph
