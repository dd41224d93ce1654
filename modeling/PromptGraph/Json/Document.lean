import PromptGraph.Json.Basic

/-!
# JSON Documents

What a decoder walks: a tree that stands for a JSON text as far as it can be
read, or for a value already at hand.

A text may be faulty, and a decoder that works through it in order must meet
another error first if that one comes first. So reading a text into a `Doc`
never fails: a fault stands in the tree at the place where it is met. Some
faults are met only by a reader that needs the value, such as a number too large
for a double; a part that nobody asks for is skipped, and then only the text's
structure counts. A `Doc` therefore says of a broken part both how reading it
fails and whether skipping it does.

A value at hand has no faults. It differs from a text in two ways that decoders
can notice: its lists know their lengths, and its objects have no repeated
members left to merge.

## Main definitions

* `Fault`: Why a text is not JSON.
* `Doc`: A document.
* `Doc.ofJson`: The document of a value.
* `Doc.toJson`: Reading a whole document as a value.
* `Doc.skipFault`: The fault met when skipping a document.

## Theorems

* `Doc.toJson_ofJson`: Reading the document of a value gives the value.
-/

namespace PromptGraph

/-- Why a text is not JSON. -/
inductive Fault where
  /-- The text ends inside a value. -/
  | ended
  /-- The text cannot be continued to a value. -/
  | malformed
  deriving DecidableEq

/-- How the parts of a list or an object end. -/
inductive Ending where
  /-- The parts are those of a value at hand. -/
  | counted
  /-- A closing bracket follows. -/
  | bracket
  /-- The text breaks here. -/
  | cut (fault : Fault)
  deriving DecidableEq

namespace Ending

/-- The fault met after the last part. -/
def fault? : Ending → Option Fault
  | .cut fault => some fault
  | _ => none

/-- Members as a value has them: repeats in a text are merged, the last value
    taking the first place. -/
def settle {α : Type u} (ending : Ending) (members : Entries α) : Entries α :=
  match ending with
  | .counted => members
  | _ => members.foldl (fun acc e => Entries.insert e.1 e.2 acc) []

end Ending

/-- A JSON text as far as it can be read, or a value at hand. -/
inductive Doc where
  | null
  | bool (value : Bool)
  | num (value : Number)
  | str (value : String)
  | arr (items : List Doc) (ending : Ending)
  | obj (members : List (Except Fault String × Doc)) (ending : Ending)
  /-- A part that cannot be read, and perhaps not even skipped. -/
  | broken (read : Fault) (skip : Option Fault)

namespace Doc

instance : Inhabited Doc := ⟨.null⟩

mutual

/-- The document of a value. -/
def ofJson : Json → Doc
  | .null => .null
  | .bool b => .bool b
  | .num n => .num n
  | .str s => .str s
  | .arr items => .arr (ofItems items) .counted
  | .obj members => .obj (ofMembers members) .counted

def ofItems : List Json → List Doc
  | [] => []
  | j :: rest => ofJson j :: ofItems rest

def ofMembers : List (String × Json) → List (Except Fault String × Doc)
  | [] => []
  | (k, j) :: rest => (.ok k, ofJson j) :: ofMembers rest

end

mutual

/-- Read a whole document as a value. -/
def toJson : Doc → Except Fault Json
  | .null => .ok .null
  | .bool b => .ok (.bool b)
  | .num n => .ok (.num n)
  | .str s => .ok (.str s)
  | .arr items ending => do
    let values ← toItems items
    match ending.fault? with
    | some fault => .error fault
    | none => .ok (.arr values)
  | .obj members ending => do
    let values ← toMembers members
    match ending.fault? with
    | some fault => .error fault
    | none => .ok (.obj (ending.settle values))
  | .broken read _ => .error read

def toItems : List Doc → Except Fault (List Json)
  | [] => .ok []
  | d :: rest => do
    let value ← toJson d
    let values ← toItems rest
    .ok (value :: values)

def toMembers : List (Except Fault String × Doc) → Except Fault (List (String × Json))
  | [] => .ok []
  | (k, d) :: rest => do
    let key ← k
    let value ← toJson d
    let values ← toMembers rest
    .ok ((key, value) :: values)

end

mutual

/-- The fault met when skipping a document. -/
def skipFault : Doc → Option Fault
  | .arr items ending => (skipFaultItems items).or ending.fault?
  | .obj members ending => (skipFaultMembers members).or ending.fault?
  | .broken _ skip => skip
  | _ => none

def skipFaultItems : List Doc → Option Fault
  | [] => none
  | d :: rest => (skipFault d).or (skipFaultItems rest)

/-- The first fault met when skipping members; names are skipped too. -/
def skipFaultMembers : List (Except Fault String × Doc) → Option Fault
  | [] => none
  | (_, d) :: rest => (skipFault d).or (skipFaultMembers rest)

end

theorem ofItems_eq_map (items : List Json) : ofItems items = items.map ofJson := by
  induction items with
  | nil => rfl
  | cons j rest ih => simp [ofItems, ih]

mutual

theorem toJson_ofJson : (j : Json) → (ofJson j).toJson = .ok j
  | .null => rfl
  | .bool _ => rfl
  | .num _ => rfl
  | .str _ => rfl
  | .arr items => by
    simp only [ofJson, toJson, toItems_ofItems items]
    rfl
  | .obj members => by
    simp only [ofJson, toJson, toMembers_ofMembers members]
    rfl

theorem toItems_ofItems : (items : List Json) → toItems (ofItems items) = .ok items
  | [] => rfl
  | j :: rest => by
    simp only [ofItems, toItems, toJson_ofJson j, toItems_ofItems rest]
    rfl

theorem toMembers_ofMembers :
    (members : List (String × Json)) → toMembers (ofMembers members) = .ok members
  | [] => rfl
  | (k, j) :: rest => by
    simp only [ofMembers, toMembers, toJson_ofJson j, toMembers_ofMembers rest]
    rfl

end

end Doc

end PromptGraph
