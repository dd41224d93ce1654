import PromptGraph.Binary64
import PromptGraph.OrderedMap

/-!
# JSON Values

The values that workflows, schemas and prompts are written in.

A number is an integer of 64 bits, signed or unsigned, or a finite
double-precision number; the two are told apart, so `1` and `1.0` are different
values. Members of an object are kept in order.

## Main definitions

* `Number`: An integer that fits 64 bits, or a double.
* `Json`: A JSON value.
* `Json.typeName`: The name of a value's JSON type.
-/

namespace PromptGraph

/-- The integers that a number may hold: those of 64 bits, signed or unsigned. -/
def FitsWord (i : Int) : Prop := -0x8000000000000000 ≤ i ∧ i < 0x10000000000000000

instance (i : Int) : Decidable (FitsWord i) := inferInstanceAs (Decidable (_ ∧ _))

/-- A JSON number. -/
inductive Number where
  /-- An integer. -/
  | int (value : Int) (fits : FitsWord value)
  /-- A number written with a fraction or an exponent, or out of integer range. -/
  | double (value : Binary64)
  deriving DecidableEq

namespace Number

/-- The integer `i`, if it fits. -/
def ofInt? (i : Int) : Option Number :=
  if h : FitsWord i then some (.int i h) else none

/-- A natural number of at most 64 bits. -/
def ofUInt64 (n : UInt64) : Number :=
  .int n.toNat ⟨by omega, by have := n.toNat_lt; omega⟩

def toBinary64 : Number → Binary64
  | .int i _ => (Binary64.ofInt? i).getD default
  | .double x => x

end Number

/-- A JSON value. -/
inductive Json where
  | null
  | bool (value : Bool)
  | num (value : Number)
  | str (value : String)
  | arr (items : List Json)
  | obj (members : List (String × Json))

namespace Json

instance : Inhabited Json := ⟨.null⟩

def nat (n : Nat) : Json :=
  .num ((Number.ofInt? n).getD (.double default))

def typeName : Json → String
  | .null => "null"
  | .bool _ => "boolean"
  | .num _ => "number"
  | .str _ => "string"
  | .arr _ => "array"
  | .obj _ => "object"

/-- A member that is left out when it has no value. -/
def optionalMember (name : String) : Option Json → List (String × Json)
  | some j => [(name, j)]
  | none => []

end Json

end PromptGraph
