import BrokerMcp.Composite.Bound

/-!
# The length of a JSON text

`json.MarshalIndent` with an indent of two blanks, as far as its length goes. The members of an object
are written in the order of their keys, which does not show in the length. The text of a `float64` is a
parameter, and it may have none.

* A row that is indented by `boundItemIndent` starts its lines as deep as a value at depth 3.
-/

namespace BrokerMcp.Composite

structure Encoder where
  number : Rat → Option String

def escapedLen (c : Char) : Nat :=
  if c = '"' ∨ c = '\\' then 2
  else if c.toNat < 0x20 then
    if c.toNat ∈ [0x08, 0x09, 0x0A, 0x0C, 0x0D] then 2 else 6
  else if c = '<' ∨ c = '>' ∨ c = '&' then 6
  else if c.toNat = 0x2028 ∨ c.toNat = 0x2029 then 6
  else c.utf8Size

def escapedLens (s : String) : Nat := (s.toList.map escapedLen).sum

def quotedLen (s : String) : Nat := escapedLens s + 2

def lineBreak (depth : Nat) : Nat := 1 + 2 * depth

def block (depth : Nat) (members : List Nat) : Nat :=
  if members = [] then 2
  else
    1 + (members.map fun n => lineBreak (depth + 1) + n).sum + (members.length - 1) +
      lineBreak depth + 1

mutual

def textLen (enc : Encoder) (depth : Nat) : Value → Option Nat
  | .null => some 4
  | .bool b => some (if b then 4 else 5)
  | .float q => (enc.number q).map String.utf8ByteSize
  | .int n => some (toString n).utf8ByteSize
  | .str s => some (quotedLen s)
  | .arr items => (itemLens enc (depth + 1) items).map (block depth)
  | .obj fields => (fieldLens enc (depth + 1) fields).map (block depth)

def itemLens (enc : Encoder) (depth : Nat) : List Value → Option (List Nat)
  | [] => some []
  | v :: items => do
      let n ← textLen enc depth v
      let rest ← itemLens enc depth items
      return n :: rest

def fieldLens (enc : Encoder) (depth : Nat) : List (String × Value) → Option (List Nat)
  | [] => some []
  | (key, v) :: fields => do
      let n ← textLen enc depth v
      let rest ← fieldLens enc depth fields
      return (quotedLen key + 2 + n) :: rest

end

def jsonMeter (enc : Encoder) : Meter where
  textSize := fun out => textLen enc 0 (.obj out)
  rowSize := textLen enc 3

end BrokerMcp.Composite
