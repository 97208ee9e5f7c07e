import BrokerMcp.Composite.BodyChecks
import BrokerMcp.Library.Hex

/-!
# The hash of the arguments of a call

`hash.go` and `hashArgsForAudit`. `Digest` is what the hash takes from the libraries: `json.Marshal` of
a tree whose maps are written in the order of their keys, the canonical form of RFC 8785, and SHA-256.
The terms that a key is searched for are ASCII texts. Outside of ASCII, `İ` and the Kelvin sign are the
only characters with a lower case among these.
-/

namespace BrokerMcp.Observability
open BrokerMcp.Composite

def sensitiveKeySubstrings : List String :=
  ["password", "token", "secret", "authorization", "credential", "api_key", "private_key"]

def auditOnlySensitiveKeySubstrings : List String := ["certcontent", "keytab", "passphrase"]

def redactedPlaceholder : String := "[REDACTED]"

def lowerRune (c : Char) : Char :=
  if c = '\u0130' then 'i' else if c = '\u212A' then 'k' else c.toLower

def isSensitiveKey (key : String) : Bool :=
  let lower := key.toList.map lowerRune
  (sensitiveKeySubstrings.any fun s => decide (s.toList <:+: lower)) ||
    auditOnlySensitiveKeySubstrings.any fun s => decide (s.toList <:+: lower)

mutual

def redactValue : Value → Value
  | .obj fields => .obj (redactFields fields)
  | .arr items => .arr (redactItems items)
  | v => v

def redactItems : List Value → List Value
  | [] => []
  | item :: items => redactValue item :: redactItems items

def redactFields : Object → Object
  | [] => []
  | (k, item) :: fields =>
      (k, if isSensitiveKey k then .str redactedPlaceholder else redactValue item) ::
        redactFields fields

end

def redactSensitive (args : Object) : Object := ((redactValue (.obj args)).obj?).getD []

mutual

def inKeyOrder : Value → Value
  | .obj fields => .obj ((fieldsInKeyOrder fields).mergeSort fun a b => decide (a.1 ≤ b.1))
  | .arr items => .arr (itemsInKeyOrder items)
  | v => v

def itemsInKeyOrder : List Value → List Value
  | [] => []
  | item :: items => inKeyOrder item :: itemsInKeyOrder items

def fieldsInKeyOrder : Object → Object
  | [] => []
  | (k, item) :: fields => (k, inKeyOrder item) :: fieldsInKeyOrder fields

end

structure Digest where
  marshal : Value → Except String (List UInt8)
  transform : List UInt8 → Except String (List UInt8)
  sum256 : List UInt8 → List UInt8

def hashArgs (digest : Digest) (args : Object) : Except String String := do
  let raw ← (digest.marshal (inKeyOrder (.obj args))).mapError fun err =>
    s!"audit: encoding arguments for hashing: {err}"
  let canonical ← (digest.transform raw).mapError fun err =>
    s!"audit: RFC 8785 canonicalization: {err}"
  return String.ofList ((Hex.encode (digest.sum256 canonical)).map fun b => Char.ofNat b.toNat)

structure DropContext where
  droppedEventType : String
  tool : String
  broker : String
deriving DecidableEq

/-- The hash, and the drop that is recorded where there is none. -/
def hashArgsForAudit (digest : Digest) (tool broker : String) (args : Object) :
    String × Option DropContext :=
  match hashArgs digest (redactSensitive args) with
  | .ok hash => (hash, none)
  | .error _ => ("", some ⟨"operation", tool, broker⟩)

end BrokerMcp.Observability
